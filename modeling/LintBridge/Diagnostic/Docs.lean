import LintBridge.Diagnostic.KnownErrors
import LintBridge.Web.Form
/-!
# Documentation links

A documented identifier links to its page, `<site>/docs/errors/<kebab-case identifier>`; any
other identifier links to one fallback page. Quick fixes also offer a web search for the
message, scoped to the document's language.
-/

namespace LintBridge.Docs

/-- The page for identifiers without documentation. -/
def fallbackUrl : String := "https://github.com/dalexhd/42-norminette/compare"

def searchBase : String := "https://stackoverflow.com/search"

/-- `TOO_MANY_ARGS` becomes `too-many-args`: the underscore-separated words, empty ones
dropped, in ASCII lower case, joined by hyphens. -/
def kebabCase (identifier : String) : String :=
  "-".intercalate (((identifier.toList.splitOn '_').filter (· ≠ [])).map fun w =>
    String.ofList (w.map Char.toLower))

/-- The text without any slash at its end. -/
def dropTrailingSlashes (s : String) : String :=
  String.ofList (s.toList.reverse.dropWhile (· = '/')).reverse

/-- The documentation page of an identifier, or the fallback page. -/
def documentationUrl (identifier docsBase : String) : String :=
  if KnownErrors.isKnown identifier then
    dropTrailingSlashes docsBase ++ "/docs/errors/" ++ kebabCase identifier
  else fallbackUrl

/-- The web search for a query, tagged with the language: `[c]query`, form-encoded. -/
def searchUrl (languageId query : String) : String :=
  searchBase ++ "?q=" ++ Web.formEncode ("[" ++ languageId ++ "]" ++ query)

end LintBridge.Docs
