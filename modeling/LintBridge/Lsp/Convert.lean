import LintBridge.Lsp.Params
import LintBridge.Diagnostic.Record
import LintBridge.Diagnostic.Docs
/-!
# From records to the protocol

A record becomes a protocol diagnostic with the same range, a numbered severity, its identifier
as code and its documentation link as code description. Each error diagnostic gets two quick
fixes: open its documentation page, and search the web for its message.
-/

namespace LintBridge.Lsp

def severityNumber : Severity → Int
  | .error => 1
  | .warning => 2

def rangeOf (r : Range) : LspRange :=
  ⟨⟨r.start.line.toNat, r.start.character.toNat⟩, ⟨r.stop.line.toNat, r.stop.character.toNat⟩⟩

/-- The diagnostic for a record, with related information pointing into `related` when the
client accepts it. -/
def toLspDiagnostic (r : Record) (related : Option Web.Url) : LspDiagnostic where
  range := rangeOf r.range
  severity := some (severityNumber r.severity)
  code := r.code.map DiagnosticCode.text
  href := (Web.Url.parse r.relatedHref).toOption
  source := some r.source
  message := r.message
  related := related.map fun uri => [⟨⟨uri, rangeOf r.range⟩, r.message⟩]
  tags := none
  data := none

/-! ## Quick fixes -/

def searchDocsCommand : String := "42-norminette.searchOnNorminette"

def searchWebCommand : String := "42-norminette.searchOnStackOverflow"

def defaultLanguage : String := "c"

/-- A command for the editor to run. -/
structure EditorCommand where
  title : String
  command : String
  arguments : List Json

/-- A quick fix: a title, the diagnostic it fixes, and the command that does it. -/
structure QuickFix where
  title : String
  diagnostic : LspDiagnostic
  command : EditorCommand

/-- The JSON of a command. -/
def EditorCommand.toJson (c : EditorCommand) : Json :=
  .obj [("title", .str c.title), ("command", .str c.command), ("arguments", .arr c.arguments)]

/-- The JSON of a quick fix, as a code action of kind `quickfix`. -/
def QuickFix.toJson (q : QuickFix) : Json :=
  .obj [("title", .str q.title), ("kind", .str "quickfix"),
    ("diagnostics", .arr [q.diagnostic.toJson]), ("command", q.command.toJson)]

/-- The text a quick fix is about: the first related message, or the diagnostic's own. -/
def subject (d : LspDiagnostic) : String :=
  match d.related with
  | some (r :: _) => r.message
  | _ => d.message

def docsHref (d : LspDiagnostic) : String :=
  match d.href with
  | some u => u.show
  | none => Docs.fallbackUrl

def fixesOf (languageId : String) (d : LspDiagnostic) : List QuickFix :=
  let s := subject d
  [⟨"Search error at norminette docs: " ++ s, d,
      ⟨"View norminette", searchDocsCommand, [.str (docsHref d)]⟩⟩,
    ⟨"Search error at StackOverflow: " ++ s, d,
      ⟨"View stack", searchWebCommand, [.str s, .str (Docs.searchUrl languageId s)]⟩⟩]

def codeActions (ds : List LspDiagnostic) (languageId : String) : List QuickFix :=
  (ds.filter fun d => d.severity == some 1).flatMap (fixesOf languageId)

/-! ## Capabilities -/

/-- The client features the server uses, fixed at `initialize`. -/
structure ClientSupport where
  configuration : Bool
  workspaceFolders : Bool
  relatedInformation : Bool
  codeActionLiterals : Bool
  deriving DecidableEq, Repr

/-- A client that supports nothing, as before `initialize`. -/
def ClientSupport.none : ClientSupport := ⟨false, false, false, false⟩

/-- The features a client's capabilities give. -/
def ClientSupport.ofCapabilities (c : ClientCapabilities) : ClientSupport :=
  ⟨c.configuration.getD false, c.workspaceFolders.getD false, c.relatedInformation.getD false,
    c.codeActionLiterals⟩

def serverCapabilities (s : ClientSupport) : Json :=
  present [("textDocumentSync", some (.obj [("openClose", .bool true), ("change", .nat 1),
      ("save", .obj [("includeText", .bool false)])])),
    ("workspace", if s.workspaceFolders then
      some (.obj [("workspaceFolders", .obj [("supported", .bool true)])]) else none),
    ("codeActionProvider", if s.codeActionLiterals then
      some (.obj [("codeActionKinds", .arr [.str "quickfix"])]) else none)]

def serverInfo : Json := .obj [("name", .str "norminette-lsp"), ("version", .str "0.1.0")]

def initializeResult (s : ClientSupport) : Json :=
  .obj [("capabilities", serverCapabilities s), ("serverInfo", serverInfo)]

end LintBridge.Lsp
