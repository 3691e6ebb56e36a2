import LintBridge.Report.Layout
import LintBridge.Diagnostic.Severity
/-!
# Settings

What the user sets for one document: the command that runs the linter, whether to show one
finding or all of them and at most how many, the layout of the linter's report, the severity
of the diagnostics, and the root of the documentation site.
-/

namespace LintBridge

/-- Whether only the first finding or every finding becomes a diagnostic. -/
inductive DisplayMode where
  | one
  | all
  deriving DecidableEq, Repr, Inhabited

namespace DisplayMode

/-- The name of a display mode in settings. -/
def name : DisplayMode → String
  | .one => "one"
  | .all => "all"

/-- Reads a display mode's name, in any ASCII case. -/
def ofName (s : String) : Except UnknownChoice DisplayMode :=
  readChoice .displayMode [("one", .one), ("all", .all)] s

end DisplayMode

/-- The largest value of a size: a count of findings is a 64-bit word. -/
def sizeMax : Nat := Nat.pow 2 64 - 1

/-- The settings of one document. `maxErrors` is a 64-bit count when set. -/
structure Settings where
  command : String
  showErrors : DisplayMode
  maxErrors : Option Nat
  outputFormat : Layout
  severity : Severity
  docsUrl : String
  deriving DecidableEq, Repr

namespace Settings

def defaultCommand : String := "norminette"

def defaultDocsUrl : String := "https://dalexhd.github.io/42-norminette"

/-- Every finding, the default command and site, the tabbed layout, errors. -/
def default : Settings :=
  ⟨defaultCommand, .all, none, .tabbed, .error, defaultDocsUrl⟩

instance : Inhabited Settings := ⟨default⟩

/-- How many findings may become diagnostics: one, the maximum, or as many as a size holds. -/
def displayLimit (s : Settings) : Nat :=
  match s.showErrors with
  | .one => 1
  | .all => s.maxErrors.getD sizeMax

end Settings

end LintBridge
