import LintBridge.Choice
/-!
# Severity

Every diagnostic of one run has the severity the settings give: `error` or `warning`.
-/

namespace LintBridge

/-- How serious a diagnostic is. -/
inductive Severity where
  | error
  | warning
  deriving DecidableEq, Repr, Inhabited

namespace Severity

/-- The name of a severity in settings and in printed diagnostics. -/
def name : Severity → String
  | .error => "error"
  | .warning => "warning"

/-- Reads a severity's name, in any ASCII case. -/
def ofName (s : String) : Except UnknownChoice Severity :=
  readChoice .severity [("error", .error), ("warning", .warning)] s

end Severity

end LintBridge
