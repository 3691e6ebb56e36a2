import LintBridge.Host.Basic
/-!
# Why a linter run gives no report

The configured command is empty, or has a quote that is never closed; the program could not be
started; or it finished without a report: a status other than 0 and no verdict in its output.
These are told to the user as a notification, never as diagnostics.
-/

namespace LintBridge

/-- Why running the linter gave no report. -/
inductive LinterError where
  | emptyCommand
  | unbalancedQuote (template : String)
  | spawn (program : String) (cause : Host.OsError)
  | failed (program : String) (code : Option Int) (message : String)
  deriving Repr

namespace LinterError

def describeCode : Option Int → String
  | some c => "status " ++ toString c
  | none => "no status (terminated by signal)"

/-- What is told to the user. -/
def message : LinterError → String
  | .emptyCommand => "No norminette command configured"
  | .unbalancedQuote t => "Unterminated quote in norminette command: " ++ t
  | .spawn p e => "Failed to start '" ++ p ++ "': " ++ e.message
  | .failed p c m => "Command failed: " ++ p ++ " exited with " ++ describeCode c ++ ": " ++ m

end LinterError

end LintBridge
