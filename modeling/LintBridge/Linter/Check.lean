import LintBridge.Host.Launch
import LintBridge.Linter.Command
import LintBridge.Linter.Completion
import LintBridge.Diagnostic.Record
import LintBridge.Text.Utf8
/-!
# Checking a file

The configured command runs with the file's path as its last argument; its output is decoded as
UTF-8, checked by the completion rule, and its report turned into records. How programs are
launched is a parameter, so any function from a program and arguments to an outcome may stand
for the linter.
-/

namespace LintBridge

/-- A way to launch a program with its arguments. -/
abbrev Launcher := String → List String → Host.Outcome

namespace Command

/-- Runs the invocation and gives its report, or why there is none. -/
def run (launch : Launcher) (c : Command) : Except LinterError String :=
  match launch c.program (c.args ++ [c.target]) with
  | .refused e => .error (.spawn c.program e)
  | .finished code out err =>
    completion c.program code (String.ofList (Text.decodeLossy out)) (String.ofList (Text.decodeLossy err))

end Command

/-- The records of a file under the settings, or why the linter gave no report. -/
def checkFile (launch : Launcher) (home : Option String) (path : String) (s : Settings) :
    Except LinterError (List Record) := do
  let cmd ← Command.ofTemplate home s.command path
  let report ← cmd.run launch
  pure (reportRecords s report.toList)

end LintBridge
