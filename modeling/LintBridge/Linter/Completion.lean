import LintBridge.Text.Blank
import LintBridge.Linter.Error
/-!
# When a run has a report

A run that exits with status 0 has a report, and so does one whose output holds a verdict,
`KO!` or `Error!`. Any other run failed, and its trimmed error stream or output says why.
-/

namespace LintBridge

def verdictMarks : List String := ["KO!", "Error!"]

def occursIn (sub : List Char) : List Char → Bool
  | [] => sub.isEmpty
  | c :: rest => sub.isPrefixOf (c :: rest) || occursIn sub rest

def containsText (s sub : String) : Bool := occursIn sub.toList s.toList

/-- The report of a finished run, or why there is none. -/
def completion (program : String) (code : Option Int) (stdout stderr : String) :
    Except LinterError String :=
  if code = some 0 ∨ verdictMarks.any (containsText stdout) then .ok stdout
  else
    let message := if Text.allBlank stderr then Text.trim stdout else Text.trim stderr
    .error (.failed program code message)

end LintBridge
