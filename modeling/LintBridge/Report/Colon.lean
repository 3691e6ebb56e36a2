import LintBridge.Finding
/-!
# The colon layout

A colon line is a location, a colon and a message. The banner `Norme: file.c`, a line with no
colon, and a verdict (`file.c: OK!`, `KO!` or `Error!`) carry no finding. Otherwise the first
run of digits in the location is the line and the second one the column; a location without
digits is about the whole file and gives line 0. Colon findings have no identifier.
-/

namespace LintBridge.Report.Colon

open Text

/-- The verdicts printed after a file name. -/
def verdicts : List String := ["OK!", "KO!", "Error!"]

/-- The maximal runs of digits in a text, in order, where `cur` holds the run being read,
last digit first. -/
def digitRunsFrom (cur : List Char) : List Char → List (List Char)
  | [] => if cur.isEmpty then [] else [cur.reverse]
  | c :: rest =>
    if isDigit c then digitRunsFrom (c :: cur) rest
    else if cur.isEmpty then digitRunsFrom [] rest
    else cur.reverse :: digitRunsFrom [] rest

/-- The maximal runs of digits in a text, in order. -/
def digitRuns (cs : List Char) : List (List Char) := digitRunsFrom [] cs

/-- The finding on a colon line, if the line is one. -/
def readLine (line : List Char) : Option Finding :=
  if "Norme:".toList.isPrefixOf line then none
  else if line.contains ':' then
    let location := line.takeWhile (· ≠ ':')
    let message := (line.dropWhile (· ≠ ':')).drop 1
    if verdicts.contains (String.ofList (trimBlanks message)) then none
    else
      let runs := digitRuns location
      let lineNo := match runs with
        | r :: _ => Finding.normalizeLine r
        | [] => 0
      let column := match runs with
        | _ :: r :: _ => Finding.columnOf r
        | _ => none
      some (Finding.make "" lineNo column (String.ofList message))
  else none

example : readLine "Error (line 12, col 4): space".toList = some ⟨"", 11, some 4, "Space"⟩ := by
  decide

end LintBridge.Report.Colon
