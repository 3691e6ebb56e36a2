/-!
# Lines of a report

A report is cut into lines at each line feed. A carriage return right before a line feed
belongs to the line ending; any other carriage return, a last one included, stays in its line.
A text that ends with a line feed has no empty last line, and the empty text has no lines.
-/

namespace LintBridge.Text

/-- Drops one carriage return from the end of a line. -/
def dropCarriageReturn (cs : List Char) : List Char :=
  if cs.getLast? = some '\r' then cs.dropLast else cs

/-- Lines of a text, where `cur` holds the current line read so far, last character first. -/
def linesFrom (cur : List Char) : List Char → List (List Char)
  | [] => if cur.isEmpty then [] else [cur.reverse]
  | c :: rest =>
    if c = '\n' then dropCarriageReturn cur.reverse :: linesFrom [] rest
    else linesFrom (c :: cur) rest

/-- The lines of a text, without their line endings. -/
def lines (cs : List Char) : List (List Char) := linesFrom [] cs

example : lines "a\r\nb\rc\n\nd\r".toList = ["a".toList, "b\rc".toList, [], "d\r".toList] := by
  decide

example : lines [] = [] ∧ lines ['\n'] = [[]] := by decide

end LintBridge.Text
