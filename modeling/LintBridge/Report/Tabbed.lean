import LintBridge.Finding
/-!
# The tabbed layout

A marker, an identifier of capital letters in groups joined by underscores, blanks, `(line:` and
digits, `col:` and digits, `):`, tabs and spaces, and the message. Each piece is determined by
the one before it.
-/

namespace LintBridge.Report.Tabbed

open Text

/-- Whether a character is an ASCII capital letter. -/
def isCapital (c : Char) : Bool := 'A' ≤ c && c ≤ 'Z'

/-- Whether a character may appear in an identifier. -/
def isIdentChar (c : Char) : Bool := isCapital c || c == '_'

/-- Whether a text is an identifier: groups of capitals joined by single underscores. -/
def isIdentifier (cs : List Char) : Bool :=
  cs.all isIdentChar && (cs.head?.map isCapital == some true) &&
    (cs.getLast?.map isCapital == some true) && !(cs.zip cs.tail).any (fun p => p.1 == '_' && p.2 == '_')

/-- Reads a literal text at the front. -/
def expect (lit : List Char) (cs : List Char) : Option (List Char) :=
  if lit.isPrefixOf cs then some (cs.drop lit.length) else none

/-- Reads the marker: a tab, or `Error:` and any blanks. -/
def readMarker : List Char → Option (List Char)
  | '\t' :: rest => some rest
  | cs => (expect "Error:".toList cs).map dropBlanks

/-- Reads the identifier, which the blanks after it end. -/
def readIdentifier (cs : List Char) : Option (List Char × List Char) :=
  let ident := cs.takeWhile isIdentChar
  let rest := cs.dropWhile isIdentChar
  match rest with
  | c :: _ => if isIdentifier ident && isBlank c then some (ident, rest) else none
  | [] => none

/-- Reads a non-empty run of digits. -/
def readNumber (cs : List Char) : Option (List Char × List Char) :=
  let ds := cs.takeWhile isDigit
  if ds.isEmpty then none else some (ds, cs.dropWhile isDigit)

/-- Reads a whole tabbed line: the identifier, the digits of line and column, and the
message. -/
def readParts (line : List Char) : Option (List Char × List Char × List Char × List Char) := do
  let cs ← readMarker line
  let (ident, cs) ← readIdentifier cs
  let cs ← expect "(line:".toList (dropBlanks cs)
  let (lineDigits, cs) ← readNumber (dropBlanks cs)
  let cs ← expect ",".toList cs
  let cs ← expect "col:".toList (dropBlanks cs)
  let (colDigits, cs) ← readNumber (dropBlanks cs)
  let cs ← expect "):".toList cs
  let message := cs.dropWhile (fun c => c == '\t' || c == ' ')
  if message.contains '\n' then none else some (ident, lineDigits, colDigits, message)

/-- The finding on a tabbed line, if the line is one. -/
def readLine (line : List Char) : Option Finding :=
  (readParts line).map fun (ident, lineDigits, colDigits, message) =>
    Finding.make (String.ofList ident) (Finding.normalizeLine lineDigits)
      (Finding.columnOf colDigits) (String.ofList message)

example : readLine "\tTOO_MANY_ARGS (line: 3, col: 2):\tmsg".toList =
    some ⟨"TOO_MANY_ARGS", 2, some 2, "Msg"⟩ := by
  decide

end LintBridge.Report.Tabbed
