/-!
# Blank characters

The Unicode `White_Space` property: the characters that separate words and that trimming removes.
Core's `Char.isWhitespace` knows only a handful of ASCII blanks; linter reports, command
templates and editor settings may carry a no-break space or an ideographic space, so every
trim and split in this library goes through `isBlank`.
-/

namespace LintBridge.Text

/-- The characters with the Unicode `White_Space` property: tab to carriage return, space,
next line, no-break space, Ogham space, the spaces from en quad to hair space, the line and
paragraph separators, narrow no-break space, medium mathematical space and ideographic space. -/
def isBlank (c : Char) : Bool :=
  let n := c.toNat
  (0x09 ≤ n && n ≤ 0x0D) || n == 0x20 || n == 0x85 || n == 0xA0 || n == 0x1680 ||
    (0x2000 ≤ n && n ≤ 0x200A) || n == 0x2028 || n == 0x2029 || n == 0x202F ||
    n == 0x205F || n == 0x3000

/-- Drops blanks from the front. -/
def dropBlanks (cs : List Char) : List Char := cs.dropWhile isBlank

/-- Drops blanks from the back. -/
def dropBlanksEnd (cs : List Char) : List Char := (dropBlanks cs.reverse).reverse

/-- Drops blanks from both ends. -/
def trimBlanks (cs : List Char) : List Char := dropBlanksEnd (dropBlanks cs)

def trimStart (s : String) : String := String.ofList (dropBlanks s.toList)

def trimEnd (s : String) : String := String.ofList (dropBlanksEnd s.toList)

/-- The text without blanks at either end. -/
def trim (s : String) : String := String.ofList (trimBlanks s.toList)

/-- Whether the text holds blanks only (the empty text included). -/
def allBlank (s : String) : Bool := s.toList.all isBlank

example : isBlank ' ' ∧ isBlank '\n' ∧ isBlank '　' ∧ ¬ isBlank '\u200B' ∧ ¬ isBlank '\x1c' := by
  decide

end LintBridge.Text
