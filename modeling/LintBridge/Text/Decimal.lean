/-!
# Decimal numbers in text

Readers for the decimal numbers that reports and settings carry: a run of ASCII digits, with
leading zeros allowed and no limit on its length, and an integer with an optional sign.
Bounds are checked by the caller, which knows the width it needs.
-/

namespace LintBridge.Text

/-- Whether a character is one of the ASCII digits `0` to `9`. -/
def isDigit (c : Char) : Bool := '0' ≤ c && c ≤ '9'

/-- The value of a digit. -/
def digitValue (c : Char) : Nat := c.toNat - '0'.toNat

/-- The value of a string of digits, most significant first. -/
def digitsValue (cs : List Char) : Nat := cs.foldl (fun n c => 10 * n + digitValue c) 0

/-- Reads a non-empty run of ASCII digits. -/
def readDigits (cs : List Char) : Option Nat :=
  if cs ≠ [] ∧ cs.all isDigit then some (digitsValue cs) else none

/-- Reads digits after an optional `+`. -/
def readUnsigned : List Char → Option Nat
  | '+' :: rest => readDigits rest
  | cs => readDigits cs

/-- Reads digits after an optional `+` or `-`. -/
def readSigned : List Char → Option Int
  | '-' :: rest => (readDigits rest).map fun n => -(n : Int)
  | '+' :: rest => (readDigits rest).map fun n => (n : Int)
  | cs => (readDigits cs).map fun n => (n : Int)

/-- The decimal text of a natural number. -/
def showNat (n : Nat) : String := toString n

/-- The decimal text of an integer, with a `-` when it is negative. -/
def showInt (i : Int) : String :=
  if i < 0 then "-" ++ showNat i.natAbs else showNat i.natAbs

example : readSigned "+12".toList = some 12 ∧ readSigned "-0".toList = some 0 ∧
    readSigned "+".toList = none ∧ readUnsigned "007".toList = some 7 ∧
    readDigits "1_0".toList = none := by
  decide

end LintBridge.Text
