import LintBridge.Text.Blank
import LintBridge.Text.Upper
import LintBridge.Text.Decimal
import LintBridge.Number.Fixed
/-!
# Findings

A finding is one issue the linter reported: an identifier, a zero-based line, the column when
there was one, and a message. The linter's line number, counted from one, is read through 64 and
32 bits as the original tool reads it.
-/

namespace LintBridge

/-- One issue reported by the linter. -/
structure Finding where
  identifier : String
  line : UInt32
  column : Option UInt32
  message : String
  deriving DecidableEq, Repr

namespace Finding

/-- The zero-based line of a one-based line number given as text: the trimmed text read as a
64-bit integer, less one with saturation, as an unsigned 32-bit word; 0 when a step fails. -/
def normalizeLine (raw : List Char) : UInt32 :=
  ((Number.readInt64 (Text.trimBlanks raw)).bind fun n =>
    Number.toUInt32? (Number.saturatingSub n 1)).getD 0

/-- A message without leading blanks and with its first character uppercased. -/
def normalizeMessage (raw : List Char) : List Char :=
  Text.upperFirst (Text.dropBlanks raw)

/-- The column printed as the given digits, when it fits in 32 bits. -/
def columnOf (digits : List Char) : Option UInt32 :=
  match Text.readUnsigned digits with
  | some n => if n < Nat.pow 2 32 then some n.toUInt32 else none
  | none => none

/-- A finding whose message is normalised. -/
def make (identifier : String) (line : UInt32) (column : Option UInt32) (message : String) :
    Finding :=
  ⟨identifier, line, column, String.ofList (normalizeMessage message.toList)⟩

example : normalizeLine " 7 ".toList = 6 ∧ normalizeLine "4294967296".toList = 4294967295 ∧
    normalizeLine "4294967297".toList = 0 ∧ normalizeLine "-9223372036854775808".toList = 0 ∧
    normalizeLine "9223372036854775808".toList = 0 := by
  decide

end Finding

end LintBridge
