/-!
# Form encoding

The encoding of a value in a URL query: the UTF-8 bytes of the text, with ASCII letters and
digits and `*`, `-`, `.`, `_` kept, a space written `+`, and every other byte written `%XX` in
upper-case hex.
-/

namespace LintBridge.Web

def hexUpper (n : Nat) : Char :=
  if n < 10 then Char.ofNat ('0'.toNat + n) else Char.ofNat ('A'.toNat + n - 10)

def percentByte (b : UInt8) : List Char := ['%', hexUpper (b.toNat / 16), hexUpper (b.toNat % 16)]

def formKeeps (b : UInt8) : Bool :=
  let n := b.toNat
  (0x30 ≤ n && n ≤ 0x39) || (0x41 ≤ n && n ≤ 0x5A) || (0x61 ≤ n && n ≤ 0x7A) ||
    n == 0x2A || n == 0x2D || n == 0x2E || n == 0x5F

def formByte (b : UInt8) : List Char :=
  if formKeeps b then [Char.ofNat b.toNat]
  else if b.toNat == 0x20 then ['+']
  else percentByte b

def utf8Bytes (s : String) : List UInt8 := s.toList.flatMap String.utf8EncodeChar

/-- A text form-encoded. -/
def formEncode (s : String) : String := String.ofList ((utf8Bytes s).flatMap formByte)

end LintBridge.Web
