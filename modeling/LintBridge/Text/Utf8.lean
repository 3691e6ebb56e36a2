/-!
# UTF-8 bytes

Programs write bytes. Their output is read as UTF-8, and every ill-formed piece becomes one
replacement character `U+FFFD`: a piece is the longest start of a well-formed sequence that the
bytes give, or a single byte that starts none.
-/

namespace LintBridge.Text

/-- The UTF-8 bytes of a text. -/
def utf8 (s : String) : List UInt8 := s.toList.flatMap String.utf8EncodeChar

/-- The replacement character. -/
def replacement : Char := Char.ofNat 0xFFFD

/-- Whether a byte continues a sequence. -/
def isContinuation (b : UInt8) : Bool := 0x80 ≤ b.toNat && b.toNat ≤ 0xBF

def secondBounds (lead : Nat) : Nat × Nat :=
  if lead = 0xE0 then (0xA0, 0xBF)
  else if lead = 0xED then (0x80, 0x9F)
  else if lead = 0xF0 then (0x90, 0xBF)
  else if lead = 0xF4 then (0x80, 0x8F)
  else (0x80, 0xBF)

def sequenceLength (lead : Nat) : Nat :=
  if lead < 0x80 then 1
  else if 0xC2 ≤ lead ∧ lead ≤ 0xDF then 2
  else if 0xE0 ≤ lead ∧ lead ≤ 0xEF then 3
  else if 0xF0 ≤ lead ∧ lead ≤ 0xF4 then 4
  else 0

def leadBits (lead len : Nat) : Nat :=
  if len = 2 then lead % 0x20 else if len = 3 then lead % 0x10 else lead % 0x08

/-- Reads the continuation bytes of a sequence: `need` more bytes, the value so far, whether the
next byte is the second of the sequence. Gives the character and the rest, or the rest after the
ill-formed piece. -/
def readTail (lead : Nat) : Nat → Nat → Bool → List UInt8 → Except (List UInt8) (Char × List UInt8)
  | 0, v, _, rest => .ok (Char.ofNat v, rest)
  | _ + 1, _, _, [] => .error []
  | n + 1, v, second, b :: rest =>
    let (lo, hi) := if second then secondBounds lead else (0x80, 0xBF)
    if lo ≤ b.toNat ∧ b.toNat ≤ hi then readTail lead n (v * 64 + b.toNat % 64) false rest
    else .error (b :: rest)

/-- The well-formed character at the start of bytes, with the number of bytes it takes. -/
def leadingChar? : List UInt8 → Option (Char × Nat)
  | [] => none
  | b :: rest =>
    let lead := b.toNat
    let len := sequenceLength lead
    if len = 0 then none
    else if len = 1 then some (Char.ofNat lead, 1)
    else
      match readTail lead (len - 1) (leadBits lead len) true rest with
      | .ok (c, _) => some (c, len)
      | .error _ => none

def decodeFuel : Nat → List UInt8 → List Char
  | 0, _ => []
  | _ + 1, [] => []
  | fuel + 1, b :: rest =>
    let lead := b.toNat
    let len := sequenceLength lead
    if len = 1 then Char.ofNat lead :: decodeFuel fuel rest
    else if len = 0 then replacement :: decodeFuel fuel rest
    else
      match readTail lead (len - 1) (leadBits lead len) true rest with
      | .ok (c, after) => c :: decodeFuel fuel after
      | .error after => replacement :: decodeFuel fuel after

/-- Decodes bytes, each ill-formed piece becoming one replacement character. -/
def decodeLossy (bs : List UInt8) : List Char := decodeFuel bs.length bs

example : decodeLossy [0x61, 0xC3, 0xA9, 0xFF, 0xE2, 0x82, 0x41] =
    ['a', 'é', replacement, replacement, 'A'] := by
  decide

end LintBridge.Text
