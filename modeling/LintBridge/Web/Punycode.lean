/-!
# Punycode

The bootstring encoding of a label: its ASCII characters, a hyphen, then each other code point as
a base-36 number of the places passed since the previous one. Each loop has a measure that
falls.
-/

namespace LintBridge.Web.Punycode

def digitChar (d : Nat) : Char :=
  if d < 26 then Char.ofNat (0x61 + d) else Char.ofNat (0x30 + d - 26)

def threshold (k bias : Nat) : Nat :=
  if k ≤ bias then 1 else if bias + 26 ≤ k then 26 else k - bias

theorem threshold_pos (k bias : Nat) : 1 ≤ threshold k bias := by
  unfold threshold
  split
  · omega
  · split <;> omega

theorem threshold_le (k bias : Nat) : threshold k bias ≤ 26 := by
  unfold threshold
  split
  · omega
  · split <;> omega

def adaptLoop (delta k : Nat) : Nat × Nat :=
  if 455 < delta then adaptLoop (delta / 35) (k + 36) else (delta, k)
termination_by delta
decreasing_by exact Nat.div_lt_self (by omega) (by omega)

def adapt (delta numPoints : Nat) (first : Bool) : Nat :=
  let d0 := if first then delta / 700 else delta / 2
  let d1 := d0 + d0 / numPoints
  let (d, k) := adaptLoop d1 0
  k + 36 * d / (d + 38)

def encodeDigits (bias k q : Nat) : List Char :=
  let t := threshold k bias
  if q < t then [digitChar q]
  else digitChar (t + (q - t) % (36 - t)) :: encodeDigits bias (k + 36) ((q - t) / (36 - t))
termination_by q
decreasing_by
  have _h1 := threshold_pos k bias
  have _h2 := threshold_le k bias
  calc (q - threshold k bias) / (36 - threshold k bias)
      ≤ q - threshold k bias := Nat.div_le_self _ _
    _ < q := by omega

/-- The state of the encoder: what is written, the count since the last code point, the bias,
and how many code points are placed. -/
structure Encoder where
  out : List Char
  delta : Nat
  bias : Nat
  placed : Nat

/-- Passes one character of the label while placing the code point `m`. -/
def Encoder.step (basic m : Nat) (e : Encoder) (c : Nat) : Encoder :=
  if c < m then { e with delta := e.delta + 1 }
  else if c = m then
    { out := e.out ++ encodeDigits e.bias 36 e.delta, delta := 0,
      bias := adapt e.delta (e.placed + 1) (e.placed == basic), placed := e.placed + 1 }
  else e

/-- Places the code points of `todo`, in increasing order, from the current one `n`. -/
def Encoder.run (label : List Nat) (basic : Nat) : List Nat → Nat → Encoder → Encoder
  | [], _, e => e
  | m :: rest, n, e =>
    let e := { e with delta := e.delta + (m - n) * (e.placed + 1) }
    let e := label.foldl (Encoder.step basic m) e
    Encoder.run label basic rest (m + 1) { e with delta := e.delta + 1 }

/-- Inserts into an increasing list without repeats. -/
def insertSorted (x : Nat) : List Nat → List Nat
  | [] => [x]
  | y :: ys => if x < y then x :: y :: ys else if x = y then y :: ys else y :: insertSorted x ys

def encode (label : List Char) : String :=
  let points := label.map Char.toNat
  let basic := points.filter (· < 0x80)
  let todo := (points.filter (0x80 ≤ ·)).foldl (fun acc p => insertSorted p acc) []
  let start := basic.map Char.ofNat ++ (if basic.isEmpty then [] else ['-'])
  let e := Encoder.run points basic.length todo 0x80 ⟨start, 0, 72, basic.length⟩
  String.ofList e.out

example : encode "hé".toList = "h-bga" := by decide +kernel

/-! ## Decoding -/

/-- The largest number of 32 bits. -/
def wordMax : Nat := 0xFFFFFFFF

def digitValue? (c : Char) : Option Nat :=
  if '0' ≤ c ∧ c ≤ '9' then some (c.toNat - 0x30 + 26)
  else if 'A' ≤ c ∧ c ≤ 'Z' then some (c.toNat - 0x41)
  else if 'a' ≤ c ∧ c ≤ 'z' then some (c.toNat - 0x61)
  else none

/-- Reads the digits of one number into `i`, from position `k` with the weight so far; gives
the new `i` and the digits left, or `none` on a bad digit, a number past 32 bits, or a number
cut short. -/
def readNumber (bias : Nat) : List Char → Nat → Nat → Nat → Option (Nat × List Char)
  | [], _, _, _ => none
  | c :: rest, i, weight, k => do
    let d ← digitValue? c
    if d > (wordMax - i) / weight then none
    else
      let i := i + d * weight
      let t := threshold k bias
      if d < t then some (i, rest)
      else if weight > wordMax / (36 - t) then none
      else readNumber bias rest i (weight * (36 - t)) (k + 36)

def insertAt (i : Nat) (c : Char) (cs : List Char) : List Char := cs.take i ++ c :: cs.drop i

/-- Places the encoded code points into `out`: each number read moves the place `i` on, and the
code point `n` up each time the place wraps around the text. -/
def Decoder.run : Nat → List Char → Nat → Nat → Nat → List Char → Option (List Char)
  | 0, _, _, _, _, out => some out
  | _ + 1, [], _, _, _, out => some out
  | fuel + 1, cs@(_ :: _), i, n, bias, out => do
    let (i', rest) ← readNumber bias cs i 1 36
    let size := out.length + 1
    let bias := adapt (i' - i) size (i == 0)
    let n := n + i' / size
    if n > wordMax then none
    else
      let place := i' % size
      if n > 0x10FFFF ∨ (0xD800 ≤ n ∧ n ≤ 0xDFFF) then none
      else Decoder.run fuel rest (place + 1) n bias (insertAt place (Char.ofNat n) out)

/-- The label a Punycode text stands for: the characters before its last hyphen as they are,
then the encoded code points put in place; `none` when the text is not Punycode. -/
def decode (input : List Char) : Option (List Char) :=
  let lastHyphen := (input.length - 1) - ((input.reverse.takeWhile (· != '-')).length)
  let (base, digits) :=
    if input.contains '-' then
      (input.take lastHyphen, if lastHyphen > 0 then input.drop (lastHyphen + 1) else input)
    else ([], input)
  if base.any (·.toNat ≥ 0x80) then none
  else Decoder.run (digits.length + 1) digits 0 0x80 72 base

example : decode "h-bga".toList = some "hé".toList := by decide +kernel

end LintBridge.Web.Punycode
