import LintBridge.Host.Basic
import LintBridge.Number.Binary64
/-!
# Numbers in text, as the C library reads them

Readers of integers and floating-point numbers as `strtoimax`, `strtoumax` and `strtod` read
them: leading blanks, a sign, as much of a number as there is, and whether it was out of range.
Floats are rounded to the nearest value of their format, ties to even.
-/

namespace LintBridge.Host

open LintBridge.Number

/-- What a number reader found: the value, the bytes it used, and whether the value was out
of range. -/
structure Numeral (α : Type) where
  value : α
  used : Nat
  outOfRange : Bool := false

def isCSpace (b : UInt8) : Bool := b == 32 || (9 ≤ b && b ≤ 13)

/-- The value of a digit byte in a base up to 36. -/
def digitValue (base : Nat) (b : UInt8) : Option Nat :=
  let n := b.toNat
  let v :=
    if 48 ≤ n ∧ n ≤ 57 then some (n - 48)
    else if 97 ≤ n ∧ n ≤ 122 then some (n - 87)
    else if 65 ≤ n ∧ n ≤ 90 then some (n - 55)
    else none
  v.bind fun d => if d < base then some d else none

def readDigitsIn (base : Nat) : Bytes → Nat × Nat
  | [] => (0, 0)
  | b :: rest =>
    match digitValue base b with
    | some d =>
      let (v, n) := readDigitsIn base rest
      (d * Nat.pow base n + v, n + 1)
    | none => (0, 0)

def isDigitByte (b : UInt8) : Bool := 48 ≤ b && b ≤ 57

def readSign : Bytes → Bool × Nat
  | 45 :: _ => (true, 1)
  | 43 :: _ => (false, 1)
  | _ => (false, 0)

def readMagnitude (bs : Bytes) : Nat × Nat :=
  match bs with
  | 48 :: x :: rest =>
    if (x == 120 || x == 88) && (rest.head?.bind (digitValue 16)).isSome then
      let (v, n) := readDigitsIn 16 rest
      (v, n + 2)
    else readDigitsIn 8 bs
  | _ => readDigitsIn 10 bs

def readIntmax (bs : Bytes) : Numeral Int :=
  let blanks := (bs.takeWhile isCSpace).length
  let rest := bs.drop blanks
  let (neg, signLen) := readSign rest
  let (mag, n) := readMagnitude (rest.drop signLen)
  if n = 0 then ⟨0, 0, false⟩
  else
    let used := blanks + signLen + n
    let limit : Nat := if neg then Nat.pow 2 63 else Nat.pow 2 63 - 1
    if mag > limit then ⟨if neg then -(Nat.pow 2 63 : Int) else (Nat.pow 2 63 - 1 : Nat), used, true⟩
    else ⟨if neg then -(mag : Int) else mag, used, false⟩

def readUintmax (bs : Bytes) : Numeral Nat :=
  let blanks := (bs.takeWhile isCSpace).length
  let rest := bs.drop blanks
  let (neg, signLen) := readSign rest
  let (mag, n) := readMagnitude (rest.drop signLen)
  if n = 0 then ⟨0, 0, false⟩
  else
    let used := blanks + signLen + n
    let top := Nat.pow 2 64
    if mag ≥ top then ⟨top - 1, used, true⟩
    else ⟨if neg ∧ mag > 0 then top - mag else mag, used, false⟩

/-! ## Floating point -/

def startsWithWord (bs : Bytes) (w : String) : Bool :=
  let ws := bytes w
  bs.length ≥ ws.length &&
    ((bs.take ws.length).zip ws).all fun (a, b) =>
      a == b || (65 ≤ a && a ≤ 90 && a + 32 == b)

def readMantissa (base : Nat) (bs : Bytes) : Nat × Nat × Nat × Nat :=
  let whole := bs.takeWhile fun b => (digitValue base b).isSome
  let (wv, wn) := readDigitsIn base whole
  match bs.drop wn with
  | 46 :: after =>
    let frac := after.takeWhile fun b => (digitValue base b).isSome
    let (fv, fn) := readDigitsIn base frac
    if wn + fn = 0 then (0, 0, 0, 0)
    else (wv * Nat.pow base fn + fv, fn, wn + fn, wn + 1 + fn)
  | _ => (wv, 0, wn, wn)

/-- Reads an exponent after its letter: its value and the bytes used, none when no digits
follow. -/
def readExponent (bs : Bytes) : Int × Nat :=
  let (neg, s) := readSign bs
  let ds := (bs.drop s).takeWhile isDigitByte
  if ds.isEmpty then (0, 0)
  else
    let v := (readDigitsIn 10 ds).1
    (if neg then -(v : Int) else v, s + ds.length)

/-- A binary floating-point format: how many significant bits it has, and the exponents of
its smallest and largest normal powers of two. -/
structure FloatFormat where
  precision : Nat
  minExp : Int
  maxExp : Int

/-- Double precision. -/
def FloatFormat.double : FloatFormat := ⟨53, -1022, 1023⟩

def FloatFormat.extended : FloatFormat := ⟨64, -16382, 16383⟩

/-- A floating-point value: `m · 2^e` with a sign, an infinity, or not a number. -/
inductive FloatValue where
  | finite (neg : Bool) (m : Nat) (e : Int)
  | infinite (neg : Bool)
  | notANumber (neg : Bool)
  deriving Repr

def binaryExponent (num den : Nat) : Int :=
  let guess : Int := (Nat.log2 num : Int) - (Nat.log2 den : Int)
  if Number.Binary64.atLeastPow num den guess then guess else guess - 1

def roundedIn (num den : Nat) (q : Int) : Nat × Nat :=
  let (n, d) := if q ≥ 0 then (num, den * Nat.pow 2 q.toNat) else (num * Nat.pow 2 (-q).toNat, den)
  let m0 := n / d
  let r := n % d
  (if 2 * r > d || (2 * r == d && m0 % 2 == 1) then m0 + 1 else m0, r)

/-- `num / den` rounded to a format, ties to even, and whether it was out of range: too large
for the format, or tiny and not exact. A value is tiny when, rounded to the format's precision
as if its exponents had no lower bound, it is still below the normal numbers. -/
def FloatFormat.round (f : FloatFormat) (neg : Bool) (num den : Nat) : FloatValue × Bool :=
  if num = 0 then (.finite neg 0 0, false)
  else
    let k := binaryExponent num den
    if k > f.maxExp then (.infinite neg, true)
    else
      let q := max (k - (f.precision - 1 : Nat)) (f.minExp - (f.precision - 1 : Nat))
      let (m, r) := roundedIn num den q
      let (m, q) := if m = Nat.pow 2 f.precision then (m / 2, q + 1) else (m, q)
      let tiny := k < f.minExp &&
        !(k + 1 == f.minExp && (roundedIn num den (k - (f.precision - 1 : Nat))).1 == Nat.pow 2 f.precision)
      if q + (f.precision - 1 : Nat) > f.maxExp then (.infinite neg, true)
      else (.finite neg m q, tiny && r != 0)

/-- A number as text writes it, before rounding: a sign with an infinity, not-a-number, a
ratio, or a value too large or too small for any format. -/
inductive Written where
  | infinite (neg : Bool)
  | notANumber (neg : Bool)
  | ratio (neg : Bool) (num den : Nat)
  | huge (neg : Bool)
  | tiny (neg : Bool)

def writtenScaled (neg : Bool) (base m : Nat) (e : Int) : Written :=
  let places : Int := (Nat.toDigits base m).length + e
  let limit : Int := if base = 2 then 20000 else 6000
  if m = 0 then .ratio neg 0 1
  else if places > limit then .huge neg
  else if places < -limit then .tiny neg
  else if e ≥ 0 then .ratio neg (m * Nat.pow base e.toNat) 1
  else .ratio neg m (Nat.pow base (-e).toNat)

def readWritten (bs : Bytes) : Numeral Written :=
  let blanks := (bs.takeWhile isCSpace).length
  let rest := bs.drop blanks
  let (neg, signLen) := readSign rest
  let body := rest.drop signLen
  let start := blanks + signLen
  if startsWithWord body "infinity" then ⟨.infinite neg, start + 8, false⟩
  else if startsWithWord body "inf" then ⟨.infinite neg, start + 3, false⟩
  else if startsWithWord body "nan" then
    let after := body.drop 3
    let inParens := match after with
      | 40 :: more =>
        let inner := more.takeWhile fun b => (digitValue 36 b).isSome || b == 95
        if (more.drop inner.length).head? == some 41 then inner.length + 2 else 0
      | _ => 0
    ⟨.notANumber neg, start + 3 + inParens, false⟩
  else
    let hex := match body with
      | 48 :: x :: more =>
        (x == 120 || x == 88) &&
          ((more.head?.bind (digitValue 16)).isSome ||
            (more.head? == some 46 && ((more.drop 1).head?.bind (digitValue 16)).isSome))
      | _ => false
    if hex then
      let (m, fracDigits, _, used) := readMantissa 16 (body.drop 2)
      let after := body.drop (2 + used)
      let (e, eUsed) := match after with
        | p :: more => if p == 112 || p == 80 then readExponent more else (0, 0)
        | [] => (0, 0)
      let eUsed := if eUsed = 0 then 0 else eUsed + 1
      ⟨writtenScaled neg 2 m (e - 4 * (fracDigits : Int)), start + 2 + used + eUsed, false⟩
    else
      let (m, fracDigits, digits, used) := readMantissa 10 body
      if digits = 0 then ⟨.ratio false 0 1, 0, false⟩
      else
        let after := body.drop used
        let (e, eUsed) := match after with
          | c :: more => if c == 101 || c == 69 then readExponent more else (0, 0)
          | [] => (0, 0)
        let eUsed := if eUsed = 0 then 0 else eUsed + 1
        ⟨writtenScaled neg 10 m (e - (fracDigits : Int)), start + used + eUsed, false⟩

def FloatFormat.ofWritten (f : FloatFormat) : Written → FloatValue × Bool
  | .infinite neg => (.infinite neg, false)
  | .notANumber neg => (.notANumber neg, false)
  | .huge neg => (.infinite neg, true)
  | .tiny neg => (.finite neg 0 0, true)
  | .ratio neg num den => f.round neg num den

def readFloat (f : FloatFormat) (bs : Bytes) : Numeral FloatValue :=
  let w := readWritten bs
  let (v, range) := f.ofWritten w.value
  ⟨v, w.used, range⟩

end LintBridge.Host
