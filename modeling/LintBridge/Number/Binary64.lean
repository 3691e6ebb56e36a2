import LintBridge.Text.Decimal
/-!
# Binary64 numbers

Double-precision numbers, kept as their 64 bits. A decimal is read to the nearest double, ties to
even, and one too large reads as infinity.
-/

namespace LintBridge.Number

/-- A double-precision number, by its bits. -/
structure Binary64 where
  bits : UInt64
  deriving DecidableEq, Repr

/-- A finite non-negative double, `m · 2^q`. -/
structure Binary where
  m : Nat
  q : Int
  narrowBelow : Bool
  deriving Repr

namespace Binary64

/-- Whether the sign bit is set. -/
def negative (x : Binary64) : Bool := x.bits >>> 63 == 1

def exponentBits (x : Binary64) : Nat := ((x.bits >>> 52) &&& 0x7FF).toNat

def fractionBits (x : Binary64) : Nat := (x.bits &&& 0xFFFFFFFFFFFFF).toNat

def isNaN (x : Binary64) : Bool := x.exponentBits == 0x7FF && x.fractionBits != 0

/-- Whether the value is infinite. -/
def isInfinite (x : Binary64) : Bool := x.exponentBits == 0x7FF && x.fractionBits == 0

/-- The magnitude of a finite value. -/
def magnitude (x : Binary64) : Binary :=
  let e := x.exponentBits
  let f := x.fractionBits
  if e == 0 then ⟨f, -1074, false⟩ else ⟨Nat.pow 2 52 + f, (e : Int) - 1075, f == 0 && e > 1⟩

/-- Not a number. -/
def nan : Binary64 := ⟨0x7FF8000000000000⟩

/-- Infinity of a sign. -/
def infinity (neg : Bool) : Binary64 := ⟨if neg then 0xFFF0000000000000 else 0x7FF0000000000000⟩

/-- Whether `num / den` is at least `2 ^ k`. -/
def atLeastPow (num den : Nat) (k : Int) : Bool :=
  if k ≥ 0 then num ≥ den * Nat.pow 2 k.toNat else num * Nat.pow 2 (-k).toNat ≥ den

/-- The double nearest to `num / den` with a sign, ties to even; a value that rounds past the
largest double is infinite. `den` must not be zero. -/
def ofRatio (neg : Bool) (num den : Nat) : Binary64 :=
  let sign : UInt64 := if neg then 0x8000000000000000 else 0
  if num = 0 ∨ den = 0 then ⟨sign⟩
  else
    let guess : Int := (Nat.log2 num : Int) - (Nat.log2 den : Int)
    let k := if atLeastPow num den guess then guess else guess - 1
    let e := max (k - 52) (-1074)
    let (n, d) := if e ≥ 0 then (num, den * Nat.pow 2 e.toNat) else (num * Nat.pow 2 (-e).toNat, den)
    let q := n / d
    let r := n % d
    let q := if 2 * r > d ∨ (2 * r = d ∧ q % 2 = 1) then q + 1 else q
    let (q, e) := if q = Nat.pow 2 53 then (Nat.pow 2 52, e + 1) else (q, e)
    if q < Nat.pow 2 52 then ⟨sign ||| q.toUInt64⟩
    else if e > 971 then ⟨sign ||| 0x7FF0000000000000⟩
    else ⟨sign ||| ((e + 1075).toNat.toUInt64 <<< 52) ||| (q - Nat.pow 2 52).toUInt64⟩

/-- The nearest double to `digits · 10^exp` with a sign, ties to even. A value of more than
310 decimal places is infinite, and one below 10^-330 is zero. -/
def ofDecimal (neg : Bool) (digits : Nat) (exp : Int) : Binary64 :=
  let places : Int := (Nat.toDigits 10 digits).length + exp
  if digits = 0 ∨ places < -330 then ofRatio neg 0 1
  else if places > 310 then infinity neg
  else if exp ≥ 0 then ofRatio neg (digits * Nat.pow 10 exp.toNat) 1
  else ofRatio neg digits (Nat.pow 10 (-exp).toNat)

/-- The value of a finite double without its sign, as a numerator and a denominator. -/
def ratio (x : Binary64) : Nat × Nat :=
  let b := x.magnitude
  if b.q ≥ 0 then (b.m * Nat.pow 2 b.q.toNat, 1) else (b.m, Nat.pow 2 (-b.q).toNat)

/-- Whether the value is zero, of either sign. -/
def isZero (x : Binary64) : Bool := x.bits &&& 0x7FFFFFFFFFFFFFFF == 0

/-- The product of two finite doubles, rounded to the nearest double. -/
def mul (x y : Binary64) : Binary64 :=
  let (a, b) := x.ratio
  let (c, d) := y.ratio
  ofRatio (x.negative != y.negative) (a * c) (b * d)

/-- The quotient of a finite double by a finite double that is not zero, rounded to the nearest
double. -/
def div (x y : Binary64) : Binary64 :=
  let (a, b) := x.ratio
  let (c, d) := y.ratio
  ofRatio (x.negative != y.negative) (a * d) (b * c)

def signedRatio (x : Binary64) : Int × Nat :=
  let (a, b) := x.ratio
  (if x.negative then -(a : Int) else a, b)

/-- The sum of two finite doubles, rounded to the nearest double; an exact zero is positive. -/
def add (x y : Binary64) : Binary64 :=
  let (a, b) := x.signedRatio
  let (c, d) := y.signedRatio
  let n := a * d + c * b
  ofRatio (n < 0) n.natAbs (b * d)

/-- Whether one finite double is below another. -/
def lt (x y : Binary64) : Bool :=
  let (a, b) := x.signedRatio
  let (c, d) := y.signedRatio
  a * d < c * b

/-- The double nearest to `10 ^ k`. -/
def pow10 (k : Nat) : Binary64 := ofRatio false (Nat.pow 10 k) 1

example : (ofDecimal false 5 (-1)).bits = 0x3FE0000000000000 ∧ (pow10 0).bits = 0x3FF0000000000000 ∧
    (ofRatio false 1 3).bits = 0x3FD5555555555555 := by decide +kernel

/-- Rounds half away from zero and converts to a 64-bit count, saturating: negative numbers and
not-a-number give 0, numbers past the top give the top. -/
def roundToWord (x : Binary64) : Nat :=
  if x.isNaN then 0
  else if x.negative then 0
  else if x.isInfinite then Nat.pow 2 64 - 1
  else
    let b := x.magnitude
    let n := if b.q ≥ 0 then b.m * Nat.pow 2 b.q.toNat
      else
        let d := Nat.pow 2 (-b.q).toNat
        b.m / d + (if 2 * (b.m % d) ≥ d then 1 else 0)
    min n (Nat.pow 2 64 - 1)

end Binary64

/-! ## Reading decimal text -/

def readDecimalBody (cs : List Char) : Option (Nat × Int) :=
  let intPart := cs.takeWhile Text.isDigit
  let rest := cs.dropWhile Text.isDigit
  let (fracPart, rest) := match rest with
    | '.' :: r => (r.takeWhile Text.isDigit, r.dropWhile Text.isDigit)
    | r => ([], r)
  if intPart.isEmpty ∧ fracPart.isEmpty then none
  else
    let expPart : Option Int := match rest with
      | [] => some 0
      | e :: r =>
        if e = 'e' ∨ e = 'E' then
          match r with
          | '-' :: ds => (Text.readDigits ds).map fun n => -(n : Int)
          | '+' :: ds => (Text.readDigits ds).map fun n => (n : Int)
          | ds => (Text.readDigits ds).map fun n => (n : Int)
        else none
    expPart.map fun e => (Text.digitsValue (intPart ++ fracPart), e - fracPart.length)

/-- Reads a double the way the standard reader of the language does: an optional sign, then a
decimal number, `inf`, `infinity` or `nan` in any case. -/
def readBinary64 (s : String) : Option Binary64 :=
  let (neg, cs) := match s.toList with
    | '-' :: r => (true, r)
    | '+' :: r => (false, r)
    | r => (false, r)
  let word := (String.ofList cs).toLower
  if word = "inf" ∨ word = "infinity" then some (Binary64.infinity neg)
  else if word = "nan" then some Binary64.nan
  else (readDecimalBody cs).map fun (d, e) => Binary64.ofDecimal neg d e

end LintBridge.Number
