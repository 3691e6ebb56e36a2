import LintBridge.Host.Numeral
/-!
# Conversions of `printf`

One value turned into bytes under flags, width and precision, as the C library's `printf` does;
doubles are written from their exact value, rounded to nearest with ties to even.
-/

namespace LintBridge.Host

open LintBridge.Number

/-- A conversion's flags, width and precision. -/
structure Spec where
  left : Bool := false
  plus : Bool := false
  space : Bool := false
  alt : Bool := false
  zero : Bool := false
  width : Nat := 0
  precision : Option Nat := none
  deriving Repr

/-- Pads bytes with spaces to the width, on the left or, with `-`, on the right. -/
def Spec.pad (spec : Spec) (bs : Bytes) : Bytes :=
  let fill := List.replicate (spec.width - bs.length) (32 : UInt8)
  if spec.left then bs ++ fill else fill ++ bs

def Spec.padNumber (spec : Spec) (zeroAllowed : Bool) (head body : Bytes) : Bytes :=
  if spec.zero && !spec.left && zeroAllowed then
    head ++ List.replicate (spec.width - head.length - body.length) (48 : UInt8) ++ body
  else spec.pad (head ++ body)

/-- A text conversion: the bytes cut to the precision, then padded. -/
def Spec.text (spec : Spec) (bs : Bytes) : Bytes :=
  spec.pad (match spec.precision with
    | some p => bs.take p
    | none => bs)

/-- The sign a number is written with. -/
def Spec.sign (spec : Spec) (negative : Bool) : String :=
  if negative then "-" else if spec.plus then "+" else if spec.space then " " else ""

/-! ## Integers -/

/-- The digits of a natural number in a base from 2 to 16, in lower or upper case. -/
def digitsIn (base : Nat) (upper : Bool) (n : Nat) : String :=
  String.ofList ((Nat.toDigits base n).map fun c => if upper then c.toUpper else c)

/-- An integer conversion from its sign, prefix and digits. -/
def Spec.integer (spec : Spec) (negative : Bool) (pre : String) (digits : String) : Bytes :=
  let digits := match spec.precision with
    | some 0 => if digits == "0" then "" else digits
    | some p => String.ofList (List.replicate (p - digits.length) '0') ++ digits
    | none => digits
  spec.padNumber spec.precision.isNone (bytes (spec.sign negative ++ pre)) (bytes digits)

/-- `%d` and `%i`. -/
def Spec.signed (spec : Spec) (v : Int) : Bytes :=
  spec.integer (v < 0) "" (digitsIn 10 false v.natAbs)

/-- `%o`, `%u`, `%x` and `%X` of a 64-bit word. -/
def Spec.unsigned (spec : Spec) (conv : Char) (n : Nat) : Bytes :=
  let spec := { spec with plus := false, space := false }
  if conv = 'o' then
    let ds := digitsIn 8 false n
    let ds := match spec.precision with
      | some p => String.ofList (List.replicate (p - ds.length) '0') ++ ds
      | none => ds
    let ds := if spec.alt && !ds.startsWith "0" then "0" ++ ds else ds
    spec.padNumber spec.precision.isNone [] (bytes ds)
  else if conv = 'u' then spec.integer false "" (digitsIn 10 false n)
  else
    let upper := conv = 'X'
    spec.integer false (if spec.alt && n ≠ 0 then (if upper then "0X" else "0x") else "")
      (digitsIn 16 upper n)

/-! ## Doubles -/

def roundHalfEven (num den : Nat) : Nat :=
  let q := num / den
  let r := num % den
  if 2 * r > den || (2 * r == den && q % 2 == 1) then q + 1 else q

def scaledRound (num den : Nat) (k : Int) : Nat :=
  if k ≥ 0 then roundHalfEven (num * Nat.pow 10 k.toNat) den
  else roundHalfEven num (den * Nat.pow 10 (-k).toNat)

def atLeastTen (num den : Nat) (k : Int) : Bool :=
  if k ≥ 0 then num ≥ den * Nat.pow 10 k.toNat else num * Nat.pow 10 (-k).toNat ≥ den

def decimalExponent (num den : Nat) : Int :=
  let guess : Int := ((Nat.toDigits 10 num).length : Int) - (Nat.toDigits 10 den).length
  if atLeastTen num den guess then
    if atLeastTen num den (guess + 1) then guess + 1 else guess
  else if atLeastTen num den (guess - 1) then guess - 1 else guess - 2

def zeroPadded (width n : Nat) : String :=
  let ds := toString n
  String.ofList (List.replicate (width - ds.length) '0') ++ ds

def scientific (num den p : Nat) : String × Int :=
  if num = 0 then (zeroPadded (p + 1) 0, 0)
  else
    let e := decimalExponent num den
    let n := scaledRound num den ((p : Int) - e)
    if n = Nat.pow 10 (p + 1) then (zeroPadded (p + 1) (Nat.pow 10 p), e + 1)
    else (zeroPadded (p + 1) n, e)

def pointAfterFirst (digits : String) (alt : Bool) : String :=
  let rest := digits.drop 1
  let first := digits.take 1
  if rest.isEmpty then first.toString ++ (if alt then "." else "")
  else first.toString ++ "." ++ rest.toString

def exponentText (letter : Char) (e : Int) : String :=
  String.singleton letter ++ (if e < 0 then "-" else "+") ++ zeroPadded 2 e.natAbs

def fixedText (num den p : Nat) (alt : Bool) : String :=
  let n := scaledRound num den p
  let whole := n / Nat.pow 10 p
  let frac := n % Nat.pow 10 p
  toString whole ++ (if p > 0 then "." ++ zeroPadded p frac else if alt then "." else "")

def scientificText (num den p : Nat) (alt upper : Bool) : String :=
  let (digits, e) := scientific num den p
  pointAfterFirst digits alt ++ exponentText (if upper then 'E' else 'e') e

def dropTrailingZeros (s : String) : String :=
  if s.contains '.' then
    let cs := (s.toList.reverse.dropWhile (· == '0')).reverse
    String.ofList (if cs.getLast? == some '.' then cs.dropLast else cs)
  else s

def generalText (num den p : Nat) (alt upper : Bool) : String :=
  let p := if p = 0 then 1 else p
  let (_, x) := scientific num den (p - 1)
  let t :=
    if (p : Int) > x ∧ x ≥ -4 then fixedText num den (p - 1 - x).toNat alt
    else
      let (digits, e) := scientific num den (p - 1)
      if alt then pointAfterFirst digits true ++ exponentText (if upper then 'E' else 'e') e
      else dropTrailingZeros (pointAfterFirst digits false) ++ exponentText (if upper then 'E' else 'e') e
  if alt then t
  else if (p : Int) > x ∧ x ≥ -4 then dropTrailingZeros t else t

/-- How `%a` lays out a value: the digit before the point holds the top bit of a double,
or the top four bits of an extended value. -/
inductive HexLayout where
  | double
  | extended

def hexText (layout : HexLayout) (m : Nat) (e : Int) (precision : Option Nat) (alt upper : Bool) :
    String :=
  let (lead, frac, places, exp) : Nat × Nat × Nat × Int :=
    if m = 0 then (0, 0, 0, 0)
    else
      match layout with
      | .double =>
        if m ≥ Nat.pow 2 52 then (1, m - Nat.pow 2 52, 13, e + 52) else (0, m, 13, -1022)
      | .extended => (m / Nat.pow 2 60, m % Nat.pow 2 60, 15, e + 60)
  let padHex (width n : Nat) : String :=
    let raw := String.ofList (Nat.toDigits 16 n)
    String.ofList (List.replicate (width - raw.length) '0') ++ raw
  let (lead, digits) := match precision with
    | none =>
      let raw := if places = 0 then "" else padHex places frac
      (lead, String.ofList (raw.toList.reverse.dropWhile (· == '0')).reverse)
    | some p =>
      if p ≥ places then
        (lead, (if places = 0 then "" else padHex places frac) ++
          String.ofList (List.replicate (p - places) '0'))
      else
        let r := roundHalfEven (lead * Nat.pow 16 places + frac) (Nat.pow 16 (places - p))
        (r / Nat.pow 16 p, if p = 0 then "" else padHex p (r % Nat.pow 16 p))
  let body := "0x" ++ String.ofList (Nat.toDigits 16 lead) ++
    (if digits.isEmpty && !alt then "" else "." ++ digits) ++
    "p" ++ (if exp < 0 then "-" else "+") ++ toString exp.natAbs
  if upper then body.toUpper else body

/-- A floating-point conversion `conv`, one of `e`, `E`, `f`, `F`, `g`, `G`, `a` and `A`. -/
def Spec.float (spec : Spec) (layout : HexLayout) (conv : Char) (x : FloatValue) : Bytes :=
  let upper := conv.isUpper
  match x with
  | .infinite neg =>
    spec.pad (bytes (spec.sign neg ++ (if upper then "INF" else "inf")))
  | .notANumber neg =>
    spec.pad (bytes (spec.sign neg ++ (if upper then "NAN" else "nan")))
  | .finite neg m e =>
    let sign := spec.sign neg
    let (num, den) := if e ≥ 0 then (m * Nat.pow 2 e.toNat, 1) else (m, Nat.pow 2 (-e).toNat)
    let lower := conv.toLower
    if lower = 'a' then
      let t := hexText layout m e spec.precision spec.alt upper
      spec.padNumber true (bytes (sign ++ (t.take 2).toString)) (bytes (t.drop 2).toString)
    else
      let p := spec.precision.getD 6
      let t :=
        if lower = 'f' then fixedText num den p spec.alt
        else if lower = 'e' then scientificText num den p spec.alt upper
        else generalText num den p spec.alt upper
      spec.padNumber true (bytes sign) (bytes t)

end LintBridge.Host
