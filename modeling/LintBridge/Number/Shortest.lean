import LintBridge.Number.Binary64
/-!
# Shortest decimal text of a double

The text of a double is the decimal with the fewest digits that reads back as the same double,
the nearer of two and the larger on a tie, written without an exponent. The test that a decimal
reads back compares naturals, with no division.
-/

namespace LintBridge.Number

/-- `digits · 10^exp`. -/
structure Dec where
  digits : Nat
  exp : Int
  deriving DecidableEq, Repr

def cmpScaled (a : Nat) (i : Int) (n : Nat) (j : Int) : Ordering :=
  compare (a * Nat.pow 10 i.toNat * Nat.pow 2 (-j).toNat) (n * Nat.pow 2 j.toNat * Nat.pow 10 (-i).toNat)

def Binary.readsBack (x : Binary) (d : Dec) : Bool :=
  let lo := if x.narrowBelow then 4 * x.m - 1 else 4 * x.m - 2
  let hi := 4 * x.m + 2
  let incl := x.m % 2 == 0
  let cl := cmpScaled d.digits d.exp lo (x.q - 2)
  let ch := cmpScaled d.digits d.exp hi (x.q - 2)
  (cl == .gt || (incl && cl == .eq)) && (ch == .lt || (incl && ch == .eq))

def Binary.fixScale (x : Binary) : Nat → Int → Int
  | 0, k => k
  | fuel + 1, k =>
    if cmpScaled 1 k x.m x.q != .gt then x.fixScale fuel (k + 1)
    else if cmpScaled 1 (k - 1) x.m x.q == .gt then x.fixScale fuel (k - 1)
    else k

/-- The least `k` with `m · 2^q < 10^k`, for a non-zero value. -/
def Binary.scale (x : Binary) : Int :=
  let bits : Int := (Nat.log2 x.m : Int) + 1 + x.q
  x.fixScale 8 (Int.fdiv (bits * 30103) 100000)

def Binary.floorOn (x : Binary) (g : Int) : Nat :=
  (x.m * Nat.pow 2 x.q.toNat * Nat.pow 10 (-g).toNat) / (Nat.pow 2 (-x.q).toNat * Nat.pow 10 g.toNat)

def Binary.searchFrom (x : Binary) (k : Int) : Nat → Nat → Option Dec
  | 0, _ => none
  | fuel + 1, n =>
    let g := k - n
    let c1 := x.floorOn g
    let c2 := c1 + 1
    let ok1 := x.readsBack ⟨c1, g⟩
    let ok2 := x.readsBack ⟨c2, g⟩
    if ok1 ∧ ok2 then
      -- Both neighbours read back: the nearer one, the larger on a tie.
      match cmpScaled (c1 + c2) g (2 * x.m) x.q with
      | .gt => some ⟨c1, g⟩
      | _ => some ⟨c2, g⟩
    else if ok1 then some ⟨c1, g⟩
    else if ok2 then some ⟨c2, g⟩
    else x.searchFrom k fuel (n + 1)

/-- Moves trailing zeros of the digits into the exponent. -/
def Dec.strip : Nat → Dec → Dec
  | 0, d => d
  | fuel + 1, d => if d.digits ≠ 0 ∧ d.digits % 10 = 0 then Dec.strip fuel ⟨d.digits / 10, d.exp + 1⟩ else d

/-- The shortest decimal of a non-zero finite double; its exact value if none within seventeen
digits is found. -/
def Binary.shortest (x : Binary) : Dec :=
  let found := (x.searchFrom x.scale 17 1).getD
    (if x.q ≥ 0 then ⟨x.m * Nat.pow 2 x.q.toNat, 0⟩ else ⟨x.m * Nat.pow 5 (-x.q).toNat, x.q⟩)
  found.strip 400

/-- A decimal in positional notation. -/
def Dec.positional (d : Dec) : String :=
  let ds := Nat.toDigits 10 d.digits
  if d.exp ≥ 0 then String.ofList (ds ++ List.replicate d.exp.toNat '0')
  else
    let before : Int := ds.length + d.exp
    if before > 0 then
      String.ofList (ds.take before.toNat ++ '.' :: ds.drop before.toNat)
    else String.ofList ('0' :: '.' :: (List.replicate (-before).toNat '0' ++ ds))

/-- The text of a double in positional notation. -/
def Binary64.render (x : Binary64) : String :=
  if x.isNaN then "NaN"
  else
    let sign := if x.negative then "-" else ""
    if x.isInfinite then sign ++ "inf"
    else
      let b := x.magnitude
      if b.m = 0 then sign ++ "0" else sign ++ b.shortest.positional

/-- A decimal as JSON writers print it: positionally with at least one digit after the point
while the point falls within the first sixteen places or at most five zeros follow it, and
otherwise with a power of ten: `1.0`, `1.5`, `0.0001`, `1e21`, `1.5e-7`. -/
def Dec.jsonText (d : Dec) : String :=
  let ds := Nat.toDigits 10 d.digits
  let point : Int := ds.length + d.exp
  if 0 ≤ d.exp ∧ point ≤ 16 then String.ofList (ds ++ List.replicate d.exp.toNat '0' ++ ['.', '0'])
  else if 0 < point ∧ point ≤ 16 then
    String.ofList (ds.take point.toNat ++ '.' :: ds.drop point.toNat)
  else if -5 < point ∧ point ≤ 0 then
    String.ofList ('0' :: '.' :: (List.replicate (-point).toNat '0' ++ ds))
  else
    let mantissa := match ds with
      | [c] => [c]
      | c :: rest => c :: '.' :: rest
      | [] => []
    String.ofList mantissa ++ "e" ++ toString (point - 1)

/-- The text of a finite double as JSON writers print it; `null` for the others. -/
def Binary64.jsonText (x : Binary64) : String :=
  if x.isNaN ∨ x.isInfinite then "null"
  else
    let sign := if x.negative then "-" else ""
    let b := x.magnitude
    if b.m = 0 then sign ++ "0.0" else sign ++ b.shortest.jsonText

/-- A decimal in the short form of value descriptions: positionally, with at least one digit after
the point, from `0.00001` up to just below `1e16`, and otherwise with a power of ten that has a
sign only when negative is not enough: `1.0`, `0.00001`, `1e-6`, `1.5e+16`. -/
def Dec.briefText (d : Dec) : String :=
  let ds := Nat.toDigits 10 d.digits
  let point : Int := ds.length + d.exp
  if -5 < point ∧ point ≤ 16 then
    if point ≤ 0 then String.ofList ('0' :: '.' :: (List.replicate (-point).toNat '0' ++ ds))
    else if ds.length ≤ point.toNat then
      String.ofList (ds ++ List.replicate (point.toNat - ds.length) '0' ++ ['.', '0'])
    else String.ofList (ds.take point.toNat ++ '.' :: ds.drop point.toNat)
  else
    let mantissa := match ds with
      | [c] => [c]
      | c :: rest => c :: '.' :: rest
      | [] => []
    let e := point - 1
    String.ofList mantissa ++ "e" ++ (if e < 0 then "-" else "+") ++ toString e.natAbs

/-- The short text of a double in value descriptions; `NaN` and `inf` for the others. -/
def Binary64.briefText (x : Binary64) : String :=
  let sign := if x.negative then "-" else ""
  if x.isNaN then "NaN"
  else if x.isInfinite then sign ++ "inf"
  else
    let b := x.magnitude
    if b.m = 0 then sign ++ "0.0" else sign ++ b.shortest.briefText

/-- A decimal in canonical form: positionally with at least one digit after the point while
the point falls after at most four zeros and within the first sixteen places, otherwise with a
power of ten that has a sign and at least two digits: `1.0`, `0.0001`, `1e-05`, `1e+16`. -/
def Dec.canonicalText (d : Dec) : String :=
  let ds := Nat.toDigits 10 d.digits
  let point : Int := ds.length + d.exp
  if -4 < point ∧ point ≤ 16 then
    if point ≤ 0 then String.ofList ('0' :: '.' :: (List.replicate (-point).toNat '0' ++ ds))
    else if ds.length ≤ point.toNat then
      String.ofList (ds ++ List.replicate (point.toNat - ds.length) '0' ++ ['.', '0'])
    else String.ofList (ds.take point.toNat ++ '.' :: ds.drop point.toNat)
  else
    let mantissa := match ds with
      | [c] => [c]
      | c :: rest => c :: '.' :: rest
      | [] => []
    let e := point - 1
    let digits := toString e.natAbs
    String.ofList mantissa ++ "e" ++ (if e < 0 then "-" else "+") ++
      (if digits.length < 2 then "0" else "") ++ digits

/-- The canonical text of a finite double; `NaN` and `Infinity` for the others. -/
def Binary64.canonicalText (x : Binary64) : String :=
  let sign := if x.negative then "-" else ""
  if x.isNaN then "NaN"
  else if x.isInfinite then sign ++ "Infinity"
  else
    let b := x.magnitude
    if b.m = 0 then sign ++ "0.0" else sign ++ b.shortest.canonicalText

example : (readBinary64 "1e16").map Binary64.canonicalText = some "1e+16" ∧
    (readBinary64 "1e15").map Binary64.canonicalText = some "1000000000000000.0" ∧
    (readBinary64 "0.0001").map Binary64.canonicalText = some "0.0001" ∧
    (readBinary64 "0.00005").map Binary64.canonicalText = some "5e-05" ∧
    (readBinary64 "-2.5").map Binary64.canonicalText = some "-2.5" := by
  decide +kernel

example : (readBinary64 "3.5").map Binary64.render = some "3.5" ∧
    (readBinary64 "1e21").map Binary64.render = some "1000000000000000000000" ∧
    (readBinary64 "1e-7").map Binary64.render = some "0.0000001" ∧
    (readBinary64 "0.1").map Binary64.render = some "0.1" ∧
    (readBinary64 "-0").map Binary64.render = some "-0" := by
  decide +kernel

example : (readBinary64 "1e21").map Binary64.jsonText = some "1e21" ∧
    (readBinary64 "1e15").map Binary64.jsonText = some "1000000000000000.0" ∧
    (readBinary64 "0.00001").map Binary64.jsonText = some "0.00001" ∧
    (readBinary64 "-1.5e-7").map Binary64.jsonText = some "-1.5e-7" ∧
    (readBinary64 "2").map Binary64.jsonText = some "2.0" := by
  decide +kernel

end LintBridge.Number
