import LintBridge.Json.Basic
import LintBridge.Text.Decimal
/-!
# Reading JSON

The strict JSON grammar, nesting at most 127 deep, with nothing but blanks after the value. An
object keeps the last field written for each key, in increasing order of key. Every step takes a
character, so a fuel of one more than the length of the text is never used up.
-/

namespace LintBridge

namespace Json

def isSpace (c : Char) : Bool := c == ' ' || c == '\t' || c == '\n' || c == '\r'

/-- The value of a hex digit, in either case. -/
def hexValue (c : Char) : Option Nat :=
  if '0' ≤ c ∧ c ≤ '9' then some (c.toNat - '0'.toNat)
  else if 'a' ≤ c ∧ c ≤ 'f' then some (c.toNat - 'a'.toNat + 10)
  else if 'A' ≤ c ∧ c ≤ 'F' then some (c.toNat - 'A'.toNat + 10)
  else none

def hex4 (a b c d : Char) : Option Nat := do
  let a ← hexValue a
  let b ← hexValue b
  let c ← hexValue c
  let d ← hexValue d
  some (((a * 16 + b) * 16 + c) * 16 + d)

def plainUnit (n : Nat) : Option Char :=
  if 0xD800 ≤ n ∧ n < 0xE000 then none else some (Char.ofNat n)

def surrogatePair (hi lo : Nat) : Option Char :=
  if 0xD800 ≤ hi ∧ hi < 0xDC00 ∧ 0xDC00 ≤ lo ∧ lo < 0xE000 then
    some (Char.ofNat (0x10000 + (hi - 0xD800) * 0x400 + (lo - 0xDC00)))
  else none

def shortEscape (c : Char) : Option Char :=
  if c = '"' then some '"'
  else if c = '\\' then some '\\'
  else if c = '/' then some '/'
  else if c = 'b' then some (Char.ofNat 8)
  else if c = 'f' then some (Char.ofNat 12)
  else if c = 'n' then some '\n'
  else if c = 'r' then some '\r'
  else if c = 't' then some '\t'
  else none

def readStringBody (acc : List Char) : List Char → Option (String × List Char)
  | [] => none
  | '"' :: rest => some (String.ofList acc.reverse, rest)
  | '\\' :: 'u' :: a :: b :: c :: d :: rest =>
    match hex4 a b c d with
    | none => none
    | some n =>
      if 0xD800 ≤ n ∧ n < 0xDC00 then
        match rest with
        | '\\' :: 'u' :: e :: f :: g :: h :: after =>
          match (hex4 e f g h).bind (surrogatePair n) with
          | some ch => readStringBody (ch :: acc) after
          | none => none
        | _ => none
      else
        match plainUnit n with
        | some ch => readStringBody (ch :: acc) rest
        | none => none
  | '\\' :: c :: rest =>
    match shortEscape c with
    | some ch => readStringBody (ch :: acc) rest
    | none => none
  | c :: rest => if c.toNat < 0x20 then none else readStringBody (c :: acc) rest

def spanDigits (cs : List Char) : List Char × List Char :=
  (cs.takeWhile Text.isDigit, cs.dropWhile Text.isDigit)

/-- The largest 64-bit word. -/
def wordMax : Nat := Nat.pow 2 64 - 1

def exponentMax : Int := Int.pow 2 31 - 1

/-- Appends digits to a significand while it stays within a 64-bit word: the significand and
how many digits it took. -/
def absorb (significand : Nat) : List Char → Nat × Nat
  | [] => (significand, 0)
  | d :: ds =>
    let next := 10 * significand + (d.toNat - '0'.toNat)
    if next > wordMax then (significand, 0)
    else
      let (s, k) := absorb next ds
      (s, k + 1)

def scaleByPower : Nat → Number.Binary64 → Int → Option Number.Binary64
  | 0, f, _ => some f
  | fuel + 1, f, e =>
    if e.natAbs ≤ 308 then
      if e ≥ 0 then
        let g := f.mul (Number.Binary64.pow10 e.toNat)
        if g.isInfinite then none else some g
      else some (f.div (Number.Binary64.pow10 e.natAbs))
    else if f.isZero then some f
    else if e ≥ 0 then none
    else scaleByPower fuel (f.div (Number.Binary64.pow10 308)) (e + 308)

def fromParts (significand : Nat) (exponent : Int) : Option Number.Binary64 :=
  scaleByPower (exponent.natAbs / 308 + 2) (Number.Binary64.ofRatio false significand 1) exponent

/-- Reads an exponent after `e`, adding it to `start` within 32 bits. An exponent past 32 bits
makes the number zero, or is refused when the number would be huge. -/
def readExponent (significand : Nat) (start : Int) (cs : List Char) :
    Option (Number.Binary64 × List Char) :=
  let (positive, cs) := match cs with
    | '+' :: r => (true, r)
    | '-' :: r => (false, r)
    | r => (true, r)
  let (ds, rest) := spanDigits cs
  if ds.isEmpty then none
  else
    let e : Int := Text.digitsValue ds
    if e > exponentMax then
      if significand != 0 && positive then none else some (Number.Binary64.ofRatio false 0 1, rest)
    else
      let total := if positive then start + e else start - e
      let total := max (-(exponentMax + 1)) (min exponentMax total)
      (fromParts significand total).map (·, rest)

/-- Reads what follows the digits of a significand, which stand for `significand · 10^start`:
a fraction, an exponent, or nothing. `none` as the result's number means the significand is an
integer of its own. -/
def readTail (significand : Nat) (start : Int) (cs : List Char) :
    Option (Option Number.Binary64 × List Char) :=
  match cs with
  | '.' :: rest =>
    let (ds, rest) := spanDigits rest
    if ds.isEmpty then none
    else
      let (sig, k) := absorb significand ds
      let e := start - k
      match rest with
      | c :: more =>
        if c = 'e' ∨ c = 'E' then (readExponent sig e more).map fun (x, r) => (some x, r)
        else (fromParts sig e).map fun x => (some x, rest)
      | [] => (fromParts sig e).map fun x => (some x, [])
  | c :: rest =>
    if c = 'e' ∨ c = 'E' then (readExponent significand start rest).map fun (x, r) => (some x, r)
    else if start = 0 then some (none, cs)
    else (fromParts significand start).map fun x => (some x, cs)
  | [] => if start = 0 then some (none, []) else (fromParts significand start).map fun x => (some x, [])

def negateDouble (x : Number.Binary64) : Number.Binary64 := ⟨x.bits ^^^ 0x8000000000000000⟩

/-- Reads a number. An integer within a 64-bit word keeps its value (a negative one when it is
not zero and fits a signed word); every other number becomes a double the way the reader makes
it: the first digits that fit in a 64-bit significand, the rest dropped and counted as powers of
ten, then scaled by doubles. A number past the largest double is refused. -/
def readNumber (cs : List Char) : Option (JsonNumber × List Char) := do
  let (negative, cs) := match cs with
    | '-' :: rest => (true, rest)
    | _ => (false, cs)
  let (intDigits, rest) := spanDigits cs
  if intDigits.isEmpty then none
  if intDigits.length > 1 ∧ intDigits.head? = some '0' then none
  let (sig, k) := absorb 0 intDigits
  let dropped := intDigits.length - k
  let (x, rest) ← readTail sig dropped rest
  let signed (x : Number.Binary64) := if negative then negateDouble x else x
  match x with
  | some x => pure (.float (signed x), rest)
  | none =>
    if !negative then pure (.int sig, rest)
    else if sig = 0 ∨ sig > Nat.pow 2 63 then pure (.float (signed (Number.Binary64.ofRatio false sig 1)), rest)
    else pure (.int (-(sig : Int)), rest)

def readWord (w : List Char) (cs : List Char) : Option (List Char) :=
  if w.isPrefixOf cs then some (cs.drop w.length) else none

def maxDepth : Nat := 127

mutual

def readValue (fuel depth : Nat) (cs : List Char) : Option (Json × List Char) :=
  match fuel with
  | 0 => none
  | fuel + 1 =>
    match cs.dropWhile isSpace with
    | [] => none
    | '"' :: rest => (readStringBody [] rest).map fun (s, r) => (.str s, r)
    | '[' :: rest =>
      if depth ≥ maxDepth then none
      else
        match rest.dropWhile isSpace with
        | ']' :: r => some (.arr [], r)
        | _ => (readItems fuel (depth + 1) [] rest).map fun (items, r) => (.arr items, r)
    | '{' :: rest =>
      if depth ≥ maxDepth then none
      else
        match rest.dropWhile isSpace with
        | '}' :: r => some (.obj [], r)
        | _ => (readFields fuel (depth + 1) [] rest).map fun (fields, r) => (.obj fields, r)
    | 't' :: rest => (readWord "rue".toList rest).map fun r => (.bool true, r)
    | 'f' :: rest => (readWord "alse".toList rest).map fun r => (.bool false, r)
    | 'n' :: rest => (readWord "ull".toList rest).map fun r => (.null, r)
    | c :: rest => (readNumber (c :: rest)).map fun (n, r) => (.num n, r)

/-- Reads the items of an array up to its closing bracket; `acc` holds the items read, last
first. -/
def readItems (fuel depth : Nat) (acc : List Json) (cs : List Char) : Option (List Json × List Char) :=
  match fuel with
  | 0 => none
  | fuel + 1 =>
    match readValue fuel depth cs with
    | none => none
    | some (v, rest) =>
      match rest.dropWhile isSpace with
      | ',' :: r => readItems fuel depth (v :: acc) r
      | ']' :: r => some ((v :: acc).reverse, r)
      | _ => none

/-- Reads the fields of an object up to its closing brace; a later field replaces an earlier
one of the same key. -/
def readFields (fuel depth : Nat) (acc : List (String × Json)) (cs : List Char) :
    Option (List (String × Json) × List Char) :=
  match fuel with
  | 0 => none
  | fuel + 1 =>
    match cs.dropWhile isSpace with
    | '"' :: rest =>
      match readStringBody [] rest with
      | none => none
      | some (key, rest) =>
        match rest.dropWhile isSpace with
        | ':' :: rest =>
          match readValue fuel depth rest with
          | none => none
          | some (v, rest) =>
            let acc := insertSorted key v acc
            match rest.dropWhile isSpace with
            | ',' :: r => readFields fuel depth acc r
            | '}' :: r => some (acc, r)
            | _ => none
        | _ => none
    | _ => none

end

/-- Reads a whole text as one JSON value. -/
def parse (s : String) : Option Json :=
  let cs := s.toList
  match readValue (cs.length + 1) 0 cs with
  | some (v, rest) => if rest.all isSpace then some v else none
  | none => none

def readKeys (fuel : Nat) (acc : List String) (cs : List Char) : Option (List String) :=
  match fuel with
  | 0 => none
  | fuel + 1 =>
    match cs.dropWhile isSpace with
    | '"' :: rest => do
      let (key, rest) ← readStringBody [] rest
      match rest.dropWhile isSpace with
      | ':' :: rest =>
        let (_, rest) ← readValue fuel 1 rest
        match rest.dropWhile isSpace with
        | ',' :: r => readKeys fuel (key :: acc) r
        | '}' :: _ => some (key :: acc).reverse
        | _ => none
      | _ => none
    | '}' :: _ => if acc.isEmpty then some [] else none
    | _ => none

/-- The keys of an object's text as written, with any key written twice kept twice; `none`
when the text is not an object. -/
def objectKeys (s : String) : Option (List String) :=
  let cs := s.toList
  match cs.dropWhile isSpace with
  | '{' :: rest => readKeys (cs.length + 1) [] rest
  | _ => none

end Json

end LintBridge
