import LintBridge.Host.Shell.Syntax
/-!
# Shell patterns

The patterns of `case` and of `${name#pattern}`, read from bytes that say whether they were
quoted, and matched byte by byte. Ranges compare bytes as signed numbers, as the machine's shell
does.
-/

namespace LintBridge.Host.Shell

/-- A member of a bracket expression. -/
inductive SetItem where
  | single (b : UInt8)
  | range (lo hi : UInt8)
  | named (name : String)

/-- An item of a pattern. -/
inductive PatItem where
  | byte (b : UInt8)
  | any
  | star
  | oneOf (negate : Bool) (items : List SetItem)

def inClass (name : String) (b : UInt8) : Bool :=
  let upper := 65 ≤ b && b ≤ 90
  let lower := 97 ≤ b && b ≤ 122
  let digit := 48 ≤ b && b ≤ 57
  let alpha := upper || lower
  let graph := 33 ≤ b && b ≤ 126
  match name with
  | "alnum" => alpha || digit
  | "alpha" => alpha
  | "blank" => b == 32 || b == 9
  | "cntrl" => b < 32 || b == 127
  | "digit" => digit
  | "graph" => graph
  | "lower" => lower
  | "print" => graph || b == 32
  | "punct" => graph && !(alpha || digit)
  | "space" => b == 32 || (9 ≤ b && b ≤ 13)
  | "upper" => upper
  | "xdigit" => digit || (65 ≤ b && b ≤ 70) || (97 ≤ b && b ≤ 102)
  | _ => false

def signedByte (b : UInt8) : Int := if b < 128 then b.toNat else (b.toNat : Int) - 256

/-- Whether a byte is in a set. -/
def SetItem.has (b : UInt8) : SetItem → Bool
  | .single c => b == c
  | .range lo hi => signedByte lo ≤ signedByte b && signedByte b ≤ signedByte hi
  | .named n => inClass n b

def classNames : List String :=
  ["alnum", "alpha", "blank", "cntrl", "digit", "graph", "lower", "print", "punct", "space",
    "upper", "xdigit"]

def nextElement : List (UInt8 × Bool) → Option ((UInt8 × Bool) × List (UInt8 × Bool))
  | [] => none
  | (92, false) :: (c, _) :: rest => some ((c, true), rest)
  | (b, q) :: rest => some ((b, q), rest)

def knownClass (bs : List (UInt8 × Bool)) : Option (String × List (UInt8 × Bool)) :=
  match bs with
  | (58, false) :: more =>
    let name := more.takeWhile fun (b, q) => !q && b != 58
    match more.drop name.length with
    | (58, false) :: (93, false) :: rest =>
      let text := asciiText (name.map (·.1))
      if classNames.contains text then some (text, rest) else none
    | _ => none
  | _ => none

def bracketClosed (bs : List (UInt8 × Bool)) : Bool :=
  match nextElement bs with
  | some (_, rest) =>
    let rec go : Nat → List (UInt8 × Bool) → Bool
      | 0, _ => false
      | k + 1, xs =>
        match nextElement xs with
        | some ((93, false), _) => true
        | some (_, more) => go k more
        | none => false
    go (rest.length + 1) rest
  | none => false

def readMembers : Nat → (UInt8 × Bool) → List (UInt8 × Bool) → List SetItem →
    List SetItem × List (UInt8 × Bool)
  | 0, _, rest, acc => (acc, rest)
  | n + 1, (c, plain), rest, acc =>
    let (acc, rest) : List SetItem × List (UInt8 × Bool) :=
      match (if c == 91 && !plain then knownClass rest else none) with
      | some (name, after) => (acc ++ [.named name], after)
      | none =>
        match rest with
        | (45, false) :: after =>
          if after.head? == some (93, false) then (acc ++ [.single c], rest)
          else
            match nextElement after with
            | some ((hi, _), more) => (acc ++ [.range c hi], more)
            | none => (acc ++ [.single c], rest)
        | _ => (acc ++ [.single c], rest)
    match nextElement rest with
    | some ((93, false), more) => (acc, more)
    | some (e, more) => readMembers n e more acc
    | none => (acc, [])

def compilePattern : Nat → List (UInt8 × Bool) → List PatItem
  | 0, _ => []
  | _ + 1, [] => []
  | n + 1, (b, q) :: rest =>
    if q then .byte b :: compilePattern n rest
    else if b == 42 then .star :: compilePattern n rest
    else if b == 63 then .any :: compilePattern n rest
    else if b == 92 then
      match rest with
      | (c, _) :: more => .byte c :: compilePattern n more
      | [] => [.byte b]
    else if b == 91 then
      let (negate, body) := match rest with
        | (33, false) :: more => (true, more)
        | _ => (false, rest)
      match bracketClosed body, nextElement body with
      | true, some (first, more) =>
        let (items, after) := readMembers (body.length + 1) first more []
        .oneOf negate items :: compilePattern n after
      | _, _ => .byte b :: compilePattern n rest
    else .byte b :: compilePattern n rest

def Pattern.ofMarked (bs : List (UInt8 × Bool)) : List PatItem := compilePattern (bs.length + 1) bs

def matchesAll : List PatItem → Bytes → Bool
  | [], s => s.isEmpty
  | .star :: rest, s =>
    matchesAll rest s ||
      match s with
      | [] => false
      | _ :: t => matchesAll (.star :: rest) t
  | .any :: rest, _ :: t => matchesAll rest t
  | .byte c :: rest, b :: t => c == b && matchesAll rest t
  | .oneOf negate items :: rest, b :: t => (items.any (SetItem.has b) != negate) && matchesAll rest t
  | _ :: _, [] => false
termination_by p s => p.length + s.length

def removePrefix (pat : List PatItem) (longest : Bool) (s : Bytes) : Bytes :=
  let cuts := List.range (s.length + 1)
  let order := if longest then cuts.reverse else cuts
  match order.find? fun k => matchesAll pat (s.take k) with
  | some k => s.drop k
  | none => s

def removeSuffix (pat : List PatItem) (longest : Bool) (s : Bytes) : Bytes :=
  let cuts := List.range (s.length + 1)
  let order := if longest then cuts else cuts.reverse
  match order.find? fun k => matchesAll pat (s.drop k) with
  | some k => s.take k
  | none => s

end LintBridge.Host.Shell
