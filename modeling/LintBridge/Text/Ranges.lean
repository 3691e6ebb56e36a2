/-!
# Tables of code point ranges

A Unicode property as a table of runs of code points, written as text, read once into an array
sorted by first code point, and looked up by binary search.
-/

namespace LintBridge.Text

def hexDigit? (c : Char) : Option Nat :=
  if '0' ≤ c ∧ c ≤ '9' then some (c.toNat - '0'.toNat)
  else if 'A' ≤ c ∧ c ≤ 'F' then some (c.toNat - 'A'.toNat + 10)
  else none

def readHex (cs : List Char) : Nat × List Char :=
  let ds := cs.takeWhile (fun c => (hexDigit? c).isSome)
  (ds.foldl (fun n c => 16 * n + (hexDigit? c).getD 0) 0, cs.drop ds.length)

/-- Hex numbers separated by commas. -/
def readHexList (cs : List Char) : List Nat :=
  ((String.ofList cs).splitOn ",").filterMap fun s =>
    if s.isEmpty then none else some (readHex s.toList).1

def tableWords (text : String) : List (List Char) :=
  (text.splitOn " ").filterMap fun w => if w.isEmpty then none else some w.toList

def readRange (w : List Char) : Nat × Nat × List Char :=
  let (lo, rest) := readHex w
  match rest with
  | '-' :: more =>
    let (hi, rest) := readHex more
    (lo, hi, rest)
  | _ => (lo, lo, rest)

/-- A table of ranges of code points, sorted by first code point, each with a value. -/
structure Ranges (α : Type) where
  entries : Array (Nat × Nat × α)

/-- Reads a table text, the value of each entry read from the rest of its word. -/
def Ranges.ofText {α : Type} (text : String) (value : List Char → α) : Ranges α :=
  ⟨((tableWords text).map fun w =>
    let (lo, hi, rest) := readRange w
    (lo, hi, value rest)).toArray⟩

def lastStartingBy {α : Type} (es : Array (Nat × Nat × α)) (x lo hi : Nat) : Nat :=
  if _h : lo + 1 < hi then
    let mid := (lo + hi) / 2
    match es[mid]? with
    | some (start, _, _) =>
      if start ≤ x then lastStartingBy es x mid hi else lastStartingBy es x lo mid
    | none => lo
  else lo
termination_by hi - lo

/-- The value of the entry whose range holds `x`. -/
def Ranges.find? {α : Type} (t : Ranges α) (x : Nat) : Option α :=
  match t.entries[0]? with
  | none => none
  | some (start, _, _) =>
    if x < start then none
    else
      match t.entries[lastStartingBy t.entries x 0 t.entries.size]? with
      | some (lo, hi, v) => if lo ≤ x ∧ x ≤ hi then some v else none
      | none => none

/-- The value of the last entry starting at or before `x`, its range ignored: for tables
where each entry runs up to the next. -/
def Ranges.findStart? {α : Type} (t : Ranges α) (x : Nat) : Option α :=
  match t.entries[0]? with
  | none => none
  | some (start, _, _) =>
    if x < start then none
    else (t.entries[lastStartingBy t.entries x 0 t.entries.size]?).map (·.2.2)

end LintBridge.Text
