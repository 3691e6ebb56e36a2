import LintBridge.Text.Ranges
import LintBridge.Text.Compose.Data
/-!
# Canonical composition

Normalization Form C: full canonical decomposition, a stable sort of each run of marks by
combining class, and composition of each mark with the starter before it when nothing blocks it.
-/

namespace LintBridge.Text.Compose

open LintBridge.Text

def classTable : Ranges Nat := Ranges.ofText combiningClassText fun rest =>
  match rest with
  | ':' :: ds => ds.foldl (fun n c => 10 * n + (c.toNat - '0'.toNat)) 0
  | _ => 0

/-- The canonical combining class of a code point. -/
def combiningClass (c : Nat) : Nat := (classTable.find? c).getD 0

def decompositionTable : Ranges (List Nat) := Ranges.ofText decompositionText fun rest =>
  match rest with
  | ':' :: ps => readHexList ps
  | _ => []

def compositionTable : Array ((Nat × Nat) × Nat) :=
  let entries := (tableWords compositionText).map fun w =>
    let (a, rest) := readHex w
    let (b, rest) := readHex (rest.drop 1)
    let (c, _) := readHex (rest.drop 1)
    ((a, b), c)
  (entries.mergeSort fun x y => x.1.1 < y.1.1 || (x.1.1 == y.1.1 && x.1.2 ≤ y.1.2)).toArray

/-! ## Hangul -/

def syllableBase : Nat := 0xAC00
def leadBase : Nat := 0x1100
def vowelBase : Nat := 0x1161
def trailBase : Nat := 0x11A7
def vowelCount : Nat := 21
def trailCount : Nat := 28
def blockCount : Nat := 588
def syllableCount : Nat := 11172

def isSyllable (c : Nat) : Bool := syllableBase ≤ c && c < syllableBase + syllableCount

def syllableParts (c : Nat) : List Nat :=
  let s := c - syllableBase
  let lead := leadBase + s / blockCount
  let vowel := vowelBase + (s % blockCount) / trailCount
  let trail := s % trailCount
  if trail == 0 then [lead, vowel] else [lead, vowel, trailBase + trail]

/-! ## Decomposition and order -/

def decomposeWith : Nat → Nat → List Nat
  | 0, c => [c]
  | depth + 1, c =>
    if isSyllable c then syllableParts c
    else
      match decompositionTable.find? c with
      | some parts => parts.flatMap (decomposeWith depth)
      | none => [c]

def decompose (c : Nat) : List Nat := decomposeWith 8 c

def insertMark (c : Nat) : List Nat → List Nat
  | [] => [c]
  | d :: ds => if combiningClass c < combiningClass d then c :: d :: ds else d :: insertMark c ds

def orderMarks (run : List Nat) : List Nat → List Nat
  | [] => run
  | c :: cs =>
    if combiningClass c == 0 then run ++ c :: orderMarks [] cs
    else orderMarks (insertMark c run) cs

/-! ## Composition -/

def firstPairFrom (key : Nat × Nat) (lo hi : Nat) : Nat :=
  if _h : lo < hi then
    let mid := (lo + hi) / 2
    match compositionTable[mid]? with
    | some ((a, b), _) =>
      if a < key.1 || (a == key.1 && b < key.2) then firstPairFrom key (mid + 1) hi
      else firstPairFrom key lo mid
    | none => lo
  else lo
termination_by hi - lo

def composePair (a b : Nat) : Option Nat :=
  if leadBase ≤ a && a < leadBase + 19 && vowelBase ≤ b && b < vowelBase + vowelCount then
    some (syllableBase + ((a - leadBase) * vowelCount + (b - vowelBase)) * trailCount)
  else if isSyllable a && (a - syllableBase) % trailCount == 0 && trailBase < b && b < trailBase + trailCount then
    some (a + (b - trailBase))
  else
    match compositionTable[firstPairFrom (a, b) 0 compositionTable.size]? with
    | some ((x, y), c) => if x == a && y == b then some c else none
    | none => none

/-- What composition has made so far: the code points kept, the place and value of the last
starter, and the class of the last code point kept (256 before any starter). -/
structure Composer where
  kept : Array Nat := #[]
  starter : Option (Nat × Nat) := none
  lastClass : Nat := 256

/-- Takes the next code point: joins it to the starter when they compose and nothing between
them blocks it, else keeps it. -/
def Composer.push (st : Composer) (c : Nat) : Composer :=
  let cls := combiningClass c
  let joined := match st.starter with
    | some (place, s) =>
      if st.lastClass < cls || st.lastClass == 0 then
        (composePair s c).map fun p => (place, p)
      else none
    | none => none
  match joined with
  | some (place, p) => { st with kept := st.kept.setIfInBounds place p, starter := some (place, p) }
  | none =>
    let starter := if cls == 0 then some (st.kept.size, c) else st.starter
    { kept := st.kept.push c, starter := starter, lastClass := cls }

/-- A text in Normalization Form C. -/
def nfc (cs : List Char) : List Char :=
  let decomposed := orderMarks [] (cs.flatMap fun c => decompose c.toNat)
  ((decomposed.foldl Composer.push {}).kept.toList).map Char.ofNat

/-- Whether a text is in Normalization Form C. -/
def isNfc (cs : List Char) : Bool := nfc cs == cs

end LintBridge.Text.Compose
