import LintBridge.Number.Binary64
/-!
# Similar words

A word on the command line that names nothing is answered with the names whose Jaro similarity
to it is above `7/10`, computed in double precision as the original tool computes it.
-/

namespace LintBridge.Cli

open Number

abbrev Similarity := Binary64

/-- The double nearest `n / d`. -/
def share (n d : Nat) : Similarity := Binary64.ofRatio false n d

/-- Whether a similarity is above the double nearest `0.7`. -/
def Similarity.isClose (s : Similarity) : Bool := (Binary64.ofDecimal false 7 (-1)).lt s

def markFirst (c : Char) (lo hi : Nat) : Nat → List (Char × Bool) → Option (List (Char × Bool))
  | _, [] => none
  | j, (d, used) :: rest =>
    if j ≥ hi then none
    else if lo ≤ j ∧ d = c ∧ ¬used then some ((d, true) :: rest)
    else (markFirst c lo hi (j + 1) rest).map ((d, used) :: ·)

def matchAll (range : Nat) (lb : Nat) : Nat → List Char → List (Char × Bool) → List Char × List (Char × Bool)
  | _, [], marks => ([], marks)
  | i, c :: rest, marks =>
    let lo := i - range
    let hi := min lb (i + range + 1)
    match markFirst c lo hi 0 marks with
    | some marks' =>
      let (found, final) := matchAll range lb (i + 1) rest marks'
      (c :: found, final)
    | none => matchAll range lb (i + 1) rest marks

def jaro (a b : List Char) : Similarity :=
  let la := a.length
  let lb := b.length
  if la = 0 ∧ lb = 0 then share 1 1
  else if la = 0 ∨ lb = 0 then share 0 1
  else
    let range := max la lb / 2 - 1
    let (fromA, marks) := matchAll range lb 0 a (b.map (·, false))
    let fromB := (marks.filter (·.2)).map (·.1)
    let m := fromA.length
    let t := ((fromA.zip fromB).filter fun (x, y) => x ≠ y).length / 2
    if m = 0 then share 0 1
    else (((share m la).add (share m lb)).add (share (m - t) m)).div (share 3 1)

def insertByScore (x : Similarity × String) : List (Similarity × String) → List (Similarity × String)
  | [] => [x]
  | y :: rest => if Binary64.lt x.1 y.1 then x :: y :: rest else y :: insertByScore x rest

def closeNames (word : String) (names : List String) : List String :=
  let scored := (names.map fun n => (jaro word.toList n.toList, n)).filter (·.1.isClose)
  (scored.foldl (fun acc x => insertByScore x acc) []).map (·.2)

end LintBridge.Cli
