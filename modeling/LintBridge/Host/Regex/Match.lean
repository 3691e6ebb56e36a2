import LintBridge.Host.Regex.Syntax
/-!
# Regular expressions: matching

`ends` lists every place a pattern may stop from a given start, with its groups, in the order a
greedy search meets them; a match is leftmost-longest. The budget of steps, taken from the sizes
of the pattern and the subject, only makes visible to the definitions that every search ends.
-/

namespace LintBridge.Host.Regex

abbrev Captures := List (Nat × Nat × Nat)

def Captures.span? (c : Captures) (n : Nat) : Option (Nat × Nat) :=
  (c.find? (·.1 == n)).map (·.2)

/-- The groups with one set anew. -/
def Captures.put (c : Captures) (n start stop : Nat) : Captures :=
  (n, start, stop) :: c.filter (·.1 != n)

/-- A text to match: its glyphs, and whether case is ignored. -/
structure Subject where
  glyphs : Array Glyph
  foldCase : Bool := false

def Subject.at? (s : Subject) (i : Nat) : Option Glyph := s.glyphs[i]?

def Subject.wordAt (s : Subject) (i : Nat) : Bool :=
  match s.at? i with
  | some g => isWordGlyph g
  | none => false

def Subject.wordBefore (s : Subject) (i : Nat) : Bool := i > 0 && s.wordAt (i - 1)

/-- Whether an anchor holds at a position. -/
def Anchor.holds (a : Anchor) (s : Subject) (i : Nat) : Bool :=
  match a with
  | .lineStart | .textStart => i == 0
  | .lineEnd | .textEnd => i == s.glyphs.size
  | .wordStart => !s.wordBefore i && s.wordAt i
  | .wordEnd => s.wordBefore i && !s.wordAt i
  | .wordEdge => s.wordBefore i != s.wordAt i
  | .insideWord => s.wordBefore i == s.wordAt i

def sameGlyph (foldCase : Bool) (g h : Glyph) : Bool :=
  g == h || (foldCase && lowerGlyph g == lowerGlyph h)

def isCharacter (g : Glyph) : Bool := g < strayBase

def readsGlyph (foldCase : Bool) (p : Pattern) (g : Glyph) : Bool :=
  match p with
  | .glyph h => sameGlyph foldCase g h
  | .any => isCharacter g
  | .bracket negated members =>
    let hit (h : Glyph) := members.any (·.has h)
    isCharacter g &&
      ((hit g || (foldCase && (hit (lowerGlyph g) || hit (upperGlyph g)))) != negated)
  | .word negated => isCharacter g && (isWordGlyph g != negated)
  | .space negated => isCharacter g && (CharClass.space.has g != negated)
  | _ => false

def prune (keep : Bool) (ways : List (Nat × Captures)) : List (Nat × Captures) :=
  if keep then ways.eraseDups else ways.eraseDupsBy fun a b => a.1 == b.1

/-- Whether the subject holds, at a position, the same glyphs as between two others. -/
def Subject.repeats (s : Subject) (start stop i : Nat) : Bool :=
  let len := stop - start
  i + len ≤ s.glyphs.size &&
    (List.range len).all fun k =>
      match s.at? (start + k), s.at? (i + k) with
      | some g, some h => sameGlyph s.foldCase g h
      | _, _ => false

mutual

/-- Every position where a pattern may stop when it starts at `i` with groups `caps`, greediest
first; `keep` says whether groups are recorded. -/
def ends (s : Subject) (keep : Bool) : Nat → Pattern → Nat → Captures → List (Nat × Captures)
  | 0, _, _, _ => []
  | fuel + 1, p, i, caps =>
    match p with
    | .empty => [(i, caps)]
    | .anchor a => if a.holds s i then [(i, caps)] else []
    | .seq a b =>
      prune keep ((ends s keep fuel a i caps).flatMap fun (j, c) => ends s keep fuel b j c)
    | .alt a b => prune keep (ends s keep fuel a i caps ++ ends s keep fuel b i caps)
    | .group n body =>
      (ends s keep fuel body i caps).map fun (j, c) => (j, if keep then c.put n i j else c)
    | .backref n =>
      match caps.span? n with
      | some (start, stop) =>
        if s.repeats start stop i then [(i + (stop - start), caps)] else []
      | none => []
    | .repeat body least most => repeatEnds s keep fuel body least most 0 i caps
    | _ =>
      match s.at? i with
      | some g => if readsGlyph s.foldCase p g then [(i + 1, caps)] else []
      | none => []

def repeatEnds (s : Subject) (keep : Bool) : Nat → Pattern → Nat → Option Nat → Nat → Nat →
    Captures → List (Nat × Captures)
  | 0, _, _, _, _, _, _ => []
  | fuel + 1, body, least, most, done, i, caps =>
    let more := if most == some done then []
      else
        (ends s keep fuel body i caps).flatMap fun (j, c) =>
          if j == i && least ≤ done then [] else repeatEnds s keep fuel body least most (done + 1) j c
    let stop := if least ≤ done then [(i, caps)] else []
    prune keep (more ++ stop)

end

def budget (s : Subject) (p : Pattern) : Nat :=
  (p.size + 1) * (s.glyphs.size + p.mostLeast + 2) + 1

def longestAt (s : Subject) (keep : Bool) (p : Pattern) (i : Nat) : Option (Nat × Captures) :=
  let ways := ends s (keep || p.hasBackref) (budget s p) p i []
  match (ways.map (·.1)).max? with
  | some e => ways.find? (·.1 == e)
  | none => none

def endsAt (s : Subject) (p : Pattern) (i : Nat) : List Nat :=
  ((ends s p.hasBackref (budget s p) p i []).map (·.1)).eraseDups

def firstMatch (s : Subject) (p : Pattern) (start : Nat) : Option (Nat × Nat) :=
  (List.range (s.glyphs.size + 1 - start)).findSome? fun k =>
    (longestAt s false p (start + k)).map fun (e, _) => (start + k, e)

end LintBridge.Host.Regex
