import LintBridge.Host.Shell.Syntax
/-!
# Expanded words and field splitting

A word expands to atoms that remember whether they were quoted and whether they came from an
unquoted expansion; only those are split into fields at the separators of `IFS`.
-/

namespace LintBridge.Host.Shell

/-- A piece of an expanded word. -/
inductive Atom where
  | byte (b : UInt8) (quoted : Bool) (split : Bool)
  | mark
  | hardBreak
  | softBreak
  deriving DecidableEq

def quotedAtoms (bs : Bytes) : List Atom := bs.map fun b => .byte b true false

def expandedAtoms (quoted : Bool) (bs : Bytes) : List Atom :=
  bs.map fun b => .byte b quoted (!quoted)

/-- The bytes of atoms. -/
def Atom.bytes : List Atom → Bytes
  | [] => []
  | .byte b _ _ :: rest => b :: Atom.bytes rest
  | _ :: rest => Atom.bytes rest

/-- The bytes of atoms with whether each was quoted, for patterns. -/
def Atom.marked : List Atom → List (UInt8 × Bool)
  | [] => []
  | .byte b q _ :: rest => (b, q) :: Atom.marked rest
  | _ :: rest => Atom.marked rest

def isIfsBlank (b : UInt8) : Bool := b == 32 || b == 9 || b == 10

/-- What splitting does with the atoms after a separator. -/
inductive Absorb where
  | none
  /-- After a blank: blanks and one other separator go with it. -/
  | afterBlank
  /-- After another separator: only blanks go with it. -/
  | afterOther

def splitAtoms (ifs : Bytes) : List Atom → Absorb → List Atom → List (List Atom) → List (List Atom)
  | [], _, cur, acc => if cur.isEmpty then acc.reverse else (cur.reverse :: acc).reverse
  | a :: rest, absorb, cur, acc =>
    let separator := match a with
      | .byte b _ true => ifs.contains b
      | _ => false
    let blank := match a with
      | .byte b _ _ => isIfsBlank b
      | _ => false
    match absorb, separator with
    | .afterBlank, true =>
      if blank then splitAtoms ifs rest .afterBlank cur acc
      else splitAtoms ifs rest .afterOther cur acc
    | .afterOther, true =>
      if blank then splitAtoms ifs rest .afterOther cur acc
      else splitAtoms ifs rest .afterOther [] (cur.reverse :: acc)
    | _, true =>
      if blank && cur.isEmpty then splitAtoms ifs rest .none cur acc
      else splitAtoms ifs rest (if blank then .afterBlank else .afterOther) [] (cur.reverse :: acc)
    | _, false =>
      match a with
      | .hardBreak => splitAtoms ifs rest .none [] (cur.reverse :: acc)
      | .softBreak =>
        if cur.isEmpty then splitAtoms ifs rest .none cur acc
        else splitAtoms ifs rest .afterBlank [] (cur.reverse :: acc)
      | a => splitAtoms ifs rest .none (a :: cur) acc

def splitFields (ifs : Bytes) (atoms : List Atom) : List (List Atom) :=
  splitAtoms ifs atoms .none [] []

def wholeField (atoms : List Atom) : List (List Atom) :=
  if atoms.isEmpty then [] else [atoms]

end LintBridge.Host.Shell
