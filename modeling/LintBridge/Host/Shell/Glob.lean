import LintBridge.Host.Shell.Pattern
import LintBridge.Host.Shell.Fields
/-!
# Pathname expansion

A field with an unquoted `*`, `?` or bracket expression becomes the paths it matches, part by
part between slashes, in byte order, or stays as it is when none is found.
-/

namespace LintBridge.Host.Shell

def PatItem.isWild : PatItem → Bool
  | .byte _ => false
  | _ => true

/-- The bytes a pattern without wildcards matches. -/
def PatItem.literal : List PatItem → Bytes
  | [] => []
  | .byte b :: rest => b :: PatItem.literal rest
  | _ :: rest => PatItem.literal rest

def slashParts : List (UInt8 × Bool) → List (List (UInt8 × Bool))
  | [] => [[]]
  | (b, q) :: rest =>
    if b == 47 then [] :: slashParts rest
    else
      match slashParts rest with
      | p :: ps => ((b, q) :: p) :: ps
      | [] => [[(b, q)]]

def matchingNames (fs : Files) (dir : Bytes) (part : List (UInt8 × Bool)) (pat : List PatItem) :
    List Bytes :=
  let path := if dir.isEmpty then fs.cwd else absolutePath fs.cwd dir.text
  let readable := match fs.find (if dir.isEmpty then "." else dir.text) with
    | .ok (.directory _) => true
    | _ => false
  let dots := part.head?.map (·.1) == some 46
  if !readable then []
  else
    ((fs.entries path).map bytes).filter fun name =>
      (dots || name.head? != some 46) && matchesAll pat name

def globParts (fs : Files) : List (List (UInt8 × Bool)) → Bytes → List Bytes
  | [], dir => [dir]
  | [part], dir =>
    let pat := Pattern.ofMarked part
    if pat.any PatItem.isWild then (matchingNames fs dir part pat).map (dir ++ ·)
    else
      let path := dir ++ PatItem.literal pat
      match fs.find path.text with
      | .ok _ => [path]
      | .error _ => []
  | part :: rest, dir =>
    let pat := Pattern.ofMarked part
    if pat.any PatItem.isWild then
      (matchingNames fs dir part pat).flatMap fun name => globParts fs rest (dir ++ name ++ [47])
    else globParts fs rest (dir ++ PatItem.literal pat ++ [47])

def expandPath (fs : Files) (field : List (UInt8 × Bool)) : Option (List Bytes) :=
  let parts := slashParts field
  if parts.any (fun p => (Pattern.ofMarked p).any PatItem.isWild) then
    some ((globParts fs parts []).mergeSort fun a b => !decide (b < a))
  else none

def globField (fs : Files) (field : List Atom) : List Bytes :=
  match expandPath fs (Atom.marked field) with
  | some (p :: ps) => p :: ps
  | _ => [Atom.bytes field]

end LintBridge.Host.Shell
