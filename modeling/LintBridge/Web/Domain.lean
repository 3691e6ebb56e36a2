import LintBridge.Text.Ranges
import LintBridge.Text.Compose
import LintBridge.Web.Punycode
import LintBridge.Web.Domain.Data
/-!
# International domain names

A domain of a URL brought to ASCII as UTS #46 says under the settings of the URL standard: each
code point mapped, the result normalized, the labels checked by the joining and bidirectional
rules, and each label beyond ASCII written as `xn--` and its Punycode.
-/

namespace LintBridge.Web.Domain

open LintBridge.Text

/-! ## Properties -/

/-- What mapping does with a code point. -/
inductive Status where
  | valid
  | ignored
  | disallowed
  | mapped (target : List Char)
  deriving Repr, Inhabited

def statusTable : Ranges Status := Ranges.ofText statusText fun rest =>
  match rest with
  | 'v' :: _ => .valid
  | 'i' :: _ => .ignored
  | 'm' :: ps => .mapped ((readHexList ps).map Char.ofNat)
  | _ => .disallowed

/-- The status of a code point. -/
def status (c : Char) : Status := (statusTable.findStart? c.toNat).getD .disallowed

def markTable : Ranges Unit := Ranges.ofText markText fun _ => ()

def isMark (c : Char) : Bool := (markTable.find? c.toNat).isSome

/-- The bidirectional classes that the rules tell apart. -/
inductive BidiClass where
  | l | r | al | an | en | es | cs | et | on | bn | nsm | other
  deriving DecidableEq, Repr, Inhabited

def bidiTable : Ranges BidiClass := Ranges.ofText bidiText fun rest =>
  match rest with
  | 'r' :: _ => .r
  | 'a' :: _ => .al
  | 'n' :: _ => .an
  | 'e' :: _ => .en
  | 's' :: _ => .es
  | 'c' :: _ => .cs
  | 't' :: _ => .et
  | 'o' :: _ => .on
  | 'b' :: _ => .bn
  | 'm' :: _ => .nsm
  | _ => .other

def bidiClass (c : Char) : BidiClass := (bidiTable.find? c.toNat).getD .l

/-- How a code point joins its neighbours in cursive scripts. -/
inductive JoiningType where
  | causing | dual | left | right | transparent | nonJoining
  deriving DecidableEq, Repr, Inhabited

def joiningTable : Ranges JoiningType := Ranges.ofText joiningText fun rest =>
  match rest with
  | 'c' :: _ => .causing
  | 'd' :: _ => .dual
  | 'l' :: _ => .left
  | 'r' :: _ => .right
  | 't' :: _ => .transparent
  | _ => .nonJoining

def joiningType (c : Char) : JoiningType := (joiningTable.find? c.toNat).getD .nonJoining

def isVirama (c : Char) : Bool := Compose.combiningClass c.toNat == 9

def deniedAscii (c : Char) : Bool :=
  c.toNat ≤ 0x20 || c.toNat == 0x7F || "%#/:<>?@[\\]^|".toList.contains c

/-! ## Mapping -/

def mapChar (c : Char) : Option (List Char) :=
  match status c with
  | .valid => some [c]
  | .ignored => some []
  | .mapped target => some target
  | .disallowed => none

def mapDomain (cs : List Char) : Option (List Char) := do
  let mapped ← cs.mapM mapChar
  let normal := Compose.nfc mapped.flatten
  if normal.any deniedAscii then none else some normal

/-! ## Rules on labels -/

def nonJoiner : Char := Char.ofNat 0x200C

def joiner : Char := Char.ofNat 0x200D

def joinsOn (ok : JoiningType → Bool) : List Char → Bool
  | [] => false
  | c :: cs =>
    let t := joiningType c
    if ok t then true else if t == .transparent then joinsOn ok cs else false

def joinersFit (before : List Char) : List Char → Bool
  | [] => true
  | c :: after =>
    let fits :=
      if c != nonJoiner && c != joiner then true
      else
        match before.head? with
        | none => false
        | some prev =>
          if isVirama prev then true
          else if c == joiner then false
          else joinsOn (fun t => t == .left || t == .dual) before &&
            joinsOn (fun t => t == .right || t == .dual) after
    fits && joinersFit (c :: before) after

def labelLimit : Nat := 3854

def labelFits (cs : List Char) : Bool :=
  !(cs.head?.map isMark).getD false && joinersFit [] cs &&
    (cs.all (·.toNat < 0x80) || cs.length ≤ labelLimit)

def validAsIs (cs : List Char) : Bool :=
  cs.all (fun c => match status c with
    | .valid => !deniedAscii c && c != '.'
    | _ => false) && Compose.isNfc cs

/-- A label as it stands after mapping, with the Unicode it stands for. -/
structure Label where
  written : List Char
  unicode : List Char

def readLabel (cs : List Char) : Option Label :=
  if ['x', 'n', '-', '-'].isPrefixOf cs then do
    let body := cs.drop 4
    if body.any (·.toNat ≥ 0x80) || cs.getLast? == some '-' then none
    else
      let decoded ← Punycode.decode body
      if decoded.all (·.toNat < 0x80) || !validAsIs decoded || !labelFits decoded then none
      else some ⟨cs, decoded⟩
  else if labelFits cs then some ⟨cs, cs⟩ else none

/-! ## Bidirectional rules -/

def insideLtr (b : BidiClass) : Bool :=
  b == .l || b == .en || b == .es || b == .cs || b == .et || b == .on || b == .bn || b == .nsm

def insideRtl (b : BidiClass) : Bool :=
  b == .r || b == .al || b == .an || b == .en || b == .es || b == .cs || b == .et || b == .on ||
    b == .bn || b == .nsm

def bidiFits (cs : List Char) : Bool :=
  match cs with
  | [] => true
  | first :: tail =>
    let fc := bidiClass first
    if !(fc == .l || fc == .r || fc == .al) then false
    else
      let middle := (tail.reverse.dropWhile (bidiClass · == .nsm)).reverse
      match middle.getLast? with
      | none => true
      | some last =>
        let lc := bidiClass last
        let classes := middle.map bidiClass
        if fc == .l then (lc == .l || lc == .en) && classes.all insideLtr
        else
          (lc == .r || lc == .al || lc == .en || lc == .an) && classes.all insideRtl &&
            !(classes.contains .en && classes.contains .an)

def isBidi (labels : List (List Char)) : Bool :=
  labels.any fun l => l.any fun c => let b := bidiClass c; b == .r || b == .al || b == .an

/-! ## To ASCII -/

def Label.ascii (l : Label) : String :=
  if l.written.all (·.toNat < 0x80) then String.ofList l.written
  else "xn--" ++ Punycode.encode l.written

def toAscii (s : String) : Option String := do
  let mapped ← mapDomain s.toList
  let labels ← ((String.ofList mapped).splitOn ".").mapM fun l => readLabel l.toList
  if isBidi (labels.map (·.unicode)) && !labels.all (fun l => bidiFits l.unicode) then none
  else some (".".intercalate (labels.map Label.ascii))

end LintBridge.Web.Domain
