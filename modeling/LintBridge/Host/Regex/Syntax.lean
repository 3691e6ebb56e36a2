import LintBridge.Host.Basic
/-!
# Regular expressions: characters and syntax

Basic and extended patterns as the machine's matchers read them in a UTF-8 locale: a glyph is a
well-formed character or a byte that starts none. Operators are read by fixed rules of context,
and a pattern that breaks one gives an error of `RegexError` in the machine's words.
-/

namespace LintBridge.Host.Regex

/-! ## Characters -/

abbrev Glyph := Nat

def strayBase : Nat := 1114112

def glyphsFuel : Nat → Bytes → List Glyph
  | 0, _ => []
  | _ + 1, [] => []
  | fuel + 1, b :: rest =>
    match Text.leadingChar? (b :: rest) with
    | some (c, n) => c.toNat :: glyphsFuel fuel ((b :: rest).drop n)
    | none => (strayBase + b.toNat) :: glyphsFuel fuel rest

def glyphsOf (bs : Bytes) : List Glyph := glyphsFuel (bs.length + 1) bs

def glyphBytes (g : Glyph) : Bytes :=
  if strayBase ≤ g then [(g - strayBase).toUInt8]
  else String.utf8EncodeChar (Char.ofNat g)

def bytesOfGlyphs (gs : List Glyph) : Bytes := gs.flatMap glyphBytes

/-- Whether a glyph is a character between two code points. -/
def within (g lo hi : Nat) : Bool := lo ≤ g && g ≤ hi

def lowerGlyph (g : Glyph) : Glyph :=
  if within g 65 90 || (within g 192 222 && g != 215) then g + 32 else g

def upperGlyph (g : Glyph) : Glyph :=
  if within g 97 122 || (within g 224 254 && g != 247) then g - 32 else g

/-- The named classes of characters. -/
inductive CharClass where
  | alpha
  | upper
  | lower
  | digit
  | alnum
  | xdigit
  | space
  | print
  | graph
  | cntrl
  | punct
  | blank
  deriving DecidableEq

def CharClass.ofName? : String → Option CharClass
  | "alpha" => some .alpha
  | "upper" => some .upper
  | "lower" => some .lower
  | "digit" => some .digit
  | "alnum" => some .alnum
  | "xdigit" => some .xdigit
  | "space" => some .space
  | "print" => some .print
  | "graph" => some .graph
  | "cntrl" => some .cntrl
  | "punct" => some .punct
  | "blank" => some .blank
  | _ => none

def isLetterGlyph (g : Glyph) : Bool :=
  within g 65 90 || within g 97 122 || g == 170 || g == 181 || g == 186 ||
    (within g 192 255 && g != 215 && g != 247) || within g 256 (strayBase - 1)

def isWideSpace (g : Glyph) : Bool :=
  g == 5760 || within g 8192 8198 || within g 8200 8202 || g == 8232 || g == 8233 ||
    g == 8287 || g == 12288

/-- Whether a glyph belongs to a class. -/
def CharClass.has (c : CharClass) (g : Glyph) : Bool :=
  match c with
  | .alpha => isLetterGlyph g
  | .upper => within g 65 90 || (within g 192 222 && g != 215)
  | .lower => within g 97 122 || g == 181 || (within g 223 255 && g != 247)
  | .digit => within g 48 57
  | .alnum => within g 48 57 || isLetterGlyph g
  | .xdigit => within g 48 57 || within g 65 70 || within g 97 102
  | .space => within g 9 13 || g == 32 || isWideSpace g
  | .print => within g 32 126 || (within g 160 (strayBase - 1) && !isWideSpace g) || isWideSpace g
  | .graph => within g 33 126 || (within g 160 (strayBase - 1) && !isWideSpace g && g != 160)
  | .cntrl => within g 0 31 || g == 127 || within g 128 159 || g == 8232 || g == 8233
  | .punct => within g 33 47 || within g 58 64 || within g 91 96 || within g 123 126 ||
      (within g 161 191 && g != 170 && g != 181 && g != 186) || g == 215 || g == 247
  | .blank => g == 9 || g == 32 || (isWideSpace g && g != 8232 && g != 8233)

def isWordGlyph (g : Glyph) : Bool := CharClass.alnum.has g || g == 95

/-! ## Patterns -/

/-- A member of a bracket expression. -/
inductive Member where
  | glyph (g : Glyph)
  | range (lo hi : Glyph)
  | named (c : CharClass)

/-- Whether a glyph is among the members of a bracket expression. -/
def Member.has (m : Member) (g : Glyph) : Bool :=
  match m with
  | .glyph h => g == h
  | .range lo hi => lo ≤ g && g ≤ hi
  | .named c => c.has g

/-- A place a pattern may assert without reading a character. -/
inductive Anchor where
  | lineStart
  | lineEnd
  | wordStart
  | wordEnd
  | wordEdge
  | insideWord
  | textStart
  | textEnd

/-- A regular expression. -/
inductive Pattern where
  /-- Matches the empty text. -/
  | empty
  | glyph (g : Glyph)
  /-- Any one character. -/
  | any
  | bracket (negated : Bool) (members : List Member)
  /-- A word character (`\w`), or any other (`\W`). -/
  | word (negated : Bool)
  /-- A space character (`\s`), or any other (`\S`). -/
  | space (negated : Bool)
  | seq (first second : Pattern)
  | alt (left right : Pattern)
  /-- Between `least` and `most` (unbounded when `none`) repetitions. -/
  | repeat (body : Pattern) (least : Nat) (most : Option Nat)
  /-- A group, numbered from 1 in the order of its opening. -/
  | group (index : Nat) (body : Pattern)
  | backref (index : Nat)
  | anchor (a : Anchor)

/-- The number of nodes of a pattern. -/
def Pattern.size : Pattern → Nat
  | .seq a b => a.size + b.size + 1
  | .alt a b => a.size + b.size + 1
  | .repeat body _ _ => body.size + 1
  | .group _ body => body.size + 1
  | _ => 1

def Pattern.mostLeast : Pattern → Nat
  | .seq a b => max a.mostLeast b.mostLeast
  | .alt a b => max a.mostLeast b.mostLeast
  | .repeat body least _ => max least body.mostLeast
  | .group _ body => body.mostLeast
  | _ => 0

def Pattern.hasBackref : Pattern → Bool
  | .seq a b => a.hasBackref || b.hasBackref
  | .alt a b => a.hasBackref || b.hasBackref
  | .repeat body _ _ => body.hasBackref
  | .group _ body => body.hasBackref
  | .backref _ => true
  | _ => false

/-- Two patterns one after the other, the empty pattern dropping out. -/
def Pattern.andThen : Pattern → Pattern → Pattern
  | .empty, b => b
  | a, .empty => a
  | a, b => .seq a b

/-- Why a pattern cannot be read. -/
inductive RegexError where
  | badPattern
  | collation
  | charClass
  | trailingBackslash
  | backReference
  | bracket
  | paren
  | brace
  | braceContent
  | range
  | badRepeat
  | tooBig
  | closeParen
  deriving DecidableEq

/-- The machine's words for an error of a pattern. -/
def RegexError.message : RegexError → String
  | .badPattern => "Invalid regular expression"
  | .collation => "Invalid collation character"
  | .charClass => "Invalid character class name"
  | .trailingBackslash => "Trailing backslash"
  | .backReference => "Invalid back reference"
  | .bracket => "Unmatched [, [^, [:, [., or [="
  | .paren => "Unmatched ( or \\("
  | .brace => "Unmatched \\\x7b"
  | .braceContent => "Invalid content of \\\x7b\\\x7d"
  | .range => "Invalid range end"
  | .badRepeat => "Invalid preceding regular expression"
  | .tooBig => "Regular expression too big"
  | .closeParen => "Unmatched ) or \\)"

/-- The dialect of a pattern. -/
structure Dialect where
  /-- Operators are written bare. -/
  extended : Bool := false
  /-- A newline separates alternatives. -/
  newlineAlternates : Bool := false
  /-- Case is ignored: `upper` and `lower` classes mean letters. -/
  foldCase : Bool := false
  /-- A range that runs backwards is empty rather than wrong. -/
  emptyRanges : Bool := false

/-! ## Reading -/

/-- A token of a pattern outside brackets. -/
inductive Token where
  /-- A character that stands for itself. -/
  | char (g : Glyph)
  | period
  | openBracket
  | openGroup
  | closeGroup
  | alternate
  /-- A repetition operator, `*`, `+` or `?`, by its character. -/
  | repetition (g : Glyph)
  | openInterval
  | closeInterval
  | backref (n : Nat)
  | anchor (a : Anchor)
  | word (negated : Bool)
  | space (negated : Bool)
  | trailingBackslash
  | finish

def escapedToken (d : Dialect) (g : Glyph) : Token :=
  if g == 124 then (if d.extended then .char g else .alternate)
  else if within g 49 57 then .backref (g - 48)
  else if g == 60 then .anchor .wordStart
  else if g == 62 then .anchor .wordEnd
  else if g == 98 then .anchor .wordEdge
  else if g == 66 then .anchor .insideWord
  else if g == 119 then .word false
  else if g == 87 then .word true
  else if g == 115 then .space false
  else if g == 83 then .space true
  else if g == 96 then .anchor .textStart
  else if g == 39 then .anchor .textEnd
  else if d.extended then .char g
  else if g == 40 then .openGroup
  else if g == 41 then .closeGroup
  else if g == 43 || g == 63 then .repetition g
  else if g == 123 then .openInterval
  else if g == 125 then .closeInterval
  else .char g

def plainToken (d : Dialect) (caretHere : Bool) (g : Glyph) : Token :=
  if g == 10 && d.newlineAlternates then .alternate
  else if g == 42 then .repetition g
  else if g == 91 then .openBracket
  else if g == 46 then .period
  else if g == 94 then (if d.extended || caretHere then .anchor .lineStart else .char g)
  else if !d.extended then .char g
  else if g == 124 then .alternate
  else if g == 43 || g == 63 then .repetition g
  else if g == 123 then .openInterval
  else if g == 125 then .closeInterval
  else if g == 40 then .openGroup
  else if g == 41 then .closeGroup
  else .char g

def nextToken (d : Dialect) (caretHere : Bool) : List Glyph → Token × List Glyph
  | [] => (.finish, [])
  | [92] => (.trailingBackslash, [])
  | 92 :: g :: rest => (escapedToken d g, rest)
  | 36 :: rest =>
    if d.extended || rest.isEmpty then (.anchor .lineEnd, rest)
    else
      match rest with
      | 92 :: g :: _ =>
        if (g == 124 || g == 41) then (.anchor .lineEnd, rest) else (.char 36, rest)
      | 10 :: _ => if d.newlineAlternates then (.anchor .lineEnd, rest) else (.char 36, rest)
      | _ => (.char 36, rest)
  | g :: rest => (plainToken d caretHere g, rest)

/-- The state of a reading: the current token, the pattern after it, the groups opened so far
and the groups closed that a back reference may name. -/
structure Reading where
  token : Token
  rest : List Glyph
  groups : Nat := 0
  closed : List Nat := []

abbrev ReadM := StateT Reading (Except RegexError)

def advance (d : Dialect) (caretHere : Bool) : ReadM Unit :=
  modify fun s =>
    let (t, rest) := nextToken d caretHere s.rest
    { s with token := t, rest := rest }

def dupMax : Nat := 32767

/-- Reads the number of an interval: its value (`none` when it has no digits), whether it was
well formed, and the token that ended it. -/
def readCount (d : Dialect) : Nat → Option Nat → Bool → ReadM (Option Nat × Bool × Token)
  | 0, n, ok => return (n, ok, .finish)
  | fuel + 1, n, ok => do
    advance d false
    let t := (← get).token
    match t with
    | .finish => return (n, false, t)
    | .closeInterval => return (n, ok, t)
    | .char 44 => return (n, ok, t)
    | .char g =>
      if within g 48 57 && ok then
        readCount d fuel (some (min (dupMax + 1) ((n.getD 0) * 10 + (g - 48)))) ok
      else readCount d fuel n false
    | _ => readCount d fuel n false

def readBracketName (delim : Glyph) : Nat → List Glyph → List Glyph →
    Except RegexError (List Glyph × List Glyph)
  | 0, _, _ => .error .bracket
  | _ + 1, _, [] => .error .bracket
  | _ + 1, _, [_] => .error .bracket
  | fuel + 1, name, g :: h :: rest =>
    if g == delim && h == 93 then
      if 32 ≤ (bytesOfGlyphs name).length then .error .bracket else .ok (name, rest)
    else readBracketName delim fuel (name ++ [g]) (h :: rest)

/-- An element of a bracket expression before ranges are formed. -/
inductive BracketItem where
  | single (g : Glyph)
  | named (c : CharClass)
  | equivalent (g : Glyph)

/-- A token inside a bracket expression. -/
inductive BracketToken where
  | char (g : Glyph)
  | openName (delim : Glyph)
  | dash
  | close
  | finish

/-- Whether a bracket token is the closing `]`. -/
def BracketToken.isClose : BracketToken → Bool
  | .close => true
  | _ => false

def nextBracketToken : List Glyph → BracketToken × List Glyph
  | [] => (.finish, [])
  | 91 :: g :: rest =>
    if g == 46 || g == 61 || g == 58 then (.openName g, rest) else (.char 91, g :: rest)
  | 45 :: rest => (.dash, rest)
  | 93 :: rest => (.close, rest)
  | g :: rest => (.char g, rest)

def readBracketItem (d : Dialect) (acceptDash : Bool) (t : BracketToken) (rest : List Glyph) :
    Except RegexError (BracketItem × List Glyph) :=
  match t with
  | .openName delim => do
    let (name, rest) ← readBracketName delim (rest.length + 1) [] rest
    if delim == 58 then
      let text := String.ofList (name.map Char.ofNat)
      let text := if d.foldCase && (text == "upper" || text == "lower") then "alpha" else text
      match CharClass.ofName? text with
      | some c => .ok (.named c, rest)
      | none => .error .charClass
    else
      match name with
      | [g] =>
        if g < 128 || strayBase ≤ g then
          .ok (if delim == 61 then .equivalent g else .single g, rest)
        else .error .collation
      | _ => .error .collation
  | .dash =>
    if !acceptDash && !(nextBracketToken rest).1.isClose then .error .range
    else .ok (.single 45, rest)
  | .char g => .ok (.single g, rest)
  | .close => .ok (.single 93, rest)
  | .finish => .error .bracket

def readBracketMembers (d : Dialect) : Nat → Bool → BracketToken → List Glyph → List Member →
    Except RegexError (List Member × List Glyph)
  | 0, _, _, _, _ => .error .bracket
  | fuel + 1, first, t, rest, members => do
    let (item, rest) ← readBracketItem d first t rest
    let (t, rest') := nextBracketToken rest
    let isName := match item with
      | .named _ | .equivalent _ => true
      | _ => false
    let (range, t, rest) ← if isName then pure (none, t, rest')
      else
        match t with
        | .finish => .error .bracket
        | .dash =>
          let (t2, rest2) := nextBracketToken rest'
          match t2 with
          | .finish => .error .bracket
          | .close => pure (none, BracketToken.char 45, rest')
          | _ => do
            let (last, rest3) ← readBracketItem d true t2 rest2
            let (t3, rest4) := nextBracketToken rest3
            pure (some last, t3, rest4)
        | _ => pure (none, t, rest')
    let member ← match range, item with
      | none, .single g => pure (Member.glyph g)
      | none, .equivalent g => pure (Member.glyph g)
      | none, .named c => pure (Member.named c)
      | some (.single hi), .single lo =>
        if hi < lo && !d.emptyRanges then .error .range else pure (.range lo hi)
      | some _, _ => .error .range
    let members := members ++ [member]
    match t with
    | .finish => .error .bracket
    | .close => .ok (members, rest)
    | _ => readBracketMembers d fuel false t rest members

def readBracket (d : Dialect) (rest : List Glyph) : Except RegexError (Pattern × List Glyph) := do
  let (negated, rest) := match rest with
    | 94 :: more => (true, more)
    | _ => (false, rest)
  if rest.isEmpty then throw .badPattern
  let (t, rest) := nextBracketToken rest
  let t := match t with
    | .close => BracketToken.char 93
    | _ => t
  let (members, rest) ← readBracketMembers d (rest.length + 2) true t rest []
  return (.bracket negated members, rest)

def repetitionCounts (g : Glyph) : Nat × Option Nat :=
  if g == 43 then (1, none) else if g == 63 then (0, some 1) else (0, none)

def repeatOf (elem : Pattern) (least : Nat) (most : Option Nat) : Pattern :=
  match elem with
  | .empty => .empty
  | _ => if most == some 0 then .empty else .repeat elem least most

def Token.isComma : Token → Bool
  | .char 44 => true
  | _ => false

def Token.closesInterval : Token → Bool
  | .closeInterval => true
  | _ => false

def Token.isFinish : Token → Bool
  | .finish => true
  | _ => false

mutual

def readAlternatives (d : Dialect) : Nat → Nat → ReadM Pattern
  | 0, _ => throw .tooBig
  | fuel + 1, nest => do
    let before := (← get).closed
    let first ← readBranch d fuel nest
    readMoreAlternatives d fuel nest before first

def readMoreAlternatives (d : Dialect) : Nat → Nat → List Nat → Pattern → ReadM Pattern
  | 0, _, _, _ => throw .tooBig
  | fuel + 1, nest, before, tree => do
    match (← get).token with
    | .alternate =>
      advance d true
      let t := (← get).token
      let stops := match t with
        | .alternate | .finish => true
        | .closeGroup => nest != 0
        | _ => false
      if stops then readMoreAlternatives d fuel nest before (.alt tree .empty)
      else
        let accumulated := (← get).closed
        modify fun s => { s with closed := before }
        let branch ← readBranch d fuel nest
        modify fun s => { s with closed := (s.closed ++ accumulated).eraseDups }
        readMoreAlternatives d fuel nest before (.alt tree branch)
    | _ => return tree

def readBranch (d : Dialect) : Nat → Nat → ReadM Pattern
  | 0, _ => throw .tooBig
  | fuel + 1, nest => do
    let t := (← get).token
    let stops := match t with
      | .alternate | .finish => true
      | .closeGroup => nest != 0
      | _ => false
    if stops then return .empty
    else
      let e ← readExpression d fuel nest
      let rest ← readBranch d fuel nest
      return e.andThen rest

def readExpression (d : Dialect) : Nat → Nat → ReadM Pattern
  | 0, _ => throw .tooBig
  | fuel + 1, nest => do
    let s ← get
    let plain (g : Glyph) : ReadM Pattern := do
      advance d false
      readRepetitions d fuel (.glyph g)
    match s.token with
    | .char g => plain g
    | .period => do
      advance d false
      readRepetitions d fuel .any
    | .openBracket =>
      match readBracket d s.rest with
      | .ok (p, rest) => do
        set { s with rest := rest }
        advance d false
        readRepetitions d fuel p
      | .error e => throw e
    | .backref n =>
      if s.closed.contains n then do
        advance d false
        readRepetitions d fuel (.backref n)
      else throw .backReference
    | .openGroup => do
      let index := s.groups + 1
      set { s with groups := index }
      advance d true
      let body ← match (← get).token with
        | .closeGroup => pure .empty
        | _ => do
          let body ← readAlternatives d fuel (nest + 1)
          match (← get).token with
          | .closeGroup => pure body
          | _ => throw .paren
      modify fun s => { s with closed := if index ≤ 9 then s.closed ++ [index] else s.closed }
      advance d false
      readRepetitions d fuel (.group index body)
    | .repetition g =>
      if d.extended then do
        advance d false
        readExpression d fuel nest
      else plain g
    | .openInterval =>
      if d.extended then do
        advance d false
        readExpression d fuel nest
      else plain 123
    | .closeGroup => if d.extended then plain 41 else throw .closeParen
    | .closeInterval => plain 125
    | .anchor a => do
      advance d false
      return .anchor a
    | .word negated => do
      advance d false
      readRepetitions d fuel (.word negated)
    | .space negated => do
      advance d false
      readRepetitions d fuel (.space negated)
    | .alternate | .finish => return .empty
    | .trailingBackslash => throw .trailingBackslash

def readRepetitions (d : Dialect) : Nat → Pattern → ReadM Pattern
  | 0, _ => throw .tooBig
  | fuel + 1, elem => do
    let s ← get
    match s.token with
    | .repetition g => do
      advance d false
      let (least, most) := repetitionCounts g
      readRepetitions d fuel (repeatOf elem least most)
    | .openInterval => do
      let (first, firstOk, t1) ← readCount d (s.rest.length + 1) none true
      let first := if first.isNone && firstOk && t1.isComma then some 0 else first
      if firstOk && first.isNone then throw .braceContent
      let (second, ok, t2) ← if !firstOk then pure (none, false, t1)
        else if t1.closesInterval then pure (first, true, t1)
        else if t1.isComma then readCount d (s.rest.length + 1) none true
        else pure (none, false, t1)
      if !ok then
        if d.extended then do
          set { s with token := .char 123 }
          return elem
        else if t2.isFinish then throw .brace
        else throw .braceContent
      let least := first.getD 0
      let unbounded := t1.isComma && second.isNone
      if !t2.closesInterval then throw .braceContent
      if !unbounded && second.getD 0 < least then throw .braceContent
      if dupMax < (if unbounded then least else second.getD 0) then throw .tooBig
      advance d false
      let most := if unbounded then none else second
      readRepetitions d fuel (repeatOf elem least most)
    | _ => return elem

end

def readPattern (d : Dialect) (text : List Glyph) : Except RegexError (Pattern × Nat) :=
  let (t, rest) := nextToken d true text
  let start : Reading := { token := t, rest := rest }
  match (readAlternatives d (4 * text.length + 8) 0).run start with
  | .ok (p, s) => .ok (p, s.groups)
  | .error e => .error e

end LintBridge.Host.Regex
