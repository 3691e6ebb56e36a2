import LintBridge.Host.Shell.Syntax
/-!
# Shell scripts: reading

A script is read one complete command at a time, up to the end of a line, so that the commands
before a syntax error run before it is found. Here-document bodies are read after the line that
ends their command. An error is a message with the line it was found on.
-/

namespace LintBridge.Host.Shell

/-- A syntax error: the line it was found on and its message. -/
structure SyntaxError where
  line : Nat
  message : String
  deriving Repr

/-- A redirection operator. -/
inductive RedirOp where
  | file (mode : FileMode)
  | dup (input : Bool)
  | here (strip : Bool)

/-- A token. A word keeps its text when all of it is unquoted text, for keywords and names. -/
inductive Token where
  | word (pieces : List Piece) (text : Option Bytes) (quoted : Bool)
  | keyword (k : String)
  | newline
  | eof
  | semi
  | amp
  | andIf
  | orIf
  | pipe
  | lparen
  | rparen
  | dsemi
  | redir (fd : Option Nat) (op : RedirOp)

/-- How a token is named in a syntax error. -/
def Token.name : Token → String
  | .word .. => "word"
  | .keyword k => "\"" ++ k ++ "\""
  | .newline => "newline"
  | .eof => "end of file"
  | .semi => "\";\""
  | .amp => "\"&\""
  | .andIf => "\"&&\""
  | .orIf => "\"||\""
  | .pipe => "\"|\""
  | .lparen => "\"(\""
  | .rparen => "\")\""
  | .dsemi => "\";;\""
  | .redir .. => "redirection"

def Token.isKeyword (t : Token) (k : String) : Bool :=
  match t with
  | .keyword k' => k' == k
  | _ => false

def keywords : List String :=
  ["!", "case", "do", "done", "elif", "else", "esac", "fi", "for", "if", "in", "then", "until",
    "while", "\x7b", "\x7d"]

def Token.endsList : Token → Bool
  | .eof | .rparen | .dsemi => true
  | .keyword k => ["do", "done", "elif", "else", "esac", "fi", "then", "\x7d"].contains k
  | _ => false

def Piece.isQuoting : Piece → Bool
  | .esc _ | .single _ | .double _ => true
  | _ => false

def plainText : List Piece → Option Bytes
  | [] => some []
  | .lit s :: rest => (plainText rest).map (s ++ ·)
  | _ => none

def unquotedText : List Piece → Bytes
  | [] => []
  | .lit s :: rest => s ++ unquotedText rest
  | .esc b :: rest => b :: unquotedText rest
  | .single s :: rest => s ++ unquotedText rest
  | .double ps :: rest => unquotedText ps ++ unquotedText rest
  | _ :: rest => unquotedText rest

def wordToken (ps : List Piece) : Token := .word ps (plainText ps) (ps.any Piece.isQuoting)

def Token.classify (kwd : Bool) (t : Token) : Token :=
  match t with
  | .word _ (some text) false =>
    let k := asciiText text
    if kwd && keywords.contains k then .keyword k else t
  | _ => t

/-- A here-document waiting for its body. -/
structure PendingDoc where
  id : Nat
  delim : Bytes
  quoted : Bool
  strip : Bool

/-- An alias whose text is being read: its name, the length of the input left after its text,
and whether its text ends in a blank, which makes the word after it open to aliases too. -/
structure AliasInUse where
  name : String
  endsAt : Nat
  blankEnd : Bool

/-- The state of reading a script: the input left, the line, a token put back, the
here-documents waiting for their bodies and the bodies read, the aliases defined and those
being read, and whether the next word may be an alias. -/
structure Reader where
  input : Bytes
  line : Nat := 1
  pushed : Option Token := none
  pending : List PendingDoc := []
  docs : List (Nat × List Piece) := []
  nextDoc : Nat := 0
  aliases : List (String × Bytes) := []
  inUse : List AliasInUse := []
  aliasWord : Bool := false

abbrev ReadM := StateT Reader (Except SyntaxError)

def syntaxError {α : Type} (msg : String) : ReadM α := do
  throw ⟨(← get).line, "Syntax error: " ++ msg⟩

/-- The error of a token where none of its kind may stand. -/
def unexpected {α : Type} (t : Token) : ReadM α := syntaxError (t.name ++ " unexpected")

/-- The error of a token where another was needed. -/
def expecting {α : Type} (t : Token) (what : String) : ReadM α :=
  syntaxError (t.name ++ " unexpected (expecting " ++ what ++ ")")

def pushBack (t : Token) : ReadM Unit := modify fun r => { r with pushed := some t }

def dropContinuations : Bytes → Nat → Bytes × Nat
  | 92 :: 10 :: rest, k => dropContinuations rest (k + 1)
  | bs, k => (bs, k)

/-- Drops blanks, joined lines and a comment at the front, counting the joined lines. -/
def dropBlanks : Bytes → Nat → Bytes × Nat
  | 32 :: rest, k => dropBlanks rest k
  | 9 :: rest, k => dropBlanks rest k
  | 92 :: 10 :: rest, k => dropBlanks rest (k + 1)
  | 35 :: rest, k => (rest.dropWhile (· != 10), k)
  | bs, k => (bs, k)

def eatContinuations : ReadM Unit := modify fun r =>
  let (bs, k) := dropContinuations r.input 0
  { r with input := bs, line := r.line + k }

def peekByte : ReadM (Option UInt8) := do return (← get).input.head?

def advance : ReadM Unit := modify fun r =>
  match r.input with
  | [] => r
  | b :: rest => { r with input := rest, line := if b == 10 then r.line + 1 else r.line }

def takeByte : ReadM (Option UInt8) := do
  eatContinuations
  let c ← peekByte
  advance
  return c

def unread : Option UInt8 → ReadM Unit
  | none => pure ()
  | some b => modify fun r =>
    { r with input := b :: r.input, line := if b == 10 then r.line - 1 else r.line }

def isWordEnd (b : UInt8) : Bool :=
  b == 32 || b == 9 || b == 10 || b == 59 || b == 38 || b == 124 || b == 40 || b == 41 ||
    b == 60 || b == 62

/-- Whether a byte is a decimal digit. -/
def isDigit (b : UInt8) : Bool := 48 ≤ b && b ≤ 57

def isSpecialParam (b : UInt8) : Bool :=
  b == 64 || b == 42 || b == 35 || b == 63 || b == 45 || b == 36 || b == 33 || isDigit b

def pushLit (acc : List Piece) (s : Bytes) : List Piece :=
  match acc.getLast? with
  | some (.lit t) => acc.dropLast ++ [.lit (t ++ s)]
  | _ => acc ++ [.lit s]

def takeWhileFuel (p : UInt8 → Bool) : Nat → Bytes → ReadM Bytes
  | 0, acc => pure acc
  | n + 1, acc => do
    eatContinuations
    match ← peekByte with
    | some b => if p b then do advance; takeWhileFuel p n (acc ++ [b]) else pure acc
    | none => pure acc

def takeWhileByte (p : UInt8 → Bool) (first : Bytes) : ReadM Bytes := do
  takeWhileFuel p ((← get).input.length + 1) first

def readSingle : ReadM Bytes := do
  let r ← get
  match r.input.idxOf? 39 with
  | none =>
    set { r with input := [], line := r.line + r.input.count 10 }
    syntaxError "Unterminated quoted string"
  | some i =>
    let s := r.input.take i
    set { r with input := r.input.drop (i + 1), line := r.line + s.count 10 }
    return s

/-- How a word is being read: unquoted (a here-document's delimiter expands nothing), as the
word of `${name op word}` (inside double quotes or not), between double quotes, or as the
body of a here-document. -/
inductive WordMode where
  | plain (delimiter : Bool)
  | inner (dq : Bool)
  | quoted
  | document

def splitDocument (delim : Bytes) (strip : Bool) : Nat → Bytes → Bytes × Bytes × Nat
  | 0, bs => ([], bs, 0)
  | _ + 1, [] => ([], [], 0)
  | n + 1, bs =>
    let raw := bs.takeWhile (· != 10)
    let hasNewline := raw.length < bs.length
    let after := bs.drop (raw.length + 1)
    let line := if strip then raw.dropWhile (· == 9) else raw
    let k := if hasNewline then 1 else 0
    if line == delim then ([], after, k)
    else
      let (body, rest, m) := splitDocument delim strip n after
      (line ++ (if hasNewline then [10] else []) ++ body, rest, m + k)

def paramOpOf (colon : Bool) (c : Option UInt8) (w : List Piece) : Option ParamOp :=
  match c with
  | some 45 => some (.useDefault colon w)
  | some 61 => some (.assignDefault colon w)
  | some 63 => some (.errorIfUnset colon w)
  | some 43 => some (.useAlternative colon w)
  | _ => none

/-- What follows the name in `${…}`. -/
inductive BraceOp where
  | plain
  | length
  | bad
  | sub (colon : Bool) (c : UInt8)
  | trim (suffix longest : Bool)

def outOfSteps {α : Type} : ReadM α := syntaxError "end of file unexpected"

def readRedirOp (fd : Option Nat) : ReadM Token := do
  let c ← takeByte
  if c == some 62 then do
    let d ← takeByte
    match d with
    | some 62 => pure (.redir fd (.file .append))
    | some 124 => pure (.redir fd (.file .clobber))
    | some 38 => pure (.redir fd (.dup false))
    | d => do unread d; pure (.redir fd (.file .write))
  else do
    let d ← takeByte
    match d with
    | some 60 => do
      let e ← takeByte
      if e == some 45 then pure (.redir fd (.here true))
      else do unread e; pure (.redir fd (.here false))
    | some 38 => pure (.redir fd (.dup true))
    | some 62 => pure (.redir fd (.file .readWrite))
    | d => do unread d; pure (.redir fd (.file .read))

def readBraceName (c : Option UInt8) : ReadM (String × BraceOp × Option UInt8) := do
    match c with
    | some b =>
      if isNameStart b then do
        let name ← takeWhileByte isNameByte [b]
        let c ← takeByte
        pure (asciiText name, .plain, c)
      else if isDigit b then do
        let name ← takeWhileByte isDigit [b]
        let c ← takeByte
        pure (asciiText name, .plain, c)
      else if b == 125 then pure ("", .bad, c)
      else do
        let c2 ← takeByte
        if b == 35 then
          match c2 with
          | some x =>
            if isNameStart x then do
              let name ← takeWhileByte isNameByte [x]
              let c ← takeByte
              pure (asciiText name, .length, c)
            else if isDigit x then do
              let name ← takeWhileByte isDigit [x]
              let c ← takeByte
              pure (asciiText name, .length, c)
            else do
              let c3 ← takeByte
              if x == 125 || c3 != some 125 then do
                unread c3
                pure ("#", .plain, c2)
              else if isSpecialParam x then pure (asciiText [x], .length, c3)
              else pure ("", .bad, c3)
          | none => pure ("#", .plain, c2)
        else if isSpecialParam b then pure (asciiText [b], .plain, c2)
        else do
          unread c2
          pure ("", .bad, none)
    | none => pure ("", .bad, none)

def collectBackquote : Nat → Bool → Bytes → ReadM Bytes
  | 0, _, _ => outOfSteps
  | n + 1, dq, acc => do
    eatContinuations
    match ← peekByte with
    | none => syntaxError "EOF in backquote substitution"
    | some 96 => do advance; pure acc
    | some 92 => do
      advance
      match ← peekByte with
      | none => syntaxError "EOF in backquote substitution"
      | some x => do
        advance
        if x == 92 || x == 96 || x == 36 || (dq && x == 34) then collectBackquote n dq (acc ++ [x])
        else collectBackquote n dq (acc ++ [92, x])
    | some b => do
      advance
      collectBackquote n dq (acc ++ [b])

def assignmentOf : List Piece → Option (String × List Piece)
  | .lit s :: rest =>
    let name := s.takeWhile (· != 61)
    if name.length < s.length && isName name then
      let value := s.drop (name.length + 1)
      some (asciiText name, if value.isEmpty then rest else .lit value :: rest)
    else none
  | _ => none

def forVariable : Token → Option String
  | .word _ (some text) false => if isName text then some (asciiText text) else none
  | _ => none

mutual

def readWordIn : Nat → WordMode → List Piece → ReadM (List Piece)
  | 0, _, _ => outOfSteps
  | n + 1, mode, acc => do
    eatContinuations
    match ← peekByte with
    | none =>
      match mode with
      | .plain _ | .document => pure acc
      | .quoted => syntaxError "Unterminated quoted string"
      | .inner dq => syntaxError (if dq then "Unterminated quoted string" else "Missing '\x7d'")
    | some b =>
      match mode with
      | .plain delim =>
        if isWordEnd b then pure acc
        else if b == 92 then do
          advance
          match ← peekByte with
          | none => pure (acc ++ [.esc 92])
          | some x => do advance; readWordIn n mode (acc ++ [.esc x])
        else if b == 39 then do
          advance
          let s ← readSingle
          readWordIn n mode (acc ++ [.single s])
        else if b == 34 then do
          advance
          let ps ← readWordIn n .quoted []
          readWordIn n mode (acc ++ [.double ps])
        else if b == 36 && !delim then do
          advance
          let ps ← readDollar n false
          readWordIn n mode (acc ++ ps)
        else if b == 96 && !delim then do
          advance
          let p ← readBackquote n false
          readWordIn n mode (acc ++ [p])
        else do
          advance
          readWordIn n mode (pushLit acc [b])
      | .quoted =>
        if b == 34 then do advance; pure acc
        else if b == 92 then do
          advance
          match ← peekByte with
          | some x =>
            if x == 36 || x == 96 || x == 34 || x == 92 then do
              advance
              readWordIn n mode (acc ++ [.esc x])
            else readWordIn n mode (pushLit acc [92])
          | none => readWordIn n mode (pushLit acc [92])
        else if b == 36 then do
          advance
          let ps ← readDollar n true
          readWordIn n mode (acc ++ ps)
        else if b == 96 then do
          advance
          let p ← readBackquote n true
          readWordIn n mode (acc ++ [p])
        else do
          advance
          readWordIn n mode (pushLit acc [b])
      | .inner dq =>
        if b == 125 then do advance; pure acc
        else if b == 92 then do
          advance
          match ← peekByte with
          | some x =>
            if !dq || x == 36 || x == 96 || x == 34 || x == 92 || x == 125 then do
              advance
              readWordIn n mode (acc ++ [.esc x])
            else readWordIn n mode (pushLit acc [92])
          | none => readWordIn n mode (acc ++ [.esc 92])
        else if b == 39 && !dq then do
          advance
          let s ← readSingle
          readWordIn n mode (acc ++ [.single s])
        else if b == 34 then do
          advance
          let ps ← readWordIn n .quoted []
          readWordIn n mode (acc ++ [.double ps])
        else if b == 36 then do
          advance
          let ps ← readDollar n dq
          readWordIn n mode (acc ++ ps)
        else if b == 96 then do
          advance
          let p ← readBackquote n dq
          readWordIn n mode (acc ++ [p])
        else do
          advance
          readWordIn n mode (pushLit acc [b])
      | .document =>
        if b == 92 then do
          advance
          match ← peekByte with
          | some x =>
            if x == 36 || x == 96 || x == 92 then do
              advance
              readWordIn n mode (acc ++ [.esc x])
            else readWordIn n mode (pushLit acc [92])
          | none => readWordIn n mode (pushLit acc [92])
        else if b == 36 then do
          advance
          let ps ← readDollar n true
          readWordIn n mode (acc ++ ps)
        else if b == 96 then do
          advance
          let p ← readBackquote n true
          readWordIn n mode (acc ++ [p])
        else do
          advance
          readWordIn n mode (pushLit acc [b])

def readDollar : Nat → Bool → ReadM (List Piece)
  | 0, _ => outOfSteps
  | n + 1, dq => do
    eatContinuations
    match ← peekByte with
    | some 123 => do
      advance
      let p ← readBraced n dq
      pure [p]
    | some 40 => do
      advance
      eatContinuations
      match ← peekByte with
      | some 40 => do
        advance
        let ps ← readArith n 0 []
        pure [.arith ps]
      | _ => do
        let c ← readSubstitution n
        pure [.command c]
    | some b =>
      if isNameStart b then do
        let name ← takeWhileByte isNameByte []
        pure [.param (asciiText name) .plain]
      else if isSpecialParam b then do
        advance
        pure [.param (asciiText [b]) .plain]
      else pure [.lit [36]]
    | none => pure [.lit [36]]

def readBraced : Nat → Bool → ReadM Piece
  | 0, _ => outOfSteps
  | n + 1, dq => do
    let c ← takeByte
    let (name, op, c) ← readBraceName c
    let op ← match op with
      | .plain =>
        match c with
        | some 58 => do
          let c2 ← takeByte
          match c2 with
          | some 125 => pure BraceOp.bad
          | some x => if x == 45 || x == 61 || x == 63 || x == 43 then pure (BraceOp.sub true x) else pure .bad
          | none => pure .bad
        | some 37 | some 35 => do
          let c2 ← takeByte
          if c2 == c then pure (BraceOp.trim (c == some 37) true)
          else do unread c2; pure (BraceOp.trim (c == some 37) false)
        | some 125 => pure .plain
        | some x => if x == 45 || x == 61 || x == 63 || x == 43 then pure (.sub false x) else pure .bad
        | none => pure .bad
      | .length => do
        let op := if c == some 125 then BraceOp.length else .bad
        unread c
        pure op
      | other => do unread c; pure other
    match op with
    | .plain => pure (.param name .plain)
    | .length => do
      let _ ← readWordIn n (.inner dq) []
      pure (.param name .length)
    | .bad => do
      let w ← readWordIn n (.inner dq) []
      pure (.param name (.bad w))
    | .sub colon x => do
      let w ← readWordIn n (.inner dq) []
      pure (.param name ((paramOpOf colon (some x) w).getD (.bad w)))
    | .trim suffix longest => do
      let w ← readWordIn n (.inner false) []
      pure (.param name (if suffix then .removeSuffix longest w else .removePrefix longest w))

def readArith : Nat → Nat → List Piece → ReadM (List Piece)
  | 0, _, _ => outOfSteps
  | n + 1, depth, acc => do
    eatContinuations
    match ← peekByte with
    | none => syntaxError "Missing '))'"
    | some b =>
      if b == 40 then do
        advance
        readArith n (depth + 1) (pushLit acc [b])
      else if b == 41 then do
        advance
        if depth > 0 then readArith n (depth - 1) (pushLit acc [b])
        else do
          eatContinuations
          if (← peekByte) == some 41 then do advance; pure acc
          else readArith n depth (pushLit acc [b])
      else if b == 92 then do
        advance
        match ← peekByte with
        | some x =>
          if x == 36 || x == 96 || x == 34 || x == 92 then do
            advance
            readArith n depth (acc ++ [.esc x])
          else readArith n depth (pushLit acc [92])
        | none => readArith n depth (pushLit acc [92])
      else if b == 36 then do
        advance
        let ps ← readDollar n true
        readArith n depth (acc ++ ps)
      else if b == 96 then do
        advance
        let p ← readBackquote n true
        readArith n depth (acc ++ [p])
      else if b == 34 then do
        -- the quotes stay in the expression; what they enclose is expanded
        advance
        let ps ← readWordIn n .quoted []
        readArith n depth (pushLit (pushLit acc [34] ++ ps) [34])
      else do
        advance
        readArith n depth (pushLit acc [b])

def readSubstitution : Nat → ReadM Command
  | 0 => outOfSteps
  | n + 1 => do
    let r ← get
    set { r with pending := [], pushed := none }
    let body ← parseList n false true none
    let t ← readToken n false false
    match t with
    | .rparen => do
      modify fun r' => { r' with pending := r.pending, pushed := r.pushed }
      pure (body.getD .nothing)
    | t => expecting t "\")\""

def readBackquote : Nat → Bool → ReadM Piece
  | 0, _ => outOfSteps
  | n + 1, dq => do
    let text ← collectBackquote n dq []
    let r ← get
    set { r with input := text, pending := [], pushed := none }
    let body ← parseList n false true none
    let t ← readToken n false false
    match t with
    | .eof => do
      modify fun r' => { r' with input := r.input, line := r.line, pending := r.pending,
                                 pushed := r.pushed }
      pure (.command (body.getD .nothing))
    | t => expecting t "\"`\""

def readDocuments : Nat → List PendingDoc → ReadM Unit
  | 0, _ => outOfSteps
  | _ + 1, [] => pure ()
  | n + 1, d :: ds => do
    let r ← get
    let (body, rest, k) := splitDocument d.delim d.strip (r.input.length + 1) r.input
    let pieces ←
      if d.quoted then pure [Piece.single body]
      else do
        set { r with input := body, pending := [], pushed := none }
        let ps ← readWordIn n .document []
        pure [Piece.double ps]
    modify fun r' => { r' with input := rest, line := r.line + k, pending := r.pending,
                               pushed := r.pushed, docs := r'.docs ++ [(d.id, pieces)] }
    readDocuments n ds

def readToken : Nat → Bool → Bool → ReadM Token
  | 0, _, _ => outOfSteps
  | n + 1, kwd, skipNewlines => do
    let r ← get
    match r.pushed with
    | some t => do
      set { r with pushed := none, aliasWord := false }
      match t with
      | .newline => if skipNewlines then readToken n kwd skipNewlines else pure t
      | t => pure (t.classify kwd)
    | none => do
      let (bs, k) := dropBlanks r.input 0
      -- the aliases whose text ends before this token are done; one that ended in a blank
      -- leaves this token open to aliases
      let finished := r.inUse.filter (bs.length ≤ ·.endsAt)
      let aliasCheck := kwd || r.aliasWord || finished.any (·.blankEnd)
      set { r with input := bs, line := r.line + k, aliasWord := false,
                   inUse := r.inUse.filter (bs.length > ·.endsAt) }
      match bs with
      | [] => pure .eof
      | b :: rest =>
        if b == 10 then do
          advance
          let pending := (← get).pending
          modify fun r' => { r' with pending := [] }
          readDocuments n pending
          if skipNewlines then readToken n kwd skipNewlines else pure .newline
        else if b == 38 then do
          advance
          eatContinuations
          if (← peekByte) == some 38 then do advance; pure .andIf else pure .amp
        else if b == 124 then do
          advance
          eatContinuations
          if (← peekByte) == some 124 then do advance; pure .orIf else pure .pipe
        else if b == 59 then do
          advance
          eatContinuations
          if (← peekByte) == some 59 then do advance; pure .dsemi else pure .semi
        else if b == 40 then do advance; pure .lparen
        else if b == 41 then do advance; pure .rparen
        else if b == 60 || b == 62 then readRedirOp none
        else if isDigit b && (match (dropContinuations rest 0).1 with
            | c :: _ => c == 60 || c == 62
            | [] => false) then do
          advance
          readRedirOp (some (b.toNat - 48))
        else do
          let ps ← readWordIn n (.plain false) []
          match (wordToken ps).classify kwd with
          | .word ps (some text) false =>
            let r' ← get
            let name := asciiText text
            match (if aliasCheck then r'.aliases.lookup name else none) with
            | some value =>
              if r'.inUse.any (·.name == name) then pure (.word ps (some text) false)
              else do
                let blank := value.getLast? == some 32 || value.getLast? == some 9
                set { r' with input := value ++ r'.input, aliasWord := true,
                              inUse := ⟨name, r'.input.length, blank⟩ :: r'.inUse }
                readToken n kwd skipNewlines
            | none => pure (.word ps (some text) false)
          | t => pure t

def parseList : Nat → Bool → Bool → Option Command → ReadM (Option Command)
  | 0, _, _, _ => outOfSteps
  | n + 1, top, checkEnd, acc => do
    let t ← readToken n true (!top)
    match t with
    | .newline => pure acc
    | .eof => do pushBack .eof; pure acc
    | t => do
      pushBack t
      if checkEnd && t.endsList then pure acc
      else do
        let c ← parseAndOr n
        let sep ← readToken n false false
        let c := match sep with
          | .amp => Command.background c
          | _ => c
        let acc' := some (match acc with
          | some a => Command.sequence a c
          | none => c)
        match sep with
        | .amp | .semi => parseList n top (!top) acc'
        | .newline | .eof => do
          pushBack sep
          parseList n top (!top) acc'
        | sep =>
          if top then unexpected sep
          else do
            pushBack sep
            pure acc'

def parseAndOr : Nat → ReadM Command
  | 0 => outOfSteps
  | n + 1 => do
    let c ← parsePipeline n false false
    parseAndOrRest n c

def parseAndOrRest : Nat → Command → ReadM Command
  | 0, _ => outOfSteps
  | n + 1, c => do
    let t ← readToken n false false
    match t with
    | .andIf => do
      let c2 ← parsePipeline n true true
      parseAndOrRest n (.andThen c c2)
    | .orIf => do
      let c2 ← parsePipeline n true true
      parseAndOrRest n (.orElse c c2)
    | t => do
      pushBack t
      pure c

def parsePipeline : Nat → Bool → Bool → ReadM Command
  | 0, _, _ => outOfSteps
  | n + 1, kwd, skipNewlines => do
    let t ← readToken n kwd skipNewlines
    let negate := t.isKeyword "!"
    let first ← if negate then parseCommand n true false
      else do pushBack t; parseCommand n false false
    let parts ← parsePipes n [first]
    match parts, negate with
    | [c], false => pure c
    | ps, neg => pure (.pipeline neg ps)

def parsePipes : Nat → List Command → ReadM (List Command)
  | 0, _ => outOfSteps
  | n + 1, acc => do
    let t ← readToken n false false
    match t with
    | .pipe => do
      let c ← parseCommand n true true
      parsePipes n (acc ++ [c])
    | t => do
      pushBack t
      pure acc

def expectKeyword : Nat → String → ReadM Unit
  | 0, _ => outOfSteps
  | n + 1, k => do
    let t ← readToken n false false
    if t.isKeyword k then pure () else expecting t ("\"" ++ k ++ "\"")

def parseRedirects : Nat → List Redirect → ReadM (List Redirect)
  | 0, _ => outOfSteps
  | n + 1, acc => do
    let t ← readToken n true false
    match t with
    | .redir fd op => do
      let r ← parseRedirect n fd op
      parseRedirects n (acc ++ [r])
    | t => do
      pushBack t
      pure acc

def parseCommand : Nat → Bool → Bool → ReadM Command
  | 0, _, _ => outOfSteps
  | n + 1, kwd, skipNewlines => do
    let line := (← get).line
    let t ← readToken n kwd skipNewlines
    match t with
    | .keyword "if" => do
      let cond ← parseList n false false none
      expectKeyword n "then"
      let body ← parseList n false false none
      let otherwise ← parseElse n
      expectKeyword n "fi"
      let rs ← parseRedirects n []
      pure (.ifThen (cond.getD .nothing) (body.getD .nothing) otherwise rs)
    | .keyword "while" => parseLoop n false
    | .keyword "until" => parseLoop n true
    | .keyword "for" => parseFor n line
    | .keyword "case" => parseCase n line
    | .lparen => do
      let body ← parseList n false false none
      let t ← readToken n false false
      match t with
      | .rparen => do
        let rs ← parseRedirects n []
        pure (.subshell (body.getD .nothing) rs)
      | t => expecting t "\")\""
    | .keyword "\x7b" => do
      let body ← parseList n false false none
      expectKeyword n "\x7d"
      let rs ← parseRedirects n []
      pure (.group (body.getD .nothing) rs)
    | .word .. | .redir .. => do
      pushBack t
      parseSimple n (← get).line [] [] []
    | t => unexpected t

def parseElse : Nat → ReadM (Option Command)
  | 0 => outOfSteps
  | n + 1 => do
    let t ← readToken n false false
    if t.isKeyword "elif" then do
      let cond ← parseList n false false none
      expectKeyword n "then"
      let body ← parseList n false false none
      let otherwise ← parseElse n
      pure (some (.ifThen (cond.getD .nothing) (body.getD .nothing) otherwise []))
    else if t.isKeyword "else" then parseList n false false none
    else do
      pushBack t
      pure none

def parseLoop : Nat → Bool → ReadM Command
  | 0, _ => outOfSteps
  | n + 1, untilDone => do
    let cond ← parseList n false false none
    expectKeyword n "do"
    let body ← parseList n false false none
    expectKeyword n "done"
    let rs ← parseRedirects n []
    pure (.loop untilDone (cond.getD .nothing) (body.getD .nothing) rs)

def parseFor : Nat → Nat → ReadM Command
  | 0, _ => outOfSteps
  | n + 1, line => do
    let t ← readToken n false false
    let name ← match forVariable t with
      | some name => pure name
      | none => syntaxError "Bad for loop variable"
    let t ← readToken n true true
    let words ←
      if t.isKeyword "in" then do
        let (ws, last) ← parseWords n []
        match last with
        | .newline | .semi => pure ws
        | last => unexpected last
      else do
        match t with
        | .semi => pure ()
        | t => pushBack t
        pure [allParams]
    let t ← readToken n true true
    if !t.isKeyword "do" then expecting t "\"do\""
    else do
      let body ← parseList n false false none
      expectKeyword n "done"
      let rs ← parseRedirects n []
      pure (.forIn line name words (body.getD .nothing) rs)

def parseWords : Nat → List (List Piece) → ReadM (List (List Piece) × Token)
  | 0, _ => outOfSteps
  | n + 1, acc => do
    let t ← readToken n false false
    match t with
    | .word ps _ _ => parseWords n (acc ++ [ps])
    | t => pure (acc, t)

def parseCase : Nat → Nat → ReadM Command
  | 0, _ => outOfSteps
  | n + 1, line => do
    let t ← readToken n false false
    let word ← match t with
      | .word ps _ _ => pure ps
      | t => expecting t "word"
    let t ← readToken n true true
    if !t.isKeyword "in" then expecting t "\"in\""
    else do
      let arms ← parseArms n []
      let rs ← parseRedirects n []
      pure (.caseOf line word arms rs)

def parseArms : Nat → List CaseArm → ReadM (List CaseArm)
  | 0, _ => outOfSteps
  | n + 1, acc => do
    let t ← readToken n true true
    if t.isKeyword "esac" then pure acc
    else do
      let t ← match t with
        | .lparen => readToken n false false
        | t => pure t
      let pats ← parsePatterns n t []
      let body ← parseList n false true none
      let arm := CaseArm.arm pats body
      let t ← readToken n true true
      if t.isKeyword "esac" then pure (acc ++ [arm])
      else match t with
        | .dsemi => parseArms n (acc ++ [arm])
        | t => expecting t "\";;\""

def parsePatterns : Nat → Token → List (List Piece) → ReadM (List (List Piece))
  | 0, _, _ => outOfSteps
  | n + 1, t, acc => do
    let pat := match t with
      | .word ps _ _ => ps
      | .keyword k => [Piece.lit (bytes k)]
      | _ => []
    let acc := acc ++ [pat]
    let t ← readToken n false false
    match t with
    | .pipe => do
      let t ← readToken n false false
      parsePatterns n t acc
    | .rparen => pure acc
    | t => expecting t "\")\""

def parseSimple : Nat → Nat → List (String × List Piece) → List (List Piece) → List Redirect →
    ReadM Command
  | 0, _, _, _, _ => outOfSteps
  | n + 1, line, assigns, words, rs => do
    modify fun r => { r with aliasWord := words.isEmpty }
    let t ← readToken n false false
    match t with
    | .word ps _ _ =>
      match words, assignmentOf ps with
      | [], some a => parseSimple n line (assigns ++ [a]) words rs
      | _, _ => parseSimple n line assigns (words ++ [ps]) rs
    | .redir fd op => do
      let r ← parseRedirect n fd op
      parseSimple n line assigns words (rs ++ [r])
    | .lparen =>
      match assigns, words, rs with
      | [], [w], [] => do
        let t ← readToken n false false
        match t with
        | .rparen =>
          match plainText w with
          | some text =>
            if isName text && !specialBuiltins.contains (asciiText text) then do
              let defLine := (← get).line
              let body ← parseCommand n true true
              pure (.function defLine (asciiText text) body)
            else syntaxError "Bad function name"
          | none => syntaxError "Bad function name"
        | t => expecting t "\")\""
      | _, _, _ => do
        pushBack t
        pure (.simple line assigns words rs)
    | t => do
      pushBack t
      pure (.simple line assigns words rs)

def parseRedirect : Nat → Option Nat → RedirOp → ReadM Redirect
  | 0, _, _ => outOfSteps
  | n + 1, fd, op =>
    match op with
    | .here strip => do
      let r ← get
      let (bs, k) := dropBlanks r.input 0
      set { r with input := bs, line := r.line + k }
      match bs with
      | b :: _ =>
        if isWordEnd b then do
          let t ← readToken n false false
          unexpected t
        else do
          let ps ← readWordIn n (.plain true) []
          let r ← get
          let id := r.nextDoc
          set { r with nextDoc := id + 1,
                       pending := r.pending ++ [PendingDoc.mk id (unquotedText ps) (ps.any Piece.isQuoting) strip] }
          pure (.here (fd.getD 0) id)
      | [] => unexpected .eof
    | .dup input => do
      let t ← readToken n false false
      match t with
      | .word ps _ _ => pure (.dup (fd.getD (if input then 0 else 1)) input ps)
      | t => unexpected t
    | .file mode => do
      let t ← readToken n false false
      match t with
      | .word ps _ _ => pure (.file (fd.getD (if mode == .read || mode == .readWrite then 0 else 1)) mode ps)
      | t => unexpected t

end

mutual

def fillPiece (docs : List (Nat × List Piece)) : Piece → Piece
  | .double ps => .double (fillPieces docs ps)
  | .param name op => .param name (fillOp docs op)
  | .command c => .command (fillCommand docs c)
  | .arith ps => .arith (fillPieces docs ps)
  | p => p

def fillPieces (docs : List (Nat × List Piece)) : List Piece → List Piece
  | [] => []
  | p :: ps => fillPiece docs p :: fillPieces docs ps

def fillWords (docs : List (Nat × List Piece)) : List (List Piece) → List (List Piece)
  | [] => []
  | w :: ws => fillPieces docs w :: fillWords docs ws

def fillAssigns (docs : List (Nat × List Piece)) :
    List (String × List Piece) → List (String × List Piece)
  | [] => []
  | (name, w) :: rest => (name, fillPieces docs w) :: fillAssigns docs rest

def fillOp (docs : List (Nat × List Piece)) : ParamOp → ParamOp
  | .useDefault c w => .useDefault c (fillPieces docs w)
  | .assignDefault c w => .assignDefault c (fillPieces docs w)
  | .errorIfUnset c w => .errorIfUnset c (fillPieces docs w)
  | .useAlternative c w => .useAlternative c (fillPieces docs w)
  | .removeSuffix l w => .removeSuffix l (fillPieces docs w)
  | .removePrefix l w => .removePrefix l (fillPieces docs w)
  | .bad w => .bad (fillPieces docs w)
  | op => op

def fillRedirect (docs : List (Nat × List Piece)) : Redirect → Redirect
  | .file fd m t => .file fd m (fillPieces docs t)
  | .dup fd i t => .dup fd i (fillPieces docs t)
  | .here fd id => .hereBody fd ((docs.lookup id).getD [])
  | .hereBody fd b => .hereBody fd (fillPieces docs b)

def fillRedirects (docs : List (Nat × List Piece)) : List Redirect → List Redirect
  | [] => []
  | r :: rs => fillRedirect docs r :: fillRedirects docs rs

def fillCommand (docs : List (Nat × List Piece)) : Command → Command
  | .simple l as ws rs => .simple l (fillAssigns docs as) (fillWords docs ws) (fillRedirects docs rs)
  | .pipeline neg ps => .pipeline neg (fillCommands docs ps)
  | .andThen a b => .andThen (fillCommand docs a) (fillCommand docs b)
  | .orElse a b => .orElse (fillCommand docs a) (fillCommand docs b)
  | .sequence a b => .sequence (fillCommand docs a) (fillCommand docs b)
  | .background a => .background (fillCommand docs a)
  | .subshell b rs => .subshell (fillCommand docs b) (fillRedirects docs rs)
  | .group b rs => .group (fillCommand docs b) (fillRedirects docs rs)
  | .ifThen c b o rs =>
    .ifThen (fillCommand docs c) (fillCommand docs b) (fillOption docs o) (fillRedirects docs rs)
  | .loop u c b rs => .loop u (fillCommand docs c) (fillCommand docs b) (fillRedirects docs rs)
  | .forIn l name ws b rs => .forIn l name (fillWords docs ws) (fillCommand docs b) (fillRedirects docs rs)
  | .caseOf l w arms rs => .caseOf l (fillPieces docs w) (fillArms docs arms) (fillRedirects docs rs)
  | .function l name b => .function l name (fillCommand docs b)
  | .nothing => .nothing

def fillCommands (docs : List (Nat × List Piece)) : List Command → List Command
  | [] => []
  | c :: cs => fillCommand docs c :: fillCommands docs cs

def fillOption (docs : List (Nat × List Piece)) : Option Command → Option Command
  | none => none
  | some c => some (fillCommand docs c)

def fillArms (docs : List (Nat × List Piece)) : List CaseArm → List CaseArm
  | [] => []
  | .arm ps b :: rest => .arm (fillWords docs ps) (fillOption docs b) :: fillArms docs rest

end

def nextCommandIn (n : Nat) : ReadM (Option (Option Command)) := do
  let t ← readToken n true false
  match t with
  | .eof => pure none
  | t => do
    pushBack t
    let c ← parseList n true false none
    let docs := (← get).docs
    pure (some (c.map (fillCommand docs)))

def Reader.ofBytes (script : Bytes) : Reader := { input := script }

/-- Reads the next command of a script: none at its end, and otherwise the command of the next
line (none for an empty line), with the reader after it. The steps allowed grow with the input
left, which bounds every chain of calls of the reader. -/
def Reader.next (r : Reader) : Except SyntaxError (Option (Option Command) × Reader) :=
  let aliasText := r.aliases.foldl (fun n a => n + a.2.length + 1) 0
  (nextCommandIn (16 * (r.input.length + 1) * (aliasText + 1) + 256)).run r

end LintBridge.Host.Shell
