import LintBridge.Config.Toml.Reader
import LintBridge.Config.Toml.Value
import LintBridge.Number.Binary64
/-!
# TOML keys, strings, numbers, dates and times

Readers for the pieces of a TOML line that hold no other value. Each stops softly when its first
characters are not there, and hard once the text has shown what it is and then goes wrong.
-/

namespace LintBridge.Config.Toml

open Reader

/-! ## Blanks, comments and line endings -/

/-- A space or a tab. -/
def isBlank (c : Char) : Bool := c == ' ' || c == '\t'

def isNonAscii (c : Char) : Bool := c.toNat ≥ 0x80

/-- Spaces and tabs, maybe none. -/
def blanks : Reader (List Char) := takeWhile 0 none isBlank

/-- A line feed, or a carriage return and a line feed. -/
def newline : Reader Unit :=
  first [(fun _ => ()) <$> char '\n', do let _ ← char '\r'; let _ ← char '\n'; pure ()]

def isCommentChar (c : Char) : Bool :=
  c == '\t' || (c.toNat ≥ 0x20 && c.toNat ≤ 0x7E) || isNonAscii c

/-- `#` and the rest of the line. -/
def comment : Reader (List Char) := text (do let _ ← char '#'; takeWhile 0 none isCommentChar)

def lineEnding : Reader Unit := first [newline, atEnd]

def lineTrailing : Reader Unit := do
  let _ ← blanks
  let _ ← optional comment
  lineEnding

def blankRun : Reader Unit :=
  (fun _ => ()) <$> many (first [newline, (fun _ => ()) <$> takeWhile 1 none isBlank])

/-- A line ending, then blanks and line endings. -/
def newlines : Reader Unit := do
  newline
  blankRun

def blankLinesLoop : Nat → Reader Unit
  | 0 => pure ()
  | fuel + 1 => fun cs =>
    let after := cs.dropWhile isBlank
    let step : Option (Reader Unit) := match after with
      | '#' :: _ => some (do let _ ← comment; newline)
      | '\n' :: _ => some newline
      | '\r' :: _ => some newline
      | _ => none
    match step with
    | none => .done () after
    | some r =>
      match r after with
      | .done _ rest => if rest.length < cs.length then blankLinesLoop fuel rest else .done () rest
      | .soft e rest => .soft e rest
      | .hard e rest => .hard e rest

def blankLines : Reader Unit := fun cs => blankLinesLoop (cs.length + 1) cs

/-! ## Keys -/

/-- A key: its name, and the text it was written as. -/
structure Key where
  name : String
  raw : String
  deriving Repr, Inhabited

def isBareKeyChar (c : Char) : Bool :=
  (c.toNat ≥ 0x41 && c.toNat ≤ 0x5A) || (c.toNat ≥ 0x61 && c.toNat ≤ 0x7A) ||
    (c.toNat ≥ 0x30 && c.toNat ≤ 0x39) || c == '-' || c == '_'

/-- An ASCII digit. -/
def isDigit (c : Char) : Bool := c.toNat ≥ 0x30 && c.toNat ≤ 0x39

def isHex (c : Char) : Bool :=
  isDigit c || (c.toNat ≥ 0x41 && c.toNat ≤ 0x46) || (c.toNat ≥ 0x61 && c.toNat ≤ 0x66)

/-- The value of a digit in base 16 or less. -/
def digitValue (c : Char) : Nat :=
  if c.toNat ≤ 0x39 then c.toNat - 0x30 else if c.toNat ≤ 0x46 then c.toNat - 0x37 else c.toNat - 0x57

/-- The value of digits in a base. -/
def digitsIn (base : Nat) (ds : List Char) : Nat :=
  ds.foldl (fun n c => base * n + digitValue c) 0

/-! ## Strings -/

def isBasicChar (c : Char) : Bool :=
  c == ' ' || c == '\t' || c == '!' || (c.toNat ≥ 0x23 && c.toNat ≤ 0x5B) ||
    (c.toNat ≥ 0x5D && c.toNat ≤ 0x7E) || isNonAscii c

def isScalar (n : Nat) : Bool := n < 0xD800 || (0xE000 ≤ n && n ≤ 0x10FFFF)

def hexEscape (n : Nat) : Reader Char :=
  tryMap (verify (takeWhile 0 (some n) isHex) (·.length == n)) fun ds =>
    let v := digitsIn 16 ds
    if isScalar v then .ok (Char.ofNat v) else .error "value is out of range"

/-- What the character after a backslash stands for. -/
def escapeChar : Reader Char := fun cs =>
  match cs with
  | [] => .soft {} cs
  | c :: rest =>
    match c with
    | 'b' => .done (Char.ofNat 8) rest
    | 'f' => .done (Char.ofNat 12) rest
    | 'n' => .done '\n' rest
    | 'r' => .done '\r' rest
    | 't' => .done '\t' rest
    | '\\' => .done '\\' rest
    | '"' => .done '"' rest
    | 'u' => label "unicode 4-digit hex code" (commit (hexEscape 4)) rest
    | 'U' => label "unicode 8-digit hex code" (commit (hexEscape 8)) rest
    | _ =>
      let known := ['b', 'f', 'n', 'r', 't', 'u', 'U', '\\', '"']
      (known.foldl (fun r k => expect (.char k) r) (label "escape sequence" (commit fail))) rest

/-- A backslash and what it stands for. -/
def escaped : Reader Char := do
  let _ ← char '\\'
  escapeChar

def basicChars : Reader String :=
  first [String.ofList <$> takeWhile 1 none isBasicChar, String.singleton <$> escaped]

def basicString : Reader String := do
  let _ ← char '"'
  let parts ← many basicChars
  let _ ← label "basic string" (commit (char '"'))
  pure (String.join parts)

def escapedNewline : Reader Unit :=
  (fun _ => ()) <$> many1 (do let _ ← char '\\'; let _ ← blanks; newlines)

def multiBasicContent : Reader String :=
  first [String.ofList <$> takeWhile 1 none isBasicChar, (fun _ => "") <$> escapedNewline,
    String.singleton <$> escaped, (fun _ => "\n") <$> newline]

def innerQuotes (q : Char) (term : Reader Unit) : Reader String := fun cs =>
  let two := String.ofList [q, q]
  match (do word two; peek term) cs with
  | .done _ rest => .done two rest
  | .hard e rest => .hard e rest
  | .soft _ _ => (do let _ ← char q; peek term; pure (String.singleton q)) cs

def notChar (c : Char) : Reader Unit := (fun _ => ()) <$> charIf (· != c)

def multiBasicTail : Nat → String → Reader String
  | 0, acc => pure acc
  | fuel + 1, acc => fun cs =>
    match optional (innerQuotes '"' (notChar '"')) cs with
    | .done none rest => .done acc rest
    | .done (some q) afterQuotes =>
      match optional multiBasicContent afterQuotes with
      | .done none rest => .done acc rest
      | .done (some c) afterOne =>
        match many multiBasicContent afterOne with
        | .done more rest => multiBasicTail fuel (acc ++ q ++ c ++ String.join more) rest
        | .soft e rest => .soft e rest
        | .hard e rest => .hard e rest
      | .soft e rest => .soft e rest
      | .hard e rest => .hard e rest
    | .soft e rest => .soft e rest
    | .hard e rest => .hard e rest

def multiBasicBody : Reader String := fun cs =>
  match many multiBasicContent cs with
  | .done parts rest =>
    match multiBasicTail (rest.length + 1) (String.join parts) rest with
    | .done body rest =>
      (do
        let q ← optional (innerQuotes '"' (word "\"\"\""))
        pure (body ++ q.getD "")) rest
    | .soft e rest => .soft e rest
    | .hard e rest => .hard e rest
  | .soft e rest => .soft e rest
  | .hard e rest => .hard e rest

def multiBasicString : Reader String :=
  label "multiline basic string" do
    word "\"\"\""
    let _ ← optional newline
    let body ← commit multiBasicBody
    commit (word "\"\"\"")
    pure body

def isLiteralChar (c : Char) : Bool :=
  c == '\t' || (c.toNat ≥ 0x20 && c.toNat ≤ 0x26) || (c.toNat ≥ 0x28 && c.toNat ≤ 0x7E) ||
    isNonAscii c

def literalString : Reader String :=
  label "literal string" do
    let _ ← char '\''
    let body ← commit (takeWhile 0 none isLiteralChar)
    let _ ← commit (char '\'')
    pure (String.ofList body)

def multiLiteralContent : Reader Unit :=
  first [(fun _ => ()) <$> charIf isLiteralChar, newline]

def multiLiteralBody : Reader (List Char) :=
  text do
    let _ ← many multiLiteralContent
    let _ ← many (do let _ ← innerQuotes '\'' (notChar '\''); many1 multiLiteralContent)
    let _ ← optional (innerQuotes '\'' (word "'''"))
    pure ()

def unixLines : List Char → List Char
  | '\r' :: '\n' :: rest => '\n' :: unixLines rest
  | c :: rest => c :: unixLines rest
  | [] => []

def multiLiteralString : Reader String :=
  label "multiline literal string" do
    word "'''"
    let _ ← optional newline
    let body ← commit multiLiteralBody
    commit (word "'''")
    pure (String.ofList (unixLines body))

/-- Any of the four kinds of string. -/
def string : Reader String :=
  first [multiBasicString, basicString, multiLiteralString, literalString]

def simpleKey : Reader Key := fun cs =>
  let named (r : Reader String) : Reader Key :=
    (fun (name, raw) => { name := name, raw := String.ofList raw }) <$> withText r
  match cs with
  | '"' :: _ => named basicString cs
  | '\'' :: _ => named literalString cs
  | _ :: _ => named (String.ofList <$> takeWhile 1 none isBareKeyChar) cs
  | [] => .soft {} cs

def keyDepthLimit : Nat := 80

/-- A key of one or more parts joined by dots, blanks allowed around each part. -/
def key : Reader (List Key) :=
  tryMap (label "key" (sepBy1 (do let _ ← blanks; let k ← simpleKey; let _ ← blanks; pure k) (char '.')))
    fun ks => if ks.length ≥ keyDepthLimit then .error "recursion limit exceeded" else .ok ks

/-! ## Numbers and booleans -/

/-- One ASCII digit. -/
def digit : Reader Unit := (fun _ => ()) <$> charIf isDigit

def underscoreThen (ok : Char → Bool) : Reader Unit := do
  let _ ← char '_'
  let _ ← expect (.description "digit") (commit (charIf ok))
  pure ()

/-- Digits passing `ok`, with single underscores between them. -/
def digitRun (ok : Char → Bool) : Reader Unit := do
  let _ ← charIf ok
  let _ ← many (first [(fun _ => ()) <$> charIf ok, underscoreThen ok])
  pure ()

/-- A sign. -/
def sign : Reader Char := charIf fun c => c == '+' || c == '-'

/-- A decimal integer with an optional sign: `0`, or digits not starting with `0`. -/
def decimalInt : Reader (List Char) :=
  label "integer" (text do
    let _ ← optional sign
    first [do let _ ← charIf (fun c => c.toNat ≥ 0x31 && c.toNat ≤ 0x39)
                 let _ ← many (first [digit, underscoreThen isDigit])
                 pure (),
      digit])

def wordLimit : Nat := Nat.pow 2 63

/-- A signed 64-bit integer from its decimal text. -/
def readInt64 (cs : List Char) : Except String Int :=
  let (neg, ds) := match cs with
    | '-' :: r => (true, r)
    | '+' :: r => (false, r)
    | r => (false, r)
  let v := digitsIn 10 ds
  if neg then
    if v > wordLimit then .error "number too small to fit in target type" else .ok (-(v : Int))
  else if v ≥ wordLimit then .error "number too large to fit in target type" else .ok v

def prefixedInt (pfx : String) (ok : Char → Bool) (what : String) : Reader (List Char) :=
  label what do
    word pfx
    commit (text (digitRun ok))

def basedInt (pfx : String) (base : Nat) (ok : Char → Bool) (what : String) : Reader Int :=
  commit (tryMap (prefixedInt pfx ok what) fun ds =>
    let v := digitsIn base (ds.filter (· != '_'))
    if v ≥ wordLimit then .error "number too large to fit in target type" else .ok v)

/-- An integer: hexadecimal after `0x`, octal after `0o`, binary after `0b`, else decimal. -/
def integer : Reader Int := fun cs =>
  match cs.take 2 with
  | ['0', 'x'] => basedInt "0x" 16 isHex "hexadecimal integer" cs
  | ['0', 'o'] => basedInt "0o" 8 (fun c => c.toNat ≥ 0x30 && c.toNat ≤ 0x37) "octal integer" cs
  | ['0', 'b'] => basedInt "0b" 2 (fun c => c == '0' || c == '1') "binary integer" cs
  | _ =>
    match decimalInt cs with
    | .done ds rest =>
      match readInt64 (ds.filter (· != '_')) with
      | .ok v => .done v rest
      | .error m => .hard { cause := some m } cs
    | .soft e rest => .soft e rest
    | .hard e rest => .hard e rest

def zeroPrefixableInt : Reader Unit := digitRun isDigit

/-- A point and digits. -/
def fraction : Reader Unit := do
  let _ ← char '.'
  expect (.description "digit") (commit zeroPrefixableInt)

/-- `e` or `E`, an optional sign, digits. -/
def exponent : Reader Unit := do
  let _ ← charIf fun c => c == 'e' || c == 'E'
  let _ ← optional sign
  commit zeroPrefixableInt

def floatText : Reader (List Char) :=
  text do
    let _ ← decimalInt
    first [exponent, do fraction; let _ ← optional exponent; pure ()]

/-- Changes the sign of a double. -/
def negate (x : Number.Binary64) : Number.Binary64 := ⟨x.bits ^^^ 0x8000000000000000⟩

def specialFloat : Reader Number.Binary64 := do
  let s ← optional sign
  let v ← first [(fun _ => Number.Binary64.infinity false) <$> word "inf",
    (fun _ => Number.Binary64.nan) <$> word "nan"]
  pure (if s == some '-' then negate v else v)

/-- A float. A finite text whose value is past the largest double upward is refused; one past
it downward reads as negative infinity. -/
def float : Reader Number.Binary64 :=
  label "floating-point number" (first [
    fun cs =>
      match floatText cs with
      | .done ds rest =>
        let x := (Number.readBinary64 (String.ofList (ds.filter (· != '_')))).getD Number.Binary64.nan
        if x.bits == (Number.Binary64.infinity false).bits then .hard {} cs else .done x rest
      | .soft e rest => .soft e rest
      | .hard e rest => .hard e rest,
    specialFloat])

/-- A word that must be spelled out once its first letter is seen. -/
def keyword (w : String) : Reader Unit := do
  let _ ← peek (char (w.toList.headD ' '))
  commit (word w)

/-! ## Dates and times -/

/-- Between `least` and `most` digits, as a number. -/
def digitsValue (least most : Nat) : Reader Nat :=
  (digitsIn 10) <$> takeWhile least (some most) isDigit

def twoDigitsIn (lo hi : Nat) : Reader Nat :=
  tryMap (digitsValue 2 2) fun n => if lo ≤ n && n ≤ hi then .ok n else .error "value is out of range"

def daysIn (year month : Nat) : Nat :=
  let leap := year % 4 == 0 && (year % 100 != 0 || year % 400 == 0)
  if month == 2 then (if leap then 29 else 28)
  else if month == 4 || month == 6 || month == 9 || month == 11 then 30
  else 31

def fullDate : Reader Date := do
  let year ← digitsValue 4 4
  let _ ← char '-'
  let month ← commit (twoDigitsIn 1 12)
  let _ ← commit (char '-')
  fun cs =>
    match commit (twoDigitsIn 1 31) cs with
    | .done day rest =>
      if day ≤ daysIn year month then .done ⟨year, month, day⟩ rest
      else .hard { cause := some "value is out of range" } cs
    | .soft e rest => .soft e rest
    | .hard e rest => .hard e rest

def secondFraction : Reader Nat := do
  let _ ← char '.'
  let ds ← takeWhile 1 none isDigit
  let ds := ds.take 9
  pure (digitsIn 10 ds * Nat.pow 10 (9 - ds.length))

def partialTime : Reader Time := do
  let hour ← twoDigitsIn 0 23
  let _ ← char ':'
  commit do
    let minute ← twoDigitsIn 0 59
    let _ ← char ':'
    let second ← twoDigitsIn 0 60
    let nano ← optional secondFraction
    pure ⟨hour, minute, second, nano.getD 0⟩

def timeOffset : Reader Offset :=
  label "time offset" (first [
    (fun _ => Offset.utc) <$> charIf (fun c => c == 'Z' || c == 'z'),
    do
      let s ← sign
      let (h, m) ← commit do
        let h ← twoDigitsIn 0 23
        let _ ← char ':'
        let m ← twoDigitsIn 0 59
        pure (h, m)
      let minutes : Int := (h * 60 + m : Nat)
      pure (Offset.minutes (if s == '-' then -minutes else minutes))])

def dateTime : Reader Datetime :=
  label "date-time" (first [
    do
      let date ← fullDate
      let rest ← optional do
        let _ ← charIf fun c => c == 'T' || c == 't' || c == ' '
        let t ← partialTime
        let o ← optional timeOffset
        pure (t, o)
      pure (match rest with
        | some (t, o) => { date := some date, time := some t, offset := o }
        | none => { date := some date, time := none, offset := none }),
    (fun t => { date := none, time := some t, offset := none }) <$> partialTime])

end LintBridge.Config.Toml
