import LintBridge.Host.Printf.Conversion
import LintBridge.Host.Printf.Escape
import LintBridge.Host.Printf.Quote
/-!
# `printf`

The shell's builtin and the standalone program: a format with its conversions filled from the
arguments, written again while arguments are left. The two share their core and differ in
escapes, in `%q` and in how they treat a bad conversion.
-/

namespace LintBridge.Host

/-- Which `printf` runs. -/
inductive Dialect where
  /-- The shell's builtin. -/
  | shell
  /-- The standalone program. -/
  | tool
  deriving DecidableEq, Repr

/-- Where a run of `printf` stands. -/
structure PrintfRun where
  out : Bytes := []
  args : List Bytes
  /-- Whether any argument has been used. -/
  used : Bool := false
  /-- The messages written, without the program's name. -/
  messages : List Bytes := []
  status : Nat := 0
  /-- Set when output stops for good: `some` status after an error, or the current status
  after `\c`. -/
  halted : Bool := false

/-- Adds bytes to the output. -/
def PrintfRun.emit (r : PrintfRun) (bs : Bytes) : PrintfRun := { r with out := r.out ++ bs }

def PrintfRun.warn (r : PrintfRun) (msg : Bytes) : PrintfRun :=
  { r with messages := r.messages ++ [msg], status := 1 }

/-- Stops with an error and a status. -/
def PrintfRun.fail (r : PrintfRun) (msg : Bytes) (status : Nat) : PrintfRun :=
  { r with messages := r.messages ++ [msg], status := status, halted := true }

def PrintfRun.next? (r : PrintfRun) : Option Bytes × PrintfRun :=
  match r.args with
  | a :: rest => (some a, { r with args := rest, used := true })
  | [] => (none, r)

/-- How an argument is named in a warning. -/
def Dialect.name (d : Dialect) (a : Bytes) : Bytes :=
  match d with
  | .shell => a
  | .tool => messageQuote a

/-- Checks how much of an argument a number reader used, and warns as the dialect does. -/
def PrintfRun.check (r : PrintfRun) (d : Dialect) (a : Bytes) (used : Nat) (range : Bool) :
    PrintfRun :=
  let whole := used = a.length
  let notNumber := if used = 0 then bytes ": expected " ++ bytes (if d = .tool then "a " else "") ++ bytes "numeric value"
    else bytes (if d = .tool then ": value not completely converted" else ": not completely converted")
  match d with
  | .shell =>
    if !whole then r.warn (d.name a ++ notNumber)
    else if range then r.warn (d.name a ++ bytes ": Numerical result out of range")
    else r
  | .tool =>
    if range then r.warn (d.name a ++ bytes ": Numerical result out of range")
    else if !whole then r.warn (d.name a ++ notNumber)
    else r

def PrintfRun.charConstant (r : PrintfRun) (d : Dialect) (a : Bytes) : Option (Nat × PrintfRun) :=
  match a with
  | q :: rest =>
    if q == 39 || q == 34 then
      match d, rest with
      | .shell, _ => some ((rest.headD 0).toNat, r)
      | .tool, c :: more =>
        let r := if more.isEmpty then r else
          { r with messages := r.messages ++
            [bytes "warning: " ++ more ++ bytes ": character(s) following character constant have been ignored"] }
        some (c.toNat, r)
      | .tool, [] => none
    else none
  | [] => none

def PrintfRun.intArg (r : PrintfRun) (d : Dialect) : Int × PrintfRun :=
  match r.next? with
  | (none, r) => (0, r)
  | (some a, r) =>
    match r.charConstant d a with
    | some (v, r) => (v, r)
    | none =>
      let n := readIntmax a
      (n.value, r.check d a n.used n.outOfRange)

def PrintfRun.uintArg (r : PrintfRun) (d : Dialect) : Nat × PrintfRun :=
  match r.next? with
  | (none, r) => (0, r)
  | (some a, r) =>
    match r.charConstant d a with
    | some (v, r) => (v, r)
    | none =>
      let n := readUintmax a
      (n.value, r.check d a n.used n.outOfRange)

def PrintfRun.floatArg (r : PrintfRun) (d : Dialect) (f : FloatFormat) : FloatValue × PrintfRun :=
  match r.next? with
  | (none, r) => (.finite false 0 0, r)
  | (some a, r) =>
    match r.charConstant d a with
    | some (v, r) => (.finite false v 0, r)
    | none =>
      let n := readFloat f a
      (n.value, r.check d a n.used n.outOfRange)

def PrintfRun.countArg (r : PrintfRun) (d : Dialect) : Int × PrintfRun :=
  let (v, r) := r.intArg d
  (max (min v 2147483647) (-2147483648), r)

def readFlags (d : Dialect) (spec : Spec) : Bytes → Spec × Bytes × List UInt8
  | 45 :: rest => let (s, r, fs) := readFlags d { spec with left := true } rest; (s, r, 45 :: fs)
  | 43 :: rest => let (s, r, fs) := readFlags d { spec with plus := true } rest; (s, r, 43 :: fs)
  | 32 :: rest => let (s, r, fs) := readFlags d { spec with space := true } rest; (s, r, 32 :: fs)
  | 35 :: rest => let (s, r, fs) := readFlags d { spec with alt := true } rest; (s, r, 35 :: fs)
  | 48 :: rest => let (s, r, fs) := readFlags d { spec with zero := true } rest; (s, r, 48 :: fs)
  | b :: rest =>
    if d = .tool && (b == 39 || b == 73) then
      let (s, r, fs) := readFlags d spec rest
      (s, r, b :: fs)
    else (spec, b :: rest, [])
  | [] => (spec, [], [])

/-- Reads a width or precision: `*` for the next argument, or digits. Gives the count (none
for no count, negative from an argument), what is left of the format, and the run. -/
def readCount (r : PrintfRun) (d : Dialect) : Bytes → Option Int × Bytes × PrintfRun
  | 42 :: rest =>
    let (v, r) := r.countArg d
    (some v, rest, r)
  | bs =>
    let ds := bs.takeWhile isDigitByte
    if ds.isEmpty then (none, bs, r)
    else (some (readDigitsIn 10 ds).1, bs.drop ds.length, r)

/-- The conversion letters each `printf` knows. -/
def Dialect.knows (d : Dialect) (c : UInt8) : Bool :=
  (bytes "bcsdiouxXeEfFgGaA").contains c || (d = .tool && c == 113)

def flagsFit (flags : List UInt8) (hasPrecision : Bool) (c : UInt8) : Bool :=
  let ch := Char.ofNat c.toNat
  !(flags.contains 35 && "cdisu".contains ch) && !(flags.contains 48 && "cs".contains ch) &&
    !((flags.contains 39 || flags.contains 73) && "aAceEosxX".contains ch) &&
    !(hasPrecision && ch == 'c')

/-- One conversion: its letter `c`, its spec and the text of the directive for messages. -/
def PrintfRun.convert (r : PrintfRun) (d : Dialect) (spec : Spec) (c : UInt8) : PrintfRun :=
  let ch := Char.ofNat c.toNat
  if ch = 's' then
    let (a, r) := r.next?
    r.emit (spec.text (a.getD []))
  else if ch = 'b' then
    let (a, r) := r.next?
    match d with
    | .shell =>
      let (bs, stop) := shellText (a.getD [])
      let r := r.emit (spec.text bs)
      if stop then { r with halted := true } else r
    | .tool =>
      match toolTextFuel ((a.getD []).length + 1) (a.getD []) with
      | .ok (bs, stop) =>
        let r := r.emit bs
        if stop then { r with halted := true, status := 0 } else r
      | .error msg => r.fail (bytes msg) 1
  else if ch = 'q' then
    let (a, r) := r.next?
    match a with
    | some a => r.emit (shellQuote a)
    | none => r
  else if ch = 'c' then
    let (a, r) := r.next?
    r.emit (spec.pad [(a.getD []).headD 0])
  else if ch = 'd' ∨ ch = 'i' then
    let (v, r) := r.intArg d
    r.emit (spec.signed v)
  else if ch = 'o' ∨ ch = 'u' ∨ ch = 'x' ∨ ch = 'X' then
    let (v, r) := r.uintArg d
    r.emit (spec.unsigned ch v)
  else
    let (format, layout) := match d with
      | .shell => (FloatFormat.double, HexLayout.double)
      | .tool => (FloatFormat.extended, HexLayout.extended)
    let (v, r) := r.floatArg d format
    r.emit (spec.float layout ch v)

def isCountByte (b : UInt8) : Bool := isDigitByte b || b == 42

def shellCounts (bs : Bytes) : Bool × Option Bool × Bytes :=
  let (widthStar, afterStar) := match bs with
    | 42 :: more => (true, more)
    | _ => (false, bs)
  match afterStar.dropWhile isCountByte with
  | 46 :: more =>
    let (precStar, afterPrec) := match more with
      | 42 :: rest => (true, rest)
      | _ => (false, more)
    (widthStar, some precStar, afterPrec.dropWhile isCountByte)
  | rest => (widthStar, none, rest)

def libcCounts (widthValue precValue : Int) (text : Bytes) : Int × Option Nat × Bytes :=
  let (width, afterWidth) := match text with
    | 42 :: more => (widthValue, more)
    | _ =>
      let ds := text.takeWhile isDigitByte
      ((readDigitsIn 10 ds).1, text.drop ds.length)
  match afterWidth with
  | 46 :: more =>
    match more with
    | 42 :: rest => (width, (if precValue < 0 then none else some precValue.toNat), rest)
    | _ =>
      let ds := more.takeWhile isDigitByte
      (width, some (readDigitsIn 10 ds).1, more.drop ds.length)
  | rest => (width, none, rest)

def unreadDirective (spec : Spec) (stray : UInt8) (after : Bytes) (c : UInt8) : Bytes :=
  let flags := (if spec.alt then [35] else []) ++
    (if spec.plus then [43] else if spec.space then [32] else []) ++
    (if spec.left then [45] else []) ++ (if spec.zero then [48] else [])
  let width := if spec.width = 0 then [] else bytes (toString spec.width)
  let precision := match spec.precision with
    | some p => 46 :: bytes (toString p)
    | none => []
  let length : Bytes := if (bytes "diouxX").contains c then [108] else []
  let conversion := if c == 98 then 115 else c
  (37 :: flags) ++ width ++ precision ++ stray :: after ++ length ++ [conversion]

def PrintfRun.shellDirective (r : PrintfRun) (rest : Bytes) : PrintfRun × Bytes :=
  let (spec, afterFlags, _) := readFlags .shell {} rest
  let (widthStar, precStar, afterCounts) := shellCounts afterFlags
  let counts := afterFlags.take (afterFlags.length - afterCounts.length)
  let (widthValue, r) := if widthStar then r.countArg .shell else (0, r)
  let (precValue, r) := if precStar == some true then r.countArg .shell else (0, r)
  match afterCounts with
  | [] => (r.fail (bytes "missing format character") 2, [])
  | c :: more =>
    let directive := 37 :: rest.take (rest.length - more.length)
    if !Dialect.shell.knows c then (r.fail (directive ++ bytes ": invalid directive") 2, more)
    else
      let (width, precision, stray) := libcCounts widthValue precValue counts
      let spec := if width < 0 then { spec with left := true, width := width.natAbs }
        else { spec with width := width.toNat }
      let spec := { spec with precision := precision }
      let done := r.convert .shell spec c
      match stray with
      | [] => (done, more)
      | s :: after => ({ done with out := r.out ++ unreadDirective spec s after c }, more)

/-- Writes the format once. `fuel` bounds the steps; each takes at least one byte. -/
def PrintfRun.pass (d : Dialect) : Nat → Bytes → PrintfRun → PrintfRun
  | 0, _, r => r
  | _ + 1, [], r => r
  | fuel + 1, 92 :: rest, r =>
    match d with
    | .shell =>
      let (bs, more) := shellFormatEscape rest
      PrintfRun.pass d fuel more (r.emit bs)
    | .tool =>
      match toolEscape false rest with
      | .ok (bs, more, stop) =>
        let r := r.emit bs
        if stop then { r with halted := true, status := 0 } else PrintfRun.pass d fuel more r
      | .error msg => r.fail (bytes msg) 1
  | fuel + 1, 37 :: 37 :: rest, r => PrintfRun.pass d fuel rest (r.emit [37])
  | fuel + 1, 37 :: rest, r =>
    if d = .shell then
      let (r, more) := r.shellDirective rest
      if r.halted then r else PrintfRun.pass d fuel more r
    else if rest.head? == some 98 || rest.head? == some 113 then
      let r := r.convert d {} (rest.headD 0)
      if r.halted then r else PrintfRun.pass d fuel (rest.drop 1) r
    else
      let (spec, afterFlags, flags) := readFlags d {} rest
      let (width, afterWidth, r) := readCount r d afterFlags
      let (precision, afterPrec, r) := match afterWidth with
        | 46 :: more =>
          let (p, more, r) := readCount r d more
          (some (p.getD 0), more, r)
        | _ => (none, afterWidth, r)
      let afterLength := if d = .tool then
          afterPrec.dropWhile fun b => (bytes "lLhjtz").contains b
        else afterPrec
      let spec := match width with
        | some w => if w < 0 then { spec with left := true, width := w.natAbs } else { spec with width := w.toNat }
        | none => spec
      let spec := match precision with
        | some p => if p < 0 then spec else { spec with precision := some p.toNat }
        | none => spec
      let directive := 37 :: rest.take (rest.length - afterLength.length)
      match afterLength with
      | [] =>
        match d with
        | .shell => r.fail (bytes "missing format character") 2
        | .tool => r.fail (directive ++ bytes ": invalid conversion specification") 1
      | c :: more =>
        let directive := directive ++ [c]
        if !d.knows c || (d = .tool && (c == 98 || c == 113 || !flagsFit flags precision.isSome c)) then
          match d with
          | .shell => r.fail (directive ++ bytes ": invalid directive") 2
          | .tool => r.fail (directive ++ bytes ": invalid conversion specification") 1
        else
          let r := r.convert d spec c
          if r.halted then r else PrintfRun.pass d fuel more r
  | fuel + 1, b :: rest, r => PrintfRun.pass d fuel rest (r.emit [b])

/-- Writes the format again while arguments are left and some have been used. -/
def PrintfRun.passes (d : Dialect) (fmt : Bytes) : Nat → PrintfRun → PrintfRun
  | 0, r => r
  | fuel + 1, r =>
    let before := r.args.length
    let r := PrintfRun.pass d (fmt.length + 1) fmt r
    if r.halted || r.args.isEmpty || r.args.length == before then r
    else PrintfRun.passes d fmt fuel r

/-- What a run of `printf` ends with: its output, its messages and its status. -/
structure PrintfResult where
  out : Bytes
  messages : List Bytes
  status : Nat

def printfRun (d : Dialect) (fmt : Bytes) (args : List Bytes) : PrintfResult :=
  let r := PrintfRun.passes d fmt (args.length + 1) { args := args }
  let r := if d = .tool && !r.halted && !r.args.isEmpty then
      { r with messages := r.messages ++
        [bytes "warning: ignoring excess arguments, starting with " ++ messageQuote (r.args.headD [])] }
    else r
  ⟨r.out, r.messages, r.status⟩

end LintBridge.Host
