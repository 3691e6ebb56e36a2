import LintBridge.Host.Program
import LintBridge.Host.Condition
import LintBridge.Host.Help
import LintBridge.Host.Time.Stamp
import LintBridge.Host.Time.Phrase
import LintBridge.Host.Tools.Grep
import LintBridge.Host.Tools.Translate
import LintBridge.Host.Tools.Expr
import LintBridge.Host.Tools.Sort
import LintBridge.Host.Tools.Listing
import LintBridge.Host.Tools.Identity
import LintBridge.Host.Tools.Lines
import LintBridge.Host.Tools.Dump
/-!
# The standalone programs

The programs of the search path other than the shell and `env`. Each runs on its arguments, its
environment, its input and the files, and gives its output and error streams in order, its
status, the files after it and how much input it left.
-/

namespace LintBridge.Host

/-! ## echo, printf, true, false -/

def isEchoOptions (a : Bytes) : Bool :=
  a.length > 1 && a.head? == some 45 && (a.drop 1).all fun b => b == 110 || b == 101 || b == 69

def echoTool (args : List Bytes) (fs : Files) : ToolRun :=
  let opts := args.takeWhile isEchoOptions
  let words := args.drop opts.length
  let (newline, escapes) := opts.foldl (fun (acc : Bool × Bool) o =>
    (o.drop 1).foldl (fun (acc : Bool × Bool) b =>
      if b == 110 then (false, acc.2) else if b == 101 then (acc.1, true) else (acc.1, false))
      acc) (true, false)
  let text := [32].intercalate words
  let r : ToolRun := { files := fs }
  if escapes then
    let (out, stop) := echoText text
    r.out (if stop || !newline then out else out ++ [10])
  else r.out (if newline then text ++ [10] else text)

def printfTool (argv0 : Bytes) (args : List Bytes) (fs : Files) : ToolRun :=
  let args := match args with
    | a :: rest => if a == bytes "--" then rest else args
    | [] => []
  let r : ToolRun := { files := fs }
  match args with
  | [] => r.usage argv0 (bytes "missing operand")
  | fmt :: rest =>
    let res := printfRun .tool fmt rest
    let r := res.messages.foldl (fun r m => r.err (toolMessage argv0 m)) r
    { (r.out res.out) with status := res.status }

/-! ## cat -/

/-- What `cat` does to the text it copies. -/
structure CatStyle where
  number : Bool := false
  nonblank : Bool := false
  squeeze : Bool := false
  ends : Bool := false
  tabs : Bool := false
  visible : Bool := false

/-- Where `cat` stands between its inputs: the last line number written, and the newlines just
copied (-1 inside a line, 0 at the start of one after text, and more after empty lines). -/
structure CatState where
  lineNo : Nat := 0
  newlines : Int := 0

def catNumber (n : Nat) : Bytes :=
  let s := toString n
  bytes (String.ofList (List.replicate (6 - s.length) ' ') ++ s ++ "\t")

def catVisible (style : CatStyle) (b : UInt8) : Bytes :=
  if b == 9 then (if style.tabs then bytes "^I" else [9])
  else if !style.visible then [b]
  else
    let low := if b ≥ 128 then b - 128 else b
    let shown : Bytes :=
      if low < 32 then [94, low + 64] else if low == 127 then bytes "^?" else [low]
    (if b ≥ 128 then bytes "M-" else []) ++ shown

def catCopy (style : CatStyle) : Bytes → CatState → Bytes → Bytes × CatState
  | [], st, out => (out, st)
  | b :: rest, st, out =>
    if b == 10 then
      let n := st.newlines + 1
      if n ≥ 2 && style.squeeze then catCopy style rest { st with newlines := 2 } out
      else
        let (numbered, lineNo) :=
          if n > 0 && style.number && !style.nonblank then (catNumber (st.lineNo + 1), st.lineNo + 1)
          else ([], st.lineNo)
        catCopy style rest { lineNo := lineNo, newlines := min n 2 }
          (out ++ numbered ++ (if style.ends then [36] else []) ++ [10])
    else
      let (numbered, lineNo) :=
        if st.newlines ≥ 0 && style.number then (catNumber (st.lineNo + 1), st.lineNo + 1)
        else ([], st.lineNo)
      catCopy style rest { lineNo := lineNo, newlines := -1 } (out ++ numbered ++ catVisible style b)

def catOptions : List OptionDecl :=
  [.flag 'A', .flag 'b', .flag 'e', .flag 'E', .flag 'n', .flag 's', .flag 't', .flag 'T',
    .flag 'u', .flag 'v', .named "A" "show-all" .no, .named "b" "number-nonblank" .no,
    .named "E" "show-ends" .no, .named "n" "number" .no, .named "s" "squeeze-blank" .no,
    .named "T" "show-tabs" .no, .named "v" "show-nonprinting" .no] ++ helpOptions

def catTool (argv0 : Bytes) (args : List Bytes) (input : Except OsError Bytes) (fs : Files) :
    ToolRun :=
  let r : ToolRun := { files := fs }
  match readOptions catOptions true args with
  | .error msg => r.usage argv0 msg
  | .ok (found, names) =>
    if found.has "help" || found.has "version" then r.answerAbout "cat" argv0 found
    else
      let style : CatStyle :=
        { number := found.has "n" || found.has "b", nonblank := found.has "b",
          squeeze := found.has "s", ends := found.any fun (k, _) => k == "A" || k == "e" || k == "E",
          tabs := found.any fun (k, _) => k == "A" || k == "t" || k == "T",
          visible := found.any fun (k, _) => k == "A" || k == "e" || k == "t" || k == "v" }
      let names := if names.isEmpty then [bytes "-"] else names
      let (r, _) := names.foldl (fun (acc : ToolRun × CatState) name =>
        let (r, st) := acc
        let content : Except OsError Bytes :=
          if name == bytes "-" then
            match r.inputLeft with
            | some left => .ok left
            | none => input
          else fs.read name.text
        let r := if name == bytes "-" then { r with inputLeft := some [] } else r
        match content with
        | .ok content =>
          let (out, st) := catCopy style content st []
          (r.out out, st)
        | .error e => (r.fail argv0 (fileName name ++ bytes ": " ++ e.bytes), st)) (r, {})
      r

/-! ## Names -/

/-- A path without its trailing slashes, except a lone slash. -/
def dropTrailingSlashes (s : Bytes) : Bytes :=
  let t := (s.reverse.dropWhile (· == 47)).reverse
  if t.isEmpty && !s.isEmpty then [47] else t

def baseName (s : Bytes) (suffix : Bytes) : Bytes :=
  let t := dropTrailingSlashes s
  if t == [47] then t
  else
    let base := (t.reverse.takeWhile (· != 47)).reverse
    if !suffix.isEmpty && suffix.length < base.length && base.drop (base.length - suffix.length) == suffix then
      base.take (base.length - suffix.length)
    else base

def dirName (s : Bytes) : Bytes :=
  let t := dropTrailingSlashes s
  if t == [47] then t
  else if !t.contains 47 then [46]
  else
    let dir := (t.reverse.dropWhile (· != 47)).reverse
    let dir := dropTrailingSlashes dir
    if dir.isEmpty then [47] else dir

def basenameOptions : List OptionDecl :=
  [.flag 'a', .valued 's', .flag 'z', .named "a" "multiple" .no, .named "s" "suffix" .required,
    .named "z" "zero" .no] ++ helpOptions

def basenameTool (argv0 : Bytes) (args : List Bytes) (fs : Files) : ToolRun :=
  let r : ToolRun := { files := fs }
  match readOptions basenameOptions true args with
  | .error msg => r.usage argv0 msg
  | .ok (found, names) =>
    if found.has "help" || found.has "version" then r.answerAbout "basename" argv0 found
    else
      let ending : Bytes := if found.has "z" then [0] else [10]
      let suffix := found.last "s"
      if names.isEmpty then r.usage argv0 (bytes "missing operand")
      else if found.has "a" || suffix.isSome then
        names.foldl (fun r n => r.out (baseName n (suffix.getD []) ++ ending)) r
      else
        match names with
        | [name] => r.out (baseName name [] ++ ending)
        | [name, suffix] => r.out (baseName name suffix ++ ending)
        | _ :: _ :: extra :: _ => r.usage argv0 (bytes "extra operand " ++ messageQuote extra)
        | [] => r

def dirnameTool (argv0 : Bytes) (args : List Bytes) (fs : Files) : ToolRun :=
  let r : ToolRun := { files := fs }
  match readOptions ([.flag 'z', .named "z" "zero" .no] ++ helpOptions) true args with
  | .error msg => r.usage argv0 msg
  | .ok (found, names) =>
    if found.has "help" || found.has "version" then r.answerAbout "dirname" argv0 found
    else if names.isEmpty then r.usage argv0 (bytes "missing operand")
    else names.foldl (fun r a => r.out (dirName a ++ (if found.has "z" then [0] else [10]))) r

/-! ## Environment and time -/

def printenvTool (argv0 : Bytes) (args : List Bytes) (env : List (String × Bytes)) (fs : Files) :
    ToolRun :=
  let r : ToolRun := { files := fs }
  match readOptions ([.flag '0', .named "0" "null" .no] ++ helpOptions) true args with
  | .error msg => r.usageWith 2 argv0 msg
  | .ok (found, names) =>
    if found.has "help" || found.has "version" then r.answerAbout "printenv" argv0 found
    else
      let ending : Bytes := if found.has "0" then [0] else [10]
      if names.isEmpty then env.foldl (fun r (k, v) => r.out (bytes k ++ [61] ++ v ++ ending)) r
      else
        names.foldl (fun r a =>
          match (if a.contains 61 then none else env.lookup a.text) with
          | some v => r.out (v ++ ending)
          | none => { r with status := 1 }) r

def isInterval (a : Bytes) : Bool :=
  let body := match a.getLast? with
    | some c => if c == 115 || c == 109 || c == 104 || c == 100 then a.dropLast else a
    | none => a
  let n := readWritten body
  !body.isEmpty && n.used == body.length &&
    match n.value with
    | .ratio neg num _ => !neg || num == 0
    | .infinite neg | .huge neg => !neg
    | .tiny _ => true
    | .notANumber _ => false

def sleepTool (argv0 : Bytes) (args : List Bytes) (fs : Files) : ToolRun :=
  let r : ToolRun := { files := fs }
  match readOptions helpOptions true args with
  | .error msg => r.usage argv0 msg
  | .ok (found, args) =>
    if found.has "help" || found.has "version" then r.answerAbout "sleep" argv0 found
    else if args.isEmpty then r.usage argv0 (bytes "missing operand")
    else
      match args.filter fun a => !isInterval a with
      | [] => r
      | bad =>
        let r := (bad.dropLast).foldl (fun (r : ToolRun) a =>
          r.err (toolMessage argv0 (bytes "invalid time interval " ++ messageQuote a))) r
        r.usage argv0 (bytes "invalid time interval " ++ messageQuote (bad.getLastD []))

/-! ## Sequences -/

/-- A number of `seq` as written: its `long double` value, and the width and number of fraction
digits it takes to write it without an exponent. A hexadecimal number with a point or a binary
exponent has no count of fraction digits; a hexadecimal or infinite one has no width. -/
structure SeqNumber where
  value : FloatValue
  width : Nat
  precision : Option Nat

/-- Why an operand of `seq` is not a number it takes. -/
inductive SeqArgError where
  | invalid
  | notANumber

/-- The value of decimal digits. -/
def digitsValue (ds : Bytes) : Nat := (readDigitsIn 10 ds).1

/-- Whether a value is zero, of either sign. -/
def FloatValue.isZero : FloatValue → Bool
  | .finite _ m _ => m == 0
  | _ => false

def seqPrecisionCap : Nat := 20000

def readSeqNumber (a : Bytes) : Except SeqArgError SeqNumber :=
  let n := readFloat .extended a
  if n.used == 0 || n.used != a.length then .error .invalid
  else
    match n.value with
    | .notANumber _ => .error .notANumber
    | v =>
      if n.outOfRange && !v.isZero then .error .invalid
      else
        let shown := a.dropWhile fun b => isCSpace b || b == 43
        let noFraction := !shown.contains 46 && !shown.contains 112
        let simple : Option Nat := if noFraction then some 0 else none
        let finite := match v with
          | .finite _ _ _ => true
          | _ => false
        if shown.any (fun b => b == 120 || b == 88) || !finite then
          .ok { value := v, width := 0, precision := simple }
        else
          -- the digits after the point, up to an exponent
          let afterPoint := (shown.dropWhile (· != 46)).drop 1
          let point := shown.contains 46
          let fractionLen := (afterPoint.takeWhile fun b => b != 101 && b != 69).length
          let beforePoint := shown.takeWhile (· != 46)
          let pointFirst := point && !(beforePoint.getLast?.any isDigitByte)
          let width : Int := shown.length +
            (if !point then 0 else if fractionLen == 0 then -1 else if pointFirst then 1 else 0)
          let precision : Int := if point then fractionLen else 0
          let ePart := shown.dropWhile fun b => b != 101 && b != 69
          match ePart with
          | _ :: digits =>
            let exponent : Int := match digits with
              | 45 :: more => -(digitsValue (more.takeWhile isDigitByte) : Int)
              | 43 :: more => digitsValue (more.takeWhile isDigitByte)
              | _ => digitsValue (digits.takeWhile isDigitByte)
            let precision := precision +
              (if exponent < 0 then -exponent else -(min precision exponent))
            let width := width - ePart.length
            let ePos := shown.length - ePart.length
            let (width, exponent) :=
              if exponent < 0 then
                (if point then (if ePos == beforePoint.length + 1 then width + 1 else width)
                  else width + 1, -exponent)
              else
                (if point && precision == 0 && fractionLen != 0 then width - 1 else width,
                  exponent - min (fractionLen : Int) exponent)
            .ok { value := v, width := (width + exponent).toNat,
                  precision := some (min precision.toNat seqPrecisionCap) }
          | [] => .ok { value := v, width := width.toNat, precision := some precision.toNat }

def fixedDecimal (num : Int) (scale digits : Nat) : Bytes :=
  let n := num.natAbs * Nat.pow 10 (digits - scale)
  let s := toString n
  let s := String.ofList (List.replicate (digits + 1 - s.length) '0') ++ s
  let whole := s.dropEnd digits
  let frac := s.takeEnd digits
  bytes ((if num < 0 then "-" else "") ++ whole.toString ++ (if digits == 0 then "" else "." ++ frac.toString))

def seqFormat (fmt : Bytes) : Except Bytes Bytes :=
  let quoted := messageQuote fmt
  -- the text before the conversion, with `%%` kept
  let rec prefixLen : Nat → Bytes → Option Nat
    | 0, _ => none
    | _ + 1, [] => none
    | k + 1, 37 :: 37 :: more => (prefixLen k more).map (· + 2)
    | _ + 1, 37 :: _ => some 0
    | k + 1, _ :: more => (prefixLen k more).map (· + 1)
  match prefixLen (fmt.length + 1) fmt with
  | none => .error (bytes "format " ++ quoted ++ bytes " has no % directive")
  | some start =>
    let spec := fmt.drop (start + 1)
    let flags := spec.takeWhile fun b => b == 45 || b == 43 || b == 35 || b == 48 || b == 32 || b == 39
    let afterFlags := spec.drop flags.length
    let width := afterFlags.takeWhile isDigitByte
    let afterWidth := afterFlags.drop width.length
    let precision := match afterWidth with
      | 46 :: more => 46 :: more.takeWhile isDigitByte
      | _ => []
    let afterPrecision := afterWidth.drop precision.length
    let (hasL, conv) := match afterPrecision with
      | 76 :: more => (true, more)
      | more => (false, more)
    match conv with
    | [] => .error (bytes "format " ++ quoted ++ bytes " ends in %")
    | c :: rest =>
      if !(bytes "efgaEFGA").contains c then
        .error (bytes "format " ++ quoted ++ bytes " has unknown %" ++ [c] ++ bytes " directive")
      else if (prefixLen (rest.length + 1) rest).isSome then
        .error (bytes "format " ++ quoted ++ bytes " has too many % directives")
      else
        let _ := hasL
        .ok (fmt.take (start + 1) ++ flags ++ width ++ precision ++ [76, c] ++ rest)

def seqFormatAround (fmt : Bytes) : Nat × Nat :=
  let rec split : Nat → Bytes → Bytes → Bytes × Bytes
    | 0, acc, rest => (acc, rest)
    | _ + 1, acc, [] => (acc, [])
    | k + 1, acc, 37 :: 37 :: more => split k (acc ++ [37, 37]) more
    | _ + 1, acc, 37 :: more => (acc, more)
    | k + 1, acc, b :: more => split k (acc ++ [b]) more
  let (front, spec) := split (fmt.length + 1) [] fmt
  let conversion := spec.dropWhile fun b => !(bytes "efgaEFGA").contains b
  let back := conversion.drop 1
  let written (text : Bytes) : Nat :=
    (printfRun .tool (text.flatMap fun b => if b == 92 then [92, 92] else [b]) []).out.length
  (written front, written back)

def extendedRatio : FloatValue → Int × Nat
  | .finite neg m e =>
    let n : Int := if e ≥ 0 then ((m * Nat.pow 2 e.toNat : Nat) : Int) else (m : Int)
    ((if neg then -n else n), if e ≥ 0 then 1 else Nat.pow 2 (-e).toNat)
  | _ => (0, 1)

def ratioLess (a b : Int × Nat) : Bool := a.1 * (b.2 : Int) < b.1 * (a.2 : Int)

def ratioEqual (a b : Int × Nat) : Bool := a.1 * (b.2 : Int) == b.1 * (a.2 : Int)

def toExtended (num : Int) (den : Nat) : FloatValue :=
  (FloatFormat.extended.round (num < 0) num.natAbs den).1

def extendedText (v : FloatValue) : Bytes :=
  match v with
  | .infinite neg => bytes (if neg then "-inf" else "inf")
  | .notANumber neg => bytes (if neg then "-nan" else "nan")
  | .finite _ _ _ =>
    let (num, den) := extendedRatio v
    let k := Nat.log2 den
    fixedDecimal (num * ((Nat.pow 5 k : Nat) : Int)) k k

def seqEndless : Nat := 20000

def extendedLess (a b : FloatValue) : Bool :=
  match a, b with
  | .notANumber _, _ => false
  | _, .notANumber _ => false
  | .infinite n, .infinite m => n && !m
  | .infinite n, _ => n
  | _, .infinite m => !m
  | _, _ => ratioLess (extendedRatio a) (extendedRatio b)

def extendedTimes (i : Nat) (x : FloatValue) : FloatValue :=
  match x with
  | .finite _ _ _ =>
    let (n, d) := extendedRatio x
    toExtended (n * (i : Int)) d
  | .infinite neg => if i == 0 then .notANumber false else .infinite neg
  | v => v

def extendedSum (a b : FloatValue) : FloatValue :=
  match a, b with
  | .notANumber n, _ => .notANumber n
  | _, .notANumber n => .notANumber n
  | .infinite n, .infinite m => if n == m then .infinite n else .notANumber true
  | .infinite n, _ => .infinite n
  | _, .infinite m => .infinite m
  | _, _ =>
    let (an, ad) := extendedRatio a
    let (bn, bd) := extendedRatio b
    toExtended (an * (bd : Int) + bn * (ad : Int)) (ad * bd)

def seqItems (render : FloatValue → Bytes) (extra : FloatValue → FloatValue → Bool)
    (beyond : FloatValue → Bool) (nth : Nat → FloatValue) : Nat → Nat → FloatValue → List Bytes
  | 0, _, _ => []
  | fuel + 1, i, x =>
    let next := nth i
    if beyond next then
      if extra x next then [render x, render next] else [render x]
    else render x :: seqItems render extra beyond nth fuel (i + 1) next

def seqOptions : List OptionDecl :=
  [.valued 'f', .valued 's', .flag 'w', .named "f" "format" .required,
    .named "s" "separator" .required, .named "w" "equal-width" .no] ++ helpOptions

def seqArgs (args : List Bytes) : Except Bytes (FoundOptions × List Bytes) :=
  loop (args.length + 1) args []
where
  /-- Reads one option word (with its argument) at a time. -/
  loop : Nat → List Bytes → FoundOptions → Except Bytes (FoundOptions × List Bytes)
    | 0, rest, found => .ok (found, rest)
    | _ + 1, [], found => .ok (found, [])
    | n + 1, a :: rest, found =>
      match a with
      | [45, 45] => .ok (found, rest)
      | 45 :: c :: _ =>
        if c == 46 || isDigitByte c then .ok (found, a :: rest)
        else
          let reading := scanOptions.go seqOptions false 1 (a :: rest) [] []
          match reading.wrong with
          | none => loop n reading.operands (found ++ reading.found)
          | some e => .error e
      | _ => .ok (found, a :: rest)

def seqTool (argv0 : Bytes) (args : List Bytes) (fs : Files) : ToolRun :=
  let r : ToolRun := { files := fs }
  match seqArgs args with
  | .error msg => r.usage argv0 msg
  | .ok (found, operands) =>
    if found.has "help" || found.has "version" then r.answerAbout "seq" argv0 found
    else if operands.isEmpty then r.usage argv0 (bytes "missing operand")
    else if operands.length > 3 then
      r.usage argv0 (bytes "extra operand " ++ messageQuote (operands.getD 3 []))
    else if found.has "f" && found.has "w" then
      r.usage argv0 (bytes "format string may not be specified when printing equal width strings")
    else
      -- the operands are read in order, and a zero increment is refused once it is read
      let checked : Except ToolRun (List SeqNumber) := (operands.zipIdx).foldlM (fun acc (a, i) =>
        match readSeqNumber a with
        | .error .invalid =>
          .error (r.usage argv0 (bytes "invalid floating point argument: " ++ messageQuote a))
        | .error .notANumber =>
          .error (r.usage argv0 (bytes "invalid " ++ messageQuote (bytes "not-a-number") ++
            bytes " argument: " ++ messageQuote a))
        | .ok n =>
          if operands.length == 3 && i == 1 && n.value.isZero then
            .error (r.usage argv0 (bytes "invalid Zero increment value: " ++ messageQuote a))
          else .ok (acc ++ [n])) []
      match checked with
      | .error answered => answered
      | .ok nums =>
        let one : SeqNumber := { value := .finite false 1 0, width := 1, precision := some 0 }
        let (first, step, last) := match nums with
          | [l] => (one, one, l)
          | [f, l] => (f, one, l)
          | [f, s, l] => (f, s, l)
          | _ => (one, one, one)
        let format : Except Bytes (Option Bytes) := match found.last "f" with
          | some f => (seqFormat f).map some
          | none => .ok none
        match format with
        | .error msg => r.fail argv0 msg
        | .ok userFormat =>
          let (fx, sx, lx) := (first.value, step.value, last.value)
          let negative := match sx with
            | .finite neg _ _ => neg
            | .infinite neg => neg
            | .notANumber neg => neg
          let finiteAll := match fx, sx, lx with
            | .finite _ _ _, .finite _ _ _, .finite _ _ _ => true
            | _, _, _ => false
          -- the count of the exact numbers, which rounding changes by one at most; a sequence
          -- that never passes an infinite end is cut short
          let count : Nat :=
            if finiteAll then
              let (fn, fd) := extendedRatio fx
              let (sn, sd) := extendedRatio sx
              let (ln, ld) := extendedRatio lx
              let d := max fd (max sd ld)
              let (f, s, l) := (fn * ((d / fd : Nat) : Int), sn * ((d / sd : Nat) : Int),
                ln * ((d / ld : Nat) : Int))
              if s > 0 then (if l < f then 0 else ((l - f) / s).toNat + 1)
              else (if l > f then 0 else ((f - l) / (-s)).toNat + 1)
            else seqEndless
          let precision := match first.precision, step.precision, last.precision with
            | some a, some b, some _ => some (max a b)
            | _, _, _ => none
          let width := match precision, first.precision, last.precision with
            | some p, some fp, some lp =>
              let firstWidth := first.width + (p - fp) + (if fp == 0 && p > 0 then 1 else 0)
              let lastWidth := last.width + (p - lp) - (if lp > 0 && p == 0 then 1 else 0) +
                (if lp == 0 && p > 0 then 1 else 0)
              max firstWidth lastWidth
            | _, _, _ => 0
          let format : Bytes := match userFormat, precision with
            | some fmt, _ => fmt.flatMap fun b => if b == 92 then [92, 92] else [b]
            | none, some p =>
              if found.has "w" then bytes ("%0" ++ toString width ++ "." ++ toString p ++ "Lf")
              else bytes ("%." ++ toString p ++ "Lf")
            | none, none => bytes "%Lg"
          let render (x : FloatValue) : Bytes := (printfRun .tool format [extendedText x]).out
          -- the text around the number that the format writes
          let (before, after) := match userFormat with
            | some fmt => seqFormatAround fmt
            | none => (0, 0)
          let beyond (x : FloatValue) : Bool :=
            if negative then extendedLess x lx else extendedLess lx x
          -- a number just beyond the last is written when it reads back as the last and
          -- differs from the one before
          let extra (x0 x : FloatValue) : Bool :=
            match x with
            | .finite _ _ _ =>
              let shown := render x
              let number := (shown.drop before).take (shown.length - before - after)
              let back := readFloat .extended number
              back.used == number.length && number.length > 0 &&
                !(back.outOfRange && !(extendedRatio back.value).1 == 0) &&
                extendedLess back.value lx == false && extendedLess lx back.value == false &&
                render x0 != shown
            | _ => false
          let nth (i : Nat) : FloatValue := extendedSum fx (extendedTimes i sx)
          let items := if beyond fx then [] else seqItems render extra beyond nth (count + 2) 1 fx
          let sep := (found.last "s").getD [10]
          if items.isEmpty then r else r.out (sep.intercalate items ++ [10])

/-! ## Reading parts of files -/

def sizeLimit : Nat := 18446744073709551615

/-- Why a size did not read: it is not one, or it is too large. -/
inductive SizeError where
  | invalid
  | tooLarge
  deriving DecidableEq

def readSize (text : Bytes) : Except SizeError Nat :=
  let body := text.dropWhile isCSpace
  let body := match body with
    | 43 :: more => more
    | _ => body
  let digits := body.takeWhile isDigitByte
  let rest := body.drop digits.length
  let multiplier (c : UInt8) : Bool := (bytes "bkKmMGTPEZY").contains c
  if body.head? == some 45 then .error .invalid
  else if digits.isEmpty && !(rest.head?.any multiplier) then .error .invalid
  else
    let value := if digits.isEmpty then 1 else digitsValue digits
    match rest with
    | [] => if value > sizeLimit then .error .tooLarge else .ok value
    | c :: more =>
      if !multiplier c then .error .invalid
      else
        let (base, used) : Nat × Nat :=
          if c == 98 then (1024, 0)
          else
            match more with
            | 105 :: 66 :: _ => (1024, 2)
            | 66 :: _ | 68 :: _ => (1000, 1)
            | _ => (1024, 0)
        let power : Nat := match (bytes "kKmMGTPEZY").idxOf? c with
          | some i => [1, 1, 2, 2, 3, 4, 5, 6, 7, 8].getD i 0
          | none => 0
        let scaled := if c == 98 then value * 512 else value * Nat.pow base power
        if !(more.drop used).isEmpty then .error .invalid
        else if scaled > sizeLimit then .error .tooLarge
        else .ok scaled

def readPartCount (a : Bytes) : Except (Bytes × Bytes) (Nat × Option UInt8) :=
  let (sign, text) := match a with
    | 45 :: more => (some (45 : UInt8), more)
    | 43 :: _ => (some (43 : UInt8), a)
    | _ => (none, a)
  match readSize text with
  | .ok k => .ok (k, sign)
  | .error .invalid => .error (text, [])
  | .error .tooLarge => .error (text, bytes ": Value too large for defined data type")

def headOptions : List OptionDecl :=
  [.valued 'c', .valued 'n', .flag 'q', .flag 'v', .flag 'z', .named "c" "bytes" .required,
    .named "n" "lines" .required, .named "q" "quiet" .no, .named "q" "silent" .no,
    .named "v" "verbose" .no, .named "z" "zero-terminated" .no] ++ helpOptions

def tailOptions : List OptionDecl :=
  [.valued 'c', .valued 'n', .flag 'q', .flag 'v', .flag 'z', .flag 'f', .flag 'F', .valued 's',
    .named "c" "bytes" .required, .named "n" "lines" .required, .named "q" "quiet" .no,
    .named "q" "silent" .no, .named "v" "verbose" .no, .named "z" "zero-terminated" .no,
    .named "f" "follow" .optional, .named "s" "sleep-interval" .required,
    .named "retry" "retry" .no, .named "pid" "pid" .required,
    .named "max-unchanged-stats" "max-unchanged-stats" .required] ++ helpOptions

def splitRecords (sep : UInt8) : Nat → Bytes → List Bytes
  | 0, _ => []
  | _ + 1, [] => []
  | n + 1, bs =>
    let record := bs.takeWhile (· != sep)
    if record.length < bs.length then
      (record ++ [sep]) :: splitRecords sep n (bs.drop (record.length + 1))
    else [record]

def partTool (argv0 : Bytes) (last : Bool) (args : List Bytes) (input : Except OsError Bytes)
    (fs : Files) :
    ToolRun :=
  let r : ToolRun := { files := fs }
  -- the old forms `-5` (and `+5` for `tail`) as a first argument
  let args := match args with
    | a :: rest =>
      match a with
      | c :: d :: _ =>
        if (c == 45 || (last && c == 43)) && isDigitByte d && (a.drop 1).all isDigitByte then
          (if c == 43 then bytes "-n" :: a :: rest else bytes "-n" :: a.drop 1 :: rest)
        else args
      | _ => args
    | [] => []
  match readOptions (if last then tailOptions else headOptions) true args with
  | .error msg => r.usage argv0 msg
  | .ok (found, names) =>
    if found.has "help" || found.has "version" then
      r.answerAbout (if last then "tail" else "head") argv0 found
    else
      let byBytes := (found.filter fun (k, _) => k == "c" || k == "n").getLast?.map (·.1) == some "c"
      let countText := ((found.filter fun (k, _) => k == "c" || k == "n").getLast?.bind (·.2)).getD (bytes "10")
      match readPartCount countText with
      | .error (text, why) =>
        r.fail argv0 (bytes (if byBytes then "invalid number of bytes: " else "invalid number of lines: ") ++
          messageQuote text ++ why)
      | .ok (k, sign) =>
        let sep : UInt8 := if found.has "z" then 0 else 10
        let (inputs, left) := readInputs names input fs
        let headers := (inputs.length > 1 && !found.has "q") || found.has "v"
        let (r, _) := inputs.foldl (fun (acc : ToolRun × Bool) (name, content) =>
          let (r, first) := acc
          let shownName := if name == bytes "-" then bytes "standard input" else name
          let header := if headers then
              (if first then [] else [10]) ++ bytes "==> " ++ shownName ++ bytes " <==\n"
            else []
          match content with
          | .error .isADirectory =>
            ((r.out header).fail argv0 (bytes "error reading " ++ fileQuote shownName ++
              bytes ": Is a directory"), false)
          | .error e =>
            (r.fail argv0 (bytes "cannot open " ++ fileQuote name ++ bytes " for reading: " ++ e.bytes), first)
          | .ok content =>
            let part : Bytes :=
              if byBytes then
                if last then
                  if sign == some 43 then content.drop (k - 1) else content.drop (content.length - k)
                else if sign == some 45 then content.take (content.length - k) else content.take k
              else
                let ls := splitRecords sep (content.length + 1) content
                let chosen :=
                  if last then
                    if sign == some 43 then ls.drop (k - 1) else ls.drop (ls.length - k)
                  else if sign == some 45 then ls.take (ls.length - k) else ls.take k
                chosen.flatten
            (r.out (header ++ part), false)) (r, true)
        { r with inputLeft := left }

/-! ## Counting -/

def isPrintableWide (g : Regex.Glyph) : Bool :=
  !(Regex.within g 128 159 || g == 8232 || g == 8233)

def separatesWords (g : Regex.Glyph) : Bool :=
  Regex.isWideSpace g || g == 160 || g == 8199 || g == 8239 || g == 8288

def glyphColumns (g : Regex.Glyph) : Nat :=
  let within := Regex.within g
  if within 768 879 || within 1155 1161 || within 1425 1469 || within 1552 1562 ||
      within 1611 1631 || within 8203 8207 || within 8234 8238 || within 8288 8292 ||
      within 8400 8432 || within 65024 65039 || within 65056 65071 || g == 65279 then 0
  else if within 4352 4447 || within 11904 12350 || within 12353 42191 || within 44032 55203 ||
      within 63744 64255 || within 65040 65049 || within 65072 65135 || within 65280 65376 ||
      within 65504 65510 || within 127744 128591 || within 129280 129535 ||
      within 131072 196605 || within 196608 262141 then 2
  else 1

def wordCounts (bs : Bytes) : Nat × Nat × Nat × Nat × Nat :=
  let step (acc : Nat × Nat × Nat × Nat × Bool) (g : Regex.Glyph) :
      Nat × Nat × Nat × Nat × Bool :=
    let (words, chars, longest, col, inWord) := acc
    let part := if inWord then words + 1 else words
    if Regex.strayBase ≤ g then acc
    else if g == 10 || g == 13 || g == 12 then (part, chars + 1, max longest col, 0, false)
    else if g == 9 then (part, chars + 1, longest, col + 8 - col % 8, false)
    else if g == 32 then (part, chars + 1, longest, col + 1, false)
    else if g == 11 then (part, chars + 1, longest, col, false)
    else if g < 128 then
      if 33 ≤ g && g ≤ 126 then (words, chars + 1, longest, col + 1, true)
      else (words, chars + 1, longest, col, inWord)
    else if isPrintableWide g then
      let col := col + glyphColumns g
      if separatesWords g then (part, chars + 1, longest, col, false)
      else (words, chars + 1, longest, col, true)
    else (words, chars + 1, longest, col, inWord)
  let (words, chars, longest, col, inWord) := (Regex.glyphsOf bs).foldl step (0, 0, 0, 0, false)
  (bs.count 10, if inWord then words + 1 else words, chars, bs.length, max longest col)

def wcOptions : List OptionDecl :=
  [.flag 'c', .flag 'm', .flag 'l', .flag 'w', .flag 'L', .named "c" "bytes" .no,
    .named "m" "chars" .no, .named "l" "lines" .no, .named "w" "words" .no,
    .named "L" "max-line-length" .no, .named "total" "total" .required] ++ helpOptions

def wcTool (argv0 : Bytes) (args : List Bytes) (input : Except OsError Bytes) (fs : Files) :
    ToolRun :=
  let r : ToolRun := { files := fs }
  match readOptions wcOptions true args with
  | .error msg => r.usage argv0 msg
  | .ok (found, names) =>
    if found.has "help" || found.has "version" then r.answerAbout "wc" argv0 found
    else
      let any := ["l", "w", "m", "c", "L"].any found.has
      let showL := !any || found.has "l"
      let showW := !any || found.has "w"
      let showM := found.has "m"
      let showC := !any || found.has "c"
      let showMax := found.has "L"
      let (inputs, left) := readInputs names input fs
      let counted := inputs.map fun (name, content) => (name, content.map wordCounts)
      let single := [showL, showW, showM, showC, showMax].count true == 1
      let known := counted.filterMap fun (name, c) =>
        if name == bytes "-" then some none
        else
          match c with
          | .ok (_, _, _, b, _) =>
            match fs.find name.text with
            | .ok (.device _) => some none
            | _ => some (some b)
          | .error .isADirectory => some none
          | .error _ => none
      let firstFailed : Bool := match counted.head? with
        | some (name, Except.error e) => name != bytes "-" && e != OsError.isADirectory
        | _ => false
      let width : Nat :=
        if (single && inputs.length == 1) || firstFailed then 1
        else
          let total := (known.filterMap id).foldl (· + ·) 0
          let minimum := if known.any (·.isNone) then 7 else 1
          max minimum (toString total).length
      let pad (v : Nat) : Bytes :=
        let s := toString v
        bytes (String.ofList (List.replicate (width - s.length) ' ') ++ s)
      let line (l w ch c m : Nat) (name : Bytes) : Bytes :=
        let nums := (if showL then [pad l] else []) ++ (if showW then [pad w] else []) ++
          (if showM then [pad ch] else []) ++ (if showC then [pad c] else []) ++
          (if showMax then [pad m] else [])
        [32].intercalate nums ++ (if names.isEmpty then [] else [32] ++ name) ++ [10]
      let (r, tl, tw, tch, tc, tm) := counted.foldl
        (fun (acc : ToolRun × Nat × Nat × Nat × Nat × Nat) (name, c) =>
          let (r, tl, tw, tch, tc, tm) := acc
          match c with
          | .ok (l, w, ch, b, m) =>
            (r.out (line l w ch b m name), tl + l, tw + w, tch + ch, tc + b, max tm m)
          | .error .isADirectory =>
            let shown := if names.isEmpty then bytes "standard input" else name
            ((r.fail argv0 (fileName shown ++ bytes ": Is a directory")).out
              (line 0 0 0 0 0 name), tl, tw, tch, tc, tm)
          | .error e =>
            (r.fail argv0 (fileName name ++ bytes ": " ++ e.bytes), tl, tw, tch, tc, tm))
        (r, 0, 0, 0, 0, 0)
      let r := if counted.length > 1 then r.out (line tl tw tch tc tm (bytes "total")) else r
      { r with inputLeft := left }

/-! ## Writing files -/

def underPath (dir path : String) : Bool :=
  path == dir || path.startsWith (if dir == "/" then "/" else dir ++ "/")

/-- The files with a path, and everything under it, removed. -/
def Files.remove (fs : Files) (p : String) : Files :=
  let path := absolutePath fs.cwd p
  { fs with written := fs.written.filter (fun w => !underPath path w.1),
            removed := path :: fs.removed, made := fs.made.filter (fun m => !underPath path m) }

def Files.makeDirectory (fs : Files) (p : String) : Files :=
  let path := absolutePath fs.cwd p
  { fs with made := path :: fs.made, removed := fs.removed.filter (· ≠ path) }

def Files.parentWritable (fs : Files) (p : String) : Bool :=
  fs.node (parentOf (absolutePath fs.cwd p)) == some (.directory true)

def Files.children (fs : Files) (p : String) : List Bytes :=
  (((fs.entries (absolutePath fs.cwd p)).filter fun e => e != "." && e != "..").map bytes).mergeSort
    fun a b => !decide (b < a)

def lastPart (name : Bytes) : Bytes :=
  let trimmed := (name.reverse.dropWhile (· == 47)).reverse
  (trimmed.reverse.takeWhile (· != 47)).reverse

/-- What `tee` does when writing to a file fails. -/
inductive OutputErrorMode where
  | warn
  | warnNoPipe
  | exit
  | exitNoPipe
  deriving BEq

def outputErrorChoices : List (String × OutputErrorMode) :=
  [("warn", .warn), ("warn-nopipe", .warnNoPipe), ("exit", .exit), ("exit-nopipe", .exitNoPipe)]

def teeOptions : List OptionDecl :=
  [.flag 'a', .flag 'i', .flag 'p', .named "a" "append" .no, .named "i" "ignore-interrupts" .no,
    .named "output-error" "output-error" .optional] ++ helpOptions

def teeTool (argv0 : Bytes) (args : List Bytes) (stdin : Except OsError Bytes) (fs : Files) :
    ToolRun :=
  let r : ToolRun := { files := fs }
  match readOptions teeOptions true args with
  | .error msg => r.usage argv0 msg
  | .ok (found, names) =>
    if found.has "help" || found.has "version" then r.answerAbout "tee" argv0 found
    else
      let badMode := match found.last "output-error" with
        | some v =>
          match pickChoice outputErrorChoices v with
          | .ok _ => none
          | .error why => some (v, why)
        | none => none
      match badMode with
      | some (v, why) => r.badChoice argv0 "--output-error" v why outputErrorChoices
      | none =>
        let append := found.has "a"
        let input := stdin.toOption.getD []
        let r := { r with inputLeft := some [] }
        let r := names.foldl (fun (r : ToolRun) name =>
          let path := name.text
          let fail (e : OsError) : ToolRun := r.fail argv0 (fileName name ++ bytes ": " ++ e.bytes)
          match r.files.find path with
          | .ok (.directory _) => fail .isADirectory
          | .ok (.program _) => fail .permissionDenied
          | .ok (.device _) => r
          | .ok (.file content _) =>
            { r with files := r.files.write path (if append then content ++ input else input) }
          | .error _ =>
            match r.files.creatable path with
            | .ok () => { r with files := r.files.write path input }
            | .error e => fail e) r
        match stdin with
        | .ok _ => r.out input
        | .error e => r.fail argv0 (bytes "read error: " ++ e.bytes)

/-- How `rm` goes about its work. -/
structure RemoveMode where
  force : Bool
  ask : Bool
  recursive : Bool
  emptyDirs : Bool
  verbose : Bool
  keepRoot : Bool

/-- When `rm` asks before removing. -/
inductive AskWhen where
  | never
  | once
  | always
  deriving BEq

def askChoices : List (String × AskWhen) :=
  [("never", .never), ("no", .never), ("none", .never), ("once", .once), ("always", .always),
    ("yes", .always)]

def rmOptions : List OptionDecl :=
  [.flag 'f', .flag 'i', .flag 'I', .flag 'r', { key := "r", letter := some 82 }, .flag 'd',
    .flag 'v', .named "f" "force" .no, .named "interactive" "interactive" .optional,
    .named "one-file-system" "one-file-system" .no,
    .named "no-preserve-root" "no-preserve-root" .no,
    .named "preserve-root" "preserve-root" .optional, .named "r" "recursive" .no,
    .named "d" "dir" .no, .named "v" "verbose" .no] ++ helpOptions

/-- A run of `rm` with the answers it has yet to read, buffered from its input. -/
structure Removal where
  run : ToolRun
  answers : Bytes

def Removal.askFor (s : Removal) (argv0 question : Bytes) : Bool × Removal :=
  let line := s.answers.takeWhile (· != 10)
  let yes := line.head? == some 121 || line.head? == some 89
  (yes, { run := { (s.run.err (argv0 ++ bytes ": " ++ question)) with inputLeft := some [] },
          answers := s.answers.drop (line.length + 1) })

/-- A failure to remove a path, with the error's text. -/
def Removal.failed (s : Removal) (argv0 name : Bytes) (msg : String) : Removal :=
  { s with run := s.run.fail argv0 (bytes "cannot remove " ++ fileQuote name ++ bytes (": " ++ msg)) }

def removePath (argv0 : Bytes) (mode : RemoveMode) : Nat → Removal → Bytes → Removal × Bool
  | 0, s, _ => (s, false)
  | n + 1, s, name =>
    let fs := s.run.files
    let path := name.text
    match fs.find path with
    | .error e =>
      if mode.force && (e == .notFound || e == .notADirectory) then (s, true)
      else (s.failed argv0 name e.text, false)
    | .ok (.directory _) =>
      let children := fs.children path
      if !mode.recursive && !(mode.emptyDirs && children.isEmpty) then
        (s.failed argv0 name (if mode.emptyDirs then "Directory not empty" else "Is a directory"),
          false)
      else
        let (go, s) :=
          if mode.ask && !children.isEmpty then
            s.askFor argv0 (bytes "descend into directory " ++ fileQuote name ++ bytes "? ")
          else (true, s)
        if !go then (s, false)
        else
          let base := if name.getLast? == some 47 then name else name ++ [47]
          let (s, allGone) := children.foldl (fun (acc : Removal × Bool) child =>
            let (s, ok) := removePath argv0 mode n acc.1 (base ++ child)
            (s, acc.2 && ok)) (s, true)
          if !allGone then (s, false)
          else
            let (go, s) :=
              if mode.ask then s.askFor argv0 (bytes "remove directory " ++ fileQuote name ++ bytes "? ")
              else (true, s)
            if !go then (s, false)
            else if !s.run.files.parentWritable path then
              (s.failed argv0 name OsError.permissionDenied.text, false)
            else
              let run := { s.run with files := s.run.files.remove path }
              let run := if mode.verbose then
                  run.out (bytes "removed directory " ++ fileQuote name ++ [10])
                else run
              ({ s with run := run }, true)
    | .ok node =>
      let kind := match node with
        | .file [] _ => "regular empty file "
        | .device _ => "character special file "
        | _ => "regular file "
      let (go, s) :=
        if mode.ask then s.askFor argv0 (bytes ("remove " ++ kind) ++ fileQuote name ++ bytes "? ")
        else (true, s)
      if !go then (s, false)
      else if !fs.parentWritable path then (s.failed argv0 name OsError.permissionDenied.text, false)
      else
        let run := { s.run with files := s.run.files.remove path }
        let run := if mode.verbose then run.out (bytes "removed " ++ fileQuote name ++ [10]) else run
        ({ s with run := run }, true)

def removeOperand (argv0 : Bytes) (mode : RemoveMode) (s : Removal) (name : Bytes) : Removal :=
  let fs := s.run.files
  let isDirectory := match fs.find name.text with
    | .ok (.directory _) => true
    | _ => false
  let children := if isDirectory then fs.children name.text else []
  let reaches := isDirectory && (mode.recursive || (mode.emptyDirs && children.isEmpty))
  let last := lastPart name
  if reaches && (last == bytes "." || last == bytes "..") then
    let msg := bytes "refusing to remove '.' or '..' directory: skipping " ++ fileQuote name
    { s with run := s.run.fail argv0 msg }
  else if reaches && mode.keepRoot && absolutePath fs.cwd name.text == "/" then
    let first := if name == bytes "/" then
        bytes "it is dangerous to operate recursively on " ++ fileQuote name
      else
        bytes "it is dangerous to operate recursively on " ++ fileQuote name ++ bytes " (same as '/')"
    let hint := bytes "use --no-preserve-root to override this failsafe"
    { s with run := (s.run.fail argv0 first).fail argv0 hint }
  else (removePath argv0 mode (fs.written.length + fs.made.length + 64) s name).1

def rmTool (argv0 : Bytes) (args : List Bytes) (input : Except OsError Bytes) (fs : Files) :
    ToolRun :=
  let r : ToolRun := { files := fs }
  match readOptions rmOptions true args with
  | .error msg => r.usage argv0 msg
  | .ok (found, names) =>
    let badAsk := found.findSome? fun (k, v) =>
      match k, v with
      | "interactive", some v =>
        match pickChoice askChoices v with
        | .ok _ => none
        | .error why => some (v, why)
      | _, _ => none
    match badAsk with
    | some (v, why) => r.badChoice argv0 "--interactive" v why askChoices
    | none =>
    if found.has "help" || found.has "version" then r.answerAbout "rm" argv0 found
    else
      -- the last of the options that say whether to ask wins
      let asking := found.foldl (fun (acc : Bool × AskWhen) (k, v) =>
        match k with
        | "f" => (true, .never)
        | "i" => (false, .always)
        | "I" => (false, .once)
        | "interactive" =>
          match v with
          | none => (false, .always)
          | some v => (acc.1, (pickChoice askChoices v).toOption.getD .always)
        | _ => acc) (false, .never)
      let mode : RemoveMode :=
        { force := asking.1, ask := asking.2 == .always, recursive := found.has "r",
          emptyDirs := found.has "d", verbose := found.has "v",
          keepRoot := !found.any (fun o => o.1 == "no-preserve-root") }
      if names.isEmpty then
        if mode.force then r else r.usage argv0 (bytes "missing operand")
      else
        let s : Removal := { run := r, answers := input.toOption.getD [] }
        let (go, s) :=
          if asking.2 == .once && (mode.recursive || 3 < names.length) then
            let count := toString names.length
            let noun := if names.length == 1 then " argument" else " arguments"
            s.askFor argv0 (bytes ("remove " ++ count ++ noun ++
              (if mode.recursive then " recursively" else "") ++ "? "))
          else (true, s)
        if !go then s.run
        else (names.foldl (removeOperand argv0 mode) s).run

def rmdirTool (argv0 : Bytes) (args : List Bytes) (fs : Files) : ToolRun :=
  let decls := [.flag 'p', .flag 'v', .named "p" "parents" .no, .named "v" "verbose" .no,
    .named "ignore-fail-on-non-empty" "ignore-fail-on-non-empty" .no] ++ helpOptions
  let r : ToolRun := { files := fs }
  match readOptions decls true args with
  | .error msg => r.usage argv0 msg
  | .ok (found, names) =>
    if found.has "help" || found.has "version" then r.answerAbout "rmdir" argv0 found
    else if names.isEmpty then r.usage argv0 (bytes "missing operand")
    else
      let quiet := found.has "ignore-fail-on-non-empty"
      names.foldl (fun (r : ToolRun) name =>
        let r := if found.has "v" then
            r.out (toolMessage argv0 (bytes "removing directory, " ++ fileQuote name))
          else r
        let fail (msg : String) : ToolRun :=
          r.fail argv0 (bytes "failed to remove " ++ fileQuote name ++ bytes (": " ++ msg))
        match r.files.find name.text with
        | .error e => fail e.text
        | .ok (.directory _) =>
          if !(r.files.children name.text).isEmpty then
            if quiet then r else fail "Directory not empty"
          else if !r.files.parentWritable name.text then fail OsError.permissionDenied.text
          else { r with files := r.files.remove name.text }
        | .ok _ => fail OsError.notADirectory.text) r

def validMode (m : Bytes) : Bool :=
  if !m.isEmpty && m.all (fun b => 48 ≤ b && b ≤ 55) then
    m.foldl (fun acc b => acc * 8 + (b.toNat - 48)) 0 ≤ 4095
  else
    let clauses := m.splitOn 44
    clauses.all fun c =>
      let rest := c.dropWhile fun b => b == 117 || b == 103 || b == 111 || b == 97
      validActions (rest.length + 1) rest
where
  /-- Whether the rest of a clause is one or more actions. -/
  validActions : Nat → Bytes → Bool
    | 0, _ => false
    | _ + 1, [] => false
    | n + 1, op :: rest =>
      (op == 43 || op == 45 || op == 61) &&
        match rest with
        | w :: more =>
          if w == 117 || w == 103 || w == 111 then more.isEmpty || validActions n more
          else
            let perms := rest.takeWhile fun b =>
              b == 114 || b == 119 || b == 120 || b == 88 || b == 115 || b == 116
            let after := rest.drop perms.length
            after.isEmpty || validActions n after
        | [] => true

def pathPrefixes (name : Bytes) : List Bytes :=
  let ends := (List.range name.length).filter fun i =>
    name.getD i 0 == 47 && 0 < i && name.getD (i - 1) 0 != 47
  ends.map fun i => name.take i

def mkdirOptions : List OptionDecl :=
  [.valued 'm', .flag 'p', .flag 'v', .flag 'Z', .named "m" "mode" .required,
    .named "p" "parents" .no, .named "v" "verbose" .no, .named "Z" "context" .optional] ++
    helpOptions

def mkdirTool (argv0 : Bytes) (args : List Bytes) (fs : Files) : ToolRun :=
  let r : ToolRun := { files := fs }
  match readOptions mkdirOptions true args with
  | .error msg => r.usage argv0 msg
  | .ok (found, names) =>
    if found.has "help" || found.has "version" then r.answerAbout "mkdir" argv0 found
    else if names.isEmpty then r.usage argv0 (bytes "missing operand")
    else
      match found.last "m" with
      | some m =>
        if validMode m then go found names r
        else r.fail argv0 (bytes "invalid mode " ++ messageQuote m)
      | none => go found names r
where
  /-- Makes the directories. -/
  go (found : FoundOptions) (names : List Bytes) (r : ToolRun) : ToolRun :=
    let verbose := found.has "v"
    let make (r : ToolRun) (name : Bytes) : ToolRun :=
      let r := { r with files := r.files.makeDirectory name.text }
      if verbose then r.out (toolMessage argv0 (bytes "created directory " ++ fileQuote name)) else r
    let fail (r : ToolRun) (name : Bytes) (msg : String) : ToolRun :=
      r.fail argv0 (bytes "cannot create directory " ++ messageQuote name ++ bytes (": " ++ msg))
    names.foldl (fun (r : ToolRun) name =>
      -- with `-p`, the directories that lead there first
      let ancestors := if found.has "p" then pathPrefixes name else []
      let made := ancestors.foldl (fun (acc : Except ToolRun ToolRun) dir =>
        match acc with
        | .error r => .error r
        | .ok r =>
          match r.files.find dir.text with
          | .ok (.directory _) => .ok r
          | .ok _ => .error (fail r dir OsError.notADirectory.text)
          | .error .notFound =>
            match r.files.creatable dir.text with
            | .ok () => .ok (make r dir)
            | .error e => .error (fail r dir e.text)
          | .error e => .error (fail r dir e.text)) (.ok r)
      match made with
      | .error r => r
      | .ok r =>
        match r.files.find name.text with
        | .ok (.directory _) => if found.has "p" then r else fail r name "File exists"
        | .ok _ => fail r name "File exists"
        | .error _ =>
          if name.isEmpty then fail r name OsError.notFound.text
          else
            match r.files.creatable name.text with
            | .ok () => make r name
            | .error e => fail r name e.text) r

def timeChoices : List (String × Bool) :=
  [("atime", true), ("access", true), ("use", true), ("mtime", false), ("modify", false)]

def touchOptions : List OptionDecl :=
  [.flag 'a', .flag 'c', .valued 'd', .flag 'f', .flag 'h', .flag 'm', .valued 'r', .valued 't',
    .named "c" "no-create" .no, .named "d" "date" .required, .named "h" "no-dereference" .no,
    .named "r" "reference" .required, .named "time" "time" .required] ++ helpOptions

def touchOptionFault (argv0 : Bytes) (r : ToolRun) : FoundOptions → Option ToolRun
  | [] => none
  | (k, v) :: more =>
    match k, v with
    | "t", some stamp =>
      if (Time.readStamp stamp).isNone then
        some (r.fail argv0 (bytes "invalid date format " ++ messageQuote stamp))
      else touchOptionFault argv0 r more
    | "time", some choice =>
      match pickChoice timeChoices choice with
      | .ok _ => touchOptionFault argv0 r more
      | .error why => some (r.badChoice argv0 "--time" choice why timeChoices)
    | _, _ => touchOptionFault argv0 r more

def touchTool (argv0 : Bytes) (args : List Bytes) (fs : Files) : ToolRun :=
  let r : ToolRun := { files := fs }
  let reading := scanOptions touchOptions true args
  let found := reading.found
  match touchOptionFault argv0 r found, reading.wrong with
  | some stopped, _ => stopped
  | none, some msg => r.usage argv0 msg
  | none, none =>
    if found.has "help" || found.has "version" then r.answerAbout "touch" argv0 found
    else if found.has "t" && (found.has "r" || found.has "d") then
      r.usage argv0 (bytes "cannot specify times from more than one source")
    else
      let missingReference := (found.last "r").bind fun ref =>
        match fs.find ref.text with
        | .error e => some (ref, e)
        | .ok _ => none
      match missingReference with
      | some (ref, e) =>
        r.fail argv0 (bytes "failed to get attributes of " ++ fileQuote ref ++ bytes ": " ++ e.bytes)
      | none =>
        match found.last "d" with
        | some date =>
          if (Time.readDatePhrase date).isNone then
            r.fail argv0 (bytes "invalid date format " ++ messageQuote date)
          else touchAll reading.operands (found.has "c") r
        | none => touchAll reading.operands (found.has "c") r
where
  /-- Touches the files named, or asks for one. -/
  touchAll (names : List Bytes) (noCreate : Bool) (r : ToolRun) : ToolRun :=
    if names.isEmpty then r.usage argv0 (bytes "missing file operand")
    else names.foldl (touchOne noCreate) r
  /-- Touches one file. -/
  touchOne (noCreate : Bool) (r : ToolRun) (name : Bytes) : ToolRun :=
    let cannot (e : OsError) : ToolRun :=
      r.fail argv0 (bytes "cannot touch " ++ fileQuote name ++ bytes ": " ++ e.bytes)
    let setting (e : OsError) : ToolRun :=
      r.fail argv0 (bytes "setting times of " ++ fileQuote name ++ bytes ": " ++ e.bytes)
    if name == bytes "-" then r
    else
      match r.files.find name.text with
      | .ok _ => r
      | .error e =>
        if noCreate then r
        else if name.getLast? == some 47 then setting e
        else
          match r.files.creatable name.text with
          | .ok () => { r with files := r.files.write name.text [] }
          | .error e' => cannot (if e == .notADirectory then e else e')

def pwdTool (argv0 : Bytes) (args : List Bytes) (fs : Files) : ToolRun :=
  let decls := [.flag 'L', .flag 'P', .named "L" "logical" .no, .named "P" "physical" .no] ++
    helpOptions
  let r : ToolRun := { files := fs }
  match readOptions decls true args with
  | .error msg => r.usage argv0 msg
  | .ok (found, rest) =>
    if found.has "help" || found.has "version" then r.answerAbout "pwd" argv0 found
    else
      let r := if rest.isEmpty then r
        else r.err (toolMessage argv0 (bytes "ignoring non-option arguments"))
      r.out (bytes (absolutePath "/" fs.cwd) ++ [10])

/-! ## env -/

def envOptions : List OptionDecl :=
  [.flag 'i', .flag '0', .valued 'u', .valued 'C', .valued 'S', .flag 'v',
    .named "i" "ignore-environment" .no, .named "0" "null" .no, .named "u" "unset" .required,
    .named "C" "chdir" .required, .named "S" "split-string" .required, .named "v" "debug" .no,
    .named "default-signal" "default-signal" .optional,
    .named "ignore-signal" "ignore-signal" .optional,
    .named "block-signal" "block-signal" .optional,
    .named "list-signal-handling" "list-signal-handling" .no] ++ helpOptions

/-- What `env` is asked to do. -/
inductive EnvRequest where
  /-- Nothing to start: what it wrote and its status. -/
  | done (r : ToolRun)
  /-- Start a command in an environment, from another directory when one is given. -/
  | launch (env : List (String × Bytes)) (dir : Option Bytes) (cmd : Bytes) (args : List Bytes)

def setVariable (env : List (String × Bytes)) (name : String) (value : Bytes) :
    List (String × Bytes) :=
  if env.any (·.1 == name) then env.map fun (k, v) => if k == name then (k, value) else (k, v)
  else env ++ [(name, value)]

def splitString (s : Bytes) : List Bytes :=
  (s.splitOnP fun b => b == 32 || b == 9 || b == 10).filter (!·.isEmpty)

def isLongFor (long : String) (word : Bytes) : Bool :=
  match word with
  | 45 :: 45 :: name => !name.isEmpty && long.startsWith (Bytes.text name)
  | _ => false

def expandSplitStrings : Nat → List Bytes → List Bytes
  | 0, args => args
  | _ + 1, [] => []
  | n + 1, a :: rest =>
    let valueOf (v : Bytes) (more : List Bytes) : Option (Bytes × List Bytes) :=
      if v.isEmpty then
        match more with
        | w :: more' => some (w, more')
        | [] => none
      else some (v, more)
    match a with
    | [45, 45] => a :: rest
    | 45 :: 45 :: body =>
      let name := body.takeWhile (· != 61)
      let value := if name.length < body.length then some (body.drop (name.length + 1)) else none
      let word := [45, 45] ++ name
      if isLongFor "split-string" word then
        match value with
        | some v => expandSplitStrings n (splitString v ++ rest)
        | none =>
          match rest with
          | v :: more => expandSplitStrings n (splitString v ++ more)
          | [] => [a]
      else if value.isNone && (isLongFor "unset" word || isLongFor "chdir" word) then
        match rest with
        | v :: more => a :: v :: expandSplitStrings n more
        | [] => [a]
      else a :: expandSplitStrings n rest
    | 45 :: letters@(_ :: _) =>
      let flags := letters.takeWhile fun c => c != 83 && c != 117 && c != 67
      match letters.drop flags.length with
      | [] => a :: expandSplitStrings n rest
      | 83 :: v =>
        let group := if flags.isEmpty then [] else [45 :: flags]
        match valueOf v rest with
        | some (v, more) => group ++ expandSplitStrings n (splitString v ++ more)
        | none => [a]
      | _ :: v =>
        if v.isEmpty then
          match rest with
          | w :: more => a :: w :: expandSplitStrings n more
          | [] => [a]
        else a :: expandSplitStrings n rest
    | _ => a :: rest

def envRequest (argv0 : Bytes) (args : List Bytes) (env : List (String × Bytes)) (fs : Files) :
    EnvRequest :=
  let r : ToolRun := { files := fs }
  match readOptions envOptions false (expandSplitStrings (2 * args.length + 8) args) with
  | .error msg =>
    if msg == bytes "invalid option -- ' '" || msg == bytes "invalid option -- '\t'" then
      .done ({ (r.err (toolMessage argv0 msg ++
        toolMessage argv0 (bytes "use -[v]S to pass options in shebang lines") ++
        tryHelp argv0)) with status := 125 })
    else .done (r.usageWith 125 argv0 msg)
  | .ok (found, rest) =>
    if found.has "help" || found.has "version" then .done (r.answerAbout "env" argv0 found)
    else
      let (clear, rest) := match rest with
        | [45] :: more => (true, more)
        | _ => (found.has "i", rest)
      let unsets := (found.filter (·.1 == "u")).map (·.2.getD [])
      match (if clear then none else unsets.find? fun u => u.isEmpty || u.contains 61) with
      | some bad =>
        .done (r.failWith 125 argv0 (bytes "cannot unset " ++ messageQuote bad ++
          bytes ": Invalid argument"))
      | none =>
        let env := if clear then [] else env.filter fun (k, _) => !unsets.contains (bytes k)
        let assigns := rest.takeWhile (·.contains 61)
        let env := assigns.foldl (fun env a =>
          let name := a.takeWhile (· != 61)
          setVariable env (Bytes.text name) (a.drop (name.length + 1))) env
        match rest.drop assigns.length with
        | [] =>
          if found.has "C" then
            .done (r.usageWith 125 argv0 (bytes "must specify command with --chdir (-C)"))
          else
            let ending : UInt8 := if found.has "0" then 0 else 10
            .done (r.out (env.flatMap fun (k, v) => bytes k ++ [61] ++ v ++ [ending]))
        | cmd :: cmdArgs =>
          if found.has "0" then
            .done (r.usageWith 125 argv0 (bytes "cannot specify --null (-0) with command"))
          else .launch env (found.last "C") cmd cmdArgs

def findCommand (fs : Files) (pathVar : Option Bytes) (cmd : Bytes) : Except OsError String :=
  let attempt (path : String) : Except OsError String :=
    match fs.find path with
    | .ok (.program _) => .ok path
    | .ok _ => .error .permissionDenied
    | .error e => .error e
  if cmd.contains 47 then attempt cmd.text
  else
    let dirs := ((pathVar.getD (bytes "/bin:/usr/bin")).splitOn 58).map fun d =>
      if d.isEmpty then "." else Bytes.text d
    dirs.foldl (fun (acc : Except OsError String) dir =>
      match acc with
      | .ok p => .ok p
      | .error before =>
        match attempt (dir ++ "/" ++ cmd.text) with
        | .ok p => .ok p
        | .error .permissionDenied => .error .permissionDenied
        | .error _ => .error before) (.error .notFound)

/-! ## test -/

def Files.facts (fs : Files) (p : Bytes) : FileFacts :=
  let path := p.text
  if p.isEmpty then {}
  else
    match fs.find path with
    | .error _ => {}
    | .ok node =>
      let full := absolutePath fs.cwd path
      let spelled := "/" ++ "/".intercalate (pathParts (if path.startsWith "/" then path
        else fs.cwd ++ "/" ++ path))
      let common : FileFacts :=
        { exists_ := true, readable := true, writable := true,
          link := !path.endsWith "/" && machineLinks.contains spelled,
          sticky := stickyDirectories.contains full, setGroup := full == "/var/mail",
          ownGroup := !(otherGroupPaths.contains full),
          written := (fs.written.lookup full).isSome || fs.made.contains full, identity := full }
      match node with
      | .directory w =>
        { common with directory := true, writable := w, executable := true, nonEmpty := true }
      | .file content own => { common with regular := true, nonEmpty := !content.isEmpty || own }
      | .device _ => { common with device := true }
      | .program _ => { common with regular := true, executable := true, nonEmpty := true }

def testTool (argv0 : Bytes) (bracket : Bool) (args : List Bytes) (fs : Files) : ToolRun :=
  let r : ToolRun := { files := fs }
  match (if bracket then r.answerLone "[" argv0 args else none) with
  | some answered => answered
  | none =>
    if bracket && args.getLast? != some (bytes "]") then
      { (r.err (toolMessage argv0 (bytes "missing " ++ messageQuote (bytes "]")))) with status := 2 }
    else
      match conditionStatus fs.facts argv0 bracket args with
      | .ok s => { r with status := s }
      | .error msg => { (r.err (toolMessage argv0 msg)) with status := 2 }

/-! ## All programs -/

def runTool (prog : String) (argv0 : Bytes) (args : List Bytes) (env : List (String × Bytes))
    (input : Except OsError Bytes) (fs : Files) : ToolRun :=
  let r : ToolRun := { files := fs }
  match prog with
  | "echo" => (r.answerLone "echo" argv0 args).getD (echoTool args fs)
  | "printf" => (r.answerLone "printf" argv0 args).getD (printfTool argv0 args fs)
  | "true" => (r.answerLone "true" argv0 args).getD r
  | "false" => { (r.answerLone "false" argv0 args).getD r with status := 1 }
  | "cat" => catTool argv0 args input fs
  | "test" => testTool argv0 false args fs
  | "[" => testTool argv0 true args fs
  | "basename" => basenameTool argv0 args fs
  | "dirname" => dirnameTool argv0 args fs
  | "printenv" => printenvTool argv0 args env fs
  | "seq" => seqTool argv0 args fs
  | "sleep" => sleepTool argv0 args fs
  | "head" => partTool argv0 false args input fs
  | "tail" => partTool argv0 true args input fs
  | "wc" => wcTool argv0 args input fs
  | "tee" => teeTool argv0 args input fs
  | "rm" => rmTool argv0 args input fs
  | "rmdir" => rmdirTool argv0 args fs
  | "mkdir" => mkdirTool argv0 args fs
  | "touch" => touchTool argv0 args fs
  | "pwd" => pwdTool argv0 args fs
  | "grep" => grepTool argv0 args input fs
  | "tr" => trTool argv0 args input fs
  | "expr" => exprTool argv0 args fs
  | "sort" => LineSort.sortTool argv0 args input fs
  | "ls" => Listing.lsTool argv0 args fs
  | "whoami" => Identity.whoamiTool argv0 args fs
  | "id" => Identity.idTool argv0 args fs
  | "groups" => Identity.groupsTool argv0 args fs
  | "logname" => Identity.lognameTool argv0 args fs
  | "tty" => Identity.ttyTool argv0 args fs
  | "uname" => Identity.unameTool argv0 args fs
  | "arch" => Identity.archTool argv0 args fs
  | "cut" => Lines.cutTool argv0 args input fs
  | "uniq" => Lines.uniqTool argv0 args input fs
  | "tac" => Lines.tacTool argv0 args input fs
  | "paste" => Lines.pasteTool argv0 args input fs
  | "fold" => Lines.foldTool argv0 args input fs
  | "nl" => Lines.nlTool argv0 args input fs
  | "yes" => Lines.yesTool argv0 args fs
  | "od" => Dump.odTool argv0 args input fs
  | _ => { files := fs, status := 127 }

end LintBridge.Host
