import LintBridge.Host.Help
/-!
# od

`od` writes the bytes of its input in the formats asked for, sixteen to a line after the line's
offset, every format padded to the same width, and repeated lines written as `*`.
-/

namespace LintBridge.Host.Dump

open LintBridge.Host

/-- How a format writes a unit. -/
inductive UnitKind where
  | named
  | character
  | signed
  | unsigned
  | octal
  | hex
  deriving BEq

/-- A format: how it writes units, their size in bytes, and whether the printable characters of
the line follow it. -/
structure DumpFormat where
  kind : UnitKind
  size : Nat
  trailer : Bool := false

def DumpFormat.fieldWidth (f : DumpFormat) : Nat :=
  match f.kind with
  | .named | .character => 3
  | .octal => [3, 6, 11, 22].getD (Nat.log2 f.size) 22
  | .hex => 2 * f.size
  | .signed => [4, 6, 11, 20].getD (Nat.log2 f.size) 20
  | .unsigned => [3, 5, 10, 20].getD (Nat.log2 f.size) 20

def controlNames : List String :=
  ["nul", "soh", "stx", "etx", "eot", "enq", "ack", "bel", "bs", "ht", "nl", "vt", "ff", "cr",
    "so", "si", "dle", "dc1", "dc2", "dc3", "dc4", "nak", "syn", "etb", "can", "em", "sub",
    "esc", "fs", "gs", "rs", "us", "sp"]

def digitsPadded (base : Nat) (least : Nat) (n : Nat) : String :=
  let s := String.ofList (Nat.toDigits base n)
  String.ofList (List.replicate (least - s.length) '0') ++ s

def DumpFormat.unitText (f : DumpFormat) (unit : Bytes) : String :=
  let value := unit.foldr (fun b n => n * 256 + b.toNat) 0
  match f.kind with
  | .named =>
    let c := value % 128
    if c < 33 then controlNames.getD c "" else if c == 127 then "del"
    else String.singleton (Char.ofNat c)
  | .character =>
    let c := value
    if c == 0 then "\\0" else if c == 7 then "\\a" else if c == 8 then "\\b"
    else if c == 12 then "\\f" else if c == 10 then "\\n" else if c == 13 then "\\r"
    else if c == 9 then "\\t" else if c == 11 then "\\v"
    else if 32 ≤ c && c < 127 then String.singleton (Char.ofNat c)
    else digitsPadded 8 3 c
  | .octal => digitsPadded 8 f.fieldWidth value
  | .hex => digitsPadded 16 f.fieldWidth value
  | .unsigned => toString value
  | .signed =>
    let half := Nat.pow 2 (8 * f.size - 1)
    if value ≥ half then "-" ++ toString (2 * half - value) else toString value

def readTypes (s : Bytes) : Except Bytes (List DumpFormat) :=
  go (s.length + 1) s
where
  /-- Reads from here on. -/
  go : Nat → Bytes → Except Bytes (List DumpFormat)
    | 0, _ => .ok []
    | _ + 1, [] => .ok []
    | fuel + 1, c :: rest =>
      let bad : Except Bytes (List DumpFormat) :=
        .error (bytes "invalid character '" ++ [c] ++ bytes "' in type string " ++ messageQuote s)
      let kind : Option UnitKind :=
        if c == 97 then some .named else if c == 99 then some .character
        else if c == 100 then some .signed else if c == 117 then some .unsigned
        else if c == 111 then some .octal else if c == 120 then some .hex else none
      match kind with
      | none => bad
      | some k =>
        let (size, rest) : Nat × Bytes :=
          if k == .named || k == .character then (1, rest)
          else
            match rest with
            | 67 :: more => (1, more)
            | 83 :: more => (2, more)
            | 73 :: more => (4, more)
            | 76 :: more => (8, more)
            | _ =>
              let ds := rest.takeWhile isDigitByte
              if ds.isEmpty then (4, rest)
              else (ds.foldl (fun n d => n * 10 + (d - 48).toNat) 0, rest.drop ds.length)
        if !(size == 1 || size == 2 || size == 4 || size == 8) then
          .error (bytes "invalid type string " ++ messageQuote s ++ bytes ";\nthis system doesn't provide a " ++
            bytes (toString size) ++ bytes "-byte integral type")
        else
          let (trailer, rest) := match rest with
            | 122 :: more => (true, more)
            | _ => (false, rest)
          (go fuel rest).map ({ kind := k, size := size, trailer := trailer } :: ·)

def odOptions : List OptionDecl :=
  [.valued 'A', .valued 'j', .valued 'N', .valued 't', .flag 'v',
    { key := "w", letter := some 119, arg := .optional },
    .flag 'a', .flag 'b', .flag 'c', .flag 'd', .flag 'f', .flag 'i', .flag 'l', .flag 'o',
    .flag 's', .flag 'x', .named "address-radix" "address-radix" .required,
    .named "skip-bytes" "skip-bytes" .required, .named "read-bytes" "read-bytes" .required,
    .named "t" "format" .required, .named "v" "output-duplicates" .no,
    .named "width" "width" .optional, .named "endian" "endian" .required,
    .named "S" "strings" .optional, .named "traditional" "traditional" .no] ++ helpOptions

/-- Why a number did not read: it is not one, its suffix is wrong, or it is too large. -/
inductive CountError where
  | invalid
  | suffix
  | tooLarge

def countLimit : Nat := 18446744073709551615

def digitIn (base : Nat) (b : UInt8) : Option Nat :=
  let v : Option Nat :=
    if isDigitByte b then some (b - 48).toNat
    else if 97 ≤ b && b ≤ 102 then some (b - 87).toNat
    else if 65 ≤ b && b ≤ 70 then some (b - 55).toNat
    else none
  v.filter (· < base)

/-- Reads a count with a base, or with the base its text picks (hexadecimal after `0x`, octal
after `0`, decimal otherwise) when the base is 0, then a suffix from those allowed: `b` for 512,
`B` for 1024, and `k`, `K`, `M`, `m`, `G`, `g`, `T`, `P`, `E`, `Z`, `Y` for the powers of 1024,
or of 1000 when `B` follows and `0` is allowed (`iB` keeps 1024). With no digits, a suffix
stands for one of it. -/
def readCount (base : Nat) (allowed : Bytes) (s : Bytes) : Except CountError Nat :=
  let body := s.dropWhile isCSpace
  let body := match body with
    | 43 :: more => more
    | _ => body
  let (base, digits) : Nat × Bytes :=
    if base != 0 then (base, body)
    else
      match body with
      | 48 :: x :: d :: more =>
        if (x == 120 || x == 88) && (digitIn 16 d).isSome then (16, d :: more) else (8, body)
      | 48 :: _ => (8, body)
      | _ => (10, body)
  let ds := digits.takeWhile fun b => (digitIn base b).isSome
  let rest := digits.drop ds.length
  let value := ds.foldl (fun n d => n * base + (digitIn base d).getD 0) 0
  if (s.dropWhile isCSpace).head? == some 45 then .error .invalid
  else if ds.isEmpty && !(rest.head?.any allowed.contains) then .error .invalid
  else
    let value := if ds.isEmpty then 1 else value
    match rest with
    | [] => if value > countLimit then .error .tooLarge else .ok value
    | c :: more =>
      if !allowed.contains c then .error .suffix
      else
        let powers : List (UInt8 × Nat) :=
          [(69, 6), (71, 3), (103, 3), (107, 1), (75, 1), (77, 2), (109, 2), (80, 5), (84, 4),
            (116, 4), (89, 8), (90, 7)]
        match powers.lookup c with
        | some power =>
          let (unit, used) : Nat × Nat :=
            if !allowed.contains 48 then (1024, 0)
            else
              match more with
              | 105 :: 66 :: _ => (1024, 2)
              | 66 :: _ | 68 :: _ => (1000, 1)
              | _ => (1024, 0)
          let scaled := value * Nat.pow unit power
          if !(more.drop used).isEmpty then .error .suffix
          else if scaled > countLimit then .error .tooLarge
          else .ok scaled
        | none =>
          let scaled := if c == 98 then value * 512 else if c == 66 then value * 1024 else value
          if !more.isEmpty then .error .suffix
          else if scaled > countLimit then .error .tooLarge
          else .ok scaled

def countMessage (why : CountError) (option : String) (arg : Bytes) : Bytes :=
  let quoted := [39] ++ arg ++ [39]
  match why with
  | .invalid => bytes ("invalid " ++ option ++ " argument ") ++ quoted
  | .suffix => bytes ("invalid suffix in " ++ option ++ " argument ") ++ quoted
  | .tooLarge => bytes (option ++ " argument ") ++ quoted ++ bytes " too large"

def readStart (s : Bytes) : Option Nat :=
  if s.isEmpty then none
  else
    let s := match s with
      | 43 :: more => more
      | _ => s
    let base := if s.contains 46 then 10
      else
        match s with
        | 48 :: x :: _ => if x == 120 || x == 88 then 16 else 8
        | _ => 8
    let s := if base == 16 then s.drop 2 else s
    (readCount base (bytes "Bb") s).toOption

def offsetText (radix : Option Nat) (n : Nat) : String :=
  match radix with
  | some 10 => digitsPadded 10 7 n
  | some 16 => digitsPadded 16 6 n
  | some _ => digitsPadded 8 7 n
  | none => ""

/-- How a dump is laid out: its formats, the radix of its offsets (none writes none), the bytes
of a line, whether units are read most significant byte first, and whether repeated lines are
written out. -/
structure Layout where
  formats : List DumpFormat
  radix : Option Nat := some 8
  width : Nat := 16
  bigEndian : Bool := false
  everyLine : Bool := false

def Layout.unitLcm (l : Layout) : Nat := l.formats.foldl (fun m f => Nat.lcm m f.size) 1

def Layout.block (l : Layout) (offset : Nat) (chunk : Bytes) : Bytes :=
  let width := l.width
  let perBlock := l.formats.foldl (fun m f => max m ((f.fieldWidth + 1) * (width / f.size))) 0
  let lead := offsetText l.radix offset
  let blanks := String.ofList (List.replicate lead.length ' ')
  let padded := chunk ++ List.replicate (width - chunk.length) 0
  (l.formats.zipIdx.map fun (f, i) =>
    let fields := width / f.size
    let pad := perBlock - f.fieldWidth * fields
    let shown := (chunk.length + f.size - 1) / f.size
    let cells := (List.range shown).map fun k =>
      let nextPad := pad * (fields - k - 1) / fields
      let padRemaining := pad * (fields - k) / fields
      let unit := (padded.drop (k * f.size)).take f.size
      let text := f.unitText (if l.bigEndian then unit.reverse else unit)
      let w := padRemaining - nextPad + f.fieldWidth
      String.ofList (List.replicate (w - text.length) ' ') ++ text
    let trailer := if f.trailer then
        let rest := (fields - shown) * (f.fieldWidth + pad / fields)
        String.ofList (List.replicate rest ' ') ++ "  >" ++
          String.ofList (chunk.map fun b =>
            if 32 ≤ b && b < 127 then Char.ofNat b.toNat else '.') ++ "<"
      else ""
    bytes ((if i == 0 then lead else blanks) ++ String.join cells ++ trailer ++ "\n")).flatten

/-- The inputs as `od` reads them: the unread bytes of the open file (none once every file is
used up), the names still to open, and whether standard input was opened. Standard input is
read once: naming it again reads nothing more. -/
structure Feed where
  current : Option Bytes
  pending : List Bytes
  stdinOpened : Bool := false

def Feed.openNext (argv0 : Bytes) (input : Except OsError Bytes) (fs : Files) :
    ToolRun → Feed → ToolRun × Feed
  | r, { pending := [], stdinOpened := s, .. } => (r, { current := none, pending := [], stdinOpened := s })
  | r, { pending := name :: more, stdinOpened := s, .. } =>
    let content := if name == bytes "-" then (if s then .ok [] else input) else fs.read name.text
    let s := s || name == bytes "-"
    match content with
    | .ok c => (r, { current := some c, pending := more, stdinOpened := s })
    | .error e =>
      Feed.openNext argv0 input fs (r.fail argv0 (fileName name ++ bytes ": " ++ e.bytes))
        { current := none, pending := more, stdinOpened := s }
termination_by _ f => f.pending.length

/-- Reads up to some bytes, opening the next files when the open one runs out: the bytes read,
fewer only when every file is used up. -/
def Feed.take (argv0 : Bytes) (input : Except OsError Bytes) (fs : Files) :
    Nat → Nat → ToolRun × Feed → Bytes × ToolRun × Feed
  | 0, _, (r, f) => ([], r, f)
  | fuel + 1, n, (r, f) =>
    match f.current with
    | none => ([], r, f)
    | some c =>
      if n ≤ c.length then (c.take n, r, { f with current := some (c.drop n) })
      else
        let (got, r, f) := Feed.take argv0 input fs fuel (n - c.length)
          (Feed.openNext argv0 input fs r { f with current := none })
        (c ++ got, r, f)

/-- What a dump carries from block to block: the run so far, the feed, the offset, the last
block written, and whether a `*` stands for the repeats of it. -/
structure DumpState where
  run : ToolRun
  feed : Feed
  offset : Nat
  last : Option Bytes := none
  starred : Bool := false

/-- Writes a whole block, or `*` for the first of a run of repeats. -/
def DumpState.write (l : Layout) (s : DumpState) (chunk : Bytes) : DumpState :=
  if !l.everyLine && s.last == some chunk then
    { s with run := if s.starred then s.run else s.run.out (bytes "*\n"), starred := true,
             offset := s.offset + chunk.length }
  else
    { s with run := s.run.out (l.block s.offset chunk), last := some chunk, starred := false,
             offset := s.offset + chunk.length }

def dumpBlocks (argv0 : Bytes) (input : Except OsError Bytes) (fs : Files) (l : Layout)
    (stop : Option Nat) : Nat → DumpState → DumpState
  | 0, s => s
  | fuel + 1, s =>
    let wanted := match stop with
      | some e => min (e - s.offset) l.width
      | none => l.width
    let files := s.feed.pending.length + 2
    let (chunk, r, f) := if wanted == 0 then ([], s.run, s.feed)
      else Feed.take argv0 input fs files wanted (s.run, s.feed)
    let s := { s with run := r, feed := f }
    if chunk.length == l.width then dumpBlocks argv0 input fs l stop fuel (s.write l chunk)
    else
      let s := if chunk.isEmpty then s
        else { s with run := s.run.out (l.block s.offset chunk), offset := s.offset + chunk.length }
      let close := match l.radix with
        | some _ => bytes (offsetText l.radix s.offset ++ "\n")
        | none => []
      { s with run := s.run.out close }

/-- What the options ask for, as they are read in order. -/
structure OdRequest where
  formats : List DumpFormat := []
  radix : Option Nat := some 8
  skip : Nat := 0
  limit : Option Nat := none
  width : Option Nat := none
  bigEndian : Bool := false
  everyLine : Bool := false
  /-- Whether an option only newer dumps know was given, so that operands are only files. -/
  modern : Bool := false
  traditional : Bool := false

def endianChoices : List (String × Bool) := [("little", false), ("big", true)]

/-- Reads one option into the request, or answers at once: a wrong argument ends the run. -/
def OdRequest.take (r : ToolRun) (argv0 : Bytes) (q : OdRequest) (opt : String × Option Bytes) :
    Except ToolRun OdRequest :=
  let (key, arg) := opt
  let a := arg.getD []
  let short (k : UnitKind) (size : Nat) : Except ToolRun OdRequest :=
    .ok { q with formats := q.formats ++ [{ kind := k, size := size }] }
  let count (option : String) : Except ToolRun Nat :=
    match readCount 0 (bytes "bEGKkMmPTYZ0") a with
    | .ok n => .ok n
    | .error why => .error (r.fail argv0 (countMessage why option a))
  if key == "help" then .error (r.writeHelp "od" argv0)
  else if key == "version" then .error (r.writeVersion "od")
  else if key == "A" || key == "address-radix" then
    let q := { q with modern := true }
    match a.head? with
    | some 100 => .ok { q with radix := some 10 }
    | some 111 => .ok { q with radix := some 8 }
    | some 120 => .ok { q with radix := some 16 }
    | some 110 => .ok { q with radix := none }
    | c =>
      .error (r.fail argv0 (bytes "invalid output address radix '" ++ c.toList ++
        bytes "'; it must be one character from [doxn]"))
  else if key == "j" || key == "skip-bytes" then
    (count (if key == "j" then "-j" else "--skip-bytes")).map fun n =>
      { q with skip := n, modern := true }
  else if key == "N" || key == "read-bytes" then
    (count (if key == "N" then "-N" else "--read-bytes")).map fun n =>
      { q with limit := some n, modern := true }
  else if key == "t" then
    match readTypes a with
    | .ok fs => .ok { q with formats := q.formats ++ fs, modern := true }
    | .error msg => .error (r.fail argv0 msg)
  else if key == "w" || key == "width" then
    match arg with
    | none => .ok { q with width := some 32, modern := true }
    | some a =>
      match readCount 10 [] a with
      | .ok n => .ok { q with width := some n, modern := true }
      | .error why =>
        .error (r.fail argv0 (countMessage why (if key == "w" then "-w" else "--width") a))
  else if key == "v" then .ok { q with everyLine := true, modern := true }
  else if key == "S" then .ok { q with modern := true }
  else if key == "traditional" then .ok { q with traditional := true }
  else if key == "endian" then
    match pickChoice endianChoices a with
    | .ok big => .ok { q with bigEndian := big }
    | .error why => .error (r.badChoice argv0 "--endian" a why endianChoices)
  else if key == "a" then short .named 1
  else if key == "b" then short .octal 1
  else if key == "c" then short .character 1
  else if key == "d" then short .unsigned 2
  else if key == "i" then short .signed 4
  else if key == "l" then short .signed 8
  else if key == "o" then short .octal 2
  else if key == "s" then short .signed 2
  else if key == "x" then short .hex 2
  else .ok q

/-- The files to read and where to start: an operand after the files may give the start
instead, when no option of newer dumps was given (a lone operand only when it starts with `+`). -/
def OdRequest.operands (q : OdRequest) (ops : List Bytes) : List Bytes × Nat :=
  if q.modern && !q.traditional then (ops, q.skip)
  else
    match ops with
    | [only] =>
      match readStart only with
      | some n => if only.head? == some 43 || q.traditional then ([], n) else (ops, q.skip)
      | none => (ops, q.skip)
    | [file, start] =>
      match readStart start with
      | some n => ([file], n)
      | none => (ops, q.skip)
    | _ => (ops, q.skip)

def odTool (argv0 : Bytes) (args : List Bytes) (input : Except OsError Bytes) (fs : Files) :
    ToolRun :=
  let r : ToolRun := { files := fs }
  let reading := scanOptions odOptions true args
  match reading.found.foldlM (OdRequest.take r argv0) {} with
  | .error answered => answered
  | .ok q =>
    match reading.wrong with
    | some msg => r.usage argv0 msg
    | none =>
      let formats := if q.formats.isEmpty then [{ kind := .octal, size := 2 }] else q.formats
      let layout : Layout := { formats := formats, radix := q.radix, bigEndian := q.bigEndian,
                               everyLine := q.everyLine }
      let lcm := layout.unitLcm
      let (r, width) := match q.width with
        | none => (r, 16)
        | some w =>
          if w != 0 && w % lcm == 0 then (r, w)
          else
            (r.err (toolMessage argv0 (bytes ("warning: invalid width " ++ toString w ++
              "; using " ++ toString lcm ++ " instead"))), lcm)
      let layout := { layout with width := width }
      let (files, skip) := q.operands reading.operands
      let files := if files.isEmpty then [bytes "-"] else files
      let (r, feed) := Feed.openNext argv0 input fs r { current := none, pending := files }
      match feed.current with
      | none => r
      | some _ =>
        let fuel := files.length + 2
        let (skipped, r, feed) := Feed.take argv0 input fs fuel skip (r, feed)
        let leftInput (r : ToolRun) (f : Feed) : ToolRun :=
          if f.stdinOpened then { r with inputLeft := some [] } else r
        if skipped.length < skip then
          (leftInput r feed).fail argv0 (bytes "cannot skip past end of combined input")
        else
          let total := (files.map fun n =>
            if n == bytes "-" then (input.toOption.getD []).length
            else ((fs.read n.text).toOption.getD []).length).foldl (· + ·) 0
          let stop := q.limit.map (skip + ·)
          let s := dumpBlocks argv0 input fs layout stop (total / width + 2)
            { run := r, feed := feed, offset := skip }
          leftInput s.run s.feed

end LintBridge.Host.Dump
