import LintBridge.Host.Help
/-!
# Programs that rework lines

`cut`, `uniq`, `tac`, `paste`, `fold`, `nl` and `yes`. They read their files in turn, standard
input for `-` or when none is named, and work byte by byte.
-/

namespace LintBridge.Host.Lines

open LintBridge.Host

/-! ## Shared pieces -/

/-- The records of a text ended by a byte, each without it; a last record need not end. -/
def records (eol : UInt8) (content : Bytes) : List Bytes :=
  if content.isEmpty then []
  else
    let parts := content.splitOn eol
    if content.getLast? == some eol then parts.dropLast else parts

def readNamed (r : ToolRun) (names : List Bytes) (input : Except OsError Bytes) (fs : Files) :
    List (Bytes × Except OsError Bytes) × ToolRun :=
  let (read, left) := readInputs names input fs
  (read, match left with
    | some _ => { r with inputLeft := some [] }
    | none => r)

/-- A blank for the programs that skip fields: a space or a tab. -/
def isBlank (c : UInt8) : Bool := c == 32 || c == 9

/-- Reads a decimal count, all of it: digits after optional blanks and a `+`. Gives none for a
count that is not one, and the largest size for one too large. -/
def readCount (s : Bytes) : Option Nat :=
  let body := s.dropWhile fun c => c == 32 || (9 ≤ c && c ≤ 13)
  if body.head? == some 45 then none
  else
    let body := match body with
      | 43 :: more => more
      | _ => body
    let ds := body.takeWhile isDigitByte
    if ds.isEmpty || ds.length != body.length then none
    else some (min (ds.foldl (fun n d => n * 10 + (d - 48).toNat) 0) 18446744073709551615)

/-! ## cut -/

abbrev Span := Nat × Nat

def openEnd : Nat := 18446744073709551615

def spanFault (positions : Bool) (what : String) : Bytes :=
  bytes (match what with
    | "zero" => if positions then "byte/character positions are numbered from 1"
      else "fields are numbered from 1"
    | "range" => if positions then "invalid byte or character range" else "invalid field range"
    | "missing" => if positions then "missing list of byte/character positions"
      else "missing list of fields"
    | other => other)

/-- The state of reading a list: the ranges so far, the start of the range being read, the
number being read, and whether a left number, a right number and a dash were seen. -/
structure SpanReading where
  spans : List Span := []
  initial : Nat := 1
  value : Nat := 0
  left : Bool := false
  right : Bool := false
  dash : Bool := false
  digitsAt : Bytes := []

/-- Ends a list item at a comma, a blank or the end of the text. -/
def SpanReading.close (st : SpanReading) (positions : Bool) : Except Bytes SpanReading :=
  if st.dash then
    if !st.left && !st.right then .error (bytes "invalid range with no endpoint: -")
    else if !st.right then
      .ok { st with spans := st.spans ++ [(st.initial, openEnd)], dash := false, value := 0 }
    else if st.value < st.initial then .error (bytes "invalid decreasing range")
    else .ok { st with spans := st.spans ++ [(st.initial, st.value)], dash := false, value := 0 }
  else if st.value == 0 then .error (spanFault positions "zero")
  else .ok { st with spans := st.spans ++ [(st.value, st.value)], value := 0 }

def readSpanList (positions : Bool) (text : Bytes) : Except Bytes (List Span) :=
  go (text.length + 1) text {}
where
  /-- Reads from here on. -/
  go : Nat → Bytes → SpanReading → Except Bytes (List Span)
    | 0, _, st => .ok st.spans
    | fuel + 1, rest, st =>
      match rest with
      | [] =>
        match st.close positions with
        | .error e => .error e
        | .ok st => if st.spans.isEmpty then .error (spanFault positions "missing") else .ok st.spans
      | c :: more =>
        if c == 45 then
          if st.dash then .error (spanFault positions "range")
          else if st.left && st.value == 0 then .error (spanFault positions "zero")
          else go fuel more { st with dash := true, initial := if st.left then st.value else 1,
                                      value := 0 }
        else if c == 44 || isBlank c then
          match st.close positions with
          | .error e => .error e
          | .ok st => go fuel more { st with left := false, right := false }
        else if isDigitByte c then
          let digitsAt := if st.digitsAt.isEmpty || !(st.value != 0 || st.left || st.right) then
              rest else st.digitsAt
          let value := st.value * 10 + (c - 48).toNat
          if value ≥ openEnd then
            let shown := digitsAt.takeWhile isDigitByte
            .error (bytes (if positions then "byte/character offset " else "field number ") ++
              messageQuote shown ++ bytes " is too large")
          else if st.dash then go fuel more { st with value := value, right := true, digitsAt := digitsAt }
          else go fuel more { st with value := value, left := true, digitsAt := digitsAt }
        else
          .error (bytes (if positions then "invalid byte/character position " else
            "invalid field value ") ++ messageQuote rest)

def mergeSpans (spans : List Span) : List Span :=
  let sorted := spans.mergeSort fun a b => a.1 ≤ b.1
  (sorted.foldl (fun (acc : List Span) (lo, hi) =>
    match acc with
    | (plo, phi) :: rest => if lo ≤ phi then (plo, max phi hi) :: rest else (lo, hi) :: acc
    | [] => [(lo, hi)]) []).reverse

def complementSpans (spans : List Span) : List Span :=
  let (acc, next) := spans.foldl (fun (acc : List Span × Nat) (lo, hi) =>
    let (out, next) := acc
    ((if next < lo then out ++ [(next, lo - 1)] else out), hi + 1)) ([], 1)
  if next ≤ openEnd - 1 then acc ++ [(next, openEnd)] else acc

def inSpans (spans : List Span) (i : Nat) : Bool := spans.any fun (lo, hi) => lo ≤ i && i ≤ hi

def startsSpan (spans : List Span) (i : Nat) : Bool := spans.any (·.1 == i)

def cutOptions : List OptionDecl :=
  [.valued 'b', .valued 'c', .valued 'd', .valued 'f', .flag 'n', .flag 's', .flag 'z',
    .named "b" "bytes" .required, .named "c" "characters" .required,
    .named "d" "delimiter" .required, .named "f" "fields" .required,
    .named "s" "only-delimited" .no, .named "z" "zero-terminated" .no,
    .named "complement" "complement" .no, .named "output-delimiter" "output-delimiter" .required]
    ++ helpOptions

/-- What `cut` is asked to do. -/
structure CutRequest where
  list : Option Bytes := none
  positions : Bool := false
  delim : Option UInt8 := none
  outDelim : Option Bytes := none
  onlyDelimited : Bool := false
  eol : UInt8 := 10
  complement : Bool := false

def cutPositions (spans : List Span) (outDelim : Option Bytes) (line : Bytes) : Bytes :=
  let (out, _) := line.zipIdx.foldl (fun (acc : Bytes × Bool) (c, i) =>
    let (out, started) := acc
    if inSpans spans (i + 1) then
      let sep := match outDelim with
        | some d => if started && startsSpan spans (i + 1) then d else []
        | none => []
      (out ++ sep ++ [c], true)
    else acc) ([], false)
  out

def cutFields (spans : List Span) (delim : UInt8) (outDelim : Bytes) (onlyDelimited : Bool)
    (line : Bytes) : Option Bytes :=
  if !line.contains delim then (if onlyDelimited then none else some line)
  else
    let fields := line.splitOn delim
    let chosen := (fields.zipIdx.filter fun (_, i) => inSpans spans (i + 1)).map (·.1)
    some (outDelim.intercalate chosen)

def cutTool (argv0 : Bytes) (args : List Bytes) (input : Except OsError Bytes) (fs : Files) :
    ToolRun :=
  let r : ToolRun := { files := fs }
  let reading := scanOptions cutOptions true args
  let step (q : CutRequest) (opt : String × Option Bytes) : Except ToolRun CutRequest :=
    let (key, arg) := opt
    let a := arg.getD []
    if key == "help" then .error (r.writeHelp "cut" argv0)
    else if key == "version" then .error (r.writeVersion "cut")
    else if key == "b" || key == "c" || key == "f" then
      if q.list.isSome then .error (r.usage argv0 (bytes "only one list may be specified"))
      else .ok { q with list := some a, positions := q.positions || key != "f" }
    else if key == "d" then
      if a.length > 1 then .error (r.usage argv0 (bytes "the delimiter must be a single character"))
      else .ok { q with delim := some (a.headD 0) }
    else if key == "output-delimiter" then
      .ok { q with outDelim := some (if a.isEmpty then [0] else a) }
    else if key == "s" then .ok { q with onlyDelimited := true }
    else if key == "z" then .ok { q with eol := 0 }
    else if key == "complement" then .ok { q with complement := true }
    else .ok q
  match reading.found.foldlM step {} with
  | .error answered => answered
  | .ok q =>
    match reading.wrong with
    | some msg => r.usage argv0 msg
    | none =>
      match q.list with
      | none => r.usage argv0 (bytes "you must specify a list of bytes, characters, or fields")
      | some list =>
        if q.positions && q.delim.isSome then
          r.usage argv0 (bytes "an input delimiter may be specified only when operating on fields")
        else if q.positions && q.onlyDelimited then
          r.usage argv0 (bytes "suppressing non-delimited lines makes sense\n\tonly when operating on fields")
        else
          match readSpanList q.positions list with
          | .error msg => r.usage argv0 msg
          | .ok spans =>
            let spans := mergeSpans spans
            let spans := if q.complement then complementSpans spans else spans
            let delim := q.delim.getD 9
            let (inputs, r) := readNamed r reading.operands input fs
            inputs.foldl (fun (r : ToolRun) (name, content) =>
              match content with
              | .error e => r.fail argv0 (fileName name ++ bytes ": " ++ e.bytes)
              | .ok c =>
                let lines := records q.eol c
                let out := lines.flatMap fun line =>
                  if q.positions then cutPositions spans q.outDelim line ++ [q.eol]
                  else
                    match cutFields spans delim (q.outDelim.getD [delim]) q.onlyDelimited line with
                    | some kept => kept ++ [q.eol]
                    | none => []
                r.out out) r

/-! ## uniq -/

def uniqOptions : List OptionDecl :=
  [.flag 'c', .flag 'd', .flag 'D', .valued 'f', .flag 'i', .valued 's', .flag 'u',
    .valued 'w', .flag 'z', .named "c" "count" .no, .named "d" "repeated" .no,
    .named "all-repeated" "all-repeated" .optional, .named "f" "skip-fields" .required,
    .named "group" "group" .optional, .named "i" "ignore-case" .no,
    .named "s" "skip-chars" .required, .named "u" "unique" .no,
    .named "w" "check-chars" .required, .named "z" "zero-terminated" .no] ++ helpOptions

/-- How `uniq` separates groups when it writes all of them: not at all, before each, between
them, or around them. -/
inductive GroupMarks where
  | none
  | prepend
  | separate
  | append
  | both
  deriving BEq

/-- What `uniq` is asked to do. -/
structure UniqRequest where
  count : Bool := false
  repeated : Bool := false
  unique : Bool := false
  allRepeated : Option GroupMarks := none
  groups : Option GroupMarks := none
  skipFields : Nat := 0
  skipChars : Nat := 0
  checkChars : Option Nat := none
  ignoreCase : Bool := false
  eol : UInt8 := 10

/-- The part of a line `uniq` compares: after some fields and characters, and at most some
characters of it. -/
def UniqRequest.key (q : UniqRequest) (line : Bytes) : Bytes :=
  let skipField (s : Bytes) : Bytes := (s.dropWhile isBlank).dropWhile fun c => !isBlank c
  let rest := (List.range q.skipFields).foldl (fun s _ => skipField s) line
  let rest := rest.drop q.skipChars
  let rest := match q.checkChars with
    | some n => rest.take n
    | none => rest
  if q.ignoreCase then rest.map fun c => if 97 ≤ c && c ≤ 122 then c - 32 else c else rest

def groupLines (q : UniqRequest) (lines : List Bytes) : List (List Bytes) :=
  (lines.foldl (fun (acc : List (List Bytes)) l =>
    match acc with
    | (first :: more) :: rest =>
      if q.key first == q.key l then (first :: more ++ [l]) :: rest else [l] :: acc
    | _ => [l] :: acc) []).reverse

def groupWords : List (String × String) :=
  [("none", "none"), ("prepend", "prepend"), ("separate", "separate"), ("append", "append"),
    ("both", "both")]

def marksOf (w : String) : GroupMarks :=
  match w with
  | "prepend" => .prepend
  | "separate" => .separate
  | "append" => .append
  | "both" => .both
  | _ => .none

/-- What `uniq` writes for the runs of lines. -/
def UniqRequest.render (q : UniqRequest) (runs : List (List Bytes)) : Bytes :=
  let eol := q.eol
  let line (l : Bytes) : Bytes := l ++ [eol]
  match q.groups with
  | some marks =>
    let body := runs.map fun g => g.flatMap line
    let before := marks == .prepend || marks == .both
    let after := marks == .append || marks == .both
    (if before && !runs.isEmpty then [eol] else []) ++ [eol].intercalate body ++
      (if after && !runs.isEmpty then [eol] else [])
  | none =>
    match q.allRepeated with
    | some marks =>
      let chosen := runs.filter fun g => g.length > 1
      let body := chosen.map fun g => g.flatMap line
      if marks == .prepend then body.flatMap fun b => [eol] ++ b
      else if marks == .separate then [eol].intercalate body
      else body.flatten
    | none =>
      runs.flatMap fun g =>
        let n := g.length
        if (q.repeated && n < 2) || (q.unique && n > 1) then []
        else
          let first := g.headD []
          if q.count then
            let s := toString n
            bytes (String.ofList (List.replicate (7 - s.length) ' ') ++ s ++ " ") ++ line first
          else line first

def uniqTool (argv0 : Bytes) (args : List Bytes) (input : Except OsError Bytes) (fs : Files) :
    ToolRun :=
  let r : ToolRun := { files := fs }
  let reading := scanOptions uniqOptions true args
  let number (a : Bytes) (what : String) : Except ToolRun Nat :=
    match readCount a with
    | some n => .ok n
    | none => .error (r.fail argv0 (a ++ bytes ": " ++ bytes what))
  let step (q : UniqRequest) (opt : String × Option Bytes) : Except ToolRun UniqRequest :=
    let (key, arg) := opt
    let a := arg.getD []
    if key == "help" then .error (r.writeHelp "uniq" argv0)
    else if key == "version" then .error (r.writeVersion "uniq")
    else if key == "c" then .ok { q with count := true }
    else if key == "d" then .ok { q with repeated := true }
    else if key == "u" then .ok { q with unique := true }
    else if key == "i" then .ok { q with ignoreCase := true }
    else if key == "z" then .ok { q with eol := 0 }
    else if key == "D" then .ok { q with allRepeated := some .none }
    else if key == "all-repeated" || key == "group" then
      let choices := if key == "group" then groupWords else groupWords.take 3
      match arg with
      | none =>
        if key == "group" then .ok { q with groups := some .separate }
        else .ok { q with allRepeated := some .none }
      | some w =>
        match pickChoice choices w with
        | .ok v =>
          if key == "group" then .ok { q with groups := some (marksOf v) }
          else .ok { q with allRepeated := some (marksOf v) }
        | .error why => .error (r.badChoice argv0 ("--" ++ key) w why choices)
    else if key == "f" then (number a "invalid number of fields to skip").map fun n =>
      { q with skipFields := n }
    else if key == "s" then (number a "invalid number of bytes to skip").map fun n =>
      { q with skipChars := n }
    else if key == "w" then (number a "invalid number of bytes to compare").map fun n =>
      { q with checkChars := some n }
    else .ok q
  match reading.found.foldlM step {} with
  | .error answered => answered
  | .ok q =>
    match reading.wrong with
    | some msg => r.usage argv0 msg
    | none =>
      match reading.operands with
      | _ :: _ :: extra :: _ => r.usage argv0 (bytes "extra operand " ++ messageQuote extra)
      | operands =>
        if q.groups.isSome && (q.repeated || q.unique || q.count || q.allRepeated.isSome) then
          r.usage argv0 (bytes "--group is mutually exclusive with -c/-d/-D/-u")
        else if q.count && q.allRepeated.isSome then
          r.usage argv0 (bytes "printing all duplicated lines and repeat counts is meaningless")
        else
          let source := operands.headD (bytes "-")
          let content : Except OsError Bytes :=
            if source == bytes "-" then input else fs.read source.text
          let r := if source == bytes "-" then { r with inputLeft := some [] } else r
          match content with
          | .error e => r.fail argv0 (fileName source ++ bytes ": " ++ e.bytes)
          | .ok c =>
            let out := q.render (groupLines q (records q.eol c))
            match operands.drop 1 with
            | target :: _ =>
              if target == bytes "-" then r.out out
              else
                match fs.find target.text with
                | .ok (.directory _) =>
                  r.fail argv0 (fileName target ++ bytes ": Is a directory")
                | .ok (.device (.descriptor 1)) => r.out out
                | .ok (.device (.descriptor 2)) => r.err out
                | .ok (.device _) => r
                | .ok _ => { r with files := r.files.write target.text out }
                | .error _ =>
                  match fs.creatable target.text with
                  | .ok () => { r with files := r.files.write target.text out }
                  | .error e => r.fail argv0 (fileName target ++ bytes ": " ++ e.bytes)
            | [] => r.out out

/-! ## tac -/

def tacOptions : List OptionDecl :=
  [.flag 'b', .flag 'r', .valued 's', .named "b" "before" .no, .named "r" "regex" .no,
    .named "s" "separator" .required] ++ helpOptions

def splitKeeping (sep : Bytes) (before : Bool) (content : Bytes) : List Bytes :=
  let parts := splitOnText content
  if before then
    match parts with
    | first :: rest => (if first.isEmpty then [] else [first]) ++ rest.map (sep ++ ·)
    | [] => []
  else
    let n := parts.length
    (parts.zipIdx.filterMap fun (p, i) =>
      if i + 1 < n then some (p ++ sep) else if p.isEmpty then none else some p)
where
  /-- The pieces of a text between the occurrences of a separator. -/
  splitOnText (content : Bytes) : List Bytes :=
    go (content.length + 1) content []
  /-- Goes on from a text left, with the piece being read. -/
  go : Nat → Bytes → Bytes → List Bytes
    | 0, rest, piece => [piece ++ rest]
    | _ + 1, [], piece => [piece]
    | fuel + 1, c :: more, piece =>
      if !sep.isEmpty && sep.isPrefixOf (c :: more) then
        piece :: go fuel ((c :: more).drop sep.length) []
      else go fuel more (piece ++ [c])

def tacTool (argv0 : Bytes) (args : List Bytes) (input : Except OsError Bytes) (fs : Files) :
    ToolRun :=
  let r : ToolRun := { files := fs }
  match readOptions tacOptions true args with
  | .error msg => r.usage argv0 msg
  | .ok (found, names) =>
    if found.has "help" || found.has "version" then r.answerAbout "tac" argv0 found
    else
      -- an empty separator is the NUL byte that ends it
      let sep := match found.last "s" with
        | some [] => [0]
        | some s => s
        | none => [10]
      let (inputs, r) := readNamed r names input fs
      inputs.foldl (fun (r : ToolRun) (name, content) =>
        match content with
        | .error e => r.fail argv0 (fileName name ++ bytes ": " ++ e.bytes)
        | .ok c => r.out (splitKeeping sep (found.has "b") c).reverse.flatten) r

/-! ## paste -/

def pasteOptions : List OptionDecl :=
  [.valued 'd', .flag 's', .flag 'z', .named "d" "delimiters" .required,
    .named "s" "serial" .no, .named "z" "zero-terminated" .no] ++ helpOptions

def readDelimiters (list : Bytes) : Except Bytes (List (Option UInt8)) :=
  go (list.length + 1) list
where
  /-- Reads from here on. -/
  go : Nat → Bytes → Except Bytes (List (Option UInt8))
    | 0, _ => .ok []
    | _ + 1, [] => .ok []
    | fuel + 1, 92 :: c :: more =>
      let d : Option UInt8 :=
        if c == 48 then none else if c == 98 then some 8 else if c == 102 then some 12
        else if c == 110 then some 10 else if c == 114 then some 13 else if c == 116 then some 9
        else if c == 118 then some 11 else some c
      (go fuel more).map (d :: ·)
    | _ + 1, [92] =>
      .error (bytes "delimiter list ends with an unescaped backslash: " ++ list)
    | fuel + 1, c :: more => (go fuel more).map (some c :: ·)

def joinCycling (delims : List (Option UInt8)) (pieces : List Bytes) : Bytes :=
  let n := delims.length
  (pieces.zipIdx.map fun (p, i) =>
    if i == 0 || n == 0 then p
    else
      match delims.getD ((i - 1) % n) none with
      | some d => d :: p
      | none => p).flatten

def pasteTool (argv0 : Bytes) (args : List Bytes) (input : Except OsError Bytes) (fs : Files) :
    ToolRun :=
  let r : ToolRun := { files := fs }
  match readOptions pasteOptions true args with
  | .error msg => r.usage argv0 msg
  | .ok (found, names) =>
    if found.has "help" || found.has "version" then r.answerAbout "paste" argv0 found
    else
      match readDelimiters ((found.last "d").getD [9]) with
      | .error msg => r.fail argv0 msg
      | .ok delims =>
        let delims := if delims.isEmpty then [none] else delims
        let eol : UInt8 := if found.has "z" then 0 else 10
        let (inputs, r) := readNamed r names input fs
        let failed := inputs.findSome? fun (name, c) =>
          match c with
          | .error e => some (name, e)
          | .ok _ => none
        match failed with
        | some (name, e) => r.fail argv0 (fileName name ++ bytes ": " ++ e.bytes)
        | none =>
          let contents := inputs.map fun (_, c) => records eol (c.toOption.getD [])
          if found.has "s" then
            -- standard input is read up by the first `-`
            let (_, rows) := (inputs.zip contents).foldl (fun (acc : Bool × List Bytes) ((name, _), lines) =>
              let (used, rows) := acc
              let lines := if name == bytes "-" && used then [] else lines
              (used || name == bytes "-", rows ++ [joinCycling delims lines ++ [eol]])) (false, [])
            r.out rows.flatten
          else
            -- each `-` takes the next line of standard input in turn
            let shared := inputs.filter (·.1 == bytes "-") |>.length
            let stdinLines := match inputs.find? (·.1 == bytes "-") with
              | some (_, c) => records eol (c.toOption.getD [])
              | none => []
            let columns := (inputs.zip contents).foldl
              (fun (acc : List (List Bytes) × Nat) ((name, _), lines) =>
                let (cols, k) := acc
                if name == bytes "-" then
                  let mine := stdinLines.zipIdx.filterMap fun (l, i) =>
                    if i % shared == k then some l else none
                  (cols ++ [mine], k + 1)
                else (cols ++ [lines], k)) ([], 0)
            let columns := columns.1
            let rows := columns.foldl (fun m ls => max m ls.length) 0
            r.out ((List.range rows).flatMap fun i =>
              joinCycling delims (columns.map fun ls => ls.getD i []) ++ [eol])

/-! ## fold -/

def foldOptions : List OptionDecl :=
  [.flag 'b', .flag 's', .valued 'w', .named "b" "bytes" .no, .named "s" "spaces" .no,
    .named "w" "width" .required] ++ helpOptions

def nextColumn (bytesOnly : Bool) (col : Nat) (c : UInt8) : Nat :=
  if bytesOnly then col + 1
  else if c == 8 then col - 1
  else if c == 13 then 0
  else if c == 9 then col + 8 - col % 8
  else col + 1

/-- The state of folding: what is written, and the line being built with its column. -/
structure FoldState where
  out : Bytes := []
  line : Bytes := []
  col : Nat := 0

def foldByte (width : Nat) (bytesOnly spaces : Bool) : Nat → FoldState → UInt8 → FoldState
  | 0, st, c => { st with line := st.line ++ [c] }
  | fuel + 1, st, c =>
    if c == 10 then { out := st.out ++ st.line ++ [10], line := [], col := 0 }
    else
      let col := nextColumn bytesOnly st.col c
      if col > width then
        let blank := if spaces then
            (st.line.zipIdx.filter fun (b, _) => b == 32 || b == 9).getLast?.map (·.2) else none
        match blank with
        | some place =>
          let kept := st.line.take (place + 1)
          let rest := st.line.drop (place + 1)
          let restCol := rest.foldl (nextColumn bytesOnly) 0
          let next : FoldState := { out := st.out ++ kept ++ [10], line := rest, col := restCol }
          foldByte width bytesOnly spaces fuel next c
        | none =>
          if st.line.isEmpty then { st with line := [c], col := col }
          else
            let next : FoldState := { out := st.out ++ st.line ++ [10], line := [], col := 0 }
            foldByte width bytesOnly spaces fuel next c
      else { st with line := st.line ++ [c], col := col }

def foldText (width : Nat) (bytesOnly spaces : Bool) (text : Bytes) : Bytes :=
  let st := text.foldl (fun st c => foldByte width bytesOnly spaces (st.line.length + 3) st c) {}
  st.out ++ st.line

def foldTool (argv0 : Bytes) (args : List Bytes) (input : Except OsError Bytes) (fs : Files) :
    ToolRun :=
  let r : ToolRun := { files := fs }
  let args := args.map fun a =>
    match a with
    | 45 :: d :: _ => if isDigitByte d then bytes "-w" ++ a.drop 1 else a
    | _ => a
  match readOptions foldOptions true args with
  | .error msg => r.usage argv0 msg
  | .ok (found, names) =>
    if found.has "help" || found.has "version" then r.answerAbout "fold" argv0 found
    else
      let widthArg := found.last "w"
      let width : Except Bytes Nat := match widthArg with
        | none => .ok 80
        | some a =>
          let fault (tail : String) : Except Bytes Nat :=
            .error (bytes "invalid number of columns: " ++ messageQuote a ++ bytes tail)
          match readCount a with
          | some n =>
            if n ≥ openEnd then fault ": Value too large for defined data type"
            else if n == 0 || n > openEnd - 9 then fault ": Numerical result out of range"
            else .ok n
          | none => fault ""
      match width with
      | .error msg => r.fail argv0 msg
      | .ok width =>
        let (inputs, r) := readNamed r names input fs
        inputs.foldl (fun (r : ToolRun) (name, content) =>
          match content with
          | .error e => r.fail argv0 (fileName name ++ bytes ": " ++ e.bytes)
          | .ok c => r.out (foldText width (found.has "b") (found.has "s") c)) r

/-! ## nl -/

def nlOptions : List OptionDecl :=
  [.valued 'b', .valued 'd', .valued 'f', .valued 'h', .valued 'i', .valued 'l', .valued 'n',
    .flag 'p', .valued 's', .valued 'v', .valued 'w',
    .named "b" "body-numbering" .required, .named "d" "section-delimiter" .required,
    .named "f" "footer-numbering" .required, .named "h" "header-numbering" .required,
    .named "i" "line-increment" .required, .named "l" "join-blank-lines" .required,
    .named "n" "number-format" .required, .named "p" "no-renumber" .no,
    .named "s" "number-separator" .required, .named "v" "starting-line-number" .required,
    .named "w" "number-width" .required] ++ helpOptions

/-- Which lines a section numbers: all, the non-empty ones, or none. -/
inductive NumberedLines where
  | all
  | nonEmpty
  | nothing
  deriving BEq

def readStyle (a : Bytes) : Option NumberedLines :=
  match a with
  | [97] => some .all
  | [116] => some .nonEmpty
  | [110] => some .nothing
  | 112 :: _ => some .nonEmpty
  | _ => none

def nlTool (argv0 : Bytes) (args : List Bytes) (input : Except OsError Bytes) (fs : Files) :
    ToolRun :=
  let r : ToolRun := { files := fs }
  match readOptions nlOptions true args with
  | .error msg => r.usage argv0 msg
  | .ok (found, names) =>
    if found.has "help" || found.has "version" then r.answerAbout "nl" argv0 found
    else
      let style := match found.last "b" with
        | some a => readStyle a
        | none => some .nonEmpty
      match style with
      | none =>
        r.usage argv0 (bytes "invalid body numbering style: " ++ messageQuote ((found.last "b").getD []))
      | some style =>
        let format := ((found.last "n").getD (bytes "rn"))
        if format != bytes "ln" && format != bytes "rn" && format != bytes "rz" then
          r.usage argv0 (bytes "invalid line numbering format: " ++ messageQuote format)
        else
          let number (key : String) (dflt : Int) : Except Bytes Int :=
            match found.last key with
            | none => .ok dflt
            | some a =>
              let v := readIntmax a
              if v.used == a.length && v.used > 0 then .ok v.value
              else .error (bytes "invalid " ++ bytes (if key == "v" then "starting line number"
                else if key == "i" then "line number increment" else "line number field width") ++
                bytes ": " ++ messageQuote a)
          match number "v" 1, number "i" 1, number "w" 6 with
          | .error msg, _, _ | _, .error msg, _ | _, _, .error msg => r.fail argv0 msg
          | .ok start, .ok incr, .ok width =>
            let sep := (found.last "s").getD [9]
            let width := width.toNat
            let numbered (n : Int) : Bytes :=
              let s := toString n
              let pad := width - s.length
              if format == bytes "ln" then bytes (s ++ String.ofList (List.replicate pad ' '))
              else if format == bytes "rz" then
                if n < 0 then bytes ("-" ++ String.ofList (List.replicate (pad) '0') ++ toString n.natAbs)
                else bytes (String.ofList (List.replicate pad '0') ++ s)
              else bytes (String.ofList (List.replicate pad ' ') ++ s)
            let blank : Bytes := List.replicate (width + sep.length) 32
            let (inputs, r) := readNamed r names input fs
            let (r, _) := inputs.foldl (fun (acc : ToolRun × Int) (name, content) =>
              let (r, n) := acc
              match content with
              | .error e => (r.fail argv0 (fileName name ++ bytes ": " ++ e.bytes), n)
              | .ok c =>
                (records 10 c).foldl (fun (acc : ToolRun × Int) line =>
                  let (r, n) := acc
                  let counts := style == .all || (style == .nonEmpty && !line.isEmpty)
                  if counts then (r.out (numbered n ++ sep ++ line ++ [10]), n + incr)
                  else (r.out (blank ++ line ++ [10]), n)) (r, n)) (r, start)
            r

/-! ## yes -/

def yesBound : Nat := 131072

def yesTool (argv0 : Bytes) (args : List Bytes) (fs : Files) : ToolRun :=
  let r : ToolRun := { files := fs }
  match readOptions helpOptions false args with
  | .error msg => r.usage argv0 msg
  | .ok (found, operands) =>
    if found.has "help" || found.has "version" then r.answerAbout "yes" argv0 found
    else
      let line := (if operands.isEmpty then [121] else [32].intercalate operands) ++ [10]
      r.out ((List.replicate (yesBound / line.length + 1) line).flatten)

end LintBridge.Host.Lines
