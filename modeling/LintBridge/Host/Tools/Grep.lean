import LintBridge.Host.Help
import LintBridge.Host.Regex.Match
/-!
# grep

`grep` writes the lines of its inputs that match one of its patterns, with file names, numbers,
offsets and context as asked. An input with a NUL byte is binary and only said to match. The
status is 0 when a line was selected, 1 when none was and 2 on an error.
-/

namespace LintBridge.Host

open Regex

/-! ## Options -/

def grepOptions : List OptionDecl :=
  [.valued 'A', .valued 'B', .valued 'C', .flag 'E', .flag 'F', .flag 'G', .flag 'H',
    .flag 'I', .flag 'L', .flag 'T', .flag 'U', .flag 'V', .flag 'Z', .flag 'a', .flag 'b',
    .flag 'c', .valued 'd', .valued 'D', .valued 'e', .valued 'f', .flag 'h', .flag 'i',
    .flag 'l', .valued 'm', .flag 'n', .flag 'o', .flag 'q', .flag 'r', .flag 'R', .flag 's',
    .flag 'v', .flag 'w', .flag 'x', .flag 'y', .flag 'z',
    .named "A" "after-context" .required, .named "B" "before-context" .required,
    .named "C" "context" .required, .named "E" "extended-regexp" .no,
    .named "F" "fixed-strings" .no, .named "F" "fixed-regexp" .no,
    .named "G" "basic-regexp" .no, .named "H" "with-filename" .no,
    .named "I" "binary" .no, .named "L" "files-without-match" .no,
    .named "T" "initial-tab" .no, .named "Z" "null" .no, .named "a" "text" .no,
    .named "b" "byte-offset" .no, .named "binary-files" "binary-files" .required,
    .named "c" "count" .no, .named "color" "color" .optional, .named "color" "colour" .optional,
    .named "d" "directories" .required, .named "D" "devices" .required,
    .named "e" "regexp" .required, .named "f" "file" .required,
    .named "h" "no-filename" .no, .named "i" "ignore-case" .no,
    .named "no-ignore-case" "no-ignore-case" .no, .named "label" "label" .required,
    .named "line-buffered" "line-buffered" .no, .named "l" "files-with-matches" .no,
    .named "m" "max-count" .required, .named "n" "line-number" .no,
    .named "o" "only-matching" .no, .named "q" "quiet" .no, .named "q" "silent" .no,
    .named "r" "recursive" .no, .named "R" "dereference-recursive" .no,
    .named "s" "no-messages" .no, .named "v" "invert-match" .no,
    .named "V" "version" .no, .named "w" "word-regexp" .no, .named "x" "line-regexp" .no,
    .named "z" "null-data" .no, { key := "help", long := some "help" }]

/-- What a run of `grep` asks for. -/
structure GrepSettings where
  extended : Bool := false
  fixed : Bool := false
  foldCase : Bool := false
  invert : Bool := false
  words : Bool := false
  wholeLines : Bool := false
  count : Bool := false
  listMatching : Bool := false
  listMissing : Bool := false
  quiet : Bool := false
  noMessages : Bool := false
  onlyMatching : Bool := false
  lineNumbers : Bool := false
  byteOffsets : Bool := false
  withNames : Option Bool := none
  maxCount : Option Nat := none
  after : Nat := 0
  before : Nat := 0
  text : Bool := false
  skipBinary : Bool := false
  nullAfterName : Bool := false
  initialTab : Bool := false
  nullData : Bool := false
  label : Bytes := bytes "(standard input)"

def readLineCount (a : Bytes) : Option Nat :=
  if !a.isEmpty && a.all (fun b => 48 ≤ b && b ≤ 57) then
    some (a.foldl (fun n b => n * 10 + (b - 48).toNat) 0)
  else none

/-- Why the options of a run cannot be used. -/
inductive GrepOptionError where
  | context (arg : Bytes)
  | maxCount
  | binaryFiles

def GrepSettings.ofOptions (found : FoundOptions) : Except GrepOptionError GrepSettings :=
  found.foldlM (fun (s : GrepSettings) (k, v) =>
    let arg := v.getD []
    match k with
    | "E" => .ok { s with extended := true, fixed := false }
    | "F" => .ok { s with fixed := true, extended := false }
    | "G" => .ok { s with extended := false, fixed := false }
    | "i" | "y" => .ok { s with foldCase := true }
    | "no-ignore-case" => .ok { s with foldCase := false }
    | "v" => .ok { s with invert := true }
    | "w" => .ok { s with words := true }
    | "x" => .ok { s with wholeLines := true }
    | "c" => .ok { s with count := true }
    | "l" => .ok { s with listMatching := true, listMissing := false }
    | "L" => .ok { s with listMissing := true, listMatching := false }
    | "q" => .ok { s with quiet := true }
    | "s" => .ok { s with noMessages := true }
    | "o" => .ok { s with onlyMatching := true }
    | "n" => .ok { s with lineNumbers := true }
    | "b" => .ok { s with byteOffsets := true }
    | "H" => .ok { s with withNames := some true }
    | "h" => .ok { s with withNames := some false }
    | "a" => .ok { s with text := true }
    | "I" => .ok { s with skipBinary := true }
    | "Z" => .ok { s with nullAfterName := true }
    | "T" => .ok { s with initialTab := true }
    | "z" => .ok { s with nullData := true }
    | "label" => .ok { s with label := arg }
    | "A" =>
      match readLineCount arg with
      | some n => .ok { s with after := n }
      | none => .error (.context arg)
    | "B" =>
      match readLineCount arg with
      | some n => .ok { s with before := n }
      | none => .error (.context arg)
    | "C" =>
      match readLineCount arg with
      | some n => .ok { s with after := n, before := n }
      | none => .error (.context arg)
    | "m" =>
      match readLineCount arg with
      | some n => .ok { s with maxCount := some n }
      | none => .error .maxCount
    | "binary-files" =>
      if arg == bytes "binary" then .ok { s with text := false, skipBinary := false }
      else if arg == bytes "text" then .ok { s with text := true }
      else if arg == bytes "without-match" then .ok { s with skipBinary := true }
      else .error .binaryFiles
    | _ => .ok s) {}

def takeContextDigits (args : List Bytes) : List Bytes × Option Nat :=
  args.foldl (fun (acc : List Bytes × Option Nat) a =>
    match a with
    | 45 :: d :: more =>
      if 48 ≤ d && d ≤ 57 && (d :: more).all (fun b => 48 ≤ b && b ≤ 57) then
        (acc.1, readLineCount (d :: more))
      else (acc.1 ++ [a], acc.2)
    | _ => (acc.1 ++ [a], acc.2)) ([], none)

/-! ## Patterns -/

def patternWarnings (extended : Bool) (text : List Glyph) : List Bytes :=
  go (text.length + 1) true text
where
  /-- Scans from here on; `atStart` says nothing but anchors stand since the start, a group or
  an alternative. -/
  go : Nat → Bool → List Glyph → List Bytes
    | 0, _, _ => []
    | _, _, [] => []
    | fuel + 1, _, 91 :: rest => go fuel false (skipBracket (rest.length + 1) rest)
    | fuel + 1, _, 92 :: g :: rest =>
      let meaningful := [92, 94, 36, 96, 39, 60, 62, 98, 66, 63, 42, 43, 123, 124, 40, 41,
        46, 115, 83, 119, 87, 91, 10].contains g || within g 49 57
      let opens := !extended && (g == 40 || g == 124)
      let warning :=
        if meaningful then []
        else if !(CharClass.print.has g) then [bytes "stray \\ before unprintable character"]
        else if CharClass.space.has g then [bytes "stray \\ before white space"]
        else [bytes "stray \\ before " ++ glyphBytes g]
      warning ++ go fuel opens rest
    | fuel + 1, atStart, g :: rest =>
      let startWarning :=
        if extended && atStart then
          if g == 42 then [bytes "* at start of expression"]
          else if g == 43 then [bytes "+ at start of expression"]
          else if g == 63 then [bytes "? at start of expression"]
          else if g == 123 then [bytes "\x7b...\x7d at start of expression"]
          else []
        else []
      let next := (extended && (g == 40 || g == 124)) || (atStart && (g == 94 || (extended &&
        (g == 42 || g == 43 || g == 63))))
      startWarning ++ go fuel next rest
  /-- Skips a bracket expression after its `[`. -/
  skipBracket (fuel : Nat) (rest : List Glyph) : List Glyph :=
    let rest := match rest with
      | 94 :: more => more
      | _ => rest
    let rest := match rest with
      | 93 :: more => more
      | _ => rest
    skipMembers fuel rest
  /-- Skips the members of a bracket expression up to its closing `]`. -/
  skipMembers : Nat → List Glyph → List Glyph
    | 0, rest => rest
    | _, [] => []
    | fuel + 1, 91 :: d :: rest =>
      if d == 58 || d == 46 || d == 61 then skipMembers fuel (closeName d fuel rest)
      else skipMembers fuel (d :: rest)
    | _, 93 :: rest => rest
    | fuel + 1, _ :: rest => skipMembers fuel rest
  /-- Skips a `[:name:]` after its opening up to its closing delimiter and `]`. -/
  closeName (delim : Glyph) : Nat → List Glyph → List Glyph
    | 0, rest => rest
    | _, [] => []
    | fuel + 1, g :: rest =>
      match rest with
      | 93 :: more => if g == delim then more else closeName delim fuel rest
      | _ => closeName delim fuel rest

def confusingBracket (text : List Glyph) : Bool :=
  go (text.length + 1) text
where
  /-- Looks at each bracket expression from here on. -/
  go : Nat → List Glyph → Bool
    | 0, _ => false
    | _, [] => false
    | fuel + 1, 92 :: _ :: rest => go fuel rest
    | fuel + 1, 91 :: rest =>
      let body := match rest with
        | 94 :: more => more
        | _ => rest
      let inner := (body.drop 1).takeWhile (· != 93)
      let members := body.take 1 ++ inner
      (body.head? == some 58 && members.getLast? == some 58 && members.any (· != 58) &&
          !(members.any (· == 91))) || go fuel rest
    | fuel + 1, _ :: rest => go fuel rest

def compileNeedle (s : GrepSettings) (text : Bytes) : Except RegexError Pattern :=
  let glyphs := glyphsOf text
  if s.fixed then .ok (glyphs.foldr (fun g p => Pattern.andThen (.glyph g) p) .empty)
  else
    match readPattern { extended := s.extended, foldCase := s.foldCase } glyphs with
    | .ok (p, _) => .ok p
    | .error e => .error e

/-! ## Lines -/

/-- Whether a match from `start` to `stop` is allowed: the whole line with `-x`, a run between
non-word characters with `-w`. -/
def GrepSettings.allows (s : GrepSettings) (subject : Subject) (start stop : Nat) : Bool :=
  if s.wholeLines then start == 0 && stop == subject.glyphs.size
  else if s.words then !subject.wordBefore start && !subject.wordAt stop
  else true

def GrepSettings.longestAt (s : GrepSettings) (needles : List Pattern) (subject : Subject)
    (start : Nat) : Option Nat :=
  ((needles.flatMap fun p => endsAt subject p start).filter (s.allows subject start ·)).max?

def GrepSettings.lineMatches (s : GrepSettings) (needles : List Pattern) (line : Bytes) : Bool :=
  let subject : Subject := { glyphs := (glyphsOf line).toArray, foldCase := s.foldCase }
  (List.range (subject.glyphs.size + 1)).any fun i => (s.longestAt needles subject i).isSome

def GrepSettings.matchesIn (s : GrepSettings) (needles : List Pattern) (line : Bytes) :
    List (Nat × Bytes) :=
  let glyphs := glyphsOf line
  let subject : Subject := { glyphs := glyphs.toArray, foldCase := s.foldCase }
  let offset (i : Nat) := (bytesOfGlyphs (glyphs.take i)).length
  go (glyphs.length + 2) subject glyphs offset 0
where
  /-- The matches from a position on. -/
  go : Nat → Subject → List Glyph → (Nat → Nat) → Nat → List (Nat × Bytes)
    | 0, _, _, _, _ => []
    | fuel + 1, subject, glyphs, offset, pos =>
      let found := (List.range (subject.glyphs.size + 1 - pos)).findSome? fun k =>
        (s.longestAt needles subject (pos + k)).map fun e => (pos + k, e)
      match found with
      | none => []
      | some (a, e) =>
        if e == a then go fuel subject glyphs offset (a + 1)
        else (offset a, bytesOfGlyphs ((glyphs.drop a).take (e - a))) ::
          go fuel subject glyphs offset e

def validText (line : Bytes) : Bool := (glyphsOf line).all (· < strayBase)

/-! ## Inputs -/

/-- What searching one input gave: what to write, the count of selected lines, whether it stopped
on a line it would not write, and whether the input was binary with a selected line. -/
structure GrepPass where
  out : Bytes := []
  selected : Nat := 0
  unwritable : Bool := false

def GrepSettings.lineHead (s : GrepSettings) (name : Option Bytes) (number offset : Nat)
    (mark : UInt8) : Bytes :=
  let namePart := match name with
    | some n => n ++ (if s.nullAfterName then [0] else [mark])
    | none => []
  let numberPart := if s.lineNumbers then bytes (toString number) ++ [mark] else []
  let offsetPart := if s.byteOffsets then bytes (toString offset) ++ [mark] else []
  let head := namePart ++ numberPart ++ offsetPart
  if s.initialTab && !head.isEmpty then head ++ [9] else head

def GrepSettings.searchLines (s : GrepSettings) (needles : List Pattern) (name : Option Bytes)
    (lines : List (Bytes × Nat)) (quietOut : Bool) : GrepPass :=
  let eol : UInt8 := if s.nullData then 0 else 10
  let selects (line : Bytes) : Bool := s.lineMatches needles line != s.invert
  let numbered := lines.zipIdx
  let context := s.after + s.before > 0
  let writeSelected (line : Bytes) (number offset : Nat) : Bytes :=
    if s.onlyMatching then
      if s.invert then []
      else (s.matchesIn needles line).flatMap fun (place, text) =>
        s.lineHead name number (offset + place) 58 ++ text ++ [eol]
    else s.lineHead name number offset 58 ++ line ++ [eol]
  let writeContext (line : Bytes) (number offset : Nat) : Bytes :=
    if s.onlyMatching then [] else s.lineHead name number offset 45 ++ line ++ [eol]
  -- Walk the lines keeping: the pass, the index of the last written line, the lines left to
  -- write after a selected one, the recent lines held for the context before, whether the
  -- count is reached, and whether the walk has stopped.
  let step := fun (acc : GrepPass × Option Nat × Nat × List (Bytes × Nat × Nat) × Bool × Bool)
      (entry : (Bytes × Nat) × Nat) =>
    let (pass, lastOut, pending, held, reached, stopped) := acc
    let ((line, offset), index) := entry
    let number := index + 1
    if stopped then acc
    else
      let chosen := selects line
      if reached then
        if pending > 0 && !chosen && !quietOut then
          if !s.text && !validText line then
            ({ pass with unwritable := true }, lastOut, 0, [], true, true)
          else
            ({ pass with out := pass.out ++ writeContext line number offset }, some index,
              pending - 1, [], true, pending - 1 == 0)
        else (pass, lastOut, 0, [], true, true)
      else if chosen then
        let pass := { pass with selected := pass.selected + 1 }
        let reachedNow := s.maxCount == some pass.selected
        if quietOut then (pass, lastOut, 0, [], reachedNow, reachedNow && s.after == 0)
        else
          let heldLines := held.filter fun (_, i, _) => lastOut.all (· < i)
          let firstIndex := (heldLines.head?.map (·.2.1)).getD index
          let gap := match lastOut with
            | some j => j + 1 < firstIndex
            | none => false
          let separator := if context && gap then bytes "--" ++ [10] else []
          let before := heldLines.flatMap fun (l, i, o) => writeContext l (i + 1) o
          let writable := s.text || ((heldLines.map (·.1)) ++ [line]).all validText
          if !writable then ({ pass with unwritable := true }, lastOut, 0, [], true, true)
          else
            let out := pass.out ++ separator ++ before ++ writeSelected line number offset
            ({ pass with out := out }, some index, s.after, [], reachedNow,
              reachedNow && s.after == 0)
      else if pending > 0 && !quietOut then
        if !s.text && !validText line then
          ({ pass with unwritable := true }, lastOut, 0, [], reached, true)
        else
          ({ pass with out := pass.out ++ writeContext line number offset }, some index,
            pending - 1, [], reached, false)
      else
        let held := if s.before == 0 then [] else (held ++ [(line, index, offset)]).drop
          (held.length + 1 - s.before)
        (pass, lastOut, pending, held, reached, false)
  let start : GrepPass × Option Nat × Nat × List (Bytes × Nat × Nat) × Bool × Bool :=
    ({}, none, 0, [], s.maxCount == some 0, s.maxCount == some 0)
  (numbered.foldl step start).1

def splitWithOffsets (eol : UInt8) (data : Bytes) : List (Bytes × Nat) :=
  let pieces := data.splitOn eol
  let pieces := if data.getLast? == some eol || data.isEmpty then pieces.dropLast else pieces
  (pieces.foldl (fun (acc : List (Bytes × Nat) × Nat) p =>
    (acc.1 ++ [(p, acc.2)], acc.2 + p.length + 1)) ([], 0)).1

/-! ## The program -/

/-- Where patterns come from: an argument of `-e`, or a file named by `-f`. -/
inductive PatternSource where
  | text (t : Bytes)
  | file (name : Bytes)

/-- What searching the inputs gave so far: the run, whether a line was selected, and whether an
error was met. -/
structure GrepState where
  run : ToolRun
  matched : Bool := false
  failed : Bool := false
  stop : Bool := false

def GrepSettings.searchInput (s : GrepSettings) (argv0 : Bytes) (needles : List Pattern)
    (showName : Bool) (st : GrepState) (shown : Bytes) (data : Except OsError Bytes) :
    GrepState :=
  if st.stop then st
  else
    match data with
    | .error e =>
      let run := if s.noMessages then st.run
        else st.run.err (toolMessage argv0 (shown ++ bytes ": " ++ e.bytes))
      { st with run := run, failed := true }
    | .ok content =>
      let binary := !s.text && content.contains 0 && !s.nullData
      if binary && s.skipBinary then st
      else
        let eol : UInt8 := if s.nullData then 0 else 10
        let content := if binary then content.map fun b => if b == 0 then eol else b
          else content
        let lines := splitWithOffsets eol content
        let listing := s.count || s.listMatching || s.listMissing || s.quiet
        let quietOut := listing || binary
        let s' := if binary && !s.count then { s with maxCount := some 1 } else s
        let pass := s'.searchLines needles (if showName then some shown else none) lines quietOut
        let nameEnd : Bytes := if s.nullAfterName then [0] else [10]
        let out :=
          if s.quiet then []
          else if s.listMatching then (if pass.selected > 0 then shown ++ nameEnd else [])
          else if s.listMissing then (if pass.selected == 0 then shown ++ nameEnd else [])
          else if s.count then
            (if showName then shown ++ (if s.nullAfterName then [0] else [58]) else []) ++
              bytes (toString pass.selected) ++ [10]
          else pass.out
        let run := st.run.out out
        let saysBinary := !listing && ((binary && pass.selected > 0) || pass.unwritable)
        let run := if saysBinary then
            run.err (toolMessage argv0 (shown ++ bytes ": binary file matches"))
          else run
        let listed := if s.listMissing then pass.selected == 0 else pass.selected > 0
        let matched := st.matched || listed
        { st with run := run, matched := matched, stop := s.quiet && matched }

def grepTool (argv0 : Bytes) (args : List Bytes) (input : Except OsError Bytes) (fs : Files) :
    ToolRun :=
  let r : ToolRun := { files := fs }
  let shortName := (argv0.splitOn 47).getLast?.getD argv0
  let trouble (msg : Bytes) : ToolRun := r.failWith 2 argv0 msg
  let usage : ToolRun := { (r.err (bytes "Usage: " ++ shortName ++
      bytes " [OPTION]... PATTERNS [FILE]...\n" ++ bytes "Try '" ++ shortName ++
      bytes " --help' for more information.\n")) with status := 2 }
  let (args, digitContext) := takeContextDigits args
  let reading := scanOptions grepOptions true args
  let found := reading.found
  match GrepSettings.ofOptions found, reading.wrong with
  | .error (.context arg), _ => trouble (arg ++ bytes ": invalid context length argument")
  | .error .maxCount, _ => trouble (bytes "invalid max count")
  | .error .binaryFiles, _ => trouble (bytes "unknown binary-files type")
  | .ok _, some msg => { (r.err (toolMessage argv0 msg)).err (bytes "Usage: " ++ shortName ++
      bytes " [OPTION]... PATTERNS [FILE]...\n" ++ bytes "Try '" ++ shortName ++
      bytes " --help' for more information.\n") with status := 2 }
  | .ok s, none =>
    if found.has "V" then r.writeVersion "grep"
    else if found.has "help" then r.writeHelp "grep" argv0
    else
        let s := match digitContext with
          | some n => if found.has "A" || found.has "B" || found.has "C" then s
            else { s with after := n, before := n }
          | none => s
        let given := found.filterMap fun (k, v) =>
          if k == "e" then some (PatternSource.text (v.getD []))
          else if k == "f" then some (PatternSource.file (v.getD []))
          else none
        let fromFiles : Except Bytes (List Bytes) := given.foldlM (fun acc g =>
          match g with
          | .text text => .ok (acc ++ text.splitOn 10)
          | .file file =>
            let data := if file == bytes "-" then input else fs.read file.text
            match data with
            | .ok content => .ok (acc ++ (splitWithOffsets 10 content).map (·.1))
            | .error e => .error (file ++ bytes ": " ++ e.bytes)) []
        match fromFiles with
        | .error msg => trouble msg
        | .ok patternLines =>
          let (patternLines, operands) :=
            if given.isEmpty then
              match reading.operands with
              | p :: rest => (p.splitOn 10, rest)
              | [] => ([], [])
            else (patternLines, reading.operands)
          if given.isEmpty && reading.operands.isEmpty then usage
          else
            match patternLines.foldlM (fun acc t => (compileNeedle s t).map (acc ++ [·])) [] with
            | .error e => trouble (bytes e.message)
            | .ok needles =>
              let warnings := if s.fixed then []
                else patternLines.flatMap fun t => patternWarnings s.extended (glyphsOf t)
              let r := warnings.foldl (fun r w => r.err (toolMessage argv0 (bytes "warning: " ++ w))) r
              if !s.fixed && patternLines.any (fun t => confusingBracket (glyphsOf t)) then
                r.failWith 2 argv0 (bytes "character class syntax is [[:space:]], not [:space:]")
              else
                let names := if operands.isEmpty then [bytes "-"] else operands
                let showName := s.withNames.getD (names.length > 1)
                let final := names.foldl (fun st name =>
                  let (shown, data) :=
                    if name == bytes "-" then (s.label, input)
                    else (name, fs.read name.text)
                  s.searchInput argv0 needles showName st shown data) ({ run := r } : GrepState)
                let status := if s.quiet && final.matched then 0
                  else if final.failed then 2 else if final.matched then 0 else 1
                { final.run with status := status }

end LintBridge.Host
