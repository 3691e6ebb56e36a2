import LintBridge.Host.Help
/-!
# sort

`sort` writes the lines of its files in order of their keys, the whole lines deciding ties unless
`-s` or `-u` asks otherwise. Text is ordered byte by byte, which in UTF-8 is the order of the
characters.
-/

namespace LintBridge.Host.LineSort

open LintBridge.Host

/-! ## Bytes -/

def isDigitCode (c : UInt8) : Bool := 48 ≤ c && c ≤ 57

def isLetterCode (c : UInt8) : Bool := (65 ≤ c && c ≤ 90) || (97 ≤ c && c ≤ 122)

def isFieldBlank (c : UInt8) : Bool := c == 32 || c == 9 || c == 10

def upperCode (c : UInt8) : UInt8 := if 97 ≤ c && c ≤ 122 then c - 32 else c

def leadOf : Bytes → UInt8
  | [] => 0
  | c :: _ => c

def signOf : Ordering → Int
  | .lt => -1
  | .eq => 0
  | .gt => 1

def byteOrder : Bytes → Bytes → Ordering
  | [], [] => .eq
  | [], _ :: _ => .lt
  | _ :: _, [] => .gt
  | a :: more, b :: rest => if a < b then .lt else if b < a then .gt else byteOrder more rest

/-! ## Ordering keys -/

/-- Which bytes the comparison of a key passes over. -/
inductive PassedBytes where
  | nothing
  | nonDictionary
  | nonPrinting
  deriving BEq

/-- How the text of a key is compared: which blanks, bytes and case it disregards, how it reads
the text, and whether the order is reversed. -/
structure KeyOrder where
  blanksBefore : Bool := false
  blanksAfter : Bool := false
  passed : PassedBytes := .nothing
  foldCase : Bool := false
  general : Bool := false
  human : Bool := false
  month : Bool := false
  numeric : Bool := false
  random : Bool := false
  reverse : Bool := false
  version : Bool := false

/-- Which ends of a key a `b` letter speaks of. -/
inductive KeyEnds where
  | start
  | finish
  | both
  deriving BEq

def KeyOrder.withLetter (o : KeyOrder) (ends : KeyEnds) (c : UInt8) : Option KeyOrder :=
  if c == 98 then
    some { o with
      blanksBefore := o.blanksBefore || ends != .finish
      blanksAfter := o.blanksAfter || ends != .start }
  else if c == 100 then some { o with passed := .nonDictionary }
  else if c == 102 then some { o with foldCase := true }
  else if c == 103 then some { o with general := true }
  else if c == 104 then some { o with human := true }
  else if c == 105 then
    some { o with passed := if o.passed == .nothing then .nonPrinting else o.passed }
  else if c == 77 then some { o with month := true }
  else if c == 110 then some { o with numeric := true }
  else if c == 82 then some { o with random := true }
  else if c == 114 then some { o with reverse := true }
  else if c == 86 then some { o with version := true }
  else none

def KeyOrder.readLetters (o : KeyOrder) (ends : KeyEnds) : Bytes → KeyOrder × Bytes
  | [] => (o, [])
  | c :: cs =>
    match o.withLetter ends c with
    | some next => next.readLetters ends cs
    | none => (o, c :: cs)

/-- Whether an order asks for nothing but, perhaps, reversing. -/
def KeyOrder.plain (o : KeyOrder) : Bool :=
  !(o.passed != .nothing || o.foldCase || o.blanksBefore || o.blanksAfter || o.numeric ||
    o.general || o.human || o.month || o.version || o.random)

/-- The letters that give an order, in the order messages list them. -/
def KeyOrder.letters (o : KeyOrder) : Bytes :=
  let pick (on : Bool) (c : Char) : Bytes := if on then [c.toNat.toUInt8] else []
  pick (o.blanksBefore || o.blanksAfter) 'b' ++ pick (o.passed == .nonDictionary) 'd' ++
    pick o.foldCase 'f' ++ pick o.general 'g' ++ pick o.human 'h' ++
    pick (o.passed == .nonPrinting) 'i' ++ pick o.month 'M' ++ pick o.numeric 'n' ++
    pick o.random 'R' ++ pick o.reverse 'r' ++ pick o.version 'V'

def KeyOrder.clashes (o : KeyOrder) : Bool :=
  1 < ([o.numeric, o.general, o.human, o.month,
    o.version || o.random || o.passed != .nothing].filter id).length

/-- A key: where it starts (fields passed over, then characters), where it stops (none for the
end of the line; otherwise fields passed over, then characters, 0 for the whole field), and how
it is compared. -/
structure SortKey where
  startField : Nat := 0
  startChar : Nat := 0
  endField : Option Nat := none
  endChar : Nat := 0
  order : KeyOrder := {}

/-! ## Fields -/

def passFields (tab : Option UInt8) : Nat → Bytes → Bytes
  | 0, s => s
  | _ + 1, [] => []
  | n + 1, s =>
    match tab with
    | some t => passFields tab n ((s.dropWhile (· != t)).drop 1)
    | none => passFields tab n ((s.dropWhile isFieldBlank).dropWhile fun c => !isFieldBlank c)

def passToFieldEnd (tab : Option UInt8) (intoNext : Bool) : Nat → Bytes → Bytes
  | 0, s => s
  | _ + 1, [] => []
  | n + 1, s =>
    match tab with
    | some t =>
      let rest := s.dropWhile (· != t)
      passToFieldEnd tab intoNext n (if n != 0 || intoNext then rest.drop 1 else rest)
    | none =>
      passToFieldEnd tab intoNext n ((s.dropWhile isFieldBlank).dropWhile fun c => !isFieldBlank c)

def SortKey.startIn (k : SortKey) (tab : Option UInt8) (line : Bytes) : Nat :=
  let rest := passFields tab k.startField line
  let rest := if k.order.blanksBefore then rest.dropWhile isFieldBlank else rest
  min line.length (line.length - rest.length + k.startChar)

def SortKey.endIn (k : SortKey) (tab : Option UInt8) (line : Bytes) : Nat :=
  match k.endField with
  | none => line.length
  | some field =>
    if k.endChar == 0 then line.length - (passToFieldEnd tab false (field + 1) line).length
    else
      let rest := passToFieldEnd tab true field line
      let rest := if k.order.blanksAfter then rest.dropWhile isFieldBlank else rest
      min line.length (line.length - rest.length + k.endChar)

def SortKey.textIn (k : SortKey) (tab : Option UInt8) (line : Bytes) : Bytes :=
  let start := k.startIn tab line
  (line.drop start).take (k.endIn tab line - start)

/-! ## Reading numbers -/

def trailingNonzero (s : Bytes) : Int := if isDigitCode (leadOf (s.dropWhile (· == 48))) then 1 else 0

def fractionDigits : Bytes → Bytes → Int
  | x :: xs, y :: ys =>
    if x == y then (if isDigitCode x then fractionDigits xs ys else 0)
    else if isDigitCode x && isDigitCode y then (x.toNat : Int) - y.toNat
    else if isDigitCode x then trailingNonzero (x :: xs)
    else if isDigitCode y then -trailingNonzero (y :: ys)
    else 0
  | x :: xs, [] => if isDigitCode x then trailingNonzero (x :: xs) else 0
  | [], y :: ys => if isDigitCode y then -trailingNonzero (y :: ys) else 0
  | [], [] => 0

def fractionOrder (a b : Bytes) : Int :=
  match a, b with
  | 46 :: more, 46 :: rest => fractionDigits more rest
  | 46 :: more, _ => trailingNonzero more
  | _, 46 :: rest => -trailingNonzero rest
  | _, _ => 0

def dropSharedDigits : Bytes → Bytes → Bytes × Bytes
  | x :: xs, y :: ys =>
    if x == y && isDigitCode x then dropSharedDigits xs ys else (x :: xs, y :: ys)
  | a, b => (a, b)

/-- The count of digits a text starts with. -/
def digitRun (s : Bytes) : Nat := (s.takeWhile isDigitCode).length

def magnitudeOrder (a b : Bytes) : Int :=
  let (a, b) := dropSharedDigits a b
  let ca := leadOf a
  let cb := leadOf b
  if (ca == 46 && !isDigitCode cb) || (cb == 46 && !isDigitCode ca) then fractionOrder a b
  else
    let la := digitRun a
    let lb := digitRun b
    if la != lb then (if la < lb then -1 else 1)
    else if la == 0 then 0
    else (ca.toNat : Int) - cb.toNat

def dropZeroFraction (s : Bytes) : Bytes :=
  match s.dropWhile (· == 48) with
  | 46 :: rest => rest.dropWhile (· == 48)
  | t => t

def numberOrder (a b : Bytes) : Int :=
  match a, b with
  | 45 :: more, 45 :: rest => magnitudeOrder (rest.dropWhile (· == 48)) (more.dropWhile (· == 48))
  | 45 :: more, _ =>
    if isDigitCode (leadOf (dropZeroFraction more)) then -1
    else if isDigitCode (leadOf (dropZeroFraction b)) then -1 else 0
  | _, 45 :: rest =>
    if isDigitCode (leadOf (dropZeroFraction rest)) then 1
    else if isDigitCode (leadOf (dropZeroFraction a)) then 1 else 0
  | _, _ => magnitudeOrder (a.dropWhile (· == 48)) (b.dropWhile (· == 48))

def unitRank (c : UInt8) : Int :=
  if c == 107 then 1
  else
    match (bytes "KMGTPEZY").idxOf? c with
    | some i => i + 1
    | none => 0

def unitOrderOf (s : Bytes) : Int :=
  let (negative, body) := match s with
    | 45 :: more => (true, more)
    | _ => (false, s)
  let whole := body.takeWhile isDigitCode
  let (fraction, rest) := match body.drop whole.length with
    | 46 :: more => (more.takeWhile isDigitCode, more.dropWhile isDigitCode)
    | rest => ([], rest)
  if (whole ++ fraction).any (· > 48) then
    (if negative then -unitRank (leadOf rest) else unitRank (leadOf rest))
  else 0

def humanOrder (a b : Bytes) : Int :=
  let a := a.dropWhile isFieldBlank
  let b := b.dropWhile isFieldBlank
  let d := unitOrderOf a - unitOrderOf b
  if d != 0 then d else numberOrder a b

def monthNames : List String :=
  ["JAN", "FEB", "MAR", "APR", "MAY", "JUN", "JUL", "AUG", "SEP", "OCT", "NOV", "DEC"]

def monthOf (s : Bytes) : Nat :=
  let s := (s.dropWhile isFieldBlank).map upperCode
  match monthNames.findIdx? fun m => (bytes m).isPrefixOf s with
  | some i => i + 1
  | none => 0

/-! ## Floating-point numbers -/

/-- A floating-point number as it is read from the start of a text. A finite value is its
digits times a power of ten. -/
inductive FloatReading where
  | nothing
  | notANumber (negative : Bool)
  | infinite (negative : Bool)
  | finite (negative : Bool) (digits : Nat) (exponent : Int)

/-- The value of decimal digits. -/
def decimalValue (ds : Bytes) : Nat := ds.foldl (fun n d => n * 10 + (d - 48).toNat) 0

def digitCount (n : Nat) : Nat := if n == 0 then 0 else (Nat.toDigits 10 n).length

def startsWithWord (s : Bytes) (word : String) : Bool :=
  (bytes word).isPrefixOf (s.map fun c => if 65 ≤ c && c ≤ 90 then c + 32 else c)

/-- Whether a positive value is past the largest finite extended-precision number, of about
`1.18973e4932`. -/
def overflows (digits : Nat) (exponent : Int) : Bool :=
  let top : Int := digitCount digits + exponent
  if top > 4933 then true
  else if top < 4933 then false
  else
    let n := digitCount digits
    let lead := if n ≥ 20 then digits / Nat.pow 10 (n - 20) else digits * Nat.pow 10 (20 - n)
    lead ≥ 11897314953572317650

def readFloat (s : Bytes) : FloatReading :=
  let s := s.dropWhile fun c => c == 32 || (9 ≤ c && c ≤ 13)
  let (negative, s) := match s with
    | 45 :: more => (true, more)
    | 43 :: more => (false, more)
    | _ => (false, s)
  if startsWithWord s "inf" then .infinite negative
  else if startsWithWord s "nan" then .notANumber negative
  else
    let whole := s.takeWhile isDigitCode
    let afterWhole := s.drop whole.length
    let fraction := match afterWhole with
      | 46 :: more => more.takeWhile isDigitCode
      | _ => []
    let afterNumber := match afterWhole with
      | 46 :: more => more.drop fraction.length
      | _ => afterWhole
    if whole.isEmpty && fraction.isEmpty then .nothing
    else
      let scale : Int := match afterNumber with
        | e :: more =>
          if e == 101 || e == 69 then
            let (sign, body) : Int × Bytes := match more with
              | 45 :: rest => (-1, rest)
              | 43 :: rest => (1, rest)
              | _ => (1, more)
            let ds := body.takeWhile isDigitCode
            if ds.isEmpty then 0 else sign * (decimalValue ds : Int)
          else 0
        | [] => 0
      let digits := decimalValue (whole ++ fraction)
      let exponent := scale - fraction.length
      if digits == 0 || (digitCount digits : Int) + exponent < -4950 then .finite negative 0 0
      else if overflows digits exponent then .infinite negative
      else .finite negative digits exponent

def compareScaled (d1 : Nat) (e1 : Int) (d2 : Nat) (e2 : Int) : Ordering :=
  let n1 := digitCount d1
  let n2 := digitCount d2
  let top1 : Int := n1 + e1
  let top2 : Int := n2 + e2
  if top1 != top2 then compare top1 top2
  else
    let width := max n1 n2
    compare (d1 * Nat.pow 10 (width - n1)) (d2 * Nat.pow 10 (width - n2))

def compareReadings : FloatReading → FloatReading → Ordering
  | .infinite n, .infinite m => if n == m then .eq else if n then .lt else .gt
  | .infinite n, _ => if n then .lt else .gt
  | _, .infinite m => if m then .gt else .lt
  | .finite n d e, .finite m f g =>
    if d == 0 && f == 0 then .eq
    else if d == 0 then (if m then .gt else .lt)
    else if f == 0 then (if n then .lt else .gt)
    else if n != m then (if n then .lt else .gt)
    else if n then compareScaled f g d e
    else compareScaled d e f g
  | _, _ => .eq

def generalOrder (a b : Bytes) : Int :=
  match readFloat a, readFloat b with
  | .nothing, .nothing => 0
  | .nothing, _ => -1
  | _, .nothing => 1
  | .notANumber n, .notANumber m => if n == m then 0 else if n then -1 else 1
  | .notANumber _, _ => -1
  | _, .notANumber _ => 1
  | x, y => signOf (compareReadings x y)

/-! ## Versions -/

def versionRank : Bytes → Int
  | [] => -1
  | c :: _ =>
    if isDigitCode c then 0
    else if isLetterCode c then c.toNat
    else if c == 126 then -2
    else c.toNat + 256

def versionWords : Bytes → Bytes → Sum Int (Bytes × Bytes)
  | x :: xs, y :: ys =>
    if !isDigitCode x || !isDigitCode y then
      let r1 := versionRank (x :: xs)
      let r2 := versionRank (y :: ys)
      if r1 != r2 then .inl (r1 - r2) else versionWords xs ys
    else .inr (x :: xs, y :: ys)
  | x :: xs, [] => if !isDigitCode x then .inl (versionRank (x :: xs) + 1) else .inr (x :: xs, [])
  | [], y :: ys => if !isDigitCode y then .inl (-1 - versionRank (y :: ys)) else .inr ([], y :: ys)
  | [], [] => .inr ([], [])

def versionDigits : Bytes → Bytes → Int → Bytes × Bytes × Int
  | x :: xs, y :: ys, first =>
    if isDigitCode x && isDigitCode y then
      versionDigits xs ys (if first == 0 then (x.toNat : Int) - y.toNat else first)
    else (x :: xs, y :: ys, first)
  | a, b, first => (a, b, first)

def versionParts : Nat → Bytes → Bytes → Int
  | 0, _, _ => 0
  | fuel + 1, a, b =>
    if a.isEmpty && b.isEmpty then 0
    else
      match versionWords a b with
      | .inl d => d
      | .inr (a, b) =>
        let (a, b, first) := versionDigits (a.dropWhile (· == 48)) (b.dropWhile (· == 48)) 0
        if isDigitCode (leadOf a) then 1
        else if isDigitCode (leadOf b) then -1
        else if first != 0 then first
        else versionParts fuel a b

def dropSuffixWords : Nat → Bytes → Bytes
  | 0, s => s
  | fuel + 1, 46 :: c :: rest =>
    if isLetterCode c || c == 126 then
      dropSuffixWords fuel (rest.dropWhile fun d => isLetterCode d || isDigitCode d || d == 126)
    else 46 :: c :: rest
  | _, s => s

def versionStem (s : Bytes) : Nat :=
  go s.length s 0
where
  /-- Goes on from a text left, with the stem found so far. -/
  go : Nat → Bytes → Nat → Nat
    | 0, _, stem => stem
    | _, [], stem => stem
    | fuel + 1, _ :: rest, _ => go fuel (dropSuffixWords rest.length rest) (s.length - rest.length)

def versionOrder (a b : Bytes) : Int :=
  if a.isEmpty then (if b.isEmpty then 0 else -1)
  else if b.isEmpty then 1
  else
    let special : Option Int :=
      if leadOf a == 46 then
        if leadOf b != 46 then some (-1)
        else if a == [46] then some (if b == [46] then 0 else -1)
        else if b == [46] then some 1
        else if a == [46, 46] then some (if b == [46, 46] then 0 else -1)
        else if b == [46, 46] then some 1
        else none
      else if leadOf b == 46 then some 1
      else none
    match special with
    | some d => d
    | none =>
      let sa := versionStem a
      let sb := versionStem b
      let fuel := a.length + b.length + 1
      let first := versionParts fuel (a.take sa) (b.take sb)
      if first != 0 || (sa == a.length && sb == b.length) then first
      else versionParts fuel a b

/-! ## Comparing lines -/

def isDictionaryCode (c : UInt8) : Bool := isLetterCode c || isDigitCode c || isFieldBlank c

def isPrintingCode (c : UInt8) : Bool := 32 ≤ c && c < 127

def KeyOrder.prepare (o : KeyOrder) (text : Bytes) : Bytes :=
  let kept := match o.passed with
    | .nothing => text
    | .nonDictionary => text.filter isDictionaryCode
    | .nonPrinting => text.filter isPrintingCode
  if o.foldCase then kept.map upperCode else kept

def KeyOrder.compareTexts (o : KeyOrder) (a b : Bytes) : Int :=
  let a := o.prepare a
  let b := o.prepare b
  let cut (s : Bytes) : Bytes := s.takeWhile (· != 0)
  if o.numeric then numberOrder ((cut a).dropWhile isFieldBlank) ((cut b).dropWhile isFieldBlank)
  else if o.general then generalOrder (cut a) (cut b)
  else if o.human then humanOrder (cut a) (cut b)
  else if o.month then (monthOf (cut a) : Int) - monthOf (cut b)
  else if o.version then versionOrder a b
  else signOf (byteOrder a b)

/-- How lines are ordered: the keys, the field separator, and what decides ties. -/
structure SortPlan where
  keys : List SortKey := []
  tab : Option UInt8 := none
  unique : Bool := false
  stable : Bool := false
  reverse : Bool := false

def SortPlan.keysOrder (p : SortPlan) (a b : Bytes) : Int :=
  p.keys.foldl (fun d k =>
    if d != 0 then d
    else
      let e := k.order.compareTexts (k.textIn p.tab a) (k.textIn p.tab b)
      if k.order.reverse then -e else e) 0

/-- Compares two lines: by their keys, and when those tie (and ties are not kept), as whole
lines, reversed by a reversing of the whole sort. -/
def SortPlan.order (p : SortPlan) (a b : Bytes) : Int :=
  let whole := signOf (byteOrder a b)
  let whole := if p.reverse then -whole else whole
  if p.keys.isEmpty then whole
  else
    let d := p.keysOrder a b
    if d != 0 || p.unique || p.stable then d else whole

def SortPlan.sortLines (p : SortPlan) (lines : List Bytes) : List Bytes :=
  lines.mergeSort fun a b => p.order a b ≤ 0

def SortPlan.mergeRuns (p : SortPlan) (xs ys : List Bytes) : List Bytes :=
  xs.merge ys fun a b => p.order a b ≤ 0

def SortPlan.keepFirsts (p : SortPlan) (lines : List Bytes) : List Bytes :=
  (lines.foldl (fun (kept : List Bytes) l =>
    match kept with
    | last :: _ => if p.order last l == 0 then kept else l :: kept
    | [] => [l]) []).reverse

def SortPlan.firstDisorder (p : SortPlan) (strict : Bool) : List Bytes → Nat → Option (Nat × Bytes)
  | a :: b :: rest, n =>
    let d := p.order a b
    if d > 0 || (strict && d == 0) then some (n + 1, b) else p.firstDisorder strict (b :: rest) (n + 1)
  | _, _ => none

def splitLines (eol : UInt8) (content : Bytes) : List Bytes :=
  if content.isEmpty then []
  else
    let parts := content.splitOn eol
    if content.getLast? == some eol then parts.dropLast else parts

/-! ## The command line -/

def sortOptions : List OptionDecl :=
  [{ key := "b", letter := some 98, long := some "ignore-leading-blanks" },
    .named "check" "check" .optional,
    .named "compress-program" "compress-program" .required,
    .named "debug" "debug" .no,
    { key := "d", letter := some 100, long := some "dictionary-order" },
    { key := "f", letter := some 102, long := some "ignore-case" },
    .named "files0-from" "files0-from" .required,
    { key := "g", letter := some 103, long := some "general-numeric-sort" },
    { key := "i", letter := some 105, long := some "ignore-nonprinting" },
    { key := "k", letter := some 107, long := some "key", arg := .required },
    { key := "m", letter := some 109, long := some "merge" },
    { key := "M", letter := some 77, long := some "month-sort" },
    { key := "n", letter := some 110, long := some "numeric-sort" },
    { key := "h", letter := some 104, long := some "human-numeric-sort" },
    { key := "V", letter := some 86, long := some "version-sort" },
    { key := "R", letter := some 82, long := some "random-sort" },
    .named "random-source" "random-source" .required,
    .named "sort" "sort" .required,
    { key := "o", letter := some 111, long := some "output", arg := .required },
    { key := "r", letter := some 114, long := some "reverse" },
    { key := "s", letter := some 115, long := some "stable" },
    .named "batch-size" "batch-size" .required,
    .named "buffer-size" "buffer-size" .required,
    { key := "t", letter := some 116, long := some "field-separator", arg := .required },
    { key := "T", letter := some 84, long := some "temporary-directory", arg := .required },
    { key := "u", letter := some 117, long := some "unique" },
    { key := "z", letter := some 122, long := some "zero-terminated" },
    .named "parallel" "parallel" .required,
    .flag 'c', .flag 'C', .valued 'S', .valued 'y'] ++ helpOptions

def sortWords : List (String × Char) :=
  [("general-numeric", 'g'), ("human-numeric", 'h'), ("month", 'M'), ("numeric", 'n'),
    ("random", 'R'), ("version", 'V')]

def checkWords : List (String × Char) :=
  [("quiet", 'C'), ("silent", 'C'), ("diagnose-first", 'c')]

/-- What the options ask for. -/
structure SortRequest where
  global : KeyOrder := {}
  keys : List SortKey := []
  tab : Option UInt8 := none
  unique : Bool := false
  stable : Bool := false
  merge : Bool := false
  eol : UInt8 := 10
  check : Option Char := none
  output : Option Bytes := none

def countCeiling : Nat := 18446744073709551615

def readFieldCount (s : Bytes) : Option (Nat × Bytes) :=
  let body := s.dropWhile fun c => c == 32 || (9 ≤ c && c ≤ 13)
  if body.head? == some 45 then none
  else
    let body := match body with
      | 43 :: more => more
      | _ => body
    let ds := body.takeWhile isDigitCode
    if ds.isEmpty then none
    else
      let n := decimalValue ds
      some (if n ≥ countCeiling then countCeiling else n, body.drop ds.length)

def readKeySpec (spec : Bytes) : Except Bytes SortKey :=
  let bad (why : String) : Except Bytes SortKey :=
    .error (bytes why ++ bytes ": invalid field specification " ++ messageQuote spec)
  let invalid (why : String) (text : Bytes) : Except Bytes SortKey :=
    .error (bytes why ++ bytes ": invalid count at start of " ++ messageQuote text)
  match readFieldCount spec with
  | none => invalid "invalid number at field start" spec
  | some (0, _) => bad "field number is zero"
  | some (field, rest) =>
    let start : Except Bytes (Nat × Bytes) := match rest with
      | 46 :: more =>
        match readFieldCount more with
        | none => .error (bytes "invalid number after '.': invalid count at start of " ++
            messageQuote more)
        | some (0, _) => .error (bytes "character offset is zero: invalid field specification " ++
            messageQuote spec)
        | some (c, after) => .ok (c - 1, after)
      | _ => .ok (0, rest)
    match start with
    | .error e => .error e
    | .ok (startChar, rest) =>
      let (order, rest) := ({} : KeyOrder).readLetters .start rest
      let key : SortKey := { startField := field - 1, startChar := startChar, order := order }
      match rest with
      | 44 :: more =>
        match readFieldCount more with
        | none => invalid "invalid number after ','" more
        | some (0, _) => bad "field number is zero"
        | some (endField, rest) =>
          let stop : Except Bytes (Nat × Bytes) := match rest with
            | 46 :: more =>
              match readFieldCount more with
              | none => .error (bytes "invalid number after '.': invalid count at start of " ++
                  messageQuote more)
              | some (c, after) => .ok (c, after)
            | _ => .ok (0, rest)
          match stop with
          | .error e => .error e
          | .ok (endChar, rest) =>
            let (order, rest) := key.order.readLetters .finish rest
            if rest.isEmpty then
              .ok { key with endField := some (endField - 1), endChar := endChar, order := order }
            else bad "stray character in field spec"
      | [] => .ok key
      | _ => bad "stray character in field spec"

def sizeProblem (arg : Bytes) : Option String :=
  let body := arg.dropWhile fun c => c == 32 || (9 ≤ c && c ≤ 13)
  let ds := body.takeWhile isDigitCode
  if body.head? == some 45 || ds.isEmpty then some "invalid"
  else
    match body.drop ds.length with
    | [] => none
    | [c] => if (bytes "kKmMgGtTpPeEzZyY%b").contains c then none else some "invalid suffix in"
    | _ => some "invalid suffix in"

/-- Takes one option into the request, or stops with what the program writes. -/
def SortRequest.take (r : ToolRun) (argv0 : Bytes) (q : SortRequest) :
    String × Option Bytes → Except ToolRun SortRequest
  | (key, arg) =>
    let a := arg.getD []
    let die (msg : Bytes) : Except ToolRun SortRequest := .error (r.failWith 2 argv0 msg)
    let global (c : Char) : SortRequest :=
      { q with global := (q.global.withLetter .both c.toNat.toUInt8).getD q.global }
    let checking (c : Char) : Except ToolRun SortRequest :=
      match q.check with
      | some d => if d != c then die (bytes "options '-cC' are incompatible") else .ok q
      | none => .ok { q with check := some c }
    let numberArg (option : String) : Except ToolRun SortRequest :=
      match sizeProblem a with
      | some how => die (bytes (how ++ " ") ++ bytes option ++ bytes " argument '" ++ a ++ [39])
      | none => .ok q
    if key == "help" then .error (r.writeHelp "sort" argv0)
    else if key == "version" then .error (r.writeVersion "sort")
    else if ["b", "d", "f", "g", "h", "i", "M", "n", "r", "R", "V"].contains key then
      .ok (global (key.toList.headD 'b'))
    else if key == "sort" then
      match pickChoice sortWords a with
      | .ok c => .ok (global c)
      | .error why => .error (r.badChoice argv0 "--sort" a why sortWords)
    else if key == "check" then
      match arg with
      | none => checking 'c'
      | some word =>
        match pickChoice checkWords word with
        | .ok c => checking c
        | .error why => .error (r.badChoice argv0 "--check" word why checkWords)
    else if key == "c" then checking 'c'
    else if key == "C" then checking 'C'
    else if key == "k" then
      match readKeySpec a with
      | .ok k => .ok { q with keys := q.keys ++ [k] }
      | .error msg => die msg
    else if key == "m" then .ok { q with merge := true }
    else if key == "o" then
      match q.output with
      | some o => if o != a then die (bytes "multiple output files specified") else .ok q
      | none => .ok { q with output := some a }
    else if key == "s" then .ok { q with stable := true }
    else if key == "u" then .ok { q with unique := true }
    else if key == "z" then .ok { q with eol := 0 }
    else if key == "S" then numberArg "-S"
    else if key == "buffer-size" then numberArg "--buffer-size"
    else if key == "t" then
      match a with
      | [] => die (bytes "empty tab")
      | [c] =>
        match q.tab with
        | some t => if t != c then die (bytes "incompatible tabs") else .ok q
        | none => .ok { q with tab := some c }
      | _ =>
        if a == [92, 48] then
          match q.tab with
          | some t => if t != 0 then die (bytes "incompatible tabs") else .ok q
          | none => .ok { q with tab := some 0 }
        else die (bytes "multi-character tab " ++ messageQuote a)
    else if key == "parallel" then
      match readFieldCount a with
      | some (0, []) => die (bytes "number in parallel must be nonzero")
      | some (_, []) => .ok q
      | some _ => die (bytes "invalid suffix in --parallel argument '" ++ a ++ [39])
      | none => die (bytes "invalid --parallel argument '" ++ a ++ [39])
    else if key == "batch-size" then
      match readFieldCount a with
      | some (n, []) =>
        if n < 2 then
          .error ((r.err (toolMessage argv0 (bytes "invalid --batch-size argument " ++
            messageQuote a))).failWith 2 argv0
              (bytes "minimum --batch-size argument is " ++ messageQuote (bytes "2")))
        else .ok q
      | some _ => die (bytes "invalid suffix in --batch-size argument '" ++ a ++ [39])
      | none => die (bytes "invalid --batch-size argument '" ++ a ++ [39])
    else .ok q

def SortRequest.finalKeys (q : SortRequest) : List SortKey :=
  let keys := q.keys.map fun k =>
    if k.order.plain && !k.order.reverse then { k with order := q.global } else k
  if keys.isEmpty && !q.global.plain then [{ order := q.global }] else keys

def SortRequest.plan (q : SortRequest) : SortPlan :=
  { keys := q.finalKeys, tab := q.tab, unique := q.unique, stable := q.stable,
    reverse := q.global.reverse }

def readInputs (r : ToolRun) (argv0 : Bytes) (input : Except OsError Bytes) (fs : Files)
    (names : List Bytes) : Except ToolRun (List Bytes) :=
  let step (acc : List Bytes × Bool) (name : Bytes) : Except ToolRun (List Bytes × Bool) :=
    let (contents, usedInput) := acc
    let content : Except OsError Bytes :=
      if name == bytes "-" then (if usedInput then .ok [] else input) else fs.read name.text
    match content with
    | .ok c => .ok (contents ++ [c], usedInput || name == bytes "-")
    | .error e =>
      .error (r.failWith 2 argv0 (bytes "read failed: " ++ fileName name ++ bytes ": " ++ e.bytes))
  (names.foldlM step ([], false)).map (·.1)

def missingInput (fs : Files) (names : List Bytes) : Option (Bytes × OsError) :=
  names.findSome? fun name =>
    if name == bytes "-" then none
    else
      match fs.find name.text with
      | .error e => some (name, e)
      | .ok _ => none

def sortTool (argv0 : Bytes) (args : List Bytes) (input : Except OsError Bytes) (fs : Files) :
    ToolRun :=
  let r : ToolRun := { files := fs, inputLeft := none }
  let reading := scanOptions sortOptions true args
  match reading.found.foldlM (SortRequest.take r argv0) {} with
  | .error answered => answered
  | .ok q =>
    match reading.wrong with
    | some msg => r.usageWith 2 argv0 msg
    | none =>
      let keys := q.finalKeys
      match keys.find? (·.order.clashes) with
      | some k =>
        let shown := { k.order with blanksBefore := false, blanksAfter := false, reverse := false }
        r.failWith 2 argv0 (bytes "options '-" ++ shown.letters ++ bytes "' are incompatible")
      | none =>
        let plan := q.plan
        let names := if reading.operands.isEmpty then [bytes "-"] else reading.operands
        let r := if names.contains (bytes "-") then { r with inputLeft := some [] } else r
        let eol := q.eol
        match q.check with
        | some how =>
          match names, q.output with
          | _ :: extra :: _, _ =>
            r.failWith 2 argv0 (bytes "extra operand " ++ fileQuote extra ++
              bytes " not allowed with -" ++ [how.toNat.toUInt8])
          | _, some _ =>
            r.failWith 2 argv0 (bytes "options '-" ++ [how.toNat.toUInt8] ++ bytes "o' are incompatible")
          | name :: _, none =>
            let content : Except OsError Bytes :=
              if name == bytes "-" then input else fs.read name.text
            match content with
            | .error e =>
              let what := if e == .isADirectory then "read failed: " else "open failed: "
              r.failWith 2 argv0 (bytes what ++ fileName name ++ bytes ": " ++ e.bytes)
            | .ok c =>
              match plan.firstDisorder q.unique (splitLines eol c) 1 with
              | none => r
              | some (n, line) =>
                let r := if how == 'c' then
                    r.err (argv0 ++ bytes ": " ++ name ++ bytes ":" ++ bytes (toString n) ++
                      bytes ": disorder: " ++ line ++ [10])
                  else r
                { r with status := 1 }
          | [], none => r
        | none =>
          match missingInput fs names with
          | some (name, e) =>
            r.failWith 2 argv0 (bytes "cannot read: " ++ fileName name ++ bytes ": " ++ e.bytes)
          | none =>
            let opened : Except ToolRun Unit := match q.output with
              | none => .ok ()
              | some o =>
                match fs.find o.text with
                | .ok (.directory _) =>
                  .error (r.failWith 2 argv0 (bytes "open failed: " ++ fileName o ++
                    bytes ": Is a directory"))
                | .ok _ => .ok ()
                | .error _ =>
                  match fs.creatable o.text with
                  | .ok () => .ok ()
                  | .error e =>
                    .error (r.failWith 2 argv0 (bytes "open failed: " ++ fileName o ++ bytes ": " ++
                      e.bytes))
            match opened with
            | .error answered => answered
            | .ok () =>
              let r := match q.output with
                | some o =>
                  match fs.find o.text with
                  | .ok _ => r
                  | .error _ => { r with files := r.files.write o.text [] }
                | none => r
              match readInputs r argv0 input fs names with
              | .error answered => answered
              | .ok contents =>
                let runs := contents.map (splitLines eol)
                let ordered := if q.merge then runs.foldl plan.mergeRuns []
                  else plan.sortLines runs.flatten
                let ordered := if q.unique then plan.keepFirsts ordered else ordered
                let text := ordered.flatMap (· ++ [eol])
                match q.output with
                | none => r.out text
                | some o =>
                  match r.files.find o.text with
                  | .ok (.device (.descriptor 1)) => r.out text
                  | .ok (.device (.descriptor 2)) => r.err text
                  | .ok (.device _) => r
                  | _ => { r with files := r.files.write o.text text }

end LintBridge.Host.LineSort
