import LintBridge.Host.Basic
import LintBridge.Host.Time.Calendar
/-!
# Date phrases

A date phrase such as `next friday`, `3 days ago` or `@1700000000` is read as tokens, then as
items each taking the longest reading its tokens allow, and then as the moment the items name,
within the machine's words.
-/

namespace LintBridge.Host.Time

/-- How the hour of a time of day counts: on a 24-hour clock, or before or after noon. -/
inductive Meridian where
  | full
  | am
  | pm
  deriving DecidableEq

/-- The unit of a relative shift. -/
inductive ShiftUnit where
  | year
  | month
  | day
  | hour
  | minute
  | second
  deriving DecidableEq

/-- A token of a date phrase. -/
inductive DateToken where
  /-- A number without a sign: its value and its count of digits. -/
  | unsigned (value : Int) (digits : Nat)
  /-- A number with a sign: its value, its count of digits, and whether the sign was `-`. -/
  | signed (value : Int) (digits : Nat) (negative : Bool)
  /-- A number with a fraction and no sign: whole seconds and nanoseconds. -/
  | fraction (seconds nanos : Int)
  /-- A number with a fraction and a sign. -/
  | signedFraction (seconds nanos : Int)
  | meridian (m : Meridian)
  | month (number : Int)
  | weekday (number : Int)
  /-- A zone, by its offset from universal time in seconds. -/
  | zone (offset : Int)
  /-- A summer zone, by the offset of its standard time. -/
  | summerZone (offset : Int)
  /-- The word `dst`. -/
  | summer
  /-- A unit, with how many of the base unit it means (a week is seven days). -/
  | unit (u : ShiftUnit) (size : Int)
  | dayShift (days : Int)
  | ordinal (n : Int)
  /-- `ago` (-1) or `hence` (1). -/
  | ago (sense : Int)
  /-- The letter `J`: local time. -/
  | localLetter
  /-- The letter `T`: a military zone, and the mark between a date and a time. -/
  | timeLetter
  /-- Any other byte. -/
  | mark (b : UInt8)

/-! ## Words -/

def meridianWords : List (String × Meridian) :=
  [("AM", .am), ("A.M.", .am), ("PM", .pm), ("P.M.", .pm)]

def calendarWords : List (String × DateToken) :=
  [("JANUARY", .month 1), ("FEBRUARY", .month 2), ("MARCH", .month 3), ("APRIL", .month 4),
    ("MAY", .month 5), ("JUNE", .month 6), ("JULY", .month 7), ("AUGUST", .month 8),
    ("SEPTEMBER", .month 9), ("SEPT", .month 9), ("OCTOBER", .month 10),
    ("NOVEMBER", .month 11), ("DECEMBER", .month 12), ("SUNDAY", .weekday 0),
    ("MONDAY", .weekday 1), ("TUESDAY", .weekday 2), ("TUES", .weekday 2),
    ("WEDNESDAY", .weekday 3), ("WEDNES", .weekday 3), ("THURSDAY", .weekday 4),
    ("THUR", .weekday 4), ("THURS", .weekday 4), ("FRIDAY", .weekday 5),
    ("SATURDAY", .weekday 6)]

def hourSeconds : Int := 3600

def zoneWords : List (String × DateToken) :=
  [("GMT", .zone 0), ("UT", .zone 0), ("UTC", .zone 0),
    ("WET", .zone 0), ("WEST", .summerZone 0), ("BST", .summerZone 0),
    ("ART", .zone (-3 * hourSeconds)), ("BRT", .zone (-3 * hourSeconds)),
    ("BRST", .summerZone (-3 * hourSeconds)), ("NST", .zone (-(3 * hourSeconds + 1800))),
    ("NDT", .summerZone (-(3 * hourSeconds + 1800))), ("AST", .zone (-4 * hourSeconds)),
    ("ADT", .summerZone (-4 * hourSeconds)), ("CLT", .zone (-4 * hourSeconds)),
    ("CLST", .summerZone (-4 * hourSeconds)), ("EST", .zone (-5 * hourSeconds)),
    ("EDT", .summerZone (-5 * hourSeconds)), ("CST", .zone (-6 * hourSeconds)),
    ("CDT", .summerZone (-6 * hourSeconds)), ("MST", .zone (-7 * hourSeconds)),
    ("MDT", .summerZone (-7 * hourSeconds)), ("PST", .zone (-8 * hourSeconds)),
    ("PDT", .summerZone (-8 * hourSeconds)), ("AKST", .zone (-9 * hourSeconds)),
    ("AKDT", .summerZone (-9 * hourSeconds)), ("HST", .zone (-10 * hourSeconds)),
    ("HAST", .zone (-10 * hourSeconds)), ("HADT", .summerZone (-10 * hourSeconds)),
    ("SST", .zone (-12 * hourSeconds)), ("WAT", .zone hourSeconds), ("CET", .zone hourSeconds),
    ("CEST", .summerZone hourSeconds), ("MET", .zone hourSeconds), ("MEZ", .zone hourSeconds),
    ("MEST", .summerZone hourSeconds), ("MESZ", .summerZone hourSeconds),
    ("EET", .zone (2 * hourSeconds)), ("EEST", .summerZone (2 * hourSeconds)),
    ("CAT", .zone (2 * hourSeconds)), ("SAST", .zone (2 * hourSeconds)),
    ("EAT", .zone (3 * hourSeconds)), ("MSK", .zone (3 * hourSeconds)),
    ("MSD", .summerZone (3 * hourSeconds)), ("IST", .zone (5 * hourSeconds + 1800)),
    ("SGT", .zone (8 * hourSeconds)), ("KST", .zone (9 * hourSeconds)),
    ("JST", .zone (9 * hourSeconds)), ("GST", .zone (10 * hourSeconds)),
    ("NZST", .zone (12 * hourSeconds)), ("NZDT", .summerZone (12 * hourSeconds))]

def unitWords : List (String × DateToken) :=
  [("YEAR", .unit .year 1), ("MONTH", .unit .month 1), ("FORTNIGHT", .unit .day 14),
    ("WEEK", .unit .day 7), ("DAY", .unit .day 1), ("HOUR", .unit .hour 1),
    ("MINUTE", .unit .minute 1), ("MIN", .unit .minute 1), ("SECOND", .unit .second 1),
    ("SEC", .unit .second 1)]

def relativeWords : List (String × DateToken) :=
  [("TOMORROW", .dayShift 1), ("YESTERDAY", .dayShift (-1)), ("TODAY", .dayShift 0),
    ("NOW", .dayShift 0), ("LAST", .ordinal (-1)), ("THIS", .ordinal 0), ("NEXT", .ordinal 1),
    ("FIRST", .ordinal 1), ("THIRD", .ordinal 3), ("FOURTH", .ordinal 4),
    ("FIFTH", .ordinal 5), ("SIXTH", .ordinal 6), ("SEVENTH", .ordinal 7),
    ("EIGHTH", .ordinal 8), ("NINTH", .ordinal 9), ("TENTH", .ordinal 10),
    ("ELEVENTH", .ordinal 11), ("TWELFTH", .ordinal 12), ("AGO", .ago (-1)),
    ("HENCE", .ago 1)]

def letterZone (c : Char) : Option DateToken :=
  let n : Int := c.toNat
  if c == 'J' then some .localLetter
  else if c == 'T' then some .timeLetter
  else if c == 'Z' then some (.zone 0)
  else if 'A' ≤ c && c ≤ 'I' then some (.zone ((n - 64) * hourSeconds))
  else if 'K' ≤ c && c ≤ 'M' then some (.zone ((n - 65) * hourSeconds))
  else if 'N' ≤ c && c ≤ 'Y' then some (.zone (-(n - 77) * hourSeconds))
  else none

def lookupWord (word : String) : Option DateToken :=
  let length := word.length
  let abbreviated := length == 3 || (length == 4 && word.toList.getLast? == some '.')
  let named (table : List (String × DateToken)) (w : String) : Option DateToken :=
    (table.find? (·.1 == w)).map (·.2)
  let zone (w : String) := named zoneWords w
  let plural := if word.toList.getLast? == some 'S' then
      named unitWords (String.ofList word.toList.dropLast)
    else none
  let dotless := String.ofList (word.toList.filter (· != '.'))
  ((meridianWords.find? (·.1 == word)).map fun (_, m) => DateToken.meridian m)
    |>.orElse (fun _ => (calendarWords.find? fun (name, _) =>
        if abbreviated then name.toList.take 3 == word.toList.take 3 else name == word).map (·.2))
    |>.orElse (fun _ => zone word)
    |>.orElse (fun _ => if word == "DST" then some .summer else none)
    |>.orElse (fun _ => named unitWords word)
    |>.orElse (fun _ => plural)
    |>.orElse (fun _ => named relativeWords word)
    |>.orElse (fun _ => match word.toList with
      | [c] => letterZone c
      | _ => none)
    |>.orElse (fun _ => if dotless.length < length then zone dotless else none)

/-! ## Tokens -/

def isBlankByte (b : UInt8) : Bool := b == 32 || (9 ≤ b && b ≤ 13)

def isLetterByte (b : UInt8) : Bool := (65 ≤ b && b ≤ 90) || (97 ≤ b && b ≤ 122)

def isDigitChar (b : UInt8) : Bool := 48 ≤ b && b ≤ 57

/-- The capital of an ASCII letter. -/
def capital (b : UInt8) : UInt8 := if 97 ≤ b && b ≤ 122 then b - 32 else b

/-- The value of a run of digits, negated when `negative`. -/
def digitsValue (negative : Bool) (digits : Bytes) : Int :=
  let v : Int := digits.foldl (fun acc d => acc * 10 + (d - 48).toNat) 0
  if negative then -v else v

def fractionNanos (digits : Bytes) : Int :=
  let nine := (digits.take 9) ++ List.replicate (9 - (digits.take 9).length) 48
  digitsValue false nine

def lexNumber (sign : Int) (input : Bytes) : Option (DateToken × Bytes) := do
  let digits := input.takeWhile isDigitChar
  let after := input.drop digits.length
  let value := digitsValue (sign < 0) digits
  if !fits64 value then none
  match after with
  | c :: d :: more =>
    if (c == 46 || c == 44) && isDigitChar d then
      let fractionDigits := (d :: more).takeWhile isDigitChar
      let rest := (d :: more).drop fractionDigits.length
      let nanos := fractionNanos fractionDigits
      let nanos := if sign < 0 && (fractionDigits.drop 9).any (· != 48) then nanos + 1 else nanos
      let (seconds, nanos) :=
        if sign < 0 && nanos != 0 then (value - 1, 1000000000 - nanos) else (value, nanos)
      if !fits64 seconds then none
      some (if sign == 0 then .fraction seconds nanos else .signedFraction seconds nanos, rest)
    else
      some (if sign == 0 then .unsigned value digits.length
        else .signed value digits.length (sign < 0), after)
  | _ =>
    some (if sign == 0 then .unsigned value digits.length
      else .signed value digits.length (sign < 0), after)

def skipComment : Nat → Nat → Bytes → Option Bytes
  | _, _, [] => none
  | depth, fuel + 1, b :: rest =>
    if b == 40 then skipComment (depth + 1) fuel rest
    else if b == 41 then
      if depth ≤ 1 then some rest else skipComment (depth - 1) fuel rest
    else skipComment depth fuel rest
  | _, 0, _ => none

def lexPhrase : Nat → Bytes → Option (List DateToken)
  | 0, _ => some []
  | fuel + 1, input =>
    match input.dropWhile isBlankByte with
    | [] => some []
    | c :: rest =>
      if c == 45 || c == 43 then
        let after := rest.dropWhile isBlankByte
        match after with
        | d :: _ =>
          if isDigitChar d then do
            let (token, more) ← lexNumber (if c == 45 then -1 else 1) after
            let tokens ← lexPhrase fuel more
            some (token :: tokens)
          else lexPhrase fuel after
        | [] => some []
      else if isDigitChar c then do
        let (token, more) ← lexNumber 0 (c :: rest)
        let tokens ← lexPhrase fuel more
        some (token :: tokens)
      else if isLetterByte c then do
        let word := (c :: rest).takeWhile fun b => isLetterByte b || b == 46
        let more := (c :: rest).drop word.length
        let token ← lookupWord (String.ofList ((word.take 19).map fun b => Char.ofNat (capital b).toNat))
        let tokens ← lexPhrase fuel more
        some (token :: tokens)
      else if c == 40 then
        match skipComment 0 (rest.length + 2) (c :: rest) with
        | some more => lexPhrase fuel more
        | none => some []
      else do
        let tokens ← lexPhrase fuel rest
        some (.mark c :: tokens)

/-! ## Items -/

/-- A relative shift: years, months, days, hours, minutes, seconds and nanoseconds. -/
structure Shift where
  years : Int := 0
  months : Int := 0
  days : Int := 0
  hours : Int := 0
  minutes : Int := 0
  seconds : Int := 0
  nanos : Int := 0

/-- The shift a count of units makes. -/
def ShiftUnit.shift (u : ShiftUnit) (n : Int) : Shift :=
  match u with
  | .year => { years := n }
  | .month => { months := n }
  | .day => { days := n }
  | .hour => { hours := n }
  | .minute => { minutes := n }
  | .second => { seconds := n }

def unitCount (u : ShiftUnit) (size count : Int) : Option Shift :=
  if fits64 (count * size) then some (u.shift (count * size)) else none

/-- What a date phrase has said so far: the fields of the date and time (the clock's reading
where it said none), the weekday asked for, the zone, the shift, and how many items of each
kind it gave. -/
structure DateParts where
  year : Int
  yearDigits : Nat := 0
  month : Int
  day : Int
  hour : Int
  minutes : Int
  seconds : Int
  nanos : Int := 0
  meridian : Meridian := .full
  dayOrdinal : Int := 0
  dayNumber : Int := 0
  zone : Int := 0
  shift : Shift := {}
  shifted : Bool := false
  times : Nat := 0
  dates : Nat := 0
  weekdays : Nat := 0
  zones : Nat := 0
  localZones : Nat := 0
  stamp : Option Int := none

def DateParts.initial : DateParts :=
  let now := BrokenTime.ofSeconds clockReading
  { year := now.year, month := now.month + 1, day := now.day, hour := now.hour,
    minutes := now.minute, seconds := now.second }

def DateParts.addShift (p : DateParts) (s : Shift) (sense : Int) : Option DateParts :=
  let r : Shift :=
    { years := p.shift.years + sense * s.years, months := p.shift.months + sense * s.months,
      days := p.shift.days + sense * s.days, hours := p.shift.hours + sense * s.hours,
      minutes := p.shift.minutes + sense * s.minutes,
      seconds := p.shift.seconds + sense * s.seconds, nanos := p.shift.nanos + sense * s.nanos }
  if fits64 r.years && fits64 r.months && fits64 r.days && fits64 r.hours && fits64 r.minutes &&
      fits64 r.seconds && fits32 r.nanos then
    some { p with shift := r, shifted := true }
  else none

def DateParts.setClock (p : DateParts) (hour minutes seconds nanos : Int) (m : Meridian) :
    DateParts :=
  { p with hour := hour, minutes := minutes, seconds := seconds, nanos := nanos, meridian := m }

def DateParts.digitsTime (p : DateParts) (value : Int) (digits : Nat) : DateParts :=
  if 0 < p.dates && p.yearDigits == 0 && !p.shifted && (0 < p.times || 2 < digits) then
    { p with year := value, yearDigits := digits }
  else if 4 < digits then
    { p with
      dates := p.dates + 1, day := value % 100, month := value / 100 % 100,
      year := value / 10000, yearDigits := digits - 4 }
  else
    let p := if digits ≤ 2 then p.setClock value 0 0 0 .full
      else p.setClock (value / 100) (value % 100) 0 0 .full
    { p with times := p.times + 1 }

def zoneOffset (value : Int) (digits : Nat) (negative : Bool) (minutes : Option Int) :
    Option Int :=
  let total := match minutes with
    | none =>
      let v := if digits ≤ 2 then value * 100 else value
      v.tdiv 100 * 60 + v.tmod 100
    | some mm => if negative then value * 60 - mm else value * 60 + mm
  if -1440 ≤ total && total ≤ 1440 then some (total * 60) else none

def DateParts.readOffset (p : DateParts) (value : Int) (digits : Nat) (negative : Bool) :
    List DateToken → Option (DateParts × List DateToken)
  | .mark 58 :: .unsigned mm _ :: rest => do
    let z ← zoneOffset value digits negative (some mm)
    some ({ p with zone := z, zones := p.zones + 1 }, rest)
  | .mark 58 :: _ => none
  | rest => do
    let z ← zoneOffset value digits negative none
    some ({ p with zone := z, zones := p.zones + 1 }, rest)

def secondsOf : DateToken → Option (Int × Int)
  | .unsigned v _ => some (v, 0)
  | .fraction s ns => some (s, ns)
  | _ => none

def DateParts.readTimeEnd (p : DateParts) (meridians : Bool) (hour minutes seconds nanos : Int) :
    List DateToken → Option (DateParts × List DateToken)
  | .meridian m :: rest =>
    if meridians then some (p.setClock hour minutes seconds nanos m, rest)
    else some (p.setClock hour minutes seconds nanos .full, .meridian m :: rest)
  | .signed v d neg :: rest => (p.setClock hour minutes seconds nanos .full).readOffset v d neg rest
  | rest => some (p.setClock hour minutes seconds nanos .full, rest)

def DateParts.readClock (p : DateParts) (meridians : Bool) (hour : Int) :
    List DateToken → Option (DateParts × List DateToken)
  | .unsigned minutes _ :: .mark 58 :: s :: rest => do
    let (seconds, nanos) ← secondsOf s
    p.readTimeEnd meridians hour minutes seconds nanos rest
  | .unsigned _ _ :: .mark 58 :: [] => none
  | .unsigned minutes _ :: rest => p.readTimeEnd meridians hour minutes 0 0 rest
  | _ => none

def DateParts.readIsoTime (p : DateParts) : List DateToken → Option (DateParts × List DateToken)
  | .unsigned h _ :: .signed v d neg :: rest =>
    (p.setClock h 0 0 0 .full).readOffset v d neg rest
  | .unsigned h _ :: .mark 58 :: rest => p.readClock false h rest
  | _ => none

def DateParts.readShift (p : DateParts) (s : Shift) :
    List DateToken → Option (DateParts × List DateToken)
  | .ago sense :: rest => (p.addShift s sense).map (·, rest)
  | rest => (p.addShift s 1).map (·, rest)

def negated (v : Int) : Option Int := if fits64 (-v) then some (-v) else none

def DateParts.setDate (p : DateParts) (year : Option (Int × Nat)) (month day : Int) : DateParts :=
  let p := { p with month := month, day := day, dates := p.dates + 1 }
  match year with
  | some (y, digits) => { p with year := y, yearDigits := digits }
  | none => p

def DateParts.readNumbered (p : DateParts) (v : Int) (d : Nat) :
    List DateToken → Option (DateParts × List DateToken)
  | .meridian m :: rest => some ({ p.setClock v 0 0 0 m with times := p.times + 1 }, rest)
  | .mark 58 :: rest => do
    let (q, rest) ← p.readClock true v rest
    some ({ q with times := q.times + 1 }, rest)
  | .signed a _ _ :: .signed b _ _ :: rest => do
    let month ← negated a
    let day ← negated b
    let q := p.setDate (some (v, d)) month day
    match rest with
    | .timeLetter :: rest => do
      let (q, rest) ← q.readIsoTime rest
      some ({ q with times := q.times + 1 }, rest)
    | rest => some (q, rest)
  | .signed a _ _ :: .unit u size :: rest => do
    let s ← unitCount u size a
    let q ← (p.digitsTime v d).addShift s 1
    some (q, rest)
  | .signed a ad neg :: rest => do
    let (q, rest) ← (p.setClock v 0 0 0 .full).readOffset a ad neg rest
    some ({ q with times := q.times + 1 }, rest)
  | .weekday w :: rest =>
    some ({ p with dayOrdinal := v, dayNumber := w, weekdays := p.weekdays + 1 }, rest)
  | .month m :: .signed y yd _ :: rest => do
    let year ← negated y
    some (p.setDate (some (year, yd)) m v, rest)
  | .month m :: .unsigned y yd :: rest => some (p.setDate (some (y, yd)) m v, rest)
  | .month m :: rest => some (p.setDate none m v, rest)
  | .mark 47 :: .unsigned b _ :: .mark 47 :: .unsigned c cd :: rest =>
    if 4 ≤ d then some (p.setDate (some (v, d)) b c, rest)
    else some (p.setDate (some (c, cd)) v b, rest)
  | .mark 47 :: .unsigned _ _ :: .mark 47 :: _ => none
  | .mark 47 :: .unsigned b _ :: rest => some (p.setDate none v b, rest)
  | .unit u size :: rest => do
    let s ← unitCount u size v
    p.readShift s rest
  | rest => some (p.digitsTime v d, rest)

def DateParts.readItem (p : DateParts) : List DateToken → Option (DateParts × List DateToken)
  | .unsigned v d :: rest => p.readNumbered v d rest
  | .signed v _ _ :: .unit u size :: rest => do
    let s ← unitCount u size v
    p.readShift s rest
  | .fraction s ns :: .unit .second _ :: rest => p.readShift { seconds := s, nanos := ns } rest
  | .signedFraction s ns :: .unit .second _ :: rest =>
    p.readShift { seconds := s, nanos := ns } rest
  | .ordinal n :: .unit u size :: rest => do
    let s ← unitCount u size n
    p.readShift s rest
  | .ordinal n :: .weekday w :: rest =>
    some ({ p with dayOrdinal := n, dayNumber := w, weekdays := p.weekdays + 1 }, rest)
  | .unit u size :: rest => p.readShift (u.shift size) rest
  | .dayShift n :: rest => (p.addShift { days := n } 1).map (·, rest)
  | .weekday w :: .mark 44 :: rest =>
    some ({ p with dayOrdinal := 0, dayNumber := w, weekdays := p.weekdays + 1 }, rest)
  | .weekday w :: rest =>
    some ({ p with dayOrdinal := 0, dayNumber := w, weekdays := p.weekdays + 1 }, rest)
  | .month m :: .signed a _ _ :: .signed b bd _ :: rest => do
    let day ← negated a
    let year ← negated b
    some (p.setDate (some (year, bd)) m day, rest)
  | .month m :: .unsigned a _ :: .mark 44 :: .unsigned y yd :: rest =>
    some (p.setDate (some (y, yd)) m a, rest)
  | .month m :: .unsigned a _ :: rest => some (p.setDate none m a, rest)
  | .zone z :: .signed v _ _ :: .unit u size :: rest => do
    let s ← unitCount u size v
    let q ← p.addShift s 1
    some ({ q with zone := z, zones := q.zones + 1 }, rest)
  | .zone z :: .signed v d neg :: .mark 58 :: .unsigned mm _ :: rest => do
    let offset ← zoneOffset v d neg (some mm)
    some ({ p with zone := offset + z, zones := p.zones + 1 }, rest)
  | .zone z :: .signed v d neg :: rest => do
    let offset ← zoneOffset v d neg none
    some ({ p with zone := offset + z, zones := p.zones + 1 }, rest)
  | .zone z :: .summer :: rest => some ({ p with zone := z + 3600, zones := p.zones + 1 }, rest)
  | .zone z :: rest => some ({ p with zone := z, zones := p.zones + 1 }, rest)
  | .summerZone z :: rest => some ({ p with zone := z + 3600, zones := p.zones + 1 }, rest)
  | .timeLetter :: .signed v _ _ :: .unit u size :: rest => do
    let s ← unitCount u size v
    let q ← p.addShift s 1
    some ({ q with zone := -7 * hourSeconds, zones := q.zones + 1 }, rest)
  | .timeLetter :: .signed _ _ _ :: _ => none
  | .timeLetter :: rest => some ({ p with zone := -7 * hourSeconds, zones := p.zones + 1 }, rest)
  | .localLetter :: rest => some ({ p with localZones := p.localZones + 1 }, rest)
  | _ => none

/-- Reads the items of a date phrase one after the other; each takes at least one token, so the
count of tokens bounds the loop. -/
def DateParts.readItems : Nat → DateParts → List DateToken → Option DateParts
  | _, p, [] => some p
  | 0, _, _ :: _ => none
  | fuel + 1, p, tokens => do
    let (q, rest) ← p.readItem tokens
    q.readItems fuel rest

def readTokens (tokens : List DateToken) : Option DateParts :=
  match tokens with
  | [.mark 64, .unsigned v _] | [.mark 64, .signed v _ _] =>
    some { DateParts.initial with stamp := some v }
  | [.mark 64, .fraction s _] | [.mark 64, .signedFraction s _] =>
    some { DateParts.initial with stamp := some s }
  | .mark 64 :: _ => none
  | _ => DateParts.initial.readItems (tokens.length + 1) tokens

/-! ## The moment -/

def hourOn (hour : Int) : Meridian → Int
  | .full => if 0 ≤ hour && hour < 24 then hour else -1
  | .am => if 0 < hour && hour < 12 then hour else if hour == 12 then 0 else -1
  | .pm => if 0 < hour && hour < 12 then hour + 12 else if hour == 12 then 12 else -1

def fullYear (year : Int) (digits : Nat) : Int :=
  if 0 ≤ year && digits == 2 then year + (if year < 69 then 2000 else 1900) else year

def toWeekday (t : BrokenTime) (ordinal number : Int) : Option BrokenTime := do
  let wday := weekdayOf (t.toSeconds / 86400)
  let ordinal := ordinal - (if 0 < ordinal && wday != number then 1 else 0)
  if !fits64 (ordinal * 7) then none
  let increment := ordinal * 7 + (number - wday + 7) % 7
  if !fits64 increment || !fits32 (t.day + increment) then none
  let moved := { t with day := t.day + increment }.normalize
  if moved.yearHeld then some moved else none

def shiftDate (t : BrokenTime) (s : Shift) : Option BrokenTime := do
  let year := t.year - 1900 + s.years
  let month := t.month + s.months
  let day := t.day + s.days
  if !(fits32 year && fits32 month && fits32 day) then none
  let moved := { t with year := year + 1900, month := month, day := day }.normalize
  if moved.yearHeld then some moved else none

def DateParts.moment (p : DateParts) : Option Int := do
  match p.stamp with
  | some s => some s
  | none =>
    if 1 < (p.times ||| p.dates ||| p.weekdays ||| (p.localZones + p.zones)) then none
    let year := fullYear p.year p.yearDigits
    let tmYear := if year < 0 then -1900 - year else year - 1900
    if !(fits32 tmYear && fits32 (p.month - 1) && fits32 p.day) then none
    let useClock := 0 < p.times || (p.shifted && p.dates == 0 && p.weekdays == 0)
    let (hour, minute, second, nanos) ← if useClock then
        let h := hourOn p.hour p.meridian
        if h < 0 then none else some (h, wrap32 p.minutes, wrap32 p.seconds, p.nanos)
      else some (0, 0, 0, 0)
    let written : BrokenTime :=
      { year := tmYear + 1900, month := p.month - 1, day := p.day, hour := hour,
        minute := minute, second := second }
    if !written.inRange then none
    let t ← if 0 < p.weekdays && p.dates == 0 then toWeekday written p.dayOrdinal p.dayNumber
      else some written
    let t ← if p.shift.years != 0 || p.shift.months != 0 || p.shift.days != 0 then
        shiftDate t p.shift
      else some t
    let start := t.toSeconds
    let start := if 0 < p.zones then start - p.zone else start
    if !fits64 start then none
    let total := nanos + p.shift.nanos
    let carried := (total - total % 1000000000) / 1000000000
    let t1 := start + p.shift.hours * 3600
    let t2 := t1 + p.shift.minutes * 60
    let t3 := t2 + p.shift.seconds
    let t4 := t3 + carried
    if fits64 (p.shift.hours * 3600) && fits64 t1 && fits64 (p.shift.minutes * 60) &&
        fits64 t2 && fits64 t3 && fits64 t4 then some t4
    else none

def afterZoneRule (text : Bytes) : Bytes :=
  match text with
  | 84 :: 90 :: 61 :: 34 :: rest => (go rest).getD text
  | _ => text
where
  /-- The text after the closing quote, backslashes escaping a quote or a backslash. -/
  go : Bytes → Option Bytes
    | 92 :: b :: more => if b == 92 || b == 34 then go more else none
    | 34 :: more => some more
    | _ :: more => go more
    | [] => none

def readDatePhrase (text : Bytes) : Option Int := do
  let text := afterZoneRule (text.dropWhile isBlankByte)
  let text := if text.isEmpty then [48] else text
  let tokens ← lexPhrase (text.length + 1) text
  let parts ← readTokens tokens
  parts.moment

end LintBridge.Host.Time
