/-!
# The calendar of the machine

Seconds since the epoch on the proleptic Gregorian calendar, in universal time, and broken-down
times whose fields normalize into each other as the calendar does. The fields are kept in signed
machine words, so a value outside a word makes the date unreadable.
-/

namespace LintBridge.Host.Time

def fits64 (v : Int) : Bool := -9223372036854775808 ≤ v && v < 9223372036854775808

def fits32 (v : Int) : Bool := -2147483648 ≤ v && v < 2147483648

def wrap32 (v : Int) : Int :=
  let r := v % 4294967296
  if 2147483648 ≤ r then r - 4294967296 else r

def clockReading : Int := 1794528000

def daysFromCivil (year month day : Int) : Int :=
  let y := if month ≤ 2 then year - 1 else year
  let era := y / 400
  let yoe := y - era * 400
  let doy := (153 * (if month > 2 then month - 3 else month + 9) + 2) / 5 + day - 1
  let doe := yoe * 365 + yoe / 4 - yoe / 100 + doy
  era * 146097 + doe - 719468

def civilFromDays (days : Int) : Int × Int × Int :=
  let z := days + 719468
  let era := z / 146097
  let doe := z - era * 146097
  let yoe := (doe - doe / 1460 + doe / 36524 - doe / 146096) / 365
  let doy := doe - (365 * yoe + yoe / 4 - yoe / 100)
  let mp := (5 * doy + 2) / 153
  let day := doy - (153 * mp + 2) / 5 + 1
  let month := if mp < 10 then mp + 3 else mp - 9
  (if month ≤ 2 then yoe + era * 400 + 1 else yoe + era * 400, month, day)

def weekdayOf (days : Int) : Int := (days + 4) % 7

/-- A broken-down time: the year, the month counted from 0, the day of the month, the hour, the
minute and the second. -/
structure BrokenTime where
  year : Int
  month : Int
  day : Int
  hour : Int
  minute : Int
  second : Int
  deriving BEq, Repr

def BrokenTime.toSeconds (t : BrokenTime) : Int :=
  let days := daysFromCivil (t.year + t.month / 12) (t.month % 12 + 1) 1 + t.day - 1
  days * 86400 + t.hour * 3600 + t.minute * 60 + t.second

def BrokenTime.ofSeconds (s : Int) : BrokenTime :=
  let (year, month, day) := civilFromDays (s / 86400)
  let rest := s % 86400
  { year := year, month := month - 1, day := day, hour := rest / 3600,
    minute := rest % 3600 / 60, second := rest % 60 }

def BrokenTime.normalize (t : BrokenTime) : BrokenTime := BrokenTime.ofSeconds t.toSeconds

def BrokenTime.inRange (t : BrokenTime) : Bool := t.normalize == t

def BrokenTime.yearHeld (t : BrokenTime) : Bool := fits32 (t.year - 1900)

end LintBridge.Host.Time
