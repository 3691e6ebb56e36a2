import LintBridge.Number.Binary64
/-!
# TOML values

The values a TOML document holds: strings, 64-bit integers, floats, booleans, dates and times
(RFC 3339, each part optional), arrays and tables. A date and time is shown the way RFC 3339
writes it: `T` between date and time, the fraction of a second without trailing zeros, and an
offset of zero minutes as `+00:00` whatever sign it was written with.
-/

namespace LintBridge.Config

/-- A calendar date. -/
structure Date where
  year : Nat
  month : Nat
  day : Nat
  deriving Repr, Inhabited

/-- A time of day, to the nanosecond. -/
structure Time where
  hour : Nat
  minute : Nat
  second : Nat
  nanosecond : Nat
  deriving Repr, Inhabited

/-- The offset of a time from UTC. -/
inductive Offset where
  | utc
  | minutes (m : Int)
  deriving Repr, Inhabited

/-- A date, a time, or both, with an offset or without. -/
structure Datetime where
  date : Option Date
  time : Option Time
  offset : Option Offset
  deriving Repr, Inhabited

/-- A TOML value. -/
inductive TomlValue where
  | str (s : String)
  | int (i : Int)
  | float (x : Number.Binary64)
  | bool (b : Bool)
  | datetime (d : Datetime)
  | arr (items : List TomlValue)
  | table (fields : List (String × TomlValue))
  deriving Repr, Inhabited

/-- A number with at least `width` digits, zeros in front. -/
def padded (width n : Nat) : String :=
  let s := toString n
  String.ofList (List.replicate (width - s.length) '0') ++ s

/-- `YYYY-MM-DD`. -/
def Date.render (d : Date) : String :=
  padded 4 d.year ++ "-" ++ padded 2 d.month ++ "-" ++ padded 2 d.day

/-- `HH:MM:SS`, then the fraction of a second if there is one, without trailing zeros. -/
def Time.render (t : Time) : String :=
  let whole := padded 2 t.hour ++ ":" ++ padded 2 t.minute ++ ":" ++ padded 2 t.second
  if t.nanosecond == 0 then whole
  else
    let digits := (padded 9 t.nanosecond).toList
    whole ++ "." ++ String.ofList (digits.reverse.dropWhile (· == '0')).reverse

/-- `Z`, or a sign with hours and minutes. -/
def Offset.render : Offset → String
  | .utc => "Z"
  | .minutes m =>
    let sign := if m < 0 then "-" else "+"
    let n := m.natAbs
    sign ++ padded 2 (n / 60) ++ ":" ++ padded 2 (n % 60)

/-- The date, `T`, the time and the offset, each if present. -/
def Datetime.render (d : Datetime) : String :=
  let date := (d.date.map Date.render).getD ""
  let time := match d.time with
    | some t => (if d.date.isSome then "T" else "") ++ t.render
    | none => ""
  date ++ time ++ ((d.offset.map Offset.render).getD "")

/-- The name of a value's kind, as errors about it say. -/
def TomlValue.kind : TomlValue → String
  | .str _ => "string"
  | .int _ => "integer"
  | .float _ => "float"
  | .bool _ => "boolean"
  | .datetime _ => "datetime"
  | .arr _ => "array"
  | .table _ => "inline table"

end LintBridge.Config
