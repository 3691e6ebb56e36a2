import LintBridge.Host.Basic
import LintBridge.Host.Time.Calendar
/-!
# Time stamps

A time stamp `[[CC]YY]MMDDhhmm[.ss]` names a moment by its digits. A two-digit year means 1969 to
2068, and the stamp must name a real moment, a leap second 60 read as the second after 59.
-/

namespace LintBridge.Host.Time

def isDigitByte (b : UInt8) : Bool := 48 ≤ b && b ≤ 57

/-- The value of an ASCII digit. -/
def digitValue (b : UInt8) : Int := (b - 48).toNat

def digitPairs : Bytes → List Int
  | a :: b :: rest => (10 * digitValue a + digitValue b) :: digitPairs rest
  | _ => []

def stampYear : List Int → Option Int
  | [] => some (BrokenTime.ofSeconds clockReading).year
  | [yy] => some (if yy ≤ 68 then 2000 + yy else 1900 + yy)
  | [cc, yy] => some (cc * 100 + yy)
  | _ => none

def stampSeconds (dotted : Bool) : Bytes → Option Int
  | [a, b] =>
    if isDigitByte a && isDigitByte b then some (10 * digitValue a + digitValue b) else none
  | _ => if dotted then none else some 0

def readStamp (t : Bytes) : Option Int := do
  let main := t.takeWhile (· != 46)
  let fraction := t.drop (main.length + 1)
  let dotted := main.length < t.length
  if dotted && fraction.length != 2 then none
  if !(main.length == 8 || main.length == 10 || main.length == 12) then none
  if !main.all isDigitByte then none
  let pairs := digitPairs main
  let year ← stampYear (pairs.take (pairs.length - 4))
  let second ← stampSeconds dotted fraction
  match pairs.drop (pairs.length - 4) with
  | [month, day, hour, minute] =>
    let time : BrokenTime :=
      { year := year, month := month - 1, day := day, hour := hour, minute := minute,
        second := second }
    if time.inRange || (second == 60 && { time with second := 59 }.inRange) then
      some time.toSeconds
    else none
  | _ => none

end LintBridge.Host.Time
