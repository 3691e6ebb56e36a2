import LintBridge.Config.Toml
import LintBridge.Number.Shortest
import LintBridge.Text.Quote
/-!
# Configuration values

A value from the file or the environment, converted to the text or count a field takes. Anything
else is refused with a message naming what was found, what was expected, the key and the source.
-/

namespace LintBridge.Config

/-- Where a value came from. -/
inductive Origin where
  | file (uri : String)
  | environment
  deriving DecidableEq, Repr

/-- How an origin is named in messages. -/
def Origin.name : Origin → String
  | .file uri => uri
  | .environment => "the environment"

/-- A value of the configuration. Arrays and tables are kept only as what they are. -/
inductive Value where
  | bool (b : Bool)
  | int (i : Int)
  | float (x : Number.Binary64)
  | str (s : String)
  | seq
  | map
  deriving DecidableEq, Repr

def Value.ofToml : TomlValue → Value
  | .str s => .str s
  | .int i => .int i
  | .float x => .float x
  | .bool b => .bool b
  | .datetime d => .str d.render
  | .arr _ => .seq
  | .table _ => .map

def Value.describe : Value → String
  | .bool b => "boolean `" ++ (if b then "true" else "false") ++ "`"
  | .int i => "64-bit integer `" ++ Text.showInt i ++ "`"
  | .float x => "floating point `" ++ x.render ++ "`"
  | .str s => "string " ++ Text.debugQuote s
  | .seq => "sequence"
  | .map => "map"

/-- A value that does not fit its field. -/
structure TypeMismatch where
  found : Value
  expected : String
  deriving Repr

/-- A value as text. -/
def Value.toText : Value → Except TypeMismatch String
  | .str s => .ok s
  | .bool b => .ok (if b then "true" else "false")
  | .int i => .ok (Text.showInt i)
  | .float x => .ok x.render
  | v => .error ⟨v, "a string"⟩

def Value.toCount : Value → Except TypeMismatch Nat
  | .int i => if 0 ≤ i then .ok i.toNat else .error ⟨.int i, "an unsigned 64 bit or less integer"⟩
  | .bool b => .ok (if b then 1 else 0)
  | .float x => .ok x.roundToWord
  | .str s =>
    let l := s.toLower
    if l = "true" ∨ l = "on" ∨ l = "yes" then .ok 1
    else if l = "false" ∨ l = "off" ∨ l = "no" then .ok 0
    else
      match Text.readUnsigned s.toList with
      | some n => if n < Nat.pow 2 64 then .ok n else .error ⟨.str s, "an integer"⟩
      | none => .error ⟨.str s, "an integer"⟩
  | v => .error ⟨v, "an integer"⟩

def Value.ofEnvironment (s : String) : Value :=
  let l := s.toLower
  if l = "true" then .bool true
  else if l = "false" then .bool false
  else
    match Text.readSigned s.toList with
    | some i => if -(Int.pow 2 63) ≤ i ∧ i < Int.pow 2 63 then .int i else .float ((Number.readBinary64 s).getD Number.Binary64.nan)
    | none =>
      match Number.readBinary64 s with
      | some x => .float x
      | none => .str s

end LintBridge.Config
