import LintBridge.Settings.Basic
import LintBridge.Json.Basic
/-!
# Settings as JSON

Reading is strict: a key that is present must have a value of its field's kind, a missing key
takes the default, and unknown keys are ignored. `fromValue` lays the editor's object over
fallback settings, and the fallback stands when the result does not read.
-/

namespace LintBridge

namespace Settings

/-- The settings as a JSON object, in field order. -/
def toFields (s : Settings) : List (String × Json) :=
  [("command", .str s.command),
   ("showErrors", .str s.showErrors.name),
   ("maxErrors", match s.maxErrors with
     | some n => .nat n
     | none => .null),
   ("outputFormat", .str s.outputFormat.name),
   ("severity", .str s.severity.name),
   ("docsUrl", .str s.docsUrl)]

/-- The settings as a JSON object. -/
def toJson (s : Settings) : Json := .obj (toFields s)

/-- The name that a JSON value gives to one of a few choices: a string, or an object with a
single key whose value is `null`. -/
def choiceName? : Json → Option String
  | .str s => some s
  | .obj [(k, .null)] => some k
  | _ => none

/-- Reads one of a few choices by its exact name. -/
def readExact {α : Type} (table : List (String × α)) (j : Json) : Option α := do
  let n ← choiceName? j
  (table.find? (·.1 == n)).map (·.2)

/-- Reads `maxErrors`: `null`, or an integer that fits a size. -/
def readMaxErrors : Json → Option (Option Nat)
  | .null => some none
  | .num (.int i) => if 0 ≤ i ∧ i ≤ sizeMax then some (some i.toNat) else none
  | _ => none

/-- Reads one field into the settings read so far; unknown keys change nothing. -/
def readField (s : Settings) : String × Json → Option Settings
  | ("command", v) => v.getStr?.map fun c => { s with command := c }
  | ("showErrors", v) =>
    (readExact [("one", DisplayMode.one), ("all", .all)] v).map fun m => { s with showErrors := m }
  | ("maxErrors", v) => (readMaxErrors v).map fun m => { s with maxErrors := m }
  | ("outputFormat", v) =>
    (readExact [("tabbed", Layout.tabbed), ("colon", .colon)] v).map fun l => { s with outputFormat := l }
  | ("severity", v) =>
    (readExact [("error", Severity.error), ("warning", .warning)] v).map fun e => { s with severity := e }
  | ("docsUrl", v) => v.getStr?.map fun d => { s with docsUrl := d }
  | _ => some s

/-- Reads settings strictly from a JSON object; missing keys take the defaults. -/
def ofJson? : Json → Option Settings
  | .obj fields => fields.foldlM readField default
  | _ => none

/-- Lays a JSON object from the editor over fallback settings. A value that is not an object,
or an object that does not read, leaves the fallback. -/
def fromValue (v : Json) (fallback : Settings) : Settings :=
  match v with
  | .obj overrides =>
    let merged := overrides.foldl
      (fun acc (kv : String × Json) => if kv.2.isNull then acc else Json.setField acc kv.1 kv.2)
      fallback.toFields
    (ofJson? (.obj merged)).getD fallback
  | _ => fallback

end Settings

end LintBridge
