import LintBridge.Diagnostic.Record
import LintBridge.Json.Basic
/-!
# Findings and records as JSON

The JSON forms of findings and records. Lines and columns are integers from 0 to 2^32 - 1; a
missing column or code reads as none, every other field must be present.
-/

namespace LintBridge

namespace Json

def getU32? (j : Json) : Option UInt32 := do
  let n ← j.getNat?
  if n < Nat.pow 2 32 then some n.toUInt32 else none

/-- A 32-bit word as JSON. -/
def u32 (n : UInt32) : Json := .nat n.toNat

/-- Reads an optional value: missing and `null` are none. -/
def optional {α : Type} (read : Json → Option α) : Option Json → Option (Option α)
  | none => some none
  | some .null => some none
  | some j => (read j).map some

end Json

namespace Finding

/-- The JSON form of a finding. -/
def toJson (f : Finding) : Json :=
  .obj [("identifier", .str f.identifier), ("line", .u32 f.line),
    ("column", match f.column with
      | some c => .u32 c
      | none => .null),
    ("message", .str f.message)]

/-- Reads a finding; its message is taken as given. -/
def ofJson? (j : Json) : Option Finding := do
  let identifier ← (j.field? "identifier").bind Json.getStr?
  let line ← (j.field? "line").bind Json.getU32?
  let column ← Json.optional Json.getU32? (j.field? "column")
  let message ← (j.field? "message").bind Json.getStr?
  some ⟨identifier, line, column, message⟩

end Finding

namespace Position

/-- The JSON form of a position. -/
def toJson (p : Position) : Json := .obj [("line", .u32 p.line), ("character", .u32 p.character)]

/-- Reads a position. -/
def ofJson? (j : Json) : Option Position := do
  let line ← (j.field? "line").bind Json.getU32?
  let character ← (j.field? "character").bind Json.getU32?
  some ⟨line, character⟩

end Position

namespace Range

/-- The JSON form of a range. -/
def toJson (r : Range) : Json := .obj [("start", r.start.toJson), ("end", r.stop.toJson)]

/-- Reads a range. -/
def ofJson? (j : Json) : Option Range := do
  let start ← (j.field? "start").bind Position.ofJson?
  let stop ← (j.field? "end").bind Position.ofJson?
  some ⟨start, stop⟩

end Range

namespace Severity

/-- Reads a severity by its exact name. -/
def ofJson? : Json → Option Severity
  | .str "error" => some .error
  | .str "warning" => some .warning
  | _ => none

end Severity

namespace Record

/-- The JSON form of a record, fields in the order they are printed. -/
def toJson (r : Record) : Json :=
  .obj [("range", r.range.toJson), ("severity", .str r.severity.name), ("source", .str r.source),
    ("code", match r.code with
      | some c => .str c
      | none => .null),
    ("message", .str r.message), ("relatedHref", .str r.relatedHref)]

/-- Reads a record. -/
def ofJson? (j : Json) : Option Record := do
  let range ← (j.field? "range").bind Range.ofJson?
  let severity ← (j.field? "severity").bind Severity.ofJson?
  let source ← (j.field? "source").bind Json.getStr?
  let code ← Json.optional Json.getStr? (j.field? "code")
  let message ← (j.field? "message").bind Json.getStr?
  let relatedHref ← (j.field? "relatedHref").bind Json.getStr?
  some ⟨range, severity, source, code, message, relatedHref⟩

end Record

end LintBridge
