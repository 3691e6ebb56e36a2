import LintBridge.Lsp.Decode
/-!
# Protocol values

The values of the language server protocol this server reads and writes: positions and
ranges, diagnostics with their related information, and the text document parameters of the
notifications. Each has a reader that is as strict as the protocol's types (a line is an
unsigned 32-bit number, a URI must read as a URL) and a writer that leaves absent fields out.
-/

namespace LintBridge.Lsp

/-- A place in a document, zero-based. -/
structure LspPosition where
  line : Nat
  character : Nat
  deriving DecidableEq, Repr

/-- A stretch of a document. -/
structure LspRange where
  start : LspPosition
  stop : LspPosition
  deriving DecidableEq, Repr

/-- A diagnostic's code: a number or a text. -/
inductive DiagnosticCode where
  | number (n : Int)
  | text (s : String)
  deriving DecidableEq, Repr

/-- A place in a document named by its URI. -/
structure Location where
  uri : Web.Url
  range : LspRange
  deriving DecidableEq, Repr

/-- A message tied to another place. -/
structure RelatedInformation where
  location : Location
  message : String
  deriving DecidableEq, Repr

/-- A diagnostic as the protocol carries it. -/
structure LspDiagnostic where
  range : LspRange
  severity : Option Int
  code : Option DiagnosticCode
  href : Option Web.Url
  source : Option String
  message : String
  related : Option (List RelatedInformation)
  tags : Option (List Int)
  data : Option Json
  deriving Repr

/-! ## Writing -/

/-- The JSON of a position. -/
def LspPosition.toJson (p : LspPosition) : Json :=
  .obj [("line", .nat p.line), ("character", .nat p.character)]

/-- The JSON of a range. -/
def LspRange.toJson (r : LspRange) : Json :=
  .obj [("start", r.start.toJson), ("end", r.stop.toJson)]

/-- The JSON of a location. -/
def Location.toJson (l : Location) : Json :=
  .obj [("uri", .str l.uri.show), ("range", l.range.toJson)]

/-- The JSON of related information. -/
def RelatedInformation.toJson (r : RelatedInformation) : Json :=
  .obj [("location", r.location.toJson), ("message", .str r.message)]

/-- The JSON of a code. -/
def DiagnosticCode.toJson : DiagnosticCode → Json
  | .number n => .num (.int n)
  | .text s => .str s

/-- Fields of an object, the absent ones left out. -/
def present (fields : List (String × Option Json)) : Json :=
  .obj (fields.filterMap fun (k, v) => v.map (k, ·))

/-- The JSON of a diagnostic. -/
def LspDiagnostic.toJson (d : LspDiagnostic) : Json :=
  present [("range", some d.range.toJson), ("severity", d.severity.map fun s => .num (.int s)),
    ("code", d.code.map DiagnosticCode.toJson),
    ("codeDescription", d.href.map fun u => .obj [("href", .str u.show)]),
    ("source", d.source.map Json.str), ("message", some (.str d.message)),
    ("relatedInformation", d.related.map fun rs => .arr (rs.map RelatedInformation.toJson)),
    ("tags", d.tags.map fun ts => .arr (ts.map fun t => .num (.int t))), ("data", d.data)]

/-! ## Reading -/

/-- Reads a position. -/
def LspPosition.decode : Decoder LspPosition := fun j => do
  let f ← record "Position" [need "line" u32, need "character" u32] j
  pure ⟨← required f "line" u32, ← required f "character" u32⟩

/-- Reads a range. -/
def LspRange.decode : Decoder LspRange := fun j => do
  let f ← record "Range" [need "start" LspPosition.decode, need "end" LspPosition.decode] j
  pure ⟨← required f "start" LspPosition.decode, ← required f "end" LspPosition.decode⟩

/-- Reads a location. -/
def Location.decode : Decoder Location := fun j => do
  let f ← record "Location" [need "uri" url, need "range" LspRange.decode] j
  pure ⟨← required f "uri" url, ← required f "range" LspRange.decode⟩

/-- Reads related information. -/
def RelatedInformation.decode : Decoder RelatedInformation := fun j => do
  let f ← record "DiagnosticRelatedInformation" [need "location" Location.decode, need "message" string] j
  pure ⟨← required f "location" Location.decode, ← required f "message" string⟩

def codeMismatch : String := "data did not match any variant of untagged enum NumberOrString"

/-- Reads a code: a 32-bit number or a text. -/
def DiagnosticCode.decode : Decoder DiagnosticCode
  | .num (.int n) => if -(Int.pow 2 31) ≤ n ∧ n < Int.pow 2 31 then .ok (.number n) else .error codeMismatch
  | .str s => .ok (.text s)
  | _ => .error codeMismatch

def decodeHref : Decoder Web.Url := fun j => do
  let f ← record "CodeDescription" [need "href" url] j
  required f "href" url

def diagnosticFields : List FieldSpec :=
  [need "range" LspRange.decode, maybe "severity" i32, maybe "code" DiagnosticCode.decode,
    maybe "codeDescription" decodeHref, maybe "source" string, need "message" string,
    maybe "relatedInformation" (listOf RelatedInformation.decode), maybe "tags" (listOf i32),
    maybe "data" anyValue]

/-- Reads a diagnostic. -/
def LspDiagnostic.decode : Decoder LspDiagnostic := fun j => do
  let f ← record "Diagnostic" diagnosticFields j
  let data := match f.lookup "data" with
    | none | some .null => none
    | some v => some v
  pure ⟨← required f "range" LspRange.decode, ← optional f "severity" i32,
    ← optional f "code" DiagnosticCode.decode, ← optional f "codeDescription" decodeHref,
    ← optional f "source" string, ← required f "message" string,
    ← optional f "relatedInformation" (listOf RelatedInformation.decode),
    ← optional f "tags" (listOf i32), data⟩

end LintBridge.Lsp
