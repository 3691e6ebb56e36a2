import LintBridge.Finding
import LintBridge.Settings.Basic
import LintBridge.Diagnostic.Docs
import LintBridge.Report.Read
import LintBridge.Fault
/-!
# Diagnostic records

A record is a diagnostic ready to publish, independent of any editor protocol: a point range,
the configured severity, the source `norminette`, the identifier as its code (none when
empty), the message, and a documentation link. A finding without a column stands at the start
of its line. Findings become records in order, and those past the display limit are dropped.
-/

namespace LintBridge

/-- A zero-based place in a document. -/
structure Position where
  line : UInt32
  character : UInt32
  deriving DecidableEq, Repr, Inhabited

/-- A stretch of a document from `start` to `stop`. -/
structure Range where
  start : Position
  stop : Position
  deriving DecidableEq, Repr, Inhabited

/-- The empty range at one place. -/
def Range.point (line character : UInt32) : Range := ⟨⟨line, character⟩, ⟨line, character⟩⟩

/-- A diagnostic ready to be published. -/
structure Record where
  range : Range
  severity : Severity
  source : String
  code : Option String
  message : String
  relatedHref : String
  deriving DecidableEq, Repr, Inhabited

namespace Record

/-- The label on every record. -/
def sourceName : String := "norminette"

/-- The record of a finding under the given settings. -/
def ofFinding (s : Settings) (f : Finding) : Record where
  range := Range.point f.line (f.column.getD 0)
  severity := s.severity
  source := sourceName
  code := if f.identifier.isEmpty then none else some f.identifier
  message := f.message
  relatedHref := Docs.documentationUrl f.identifier s.docsUrl

end Record

/-- The line that shows a record: `path:LINE:CHARACTER: severity[CODE]: message` with a
one-based line. The code part is left out when there is no code. A line at the top of the
32-bit range has no one-based successor, which is a fault. -/
def Record.render (path : String) (r : Record) : Except Fault String :=
  if r.range.start.line.toNat + 1 < Nat.pow 2 32 then
    let code := match r.code with
      | some c => "[" ++ c ++ "]"
      | none => ""
    .ok (path ++ ":" ++ toString (r.range.start.line.toNat + 1) ++ ":" ++
      toString r.range.start.character.toNat ++ ": " ++ r.severity.name ++ code ++ ": " ++ r.message)
  else .error .addOverflow

/-- The records to publish for findings in report order: the first `displayLimit` of them. -/
def mapFindings (s : Settings) (findings : List Finding) : List Record :=
  (findings.take s.displayLimit).map (Record.ofFinding s)

/-- The records of a whole report, read in the layout the settings give. -/
def reportRecords (s : Settings) (text : List Char) : List Record :=
  mapFindings s (s.outputFormat.read text)

end LintBridge
