/-!
# Named choices

Several settings take one of a few names (`tabbed` or `colon`, `error` or `warning`, `one` or
`all`). A name is read without regard to ASCII case; a name that is none of them is refused
with a message that repeats it in lower case.
-/

namespace LintBridge

/-- The settings whose value is one of a few names. -/
inductive ChoiceKind where
  | layout
  | severity
  | displayMode
  deriving DecidableEq, Repr

/-- A text that names no value of its kind; `text` is kept as given. -/
structure UnknownChoice where
  kind : ChoiceKind
  text : String
  deriving DecidableEq, Repr

def asciiLower (s : String) : String := s.map Char.toLower

namespace UnknownChoice

/-- What is said about a name that is not known. -/
def message (e : UnknownChoice) : String :=
  let v := asciiLower e.text
  match e.kind with
  | .layout => "unknown output format '" ++ v ++ "'"
  | .severity => "unknown severity '" ++ v ++ "'"
  | .displayMode => "unknown display mode '" ++ v ++ "', expected 'one' or 'all'"

end UnknownChoice

/-- Reads a name against a table of names and values, without regard to ASCII case. -/
def readChoice {α : Type} (kind : ChoiceKind) (table : List (String × α)) (s : String) :
    Except UnknownChoice α :=
  match table.find? (fun e => e.1 == asciiLower s) with
  | some e => .ok e.2
  | none => .error ⟨kind, s⟩

end LintBridge
