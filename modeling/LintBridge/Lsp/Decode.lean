import LintBridge.Json.Basic
import LintBridge.Json.Write
import LintBridge.Text.Quote
import LintBridge.Number.Shortest
import LintBridge.Web.Url
/-!
# Reading typed values from JSON

Parts of protocol messages are read strictly: a value of the wrong kind or a missing field is
refused with the message the protocol library gives, unknown fields are ignored, and `null`
counts as absent where a field is optional.
-/

namespace LintBridge.Lsp

/-- Reads a value from JSON, or says why not. -/
abbrev Decoder (α : Type) := Json → Except String α

/-- How a found JSON value is named in a message. -/
def found : Json → String
  | .null => "null"
  | .bool b => "boolean `" ++ (if b then "true" else "false") ++ "`"
  | .num (.int i) => "integer `" ++ toString i ++ "`"
  | .num (.float x) => "floating point `" ++ x.briefText ++ "`"
  | .str s => "string " ++ Text.debugQuote s
  | .arr _ => "sequence"
  | .obj _ => "map"

def wrongType {α : Type} (j : Json) (expected : String) : Except String α :=
  .error ("invalid type: " ++ found j ++ ", expected " ++ expected)

def wrongValue {α : Type} (j : Json) (expected : String) : Except String α :=
  .error ("invalid value: " ++ found j ++ ", expected " ++ expected)

def fieldsOf (name : String) : Decoder (List (String × Json))
  | .obj fields => .ok fields
  | j => wrongType j ("struct " ++ name)

/-- A required field. -/
def required {α : Type} (fields : List (String × Json)) (key : String) (d : Decoder α) : Except String α :=
  match fields.lookup key with
  | some j => d j
  | none => .error ("missing field `" ++ key ++ "`")

/-- An optional field: absent or `null` gives none. -/
def optional {α : Type} (fields : List (String × Json)) (key : String) (d : Decoder α) :
    Except String (Option α) :=
  match fields.lookup key with
  | none | some .null => .ok none
  | some j => (d j).map some

/-- A boolean. -/
def boolean : Decoder Bool
  | .bool b => .ok b
  | j => wrongType j "a boolean"

/-- A string. -/
def string : Decoder String
  | .str s => .ok s
  | j => wrongType j "a string"

def integerIn (lo hi : Int) (name : String) : Decoder Int
  | .num (.int i) => if lo ≤ i ∧ i < hi then .ok i else wrongValue (.num (.int i)) name
  | j => wrongType j name

/-- An unsigned 32-bit integer. -/
def u32 : Decoder Nat := fun j => (integerIn 0 (Int.pow 2 32) "u32" j).map Int.toNat

def i32 : Decoder Int := integerIn (-(Int.pow 2 31)) (Int.pow 2 31) "i32"

def listOf {α : Type} (d : Decoder α) : Decoder (List α)
  | .arr items => items.mapM d
  | j => wrongType j "a sequence"

/-- A URL, kept as its normalized text. -/
def url : Decoder Web.Url
  | .str s =>
    match Web.Url.parse s with
    | .ok u => .ok u
    | .error e => .error (e.message ++ ": " ++ Text.debugQuote s)
  | j => wrongType j "a string representing an URL"

def anyValue : Decoder Json := fun j => .ok j

/-! ## Structures

A structure is read from an object or, field by field in the order they are declared, from an
array. From an object, the fields that are present are read in the order of their keys, so the
first wrong value in that order is the one reported, and only then is a missing field
reported, in the order of declaration. From an array, a missing element is reported by its
position, and elements beyond the last field are refused.
-/

/-- A field of a structure: its key, a check of its value, whether an object may leave it
out, and whether an array may leave it out. -/
structure FieldSpec where
  key : String
  check : Json → Except String Unit
  optional : Bool
  defaulted : Bool

/-- A field that must be present. -/
def need {α : Type} (key : String) (d : Decoder α) : FieldSpec :=
  ⟨key, fun j => (d j).map fun _ => (), false, false⟩

/-- A field that may be absent or `null`. -/
def maybe {α : Type} (key : String) (d : Decoder α) : FieldSpec :=
  ⟨key, fun j => match j with
    | .null => .ok ()
    | _ => (d j).map fun _ => (), true, false⟩

def maybeDefault {α : Type} (key : String) (d : Decoder α) : FieldSpec :=
  { maybe key d with defaulted := true }

/-- The count of fields as a message names it. -/
def elements (n : Nat) : String :=
  toString n ++ (if n = 1 then " element" else " elements")

def checkObject (specs : List FieldSpec) (fields : List (String × Json)) : Except String Unit := do
  fields.forM fun (k, v) =>
    match specs.find? (·.key == k) with
    | some s => s.check v
    | none => pure ()
  specs.forM fun s =>
    if s.optional || fields.any (·.1 == s.key) then pure ()
    else .error ("missing field `" ++ s.key ++ "`")

def fromItems (name : String) (count total : Nat) :
    List FieldSpec → List Json → Nat → Except String (List (String × Json))
  | [], [], _ => .ok []
  | [], _ :: _, _ => .error ("invalid length " ++ toString total ++ ", expected fewer elements in array")
  | s :: rest, [], i =>
    if s.defaulted then fromItems name count total rest [] (i + 1)
    else .error ("invalid length " ++ toString i ++ ", expected struct " ++ name ++ " with " ++ elements count)
  | s :: rest, v :: vs, i => do
    s.check v
    let more ← fromItems name count total rest vs (i + 1)
    pure ((s.key, v) :: more)

/-- The fields of a structure with these declared fields, checked. -/
def record (name : String) (specs : List FieldSpec) : Decoder (List (String × Json))
  | .obj fields => do checkObject specs fields; pure fields
  | .arr items => fromItems name specs.length items.length specs items 0
  | j => wrongType j ("struct " ++ name)

def objectRecord (name : String) (specs : List FieldSpec) : Decoder (List (String × Json))
  | .obj fields => do checkObject specs fields; pure fields
  | j => wrongType j ("struct " ++ name)

def shape (name : String) (specs : List FieldSpec) : Decoder Unit := fun j =>
  (record name specs j).map fun _ => ()

/-! ## Flattened structures

A structure may hold the fields of other structures in its own object; it is then read from an
object only. Its own fields that are present are checked first, in key order. Then, in the
order of declaration, a missing own field is reported, and a flattened structure is read from
the keys left over that are its fields (all of them, when it flattens others in turn), which
it takes away from the ones after it; a flattened map reads every key left over.
-/

/-- A part of a structure: one of its own fields, a structure flattened into it, or a map of
all keys left over, each value checked. -/
inductive Part where
  | field (spec : FieldSpec)
  | flat (parts : List Part)
  | rest (check : Json → Except String Unit)

def Part.ownFields : List Part → List FieldSpec
  | [] => []
  | .field s :: ps => s :: Part.ownFields ps
  | _ :: ps => Part.ownFields ps

def Part.flattens (parts : List Part) : Bool :=
  parts.any fun p => match p with
    | .field _ => false
    | _ => true

def checkParts : Nat → List Part → List (String × Json) → Except String Unit
  | 0, _, _ => .ok ()
  | depth + 1, parts, fields => do
    let own := Part.ownFields parts
    fields.forM fun (k, v) =>
      match own.find? (·.key == k) with
      | some s => s.check v
      | none => pure ()
    let left := fields.filter fun (k, _) => !own.any (·.key == k)
    let _ ← List.foldlM (fun (left : List (String × Json)) p => match p with
      | .field s =>
        if s.optional || fields.any (·.1 == s.key) then pure left
        else .error ("missing field `" ++ s.key ++ "`")
      | .flat inner => do
        let names := (Part.ownFields inner).map (·.key)
        let mine :=
          if Part.flattens inner then left else left.filter fun (k, _) => names.contains k
        checkParts depth inner mine
        pure (left.filter fun (k, _) => !names.contains k)
      | .rest check => do
        left.forM fun (_, v) => check v
        pure left) left parts

def flatShape (name : String) (parts : List Part) : Decoder Unit
  | .obj fields => checkParts 8 parts fields
  | j => wrongType j ("struct " ++ name)

/-! ## Enumerations and alternatives -/

def listNames (names : List String) : String :=
  match names with
  | [a] => "`" ++ a ++ "`"
  | [a, b] => "`" ++ a ++ "` or `" ++ b ++ "`"
  | _ => "one of " ++ ", ".intercalate (names.map fun n => "`" ++ n ++ "`")

def unknownVariant {α : Type} (names : List String) (s : String) : Except String α :=
  .error ("unknown variant `" ++ s ++ "`, expected " ++ listNames names)

def variant (names : List String) : Decoder String
  | .str s => if names.contains s then .ok s else unknownVariant names s
  | .obj [(s, v)] =>
    if names.contains s then
      match v with
      | .null => .ok s
      | j => wrongType j "unit"
    else unknownVariant names s
  | .obj fields => wrongValue (.obj fields) "map with a single key"
  | j => wrongType j "string or map"

/-- Whether a decoder accepts a value. -/
def accepts {α : Type} (d : Decoder α) (j : Json) : Bool :=
  match d j with
  | .ok _ => true
  | .error _ => false

def anyOf (name : String) (options : List (Decoder Unit)) : Decoder Unit := fun j =>
  if options.any (accepts · j) then .ok ()
  else .error ("data did not match any variant of untagged enum " ++ name)

/-- A single-precision number: any number. -/
def single : Decoder Unit
  | .num _ => .ok ()
  | j => wrongType j "f32"

def mapOf {α β : Type} (key : Decoder α) (value : Decoder β) : Decoder Unit
  | .obj fields => fields.forM fun (k, v) => do
    let _ ← key (.str k)
    let _ ← value v
  | j => wrongType j "a map"

end LintBridge.Lsp
