import LintBridge.Number.Binary64
/-!
# JSON values

An object is a list of fields: those read from text have unique keys in increasing order, those
built here keep the order they are written in. An integer that fits a 64-bit word keeps its exact
value; every other number is a double.
-/

namespace LintBridge

/-- A JSON number: an integer within a 64-bit word, or a double. -/
inductive JsonNumber where
  | int (value : Int)
  | float (x : Number.Binary64)
  deriving DecidableEq, Repr, Inhabited

/-- A JSON value. -/
inductive Json where
  | null
  | bool (b : Bool)
  | num (n : JsonNumber)
  | str (s : String)
  | arr (items : List Json)
  | obj (fields : List (String × Json))
  deriving Repr, Inhabited

namespace Json

/-- A natural number as JSON. -/
def nat (n : Nat) : Json := .num (.int n)

/-- The value of a field of an object, or `none` for a missing field or a value that is not an
object. -/
def field? (j : Json) (key : String) : Option Json :=
  match j with
  | .obj fields => (fields.find? (·.1 == key)).map (·.2)
  | _ => none

/-- Whether the value is `null`. -/
def isNull : Json → Bool
  | .null => true
  | _ => false

/-- The text of a string value. -/
def getStr? : Json → Option String
  | .str s => some s
  | _ => none

def getBool? : Json → Option Bool
  | .bool b => some b
  | _ => none

def getArr? : Json → Option (List Json)
  | .arr items => some items
  | _ => none

def getObj? : Json → Option (List (String × Json))
  | .obj fields => some fields
  | _ => none

def getInt? : Json → Option Int
  | .num (.int i) => some i
  | _ => none

/-- The value of an integer number that is not negative. -/
def getNat? : Json → Option Nat
  | .num (.int i) => if 0 ≤ i then some i.toNat else none
  | _ => none

/-- Sets a field of an object: an existing field keeps its place and takes the new value, a
new field goes where its key sorts. -/
def insertSorted (key : String) (v : Json) : List (String × Json) → List (String × Json)
  | [] => [(key, v)]
  | (k, w) :: rest =>
    if key == k then (key, v) :: rest
    else if key < k then (key, v) :: (k, w) :: rest
    else (k, w) :: insertSorted key v rest

/-- Sets a field of an object, keeping the others in their order. -/
def setField (fields : List (String × Json)) (key : String) (v : Json) : List (String × Json) :=
  if fields.any (·.1 == key) then fields.map (fun p => if p.1 == key then (key, v) else p)
  else fields ++ [(key, v)]

mutual

/-- The value with the fields of every object in increasing order of key. -/
def sorted : Json → Json
  | .arr items => .arr (sortedItems items)
  | .obj fields => .obj (sortedFields fields)
  | j => j

def sortedItems : List Json → List Json
  | [] => []
  | j :: rest => sorted j :: sortedItems rest

def sortedFields : List (String × Json) → List (String × Json)
  | [] => []
  | (k, v) :: rest => insertSorted k (sorted v) (sortedFields rest)

end

end Json

end LintBridge
