import LintBridge.Json.Basic
import LintBridge.Text.Decimal
import LintBridge.Number.Shortest
/-!
# Writing JSON

The compact form and the pretty form, indented by two spaces per level. Strings escape quotes,
backslashes and control characters, the latter as short escapes or `\u00XX`.
-/

namespace LintBridge

/-- The decimal text of a number. An integer is written exactly; a double is written as the
shortest decimal that reads back as it, with a power of ten only when the value is very large
or very small. -/
def JsonNumber.render : JsonNumber → String
  | .int i => Text.showInt i
  | .float x => x.jsonText

/-- The decimal text of a number in canonical form: an integer exactly, a double in its
shortest form with the power of ten written with a sign and at least two digits. -/
def JsonNumber.canonicalText : JsonNumber → String
  | .int i => Text.showInt i
  | .float x => x.canonicalText

namespace Json

def hexDigit (n : Nat) : Char :=
  if n < 10 then Char.ofNat ('0'.toNat + n) else Char.ofNat ('a'.toNat + n - 10)

/-- A character as it stands inside a JSON string. -/
def escapeChar (c : Char) : List Char :=
  if c = '"' then ['\\', '"']
  else if c = '\\' then ['\\', '\\']
  else if c = '\n' then ['\\', 'n']
  else if c = '\r' then ['\\', 'r']
  else if c = '\t' then ['\\', 't']
  else if c.toNat = 8 then ['\\', 'b']
  else if c.toNat = 12 then ['\\', 'f']
  else if c.toNat < 0x20 then ['\\', 'u', '0', '0', hexDigit (c.toNat / 16), hexDigit (c.toNat % 16)]
  else [c]

/-- A string as a JSON literal, quotes included. -/
def quote (s : String) : String :=
  String.ofList ('"' :: (s.toList.flatMap escapeChar ++ ['"']))

mutual

def compactWith (num : JsonNumber → String) : Json → String
  | .null => "null"
  | .bool true => "true"
  | .bool false => "false"
  | .num n => num n
  | .str s => quote s
  | .arr items => "[" ++ compactItemsWith num items ++ "]"
  | .obj fields => "\x7b" ++ compactFieldsWith num fields ++ "\x7d"

def compactItemsWith (num : JsonNumber → String) : List Json → String
  | [] => ""
  | [j] => compactWith num j
  | j :: rest => compactWith num j ++ "," ++ compactItemsWith num rest

def compactFieldsWith (num : JsonNumber → String) : List (String × Json) → String
  | [] => ""
  | [(k, v)] => quote k ++ ":" ++ compactWith num v
  | (k, v) :: rest => quote k ++ ":" ++ compactWith num v ++ "," ++ compactFieldsWith num rest

end

def compact : Json → String := compactWith JsonNumber.render

/-- Two spaces per level. -/
def indent (level : Nat) : String := String.ofList (List.replicate (2 * level) ' ')

mutual

/-- The pretty text of a value that starts at the given level of nesting. -/
def pretty (level : Nat) : Json → String
  | .arr [] => "[]"
  | .obj [] => "\x7b\x7d"
  | .arr items => "[\n" ++ prettyItems (level + 1) items ++ "\n" ++ indent level ++ "]"
  | .obj fields => "\x7b\n" ++ prettyFields (level + 1) fields ++ "\n" ++ indent level ++ "\x7d"
  | j => compact j

def prettyItems (level : Nat) : List Json → String
  | [] => ""
  | [j] => indent level ++ pretty level j
  | j :: rest => indent level ++ pretty level j ++ ",\n" ++ prettyItems level rest

def prettyFields (level : Nat) : List (String × Json) → String
  | [] => ""
  | [(k, v)] => indent level ++ quote k ++ ": " ++ pretty level v
  | (k, v) :: rest => indent level ++ quote k ++ ": " ++ pretty level v ++ ",\n" ++ prettyFields level rest

end

/-- The canonical text of a value: compact, with the fields of every object in increasing order
of key, and each double in its shortest form with a power of ten from `e-05` down and from
`e+16` up. One text per value, whatever order its fields were built in. -/
def canonical (j : Json) : String := compactWith JsonNumber.canonicalText j.sorted

end Json

end LintBridge
