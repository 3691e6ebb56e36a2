import LintBridge.Web.Form
/-!
# Percent-encoding in URLs

Each part of a URL has a set of characters that are written `%XX`, byte by byte of their UTF-8
form: control characters and everything beyond ASCII always, and some ASCII characters
depending on the part. A `%` already in the text is kept.
-/

namespace LintBridge.Web

/-- A part of a URL, for the characters it encodes. -/
inductive Part where
  /-- A host or a path that is not made of segments: controls only. -/
  | controls
  /-- The fragment. -/
  | fragment
  /-- A path segment. -/
  | path
  /-- The user name or password. -/
  | userinfo
  /-- The query of a URL of another scheme. -/
  | query
  /-- The query of a URL of a special scheme, where `'` is encoded too. -/
  | specialQuery
  deriving DecidableEq

/-- The ASCII characters a part encodes besides the control characters. -/
def Part.extra : Part → List Char
  | .controls => []
  | .fragment => " \"<>`".toList
  | .path => " \"<>`#?\x7b\x7d".toList
  | .userinfo => " \"<>`#?\x7b\x7d/:;=@[\\]^|".toList
  | .query => " \"#<>".toList
  | .specialQuery => " \"#<>'".toList

def Part.encodes (p : Part) (c : Char) : Bool :=
  c.toNat < 0x20 || c.toNat == 0x7F || p.extra.contains c

def encodeChar (p : Part) (c : Char) : List Char :=
  if c.toNat < 0x80 ∧ !(p.encodes c) then [c]
  else (String.utf8EncodeChar c).flatMap percentByte

def encodeIn (p : Part) (cs : List Char) : String := String.ofList (cs.flatMap (encodeChar p))

def hexValue? (c : Char) : Option Nat :=
  if '0' ≤ c ∧ c ≤ '9' then some (c.toNat - '0'.toNat)
  else if 'a' ≤ c ∧ c ≤ 'f' then some (c.toNat - 'a'.toNat + 10)
  else if 'A' ≤ c ∧ c ≤ 'F' then some (c.toNat - 'A'.toNat + 10)
  else none

def percentDecode : List Char → List UInt8
  | [] => []
  | '%' :: a :: b :: rest =>
    match hexValue? a, hexValue? b with
    | some x, some y => UInt8.ofNat (16 * x + y) :: percentDecode rest
    | _, _ => 0x25 :: percentDecode (a :: b :: rest)
  | c :: rest => String.utf8EncodeChar c ++ percentDecode rest

end LintBridge.Web
