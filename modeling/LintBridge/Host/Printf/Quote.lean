import LintBridge.Host.Basic
/-!
# Quoting for the shell and for messages

`printf %q` writes an argument so that a shell reads it back as the same word: as it stands, in
double quotes, or in single quotes with `$'…'` for control and non-ASCII bytes. Messages name an
argument between `‘` and `’`, escaping what would not print.
-/

namespace LintBridge.Host

def isPlainByte (b : UInt8) : Bool :=
  (48 ≤ b && b ≤ 57) || (65 ≤ b && b ≤ 90) || (97 ≤ b && b ≤ 122) ||
    b == 37 || b == 43 || b == 44 || b == 45 || b == 46 || b == 47 || b == 58 || b == 64 ||
    b == 93 || b == 95

def isPrintableByte (b : UInt8) : Bool := 32 ≤ b && b ≤ 126

def plainAt (size : Nat) (i : Nat) (b : UInt8) : Bool :=
  isPlainByte b || ((b == 35 || b == 126) && i ≠ 0) || ((b == 123 || b == 125) && size ≠ 1)

def fitsDoubleQuotes (size : Nat) (i : Nat) (b : UInt8) : Bool :=
  plainAt size i b || b == 32 || b == 39 || b == 35 || b == 126 || b == 123 || b == 125

def byteEscape (b : UInt8) : String :=
  if b == 7 then "a" else if b == 8 then "b" else if b == 12 then "f"
  else if b == 10 then "n" else if b == 13 then "r" else if b == 9 then "t"
  else if b == 11 then "v"
  else
    let n := b.toNat
    String.ofList [Char.ofNat (48 + n / 64), Char.ofNat (48 + (n / 8) % 8), Char.ofNat (48 + n % 8)]

def printsInLocale (c : Char) : Bool :=
  let n := c.toNat
  !(0x80 ≤ n && n < 0xA0) && n != 0x2028 && n != 0x2029

/-- A piece of an argument as quoting sees it: the bytes of a character beyond ASCII that prints,
kept whole, or a single byte. -/
inductive Piece where
  | wide (bs : Bytes)
  | byte (b : UInt8)

def piecesFuel : Nat → Bytes → List Piece
  | 0, _ => []
  | _ + 1, [] => []
  | fuel + 1, b :: rest =>
    match Text.leadingChar? (b :: rest) with
    | some (c, n) =>
      if n > 1 && printsInLocale c then .wide ((b :: rest).take n) :: piecesFuel fuel ((b :: rest).drop n)
      else .byte b :: piecesFuel fuel rest
    | none => .byte b :: piecesFuel fuel rest

/-- The pieces of bytes. -/
def pieces (bs : Bytes) : List Piece := piecesFuel bs.length bs

def shellQuote (s : Bytes) : Bytes :=
  let indexed := (pieces s).zipIdx
  let plain : Piece × Nat → Bool
    | (.wide _, _) => true
    | (.byte b, i) => plainAt s.length i b
  let fits : Piece × Nat → Bool
    | (.wide _, _) => true
    | (.byte b, i) => fitsDoubleQuotes s.length i b
  if s.isEmpty then bytes "''"
  else if indexed.all plain then s
  else if s.contains 39 && indexed.all fits then
    [34] ++ s ++ [34]
  else
    let quoted := (pieces s).foldl (fun (acc : Bytes × Bool) p =>
      let (out, pending) := acc
      let shown : Option Bytes := match p with
        | .wide bs => some bs
        | .byte b => if isPrintableByte b then some (if b == 39 then bytes "'\\''" else [b]) else none
      match shown, p with
      | some bs, _ => ((if pending then out ++ bytes "''" else out) ++ bs, false)
      | none, .byte b =>
        let out := if pending then out else out ++ bytes "'$'"
        (out ++ bytes ("\\" ++ byteEscape b), true)
      | none, .wide bs => (out ++ bs, pending)) ([39], false)
    quoted.1 ++ [39]

def closingMark : Bytes := [0xE2, 0x80, 0x99]

def messageEscapeFuel : Nat → Bytes → Bytes
  | 0, _ => []
  | _ + 1, [] => []
  | fuel + 1, b :: rest =>
    if b == 92 then [92, 92] ++ messageEscapeFuel fuel rest
    else if (b :: rest).take 3 == closingMark then 92 :: closingMark ++ messageEscapeFuel fuel (rest.drop 2)
    else if isPrintableByte b then b :: messageEscapeFuel fuel rest
    else
      match Text.leadingChar? (b :: rest) with
      | some (c, n) =>
        if n > 1 && printsInLocale c then (b :: rest).take n ++ messageEscapeFuel fuel ((b :: rest).drop n)
        else bytes ("\\" ++ byteEscape b) ++ messageEscapeFuel fuel rest
      | none => bytes ("\\" ++ byteEscape b) ++ messageEscapeFuel fuel rest

def messageQuote (s : Bytes) : Bytes :=
  [0xE2, 0x80, 0x98] ++ messageEscapeFuel s.length s ++ closingMark

end LintBridge.Host
