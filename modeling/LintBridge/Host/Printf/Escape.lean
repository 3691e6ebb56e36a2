import LintBridge.Host.Basic
/-!
# Backslash escapes

The escapes that `printf` formats, `%b` arguments and `echo` read, with the details in which
the shell's and the standalone readers differ. Each gives the bytes written, the rest, and
whether output stops there.
-/

namespace LintBridge.Host

def isOctalByte (b : UInt8) : Bool := 48 ≤ b && b ≤ 55

def isHexByte (b : UInt8) : Bool :=
  (48 ≤ b && b ≤ 57) || (97 ≤ b && b ≤ 102) || (65 ≤ b && b ≤ 70)

/-- The value of a hexadecimal digit. -/
def hexValue (b : UInt8) : Nat :=
  if b ≤ 57 then b.toNat - 48 else if b ≥ 97 then b.toNat - 87 else b.toNat - 55

def readOctalBytes : Nat → Nat → Bytes → Nat × Bytes
  | 0, v, bs => (v, bs)
  | _ + 1, v, [] => (v, [])
  | n + 1, v, b :: rest =>
    if isOctalByte b then readOctalBytes n (8 * v + (b.toNat - 48)) rest else (v, b :: rest)

def readHexBytes : Nat → Nat → Nat → Bytes → Nat × Nat × Bytes
  | 0, v, k, bs => (v, k, bs)
  | _ + 1, v, k, [] => (v, k, [])
  | n + 1, v, k, b :: rest =>
    if isHexByte b then readHexBytes n (16 * v + hexValue b) (k + 1) rest else (v, k, b :: rest)

def byteOf (n : Nat) : UInt8 := (n % 256).toUInt8

def controlByte (b : UInt8) : Option UInt8 :=
  if b == 92 then some 92
  else if b == 97 then some 7
  else if b == 98 then some 8
  else if b == 101 then some 27
  else if b == 102 then some 12
  else if b == 110 then some 10
  else if b == 114 then some 13
  else if b == 116 then some 9
  else if b == 118 then some 11
  else none

def shellFormatEscape : Bytes → Bytes × Bytes
  | [] => ([92], [])
  | b :: rest =>
    if isOctalByte b then
      let (v, r) := readOctalBytes 3 0 (b :: rest)
      ([byteOf v], r)
    else
      match controlByte b with
      | some c => ([c], rest)
      | none => ([92], b :: rest)

def shellTextEscape : Bytes → Bytes × Bytes × Bool
  | 99 :: rest => ([], rest, true)
  | 48 :: b :: rest =>
    if isOctalByte b then
      let (v, r) := readOctalBytes 3 0 (b :: rest)
      ([byteOf v], r, false)
    else ([0], b :: rest, false)
  | bs =>
    let (out, r) := shellFormatEscape bs
    (out, r, false)

def universalName (wide : Bool) (v : Nat) : Bytes :=
  let raw := (Nat.toDigits 16 v).map Char.toUpper
  let width := if wide then 8 else 4
  bytes ((if wide then "\\U" else "\\u") ++ String.ofList (List.replicate (width - raw.length) '0' ++ raw))

def toolEscape (octalZero : Bool) : Bytes → Except String (Bytes × Bytes × Bool)
  | [] => .ok ([92], [], false)
  | b :: rest =>
    if b == 120 then
      let (v, k, r) := readHexBytes 2 0 0 rest
      if k = 0 then .error "missing hexadecimal number in escape" else .ok ([byteOf v], r, false)
    else if isOctalByte b then
      let digits := if octalZero && b == 48 then rest else b :: rest
      let (v, r) := readOctalBytes 3 0 digits
      .ok ([byteOf v], r, false)
    else if b == 99 then .ok ([], rest, true)
    else if b == 34 then .ok ([34], rest, false)
    else
      match controlByte b with
      | some c => .ok ([c], rest, false)
      | none =>
        if b == 117 || b == 85 then
          let wide := b == 85
          let width := if wide then 8 else 4
          let (v, k, r) := readHexBytes width 0 0 rest
          if k < width then .error "missing hexadecimal number in escape"
          else if (v ≤ 0x9F && v != 0x24 && v != 0x40 && v != 0x60) || (0xD800 ≤ v && v ≤ 0xDFFF) then
            let raw := (Nat.toDigits 16 v)
            .error ("invalid universal character name \\" ++ String.singleton (if wide then 'U' else 'u') ++
              String.ofList (List.replicate (width - raw.length) '0' ++ raw))
          else if v < 0x80 then .ok ([byteOf v], r, false)
          else .ok (universalName wide v, r, false)
        else .ok ([92, b], rest, false)

def echoEscape : Bytes → Bytes × Bytes × Bool
  | [] => ([92], [], false)
  | b :: rest =>
    if b == 99 then ([], rest, true)
    else if b == 120 then
      let (v, k, r) := readHexBytes 2 0 0 rest
      if k = 0 then ([92, 120], rest, false) else ([byteOf v], r, false)
    else if b == 48 then
      let (v, r) := readOctalBytes 3 0 rest
      ([byteOf v], r, false)
    else if isOctalByte b then
      let (v, r) := readOctalBytes 3 0 (b :: rest)
      ([byteOf v], r, false)
    else
      match controlByte b with
      | some c => ([c], rest, false)
      | none => ([92, b], rest, false)

def readEscapes (esc : Bytes → Bytes × Bytes × Bool) : Nat → Bytes → Bytes × Bool
  | 0, _ => ([], false)
  | _ + 1, [] => ([], false)
  | fuel + 1, 92 :: rest =>
    let (out, r, stop) := esc rest
    if stop then (out, true)
    else
      let (more, stop) := readEscapes esc fuel r
      (out ++ more, stop)
  | fuel + 1, b :: rest =>
    let (more, stop) := readEscapes esc fuel rest
    (b :: more, stop)

def shellText (bs : Bytes) : Bytes × Bool := readEscapes shellTextEscape (bs.length + 1) bs

def echoText (bs : Bytes) : Bytes × Bool := readEscapes echoEscape (bs.length + 1) bs

def toolTextFuel : Nat → Bytes → Except String (Bytes × Bool)
  | 0, _ => .ok ([], false)
  | _ + 1, [] => .ok ([], false)
  | fuel + 1, 92 :: rest => do
    let (out, r, stop) ← toolEscape true rest
    if stop then pure (out, true)
    else
      let (more, stop) ← toolTextFuel fuel r
      pure (out ++ more, stop)
  | fuel + 1, b :: rest => do
    let (more, stop) ← toolTextFuel fuel rest
    pure (b :: more, stop)

end LintBridge.Host
