import LintBridge.Host.Help
import LintBridge.Host.Regex.Syntax
/-!
# tr

`tr` copies its input byte by byte, translating the bytes of the first set into those of the
second, deleting them (`-d`) or squeezing repeats (`-s`). Sets are lists of bytes in the order
written, with escapes, ranges, classes and repeats.
-/

namespace LintBridge.Host

open Regex

abbrev SetByte := UInt8 × Bool

def readEscape (rest : Bytes) : UInt8 × Nat × Option Bytes :=
  let octal (b : UInt8) := 48 ≤ b && b ≤ 55
  match rest with
  | [] => (92, 0, some (bytes "warning: an unescaped backslash at end of string is not portable"))
  | c :: more =>
    if octal c then
      let v1 := (c - 48).toNat
      match more with
      | d :: more2 =>
        if octal d then
          let v2 := 8 * v1 + (d - 48).toNat
          match more2 with
          | e :: _ =>
            if octal e then
              if 8 * v2 + (e - 48).toNat < 256 then ((8 * v2 + (e - 48).toNat).toUInt8, 3, none)
              else
                (v2.toUInt8, 2, some (bytes "warning: the ambiguous octal escape \\" ++ [c, d, e] ++
                  bytes " is being\n\tinterpreted as the 2-byte sequence \\0" ++ [c, d] ++
                  bytes ", " ++ [e]))
            else (v2.toUInt8, 2, none)
          | [] => (v2.toUInt8, 2, none)
        else (v1.toUInt8, 1, none)
      | [] => (v1.toUInt8, 1, none)
    else
      let b := if c == 97 then 7 else if c == 98 then 8 else if c == 102 then 12
        else if c == 110 then 10 else if c == 114 then 13 else if c == 116 then 9
        else if c == 118 then 11 else c
      (b, 1, none)

def unescapeSet : Nat → Bytes → List SetByte × List Bytes
  | 0, _ => ([], [])
  | _ + 1, [] => ([], [])
  | fuel + 1, 92 :: rest =>
    let (b, used, warning) := readEscape rest
    let (more, warnings) := unescapeSet fuel (rest.drop used)
    ((b, used != 0) :: more, warning.toList ++ warnings)
  | fuel + 1, b :: rest =>
    let (more, warnings) := unescapeSet fuel rest
    ((b, false) :: more, warnings)

/-- An element of a set. -/
inductive SetElement where
  | byte (b : UInt8)
  | range (lo hi : UInt8)
  | named (c : CharClass) (name : Bytes)
  | equivalent (b : UInt8)
  /-- A repeated byte: a count, or as many as needed (`none`). -/
  | repeated (b : UInt8) (count : Option Nat)

def classBytes (c : CharClass) : List UInt8 :=
  ((List.range 128).filter fun n => c.has n).map (·.toUInt8)

def printableBytes (bs : Bytes) : Bytes :=
  bs.flatMap fun b =>
    if b == 92 then bytes "\\\\"
    else if b == 7 then bytes "\\a" else if b == 8 then bytes "\\b"
    else if b == 12 then bytes "\\f" else if b == 10 then bytes "\\n"
    else if b == 13 then bytes "\\r" else if b == 9 then bytes "\\t"
    else if b == 11 then bytes "\\v"
    else if 32 ≤ b && b < 127 then [b]
    else
      let n := b.toNat
      [92, (48 + n / 64).toUInt8, (48 + n / 8 % 8).toUInt8, (48 + n % 8).toUInt8]

def closingOf (delim : UInt8) (s : List SetByte) (start : Nat) : Option Nat :=
  (List.range (s.length - start)).findSome? fun k =>
    match s[start + k]?, s[start + k + 1]? with
    | some (a, false), some (93, false) => if a == delim then some (start + k) else none
    | _, _ => none

def readRepeat (s : List SetByte) (start : Nat) :
    Option (Except Bytes (SetElement × Nat)) :=
  match s[start]?, s[start + 1]? with
  | some (c, _), some (42, false) =>
    let tail := s.drop (start + 2)
    let digits := tail.takeWhile fun (b, e) => !e && b != 93
    match tail[digits.length]? with
    | some (93, false) =>
      let text := digits.map (·.1)
      let close := start + 2 + digits.length
      if text.isEmpty then some (.ok (.repeated c none, close))
      else
        let base := if text.head? == some 48 then 8 else 10
        let valid := text.all fun b => 48 ≤ b && b.toNat < 48 + base
        let value := text.foldl (fun n b => n * base + (b - 48).toNat) 0
        if valid && value ≤ 18446744073709551615 then
          some (.ok (.repeated c (if value == 0 then none else some value), close))
        else
          some (.error (bytes "invalid repeat count " ++ messageQuote (printableBytes text) ++
            bytes " in [c*n] construct"))
    | _ => none
  | _, _ => none

def readSetElements : Nat → List SetByte → Nat → Except Bytes (List SetElement)
  | 0, _, _ => .ok []
  | fuel + 1, s, i =>
    if s.length ≤ i then .ok []
    else if i + 2 < s.length && s[i]? == some (91, false) then
      let kind := (s[i + 1]?.map (·.1)).getD 0
      let named : Option (Except Bytes (SetElement × Nat)) :=
        if kind == 58 || kind == 61 then
          match closingOf kind s (i + 2) with
          | some close =>
            let name := ((s.drop (i + 2)).take (close - i - 2)).map (·.1)
            if name.isEmpty then
              some (.error (if kind == 58 then
                bytes "missing character class name " ++ messageQuote (bytes "[::]")
                else bytes "missing equivalence class character " ++ messageQuote (bytes "[==]")))
            else if kind == 58 then
              match CharClass.ofName? (Bytes.text name) with
              | some c => some (.ok (.named c name, close + 1))
              | none => some (.error (bytes "invalid character class " ++
                  messageQuote (printableBytes name)))
            else
              match name with
              | [b] => some (.ok (.equivalent b, close + 1))
              | _ => some (.error (printableBytes name ++
                  bytes ": equivalence class operand must be a single character"))
          | none => none
        else none
      let construct := named.orElse fun _ => readRepeat s (i + 1)
      match construct with
      | some (.ok (e, close)) => do
        let rest ← readSetElements fuel s (close + 1)
        .ok (e :: rest)
      | some (.error msg) => .error msg
      | none => plain fuel s i
    else plain fuel s i
where
  /-- Reads a byte, or a range when a plain `-` follows it. -/
  plain (fuel : Nat) (s : List SetByte) (i : Nat) : Except Bytes (List SetElement) :=
    match s[i]?, s[i + 1]?, s[i + 2]? with
    | some (lo, _), some (45, false), some (hi, _) =>
      if hi < lo then
        .error (bytes "range-endpoints of " ++
          messageQuote (printableBytes [lo] ++ [45] ++ printableBytes [hi]) ++
          bytes " are in reverse collating sequence order")
      else do
        let rest ← readSetElements fuel s (i + 3)
        .ok (.range lo hi :: rest)
    | some (b, _), _, _ => do
      let rest ← readSetElements fuel s (i + 1)
      .ok (.byte b :: rest)
    | none, _, _ => .ok []

def SetElement.expand (fill : Nat) : SetElement → List UInt8
  | .byte b => [b]
  | .range lo hi => ((List.range (hi.toNat - lo.toNat + 1)).map (lo.toNat + ·)).map (·.toUInt8)
  | .named c _ => classBytes c
  | .equivalent b => [b]
  | .repeated b (some n) => List.replicate n b
  | .repeated b none => List.replicate fill b

def SetElement.indefinite : SetElement → Bool
  | .repeated _ none => true
  | _ => false

def SetElement.caseClass : SetElement → Bool
  | .named .upper _ => true
  | .named .lower _ => true
  | _ => false

def SetElement.isClass : SetElement → Bool
  | .named _ _ => true
  | _ => false

def trOptions : List OptionDecl :=
  [.flag 'c', .flag 'C', .flag 'd', .flag 's', .flag 't', .named "c" "complement" .no,
    .named "d" "delete" .no, .named "s" "squeeze-repeats" .no,
    .named "t" "truncate-set1" .no] ++ helpOptions

def complementOf (set : List UInt8) : List UInt8 :=
  ((List.range 256).map (·.toUInt8)).filter fun b => !set.contains b

def squeezeRuns (set : List UInt8) (data : Bytes) : Bytes :=
  (data.foldl (fun (acc : Bytes × Option UInt8) b =>
    if acc.2 == some b && set.contains b then acc else (acc.1 ++ [b], some b)) ([], none)).1

def caseClassStarts (elems : List SetElement) : List Bool :=
  elems.flatMap fun e =>
    let n := (e.expand 0).length
    if e.caseClass && n > 0 then true :: List.replicate (n - 1) false else List.replicate n false

def casesAligned (first second : List SetElement) : Bool :=
  let starts1 := caseClassStarts first
  ((caseClassStarts second).zip starts1).all fun (b, a) => !b || a

def trTool (argv0 : Bytes) (args : List Bytes) (input : Except OsError Bytes) (fs : Files) :
    ToolRun :=
  let r : ToolRun := { files := fs }
  match readOptions trOptions true args with
  | .error msg => r.usage argv0 msg
  | .ok (found, operands) =>
    if found.has "help" || found.has "version" then r.answerAbout "tr" argv0 found
    else
      let complement := found.has "c" || found.has "C"
      let delete := found.has "d"
      let squeeze := found.has "s"
      let least := 1 + (if delete == squeeze then 1 else 0)
      let most := 1 + (if !delete || squeeze then 1 else 0)
      let count := operands.length
      if count < least then
        if count == 0 then r.usage argv0 (bytes "missing operand")
        else
          { (r.err (toolMessage argv0 (bytes "missing operand after " ++
              messageQuote (operands.getLastD [])) ++
              bytes (if squeeze then "Two strings must be given when both deleting and squeezing repeats.\n"
                else "Two strings must be given when translating.\n") ++ tryHelp argv0)) with
            status := 1 }
      else if most < count then
        { (r.err (toolMessage argv0 (bytes "extra operand " ++ messageQuote (operands.getD most [])) ++
            (if count == 2 then
              bytes "Only one string may be given when deleting without squeezing repeats.\n"
            else []) ++ tryHelp argv0)) with status := 1 }
      else
        let translating := count == 2 && !delete
        let read (text : Bytes) : List Bytes × Except Bytes (List SetElement) :=
          let (s, warnings) := unescapeSet (text.length + 1) text
          (warnings, readSetElements (s.length + 1) s 0)
        let (warnings1, set1) := read (operands.getD 0 [])
        let (warnings2, set2) := if count == 2 then read (operands.getD 1 []) else ([], .ok [])
        let r := (warnings1 ++ warnings2).foldl (fun r w => r.err (toolMessage argv0 w)) r
        match set1, set2 with
        | .error msg, _ => r.fail argv0 msg
        | _, .error msg => r.fail argv0 msg
        | .ok s1, .ok s2 =>
          if s1.any (·.indefinite) then
            r.fail argv0 (bytes "the [c*] repeat construct may not appear in string1")
          else if 1 < (s2.filter (·.indefinite)).length then
            r.fail argv0 (bytes "only one [c*] repeat construct may appear in string2")
          else if translating && s2.any (fun e => match e with
              | .equivalent _ => true
              | _ => false) then
            r.fail argv0 (bytes "[=c=] expressions may not appear in string2 when translating")
          else if translating && s2.any (fun e => e.isClass && !e.caseClass) then
            r.fail argv0 (bytes "when translating, the only character classes that may appear in\nstring2 are 'upper' and 'lower'")
          else if translating && !complement && s2.any (·.isClass) && !casesAligned s1 s2 then
            r.fail argv0 (bytes "misaligned [:upper:] and/or [:lower:] construct")
          else if !translating && s2.any (·.indefinite) then
            r.fail argv0 (bytes "the [c*] construct may appear in string2 only when translating")
          else
            let bytes1 := s1.flatMap (·.expand 0)
            let bytes1 := if complement then complementOf bytes1 else bytes1
            let fixed2 := (s2.flatMap (·.expand 0)).length
            let fill := bytes1.length - fixed2
            let bytes2 := s2.flatMap (·.expand fill)
            if translating && bytes2.isEmpty && !bytes1.isEmpty && !found.has "t" then
              r.fail argv0 (bytes "when not truncating set1, string2 must be non-empty")
            else if translating && complement && s1.any (·.isClass) &&
                !((found.has "t" && bytes2.length == bytes1.length || !found.has "t") &&
                  bytes2.eraseDups.length ≤ 1) then
              r.fail argv0 (bytes "when translating with complemented character classes,\nstring2 must map all characters in the domain to one")
            else
              match input with
              | .error e => r.fail argv0 (bytes "read error: " ++ e.bytes)
              | .ok data =>
                let out :=
                  if translating then
                    let bytes1 := if found.has "t" then bytes1.take bytes2.length else bytes1
                    let padded := bytes2 ++ List.replicate (bytes1.length - bytes2.length)
                      (bytes2.getLastD 0)
                    let pairs := bytes1.zip padded
                    let table := (List.range 256).map fun n =>
                      let b := n.toUInt8
                      ((pairs.reverse.find? (·.1 == b)).map (·.2)).getD b
                    let moved := data.map fun b => table.getD b.toNat b
                    if squeeze then squeezeRuns bytes2 moved else moved
                  else if delete then
                    let kept := data.filter fun b => !bytes1.contains b
                    if squeeze then squeezeRuns bytes2 kept else kept
                  else squeezeRuns bytes1 data
                r.out out

end LintBridge.Host
