import LintBridge.Web.Percent
import LintBridge.Web.Punycode
import LintBridge.Web.Domain
import LintBridge.Text.Utf8
/-!
# Hosts

The host of a URL: a domain brought to ASCII, an IPv4 address in one to four numbers of any base,
an IPv6 address in brackets, or an opaque text for a scheme that is not special.
-/

namespace LintBridge.Web

/-- Why a URL does not read. -/
inductive UrlError where
  | relativeWithoutBase
  | emptyHost
  | invalidDomain
  | invalidPort
  | invalidIpv4
  | invalidIpv6
  | invalidDomainCharacter
  deriving DecidableEq, Repr

/-- What is said about an error. -/
def UrlError.message : UrlError → String
  | .relativeWithoutBase => "relative URL without a base"
  | .emptyHost => "empty host"
  | .invalidDomain => "invalid international domain name"
  | .invalidPort => "invalid port number"
  | .invalidIpv4 => "invalid IPv4 address"
  | .invalidIpv6 => "invalid IPv6 address"
  | .invalidDomainCharacter => "invalid domain character"

/-- A host. -/
inductive Host where
  | domain (name : String)
  | ipv4 (address : Nat)
  | ipv6 (groups : List Nat)
  | raw (text : String)
  deriving DecidableEq, Repr

/-! ## IPv4 -/

def readRadix (radix : Nat) (cs : List Char) : Option Nat :=
  cs.foldl (fun acc c => acc.bind fun n =>
    match hexValue? c with
    | some d => if d < radix then some (radix * n + d) else none
    | none => none) (some 0)

def ipv4Number (cs : List Char) : Option Nat :=
  match cs with
  | [] => none
  | '0' :: 'x' :: rest | '0' :: 'X' :: rest => if rest.isEmpty then some 0 else readRadix 16 rest
  | '0' :: rest@(_ :: _) => readRadix 8 rest
  | _ => if cs.all Char.isDigit then readRadix 10 cs else none

def dottedParts (s : String) : List (List Char) :=
  let parts := (s.splitOn ".").map String.toList
  match parts.getLast? with
  | some [] => if parts.length > 1 then parts.dropLast else parts
  | _ => parts

def endsInNumber (s : String) : Bool :=
  let parts := (s.splitOn ".").map String.toList
  let last := match parts.reverse with
    | [] :: prev :: _ => some prev
    | [[]] => none
    | l :: _ => some l
    | [] => none
  match last with
  | none => false
  | some l => (!l.isEmpty && l.all Char.isDigit) || (ipv4Number l).isSome

def parseIpv4 (s : String) : Except UrlError Nat :=
  let parts := dottedParts s
  if parts.length > 4 then .error .invalidIpv4
  else
    match parts.mapM ipv4Number with
    | none => .error .invalidIpv4
    | some numbers =>
      match numbers.reverse with
      | [] => .error .invalidIpv4
      | last :: _ =>
        let front := numbers.dropLast
        if front.any (· > 255) ∨ last ≥ Nat.pow 256 (4 - front.length) then .error .invalidIpv4
        else .ok ((front.zipIdx.foldl (fun acc (n, i) => acc + n * Nat.pow 256 (3 - i)) 0) + last)

def showIpv4 (a : Nat) : String :=
  ".".intercalate ([3, 2, 1, 0].map fun i => toString (a / Nat.pow 256 i % 256))

/-! ## IPv6 -/

def ipv6Group (cs : List Char) : Option Nat :=
  if cs.isEmpty ∨ cs.length > 4 then none else readRadix 16 cs

def ipv6Tail (cs : List Char) : Option (List Nat) := do
  let parts := (String.ofList cs).splitOn "."
  if parts.length ≠ 4 then none
  let numbers ← parts.mapM fun p =>
    let ds := p.toList
    if ds.isEmpty ∨ !(ds.all Char.isDigit) ∨ (ds.length > 1 ∧ ds.head? = some '0') then none
    else
      let n : Nat := ds.foldl (fun acc c => 10 * acc + (c.toNat - (0x30 : Nat))) 0
      if n > 255 then none else some n
  match numbers with
  | [a, b, c, d] => some [a * 256 + b, c * 256 + d]
  | _ => none

def ipv6Groups (tail : Bool) (s : String) : Option (List Nat) :=
  if s.isEmpty then some []
  else
    let parts := (s.splitOn ":").map String.toList
    let front := parts.dropLast
    let last := parts.getLastD []
    match front.mapM ipv6Group with
    | none => none
    | some fs =>
      if tail ∧ last.contains '.' then (ipv6Tail last).map (fs ++ ·)
      else (ipv6Group last).map fun g => fs ++ [g]

def parseIpv6 (s : String) : Except UrlError (List Nat) :=
  let fail := Except.error UrlError.invalidIpv6
  match s.splitOn "::" with
  | [whole] =>
    match ipv6Groups true whole with
    | some gs => if gs.length = 8 then .ok gs else fail
    | none => fail
  | [left, right] =>
    match ipv6Groups false left, ipv6Groups true right with
    | some l, some r =>
      if l.length + r.length ≤ 7 then .ok (l ++ List.replicate (8 - l.length - r.length) 0 ++ r) else fail
    | _, _ => fail
  | _ => fail

def showGroup (g : Nat) : String :=
  String.ofList ((Nat.toDigits 16 g).map Char.toLower)

def longestZeroRun (gs : List Nat) : Option (Nat × Nat) :=
  let step := fun (acc : Option (Nat × Nat) × Option (Nat × Nat)) (ig : Nat × Nat) =>
    let (best, cur) := acc
    let (i, g) := ig
    if g = 0 then
      let cur := match cur with
        | some (s, l) => some (s, l + 1)
        | none => some (i, 1)
      let best := match best, cur with
        | some (bs, bl), some (s, l) => if l > bl then some (s, l) else some (bs, bl)
        | none, some c => some c
        | b, none => b
      (best, cur)
    else (best, none)
  match (gs.zipIdx.map fun (g, i) => (i, g)).foldl step (none, none) with
  | (some (s, l), _) => if l ≥ 2 then some (s, l) else none
  | _ => none

def showIpv6 (gs : List Nat) : String :=
  match longestZeroRun gs with
  | some (s, l) =>
    ":".intercalate ((gs.take s).map showGroup) ++ "::" ++ ":".intercalate ((gs.drop (s + l)).map showGroup)
  | none => ":".intercalate (gs.map showGroup)

/-! ## Domains -/

def forbiddenHost (c : Char) : Bool :=
  c.toNat == 0 || c == '\t' || c == '\n' || c == '\r' || c == ' ' || c == '#' || c == '/' || c == ':' ||
    c == '<' || c == '>' || c == '?' || c == '@' || c == '[' || c == '\\' || c == ']' || c == '^' || c == '|'

def domainToAscii (s : String) : Except UrlError String :=
  match Domain.toAscii s with
  | some ascii => .ok ascii
  | none => .error .invalidDomain

def parseSpecialHost (s : String) : Except UrlError Host :=
  if s.startsWith "[" then
    if s.endsWith "]" ∧ s.length ≥ 2 then
      (parseIpv6 (String.ofList ((s.toList.drop 1).dropLast))).map Host.ipv6
    else .error .invalidIpv6
  else
    let domain := String.ofList (Text.decodeLossy (percentDecode s.toList))
    match domainToAscii domain with
    | .error e => .error e
    | .ok ascii =>
      if ascii.isEmpty then .error .emptyHost
      else if endsInNumber ascii then (parseIpv4 ascii).map Host.ipv4
      else .ok (.domain ascii)

def parseOpaqueHost (s : String) : Except UrlError Host :=
  if s.startsWith "[" then
    if s.endsWith "]" ∧ s.length ≥ 2 then
      (parseIpv6 (String.ofList ((s.toList.drop 1).dropLast))).map Host.ipv6
    else .error .invalidIpv6
  else if s.toList.any forbiddenHost then .error .invalidDomainCharacter
  else .ok (.raw (encodeIn .controls s.toList))

/-- A host as written in a URL. -/
def Host.show : Host → String
  | .domain d => d
  | .ipv4 a => showIpv4 a
  | .ipv6 gs => "[" ++ showIpv6 gs ++ "]"
  | .raw t => t

/-- Whether a host is written as nothing. -/
def Host.isEmpty (h : Host) : Bool := h.show.isEmpty

end LintBridge.Web
