import LintBridge.Web.Host
/-!
# URLs

An absolute URL as browsers read it, normalized on the way: the scheme and domains lowercased,
default ports dropped, dot segments resolved and forbidden characters percent-encoded. A URL
with segments and no host, an empty one or `localhost` names a file.
-/

namespace LintBridge.Web

/-- The path of a URL: a text that is not made of segments, or segments. -/
inductive UrlPath where
  | flat (text : String)
  | segments (parts : List String)
  deriving DecidableEq, Repr

/-- A URL read. -/
structure Url where
  scheme : String
  username : String
  password : String
  host : Option Host
  portNumber : Option Nat
  path : UrlPath
  query : Option String
  fragment : Option String
  deriving DecidableEq, Repr

def specialSchemes : List (String × Option Nat) :=
  [("ftp", some 21), ("file", none), ("http", some 80), ("https", some 443), ("ws", some 80),
    ("wss", some 443)]

def isSpecial (scheme : String) : Bool := specialSchemes.any (·.1 == scheme)

def defaultPort (scheme : String) : Option Nat := (specialSchemes.lookup scheme).bind id

def isSchemeChar (c : Char) : Bool :=
  (c.toNat < 0x80 && c.isAlphanum) || c == '+' || c == '-' || c == '.'

def cleanInput (s : String) : List Char :=
  let edge := fun (c : Char) => c.toNat ≤ 0x20
  ((s.toList.dropWhile edge).reverse.dropWhile edge).reverse.filter fun c => c ≠ '\t' ∧ c ≠ '\n' ∧ c ≠ '\r'

def readScheme : List Char → Option (String × List Char)
  | [] => none
  | c :: rest =>
    if c.toNat < 0x80 ∧ c.isAlpha then
      let body := rest.takeWhile isSchemeChar
      match rest.drop body.length with
      | ':' :: after => some (String.ofList ((c :: body).map Char.toLower), after)
      | _ => none
    else none

def splitAt? (sep : Char) (cs : List Char) : List Char × Option (List Char) :=
  let before := cs.takeWhile (· ≠ sep)
  match cs.drop before.length with
  | _ :: after => (before, some after)
  | [] => (before, none)

def isSeparator (special : Bool) (c : Char) : Bool := c == '/' || (special && c == '\\')

def splitSegments (special : Bool) (cs : List Char) : List (List Char) :=
  let step := fun (acc : List (List Char) × List Char) (c : Char) =>
    if isSeparator special c then (acc.1 ++ [acc.2], []) else (acc.1, acc.2 ++ [c])
  let (done, last) := cs.foldl step ([], [])
  done ++ [last]

def isSingleDot (s : String) : Bool := s == "." || s.toLower == "%2e"

def isDoubleDot (s : String) : Bool :=
  let l := s.toLower
  l == ".." || l == ".%2e" || l == "%2e." || l == "%2e%2e"

def isDriveLetter : List Char → Bool
  | [a, b] => a.toNat < 0x80 && a.isAlpha && (b == ':' || b == '|')
  | _ => false

def pushSegments (file : Bool) : List String → List (List Char) → List String
  | acc, [] => acc
  | acc, seg :: rest =>
    let text := String.ofList seg
    let last := rest.isEmpty
    if isDoubleDot text then
      let kept := if file ∧ acc.length = 1 ∧ isDriveLetter (acc.headD "").toList then acc else acc.dropLast
      pushSegments file (if last then kept ++ [""] else kept) rest
    else if isSingleDot text then
      pushSegments file (if last then acc ++ [""] else acc) rest
    else
      let seg := if file ∧ acc.isEmpty ∧ isDriveLetter seg then seg.take 1 ++ [':'] else seg
      pushSegments file (acc ++ [encodeIn .path seg]) rest

def pathAfterSlash (special file : Bool) (cs : List Char) (emptyPath : List String) : List String :=
  match cs with
  | [] => emptyPath
  | _ :: rest => pushSegments file [] (splitSegments special rest)

def readPort (scheme : String) (cs : List Char) : Except UrlError (Option Nat) :=
  if cs.isEmpty then .ok none
  else if cs.all Char.isDigit then
    let n := cs.foldl (fun acc c => 10 * acc + (c.toNat - 48)) 0
    if n > 65535 then .error .invalidPort
    else if defaultPort scheme = some n then .ok none
    else .ok (some n)
  else .error .invalidPort

def lastIndexOf (c : Char) (cs : List Char) : Option Nat :=
  cs.zipIdx.foldl (fun acc (d, i) => if d = c then some i else acc) none

def readAuthority (scheme : String) (special : Bool) (auth : List Char) :
    Except UrlError (String × String × Host × Option Nat) := do
  let (userinfo, hostPort, sawAt) := match lastIndexOf '@' auth with
    | some i => (auth.take i, auth.drop (i + 1), true)
    | none => ([], auth, false)
  if sawAt ∧ hostPort.isEmpty then throw .emptyHost
  let (user, pass) := splitAt? ':' userinfo
  let (hostText, portText) :=
    if hostPort.head? = some '[' then
      let inside := hostPort.takeWhile (· ≠ ']')
      match hostPort.drop inside.length with
      | ']' :: ':' :: p => (inside ++ [']'], some p)
      | ']' :: rest => (inside ++ [']'], if rest.isEmpty then none else some rest)
      | rest => (inside ++ rest, none)
    else splitAt? ':' hostPort
  if hostText.isEmpty ∧ (special ∨ portText.isSome ∨ sawAt) then throw .emptyHost
  let host ← if special then parseSpecialHost (String.ofList hostText)
    else if hostText.isEmpty then pure (Host.raw "")
    else parseOpaqueHost (String.ofList hostText)
  let portNumber ← match portText with
    | some p => readPort scheme p
    | none => pure none
  pure (encodeIn .userinfo user, encodeIn .userinfo (pass.getD []), host, portNumber)

def readFileParts (main : List Char) : Except UrlError (Host × List String) :=
  let slash := isSeparator true
  match main with
  | a :: b :: rest =>
    if slash a ∧ slash b then
      let hostPart := rest.takeWhile (!slash ·)
      let after := rest.drop hostPart.length
      if isDriveLetter hostPart then
        .ok (.domain "", pushSegments true [] (splitSegments true rest))
      else if hostPart.isEmpty then
        .ok (.domain "", pathAfterSlash true true after [""])
      else
        match parseSpecialHost (String.ofList hostPart) with
        | .error e => .error e
        | .ok h =>
          let h := if h = .domain "localhost" then .domain "" else h
          .ok (h, pathAfterSlash true true after [""])
    else if slash a then .ok (.domain "", pathAfterSlash true true main [""])
    else .ok (.domain "", pushSegments true [] (splitSegments true main))
  | [a] => if slash a then .ok (.domain "", [""]) else .ok (.domain "", pushSegments true [] [[a]])
  | [] => .ok (.domain "", [""])

/-- Reads an absolute URL. -/
def Url.parse (input : String) : Except UrlError Url := do
  let cs := cleanInput input
  let (scheme, rest) ← match readScheme cs with
    | some r => pure r
    | none => throw .relativeWithoutBase
  let special := isSpecial scheme
  let (beforeHash, fragment) := splitAt? '#' rest
  let (main, query) := splitAt? '?' beforeHash
  let queryPart : Part := if special then .specialQuery else .query
  let query := query.map (encodeIn queryPart)
  let fragment := fragment.map (encodeIn .fragment)
  if scheme = "file" then
    let (host, segs) ← readFileParts main
    pure ⟨scheme, "", "", some host, none, .segments segs, query, fragment⟩
  else if special then
    let afterSlashes := main.dropWhile (isSeparator true)
    let auth := afterSlashes.takeWhile (!isSeparator true ·)
    let pathPart := afterSlashes.drop auth.length
    let (user, pass, host, portNumber) ← readAuthority scheme true auth
    pure ⟨scheme, user, pass, some host, portNumber, .segments (pathAfterSlash true false pathPart [""]), query, fragment⟩
  else
    match main with
    | '/' :: '/' :: afterSlashes =>
      let auth := afterSlashes.takeWhile (· ≠ '/')
      let pathPart := afterSlashes.drop auth.length
      let (user, pass, host, portNumber) ← readAuthority scheme false auth
      pure ⟨scheme, user, pass, some host, portNumber, .segments (pathAfterSlash false false pathPart []), query, fragment⟩
    | '/' :: _ =>
      pure ⟨scheme, "", "", none, none, .segments (pathAfterSlash false false main []), query, fragment⟩
    | _ => pure ⟨scheme, "", "", none, none, .flat (encodeIn .controls main), query, fragment⟩

/-- The text of a URL. -/
def Url.show (u : Url) : String :=
  let authority := match u.host with
    | some h =>
      let userinfo := if u.username.isEmpty ∧ u.password.isEmpty then ""
        else u.username ++ (if u.password.isEmpty then "" else ":" ++ u.password) ++ "@"
      "//" ++ userinfo ++ h.show ++ (match u.portNumber with
        | some p => ":" ++ toString p
        | none => "")
    | none =>
      match u.path with
      | .segments ("" :: _ :: _) => "/."
      | _ => ""
  let path := match u.path with
    | .flat t => t
    | .segments segs => String.join (segs.map ("/" ++ ·))
  u.scheme ++ ":" ++ authority ++ path ++
    (match u.query with
     | some q => "?" ++ q
     | none => "") ++
    (match u.fragment with
     | some f => "#" ++ f
     | none => "")

/-- The file a URL names, if it names one. -/
def Url.toFilePath (u : Url) : Option String :=
  match u.path with
  | .flat _ => none
  | .segments segs =>
    let local_ := match u.host with
      | none => true
      | some h => h.show == "" || h.show == "localhost"
    if !local_ then none
    else
      let bytes := segs.flatMap fun s => (0x2F : UInt8) :: percentDecode s.toList
      let bytes := match bytes.reverse with
        | b :: a :: _ =>
          if bytes.length > 2 ∧ ((0x41 ≤ a.toNat ∧ a.toNat ≤ 0x5A) ∨ (0x61 ≤ a.toNat ∧ a.toNat ≤ 0x7A)) ∧
              (b.toNat = 0x3A ∨ b.toNat = 0x7C) then bytes ++ [0x2F] else bytes
        | _ => bytes
      some (String.ofList (Text.decodeLossy bytes))

def normalizeUrl (s : String) : Except UrlError String := (Url.parse s).map Url.show

end LintBridge.Web
