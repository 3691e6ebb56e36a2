import LintBridge.Config.Toml.Scalar
/-!
# TOML documents

Arrays, inline tables, and the tree of tables that the lines and headers of a document describe,
under the rules on defining tables. An error is shown with its line and a caret under its place.
-/

namespace LintBridge.Config

namespace Toml

open Reader

/-! ## Trees of tables -/

/-- An entry of a table while the document is read: a value, a table (with whether it was only
implied by a longer key, and whether a dotted key made it), or an array of tables. -/
inductive Node where
  | leaf (v : TomlValue)
  | table (implicit dotted : Bool) (entries : List (String × Node))
  | tables (items : List (List (String × Node)))
  deriving Inhabited

/-- A table while the document is read. -/
structure Table where
  implicit : Bool := false
  dotted : Bool := false
  entries : List (String × Node) := []
  deriving Inhabited

def setEntry (es : List (String × Node)) (k : String) (n : Node) : List (String × Node) :=
  if es.any (·.1 == k) then es.map fun (k', n') => if k' == k then (k', n) else (k', n')
  else es ++ [(k, n)]

def removeEntry (es : List (String × Node)) (k : String) : List (String × Node) :=
  es.filter (·.1 != k)

mutual

def Node.toValue : Node → TomlValue
  | .leaf v => v
  | .table _ _ es => .table (entriesToValue es)
  | .tables items => .arr (tablesToValue items)

def entriesToValue : List (String × Node) → List (String × TomlValue)
  | [] => []
  | (k, n) :: rest => (k, n.toValue) :: entriesToValue rest

def tablesToValue : List (List (String × Node)) → List TomlValue
  | [] => []
  | es :: rest => .table (entriesToValue es) :: tablesToValue rest

end

/-- Why the tables of a document cannot be built. -/
inductive TableError where
  /-- A key defined twice, with the table it is in when that is known. -/
  | duplicate (key : String) (table : Option (List String))
  /-- A key that would make a value other than a table hold more keys. -/
  | extendsValue (path : List String) (kind : String)
  deriving Repr

/-- The sentence for a table error. -/
def TableError.message : TableError → String
  | .duplicate k none => "duplicate key `" ++ k ++ "`"
  | .duplicate k (some []) => "duplicate key `" ++ k ++ "` in document root"
  | .duplicate k (some p) => "duplicate key `" ++ k ++ "` in table `" ++ ".".intercalate p ++ "`"
  | .extendsValue p kind =>
    "dotted key `" ++ ".".intercalate p ++ "` attempted to extend non-table type (" ++ kind ++ ")"

def duplicateAt (path : List Key) (i : Nat) : TableError :=
  .duplicate ((path.getD i default).raw) (some ((path.take i).map (·.name)))

/-- Walks a path down from a table, making the tables it lacks (implied, and dotted when the
walk is for a dotted key), and changes the table at its end by `f`. Through an array of tables
the walk goes into its last table. A dotted key may not enter a table defined by a header. -/
def descend {β : Type} (dotted : Bool) (f : Table → Except TableError (Table × β)) :
    List Key → List Key → Table → Except TableError (Table × β)
  | _, [], t => f t
  | walked, k :: ks, t => do
    let walked := walked ++ [k]
    match t.entries.lookup k.name with
    | none =>
      let (child, b) ← descend dotted f walked ks { implicit := true, dotted := dotted }
      pure ({ t with entries := t.entries ++ [(k.name, .table child.implicit child.dotted child.entries)] }, b)
    | some (.leaf v) => throw (.extendsValue (walked.map (·.name)) v.kind)
    | some (.tables items) =>
      let (child, b) ← descend dotted f walked ks { entries := items.getLastD [] }
      pure ({ t with entries := setEntry t.entries k.name (.tables (items.dropLast ++ [child.entries])) }, b)
    | some (.table imp dot es) =>
      if dotted && !imp then throw (.duplicate k.name none)
      else
        let (child, b) ← descend dotted f walked ks { implicit := imp, dotted := dot, entries := es }
        pure ({ t with entries := setEntry t.entries k.name (.table child.implicit child.dotted child.entries) }, b)

def descendInline {β : Type} (f : Table → Except TableError (Table × β)) :
    List Key → List Key → Table → Except TableError (Table × β)
  | _, [], t => f t
  | walked, k :: ks, t => do
    let walked := walked ++ [k]
    match t.entries.lookup k.name with
    | none =>
      let (child, b) ← descendInline f walked ks { implicit := true, dotted := true }
      pure ({ t with entries := t.entries ++ [(k.name, .table child.implicit child.dotted child.entries)] }, b)
    | some (.table imp dot es) =>
      if !imp then throw (.duplicate k.name none)
      else
        let (child, b) ← descendInline f walked ks { implicit := imp, dotted := dot, entries := es }
        pure ({ t with entries := setEntry t.entries k.name (.table child.implicit child.dotted child.entries) }, b)
    | some (.leaf (.table _)) => throw (.duplicate k.name none)
    | some (.leaf v) => throw (.extendsValue (walked.map (·.name)) v.kind)
    | some (.tables _) => throw (.extendsValue (walked.map (·.name)) "array")

def placeKey (place : Option (List String)) (path : List Key) (k : Key) (v : TomlValue)
    (parent : Table) : Except TableError (Table × Unit) :=
  if parent.dotted == path.isEmpty then throw (.duplicate k.name none)
  else match parent.entries.lookup k.name with
    | some _ => throw (.duplicate k.name place)
    | none => pure ({ parent with entries := parent.entries ++ [(k.name, .leaf v)] }, ())

def inlineTable (pairs : List (List Key × Key × TomlValue)) : Except TableError TomlValue := do
  let root ← pairs.foldlM (fun (root : Table) (path, k, v) => do
    let (root, _) ← descendInline (placeKey none path k v) [] path root
    pure root) {}
  pure (.table (entriesToValue root.entries))

/-! ## Values -/

def nestingLimit : Nat := 79

def keyValueWith (v : Reader TomlValue) (after : Reader Unit) : Reader (List Key × Key × TomlValue) := do
  let path ← key
  commit do
    let _ ← expect (.char '=') (expect (.char '.') (char '='))
    let _ ← blanks
    let x ← v
    after
    pure (path.dropLast, path.getLastD default, x)

def arrayWith (v : Reader TomlValue) : Reader TomlValue := do
  let _ ← char '['
  let items ← commit do
    let item : Reader TomlValue := do
      blankLines
      let x ← v
      blankLines
      pure x
    let items ← optional do
      let xs ← sepBy1 item (char ',')
      let _ ← optional (char ',')
      pure xs
    blankLines
    pure (items.getD [])
  let _ ← expect (.char ']') (label "array" (commit (char ']')))
  pure (.arr items)

def inlineTableWith (v : Reader TomlValue) : Reader TomlValue := do
  let _ ← char '{'
  let t ← commit (tryMap (do
      let pairs ← sepBy (keyValueWith v ((fun _ => ()) <$> blanks)) (char ',')
      let _ ← blanks
      pure pairs)
    fun pairs => (inlineTable pairs).mapError TableError.message)
  let _ ← expect (.char '}') (label "inline table" (commit (char '}')))
  pure t

def asString {α : Type} (r : Reader α) : Reader α :=
  expect (.char '\'') (expect (.char '"') (label "string" r))

def scalarValue : Reader TomlValue := fun cs =>
  match cs with
  | [] => .soft {} cs
  | c :: _ =>
    if c == '"' || c == '\'' then (TomlValue.str <$> string) cs
    else if c == '+' || c == '-' || isDigit c then
      first [TomlValue.datetime <$> dateTime, TomlValue.float <$> float, TomlValue.int <$> integer] cs
    else if c == '_' then expect (.description "leading digit") (TomlValue.int <$> integer) cs
    else if c == '.' then expect (.description "leading digit") (TomlValue.float <$> float) cs
    else if c == 't' then asString ((fun _ => TomlValue.bool true) <$> keyword "true") cs
    else if c == 'f' then asString ((fun _ => TomlValue.bool false) <$> keyword "false") cs
    else if c == 'i' then asString ((fun _ => TomlValue.float (Number.Binary64.infinity false)) <$> word "inf") cs
    else if c == 'n' then asString ((fun _ => TomlValue.float Number.Binary64.nan) <$> word "nan") cs
    else asString (fail : Reader TomlValue) cs

def valueAt : Nat → Reader TomlValue
  | 0 => fun cs =>
    match cs with
    | '[' :: _ => .hard { cause := some "recursion limit exceeded" } cs
    | '{' :: _ => .hard { cause := some "recursion limit exceeded" } cs
    | _ => scalarValue cs
  | room + 1 => fun cs =>
    match cs with
    | '[' :: _ => arrayWith (valueAt room) cs
    | '{' :: _ => inlineTableWith (valueAt room) cs
    | _ => scalarValue cs

/-- A value. -/
def value : Reader TomlValue := valueAt nestingLimit

/-! ## Lines -/

def keyValueLine : Reader (List Key × Key × TomlValue) :=
  keyValueWith value (expect (.char '#') (expect (.char '\n') lineTrailing))

def tableHeader : Reader (List Key) := do
  let _ ← char '['
  let path ← commit key
  let _ ← expect (.text "]") (expect (.char '.') (commit (char ']')))
  let _ ← expect (.char '#') (expect (.char '\n') (commit lineTrailing))
  pure path

def arrayHeader : Reader (List Key) := do
  word "[["
  let path ← commit key
  let _ ← expect (.text "]]") (expect (.char '.') (commit (word "]]")))
  let _ ← expect (.char '#') (expect (.char '\n') (commit lineTrailing))
  pure path

/-- A header, and whether it is of an array of tables. -/
def header : Reader (List Key × Bool) := fun cs =>
  match cs with
  | '[' :: '[' :: _ => ((·, true) <$> arrayHeader) cs
  | _ :: _ :: _ => ((·, false) <$> tableHeader) cs
  | _ => .soft {} cs

/-! ## Documents -/

/-- A document being read: the tables finished so far, and the table the lines now go into,
with its path and whether it belongs to an array of tables. -/
structure Document where
  root : Table := {}
  current : Table := {}
  currentPath : List Key := []
  currentIsArray : Bool := false
  deriving Inhabited

namespace Document

def addKeyValue (d : Document) (path : List Key) (k : Key) (v : TomlValue) :
    Except TableError Document := do
  let (current, _) ← descend true (placeKey (some (d.currentPath.map (·.name))) path k v) [] path d.current
  pure { d with current := current }

/-- Puts the current table into the tree, where its path says. -/
def finish (d : Document) : Except TableError Document := do
  match d.currentPath.getLast? with
  | none => pure { d with root := d.current, current := {}, currentPath := [] }
  | some last =>
    let path := d.currentPath
    let dup := duplicateAt path (path.length - 1)
    let entries := d.current.entries
    let (root, _) ← descend false (fun parent =>
        if d.currentIsArray then
          match parent.entries.lookup last.name with
          | none => pure ({ parent with entries := parent.entries ++ [(last.name, .tables [entries])] }, ())
          | some (.tables items) =>
            pure ({ parent with entries := setEntry parent.entries last.name (.tables (items ++ [entries])) }, ())
          | some _ => throw dup
        else
          match parent.entries.lookup last.name with
          | none => pure ({ parent with entries := parent.entries ++ [(last.name, .table false false entries)] }, ())
          | some (.table true _ _) =>
            pure ({ parent with entries := setEntry parent.entries last.name (.table false false entries) }, ())
          | some _ => throw dup)
      [] path.dropLast d.root
    pure { d with root := root, current := {}, currentPath := [] }

def startTable (d : Document) (path : List Key) (isArray : Bool) : Except TableError Document := do
  let last := path.getLastD default
  let dup := duplicateAt path (path.length - 1)
  let (root, kept) ← descend false (fun parent =>
      match parent.entries.lookup last.name, isArray with
      | none, false => pure (parent, [])
      | none, true => pure ({ parent with entries := parent.entries ++ [(last.name, .tables [])] }, [])
      | some (.tables _), true => pure (parent, [])
      | some (.table true false es), false => pure ({ parent with entries := removeEntry parent.entries last.name }, es)
      | _, _ => throw dup)
    [] path.dropLast d.root
  pure { root := root, current := { entries := kept }, currentPath := path, currentIsArray := isArray }

def addHeader (d : Document) (path : List Key) (isArray : Bool) : Except TableError Document := do
  let d ← d.finish
  d.startTable path isArray

end Document

def documentLoop : Nat → Document → Reader Document
  | 0, d => pure d
  | fuel + 1, d => fun cs =>
    let next (d : Document) (rest : List Char) : Step Document :=
      documentLoop fuel d (rest.dropWhile isBlank)
    match cs with
    | [] => .done d cs
    | '#' :: _ =>
      match commit (do let _ ← comment; lineEnding) cs with
      | .done _ rest => next d rest
      | .soft e rest => .hard e rest
      | .hard e rest => .hard e rest
    | '[' :: _ =>
      match commit (label "table header" header) cs with
      | .done (path, isArray) rest =>
        match d.addHeader path isArray with
        | .ok d => next d rest
        | .error te => .hard { notes := [.label "table header"], cause := some te.message } cs
      | .soft e rest => .hard e rest
      | .hard e rest => .hard e rest
    | '\n' :: _ | '\r' :: _ =>
      match newline cs with
      | .done _ rest => next d rest
      | _ => .done d cs
    | _ =>
      match commit keyValueLine cs with
      | .done (path, k, v) rest =>
        match d.addKeyValue path k v with
        | .ok d => next d rest
        | .error te => .hard { cause := some te.message } cs
      | .soft e rest => .hard e rest
      | .hard e rest => .hard e rest

end Toml

/-- Why a TOML document does not read: the message, and the place in the text (in characters)
when there is one. -/
structure TomlError where
  place : Option Nat
  message : String
  deriving Repr

namespace Toml

/-- Reads a document into its root table. -/
def parse (text : String) : Except TomlError (List (String × TomlValue)) :=
  let all := text.toList
  let cs := match all with
    | '\uFEFF' :: rest => rest
    | _ => all
  let cs := cs.dropWhile isBlank
  let placeOf (rest : List Char) : Option Nat := some (all.length - rest.length)
  match documentLoop (cs.length + 1) {} cs with
  | .done d rest =>
    if !rest.isEmpty then .error ⟨placeOf rest, ""⟩
    else
      match d.finish with
      | .ok d => .ok (entriesToValue d.root.entries)
      | .error te => .error ⟨none, te.message⟩
  | .soft e rest => .error ⟨placeOf rest, e.message⟩
  | .hard e rest => .error ⟨placeOf rest, e.message⟩

/-- Whether a byte continues a character begun before it. -/
def isContinuation (b : UInt8) : Bool := b &&& 0xC0 == 0x80

/-- The place of a byte index as a zero-based line and column. The column counts characters
up to and with the one at the place, less one; when the place is inside a character it counts
bytes instead. Past the end, the place is one past the last byte, on its line. -/
def position (bytes : List UInt8) (index : Nat) : Nat × Nat :=
  if bytes.isEmpty then (0, index)
  else
    let safe := min index (bytes.length - 1)
    let beyond := index - safe
    let before := bytes.take safe
    let lineStart := before.length - (before.reverse.takeWhile (· != 10)).length
    let line := (before.take lineStart).count 10
    let span := (bytes.take (safe + 1)).drop lineStart
    let whole := safe + 1 == bytes.length || !isContinuation (bytes.getD (safe + 1) 0)
    let column := if whole then (span.filter (!isContinuation ·)).length - 1 else safe - lineStart
    (line, column + beyond)

/-- The error as shown: where it is, the line with a caret under the place, and the message. -/
def TomlError.render (text : String) (e : TomlError) : String :=
  match e.place with
  | none => e.message ++ "\n"
  | some index =>
    let bytes := text.toUTF8.toList
    let byteIndex := (String.ofList (text.toList.take index)).utf8ByteSize
    let (line, column) := position bytes byteIndex
    let lineNo := toString (line + 1)
    let gutter := String.ofList (List.replicate (lineNo.length + 1) ' ')
    let content := (text.splitOn "\n").getD line ""
    "TOML parse error at line " ++ lineNo ++ ", column " ++ toString (column + 1) ++ "\n" ++
      gutter ++ "|\n" ++
      lineNo ++ " | " ++ content ++ "\n" ++
      gutter ++ "|" ++ String.ofList (List.replicate (column + 1) ' ') ++ "^\n" ++
      e.message ++ "\n"

end Toml

end LintBridge.Config
