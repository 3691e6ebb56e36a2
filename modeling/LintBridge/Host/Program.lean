import LintBridge.Host.Printf
import LintBridge.Host.Shell.Test
/-!
# Programs of the machine

What a standalone program does when it runs: it writes to its output and error streams in order,
ends with a status, may change the files and may read part of its input. Most programs read
their options the same way, short letters after `-` and long names after `--`.
-/

namespace LintBridge.Host

/-- What a standalone program did. -/
structure ToolRun where
  writes : List (Nat × Bytes) := []
  status : Nat := 0
  files : Files
  /-- The input left unread, when the program read any. -/
  inputLeft : Option Bytes := none

/-- Writes to the output stream. -/
def ToolRun.out (r : ToolRun) (bs : Bytes) : ToolRun :=
  if bs.isEmpty then r else { r with writes := r.writes ++ [(1, bs)] }

/-- Writes a message line to the error stream. -/
def ToolRun.err (r : ToolRun) (bs : Bytes) : ToolRun := { r with writes := r.writes ++ [(2, bs)] }

def toolMessage (argv0 : Bytes) (msg : Bytes) : Bytes := argv0 ++ bytes ": " ++ msg ++ [10]

def ToolRun.failWith (r : ToolRun) (status : Nat) (argv0 : Bytes) (msg : Bytes) : ToolRun :=
  { (r.err (toolMessage argv0 msg)) with status := status }

/-- Writes a message of the program and sets status 1. -/
def ToolRun.fail (r : ToolRun) (argv0 : Bytes) (msg : Bytes) : ToolRun := r.failWith 1 argv0 msg

def fileQuote (name : Bytes) : Bytes :=
  let quoted := shellQuote name
  if quoted == name then [39] ++ name ++ [39] else quoted

def fileName (name : Bytes) : Bytes :=
  if name.contains 58 then fileQuote name else shellQuote name

/-- The text of an operating-system error in a message. -/
def OsError.bytes (e : OsError) : Bytes := Host.bytes e.text

def tryHelp (argv0 : Bytes) : Bytes :=
  bytes "Try '" ++ argv0 ++ bytes " --help' for more information.\n"

/-- A usage error with a status: the message and the hint. -/
def ToolRun.usageWith (r : ToolRun) (status : Nat) (argv0 msg : Bytes) : ToolRun :=
  { (r.err (toolMessage argv0 msg ++ tryHelp argv0)) with status := status }

/-- A usage error: the message, the hint, and status 1. -/
def ToolRun.usage (r : ToolRun) (argv0 msg : Bytes) : ToolRun := r.usageWith 1 argv0 msg

def splitLines : Nat → Bytes → List Bytes
  | 0, _ => []
  | _ + 1, [] => []
  | n + 1, bs =>
    let line := bs.takeWhile (· != 10)
    if line.length < bs.length then (line ++ [10]) :: splitLines n (bs.drop (line.length + 1))
    else [line]

/-- The lines of bytes. -/
def Bytes.lines (bs : Bytes) : List Bytes := splitLines (bs.length + 1) bs

def Bytes.chomp (line : Bytes) : Bytes := if line.getLast? == some 10 then line.dropLast else line

def readInputs (names : List Bytes) (input : Except OsError Bytes) (fs : Files) :
    List (Bytes × Except OsError Bytes) × Option Bytes :=
  let names := if names.isEmpty then [bytes "-"] else names
  let read := names.map fun n =>
    if n == bytes "-" then (n, input) else (n, fs.read n.text)
  (read, if names.contains (bytes "-") then some [] else none)

def isOptionArg (a : Bytes) : Bool := a.length > 1 && a.head? == some 45

/-! ## Options -/

/-- Whether an option takes an argument. -/
inductive ArgNeed where
  | no
  | required
  | optional
  deriving DecidableEq

/-- An option of a program: the key it is known by, its letter and long name (either may be
missing), whether it takes an argument, and whether the program acts on it at once, so that
nothing after it is read. -/
structure OptionDecl where
  key : String
  letter : Option UInt8 := none
  long : Option String := none
  arg : ArgNeed := .no
  final : Bool := false

/-- An option with a letter and no argument. -/
def OptionDecl.flag (c : Char) : OptionDecl :=
  { key := c.toString, letter := some c.toNat.toUInt8 }

def OptionDecl.valued (c : Char) : OptionDecl :=
  { key := c.toString, letter := some c.toNat.toUInt8, arg := .required }

/-- An option with a long name, known by the key of a letter option when it has one. -/
def OptionDecl.named (key long : String) (arg : ArgNeed) : OptionDecl :=
  { key := key, long := some long, arg := arg }

def helpOptions : List OptionDecl :=
  [{ key := "help", long := some "help", final := true },
    { key := "version", long := some "version", final := true }]

abbrev FoundOptions := List (String × Option Bytes)

/-- Whether an option was given. -/
def FoundOptions.has (found : FoundOptions) (key : String) : Bool := found.any (·.1 == key)

/-- The argument of the last time an option was given. -/
def FoundOptions.last (found : FoundOptions) (key : String) : Option Bytes :=
  (found.filter (·.1 == key)).getLast?.bind (·.2)

def findLong (decls : List OptionDecl) (word name : Bytes) : Except Bytes OptionDecl :=
  let text := name.text
  match decls.find? (·.long == some text) with
  | some d => .ok d
  | none =>
    let starts := decls.filter fun d => (d.long.map (·.startsWith text)).getD false
    match starts with
    | [] => .error (bytes "unrecognized option '" ++ word ++ bytes "'")
    | d :: more =>
      if more.all (·.key == d.key) then .ok d
      else
        .error (bytes ("option '--" ++ text ++ "' is ambiguous; possibilities:") ++
          (starts.flatMap fun d => bytes (" '--" ++ d.long.getD "" ++ "'")))

def readLetters (decls : List OptionDecl) : Nat → Bytes → List Bytes →
    FoundOptions × List Bytes × Option Bytes
  | 0, _, rest => ([], rest, none)
  | _ + 1, [], rest => ([], rest, none)
  | n + 1, c :: cs, rest =>
    match decls.find? (·.letter == some c) with
    | none => ([], rest, some (bytes "invalid option -- '" ++ [c] ++ bytes "'"))
    | some d =>
      match d.arg with
      | .no =>
        let (found, rest', wrong) := readLetters decls n cs rest
        ((d.key, none) :: found, rest', wrong)
      | .optional => ([(d.key, if cs.isEmpty then none else some cs)], rest, none)
      | .required =>
        if !cs.isEmpty then ([(d.key, some cs)], rest, none)
        else
          match rest with
          | v :: more => ([(d.key, some v)], more, none)
          | [] => ([], rest, some (bytes "option requires an argument -- '" ++ [c] ++ bytes "'"))

/-- What reading the options of a command line gives: the options found, in order, up to the
first wrong one; the operands; and the message of the wrong option when there is one. -/
structure OptionReading where
  found : FoundOptions
  operands : List Bytes
  wrong : Option Bytes := none

def scanOptions (decls : List OptionDecl) (permute : Bool) (args : List Bytes) : OptionReading :=
  go (args.length + 1) args [] []
where
  /-- Reads from here on, after the options and operands found so far. -/
  go : Nat → List Bytes → FoundOptions → List Bytes → OptionReading
    | 0, rest, found, operands => { found := found, operands := operands ++ rest }
    | _ + 1, [], found, operands => { found := found, operands := operands }
    | n + 1, a :: rest, found, operands =>
      let stop (msg : Bytes) : OptionReading :=
        { found := found, operands := operands, wrong := some msg }
      match a with
      | [45, 45] => { found := found, operands := operands ++ rest }
      | 45 :: 45 :: body =>
        let name := body.takeWhile (· != 61)
        let value := if name.length < body.length then some (body.drop (name.length + 1)) else none
        match findLong decls a name with
        | .error e => stop e
        | .ok d =>
          let long := d.long.getD ""
          match d.arg, value with
          | .no, some _ => stop (bytes ("option '--" ++ long ++ "' doesn't allow an argument"))
          | .required, none =>
            match rest with
            | v :: more => go n more (found ++ [(d.key, some v)]) operands
            | [] => stop (bytes ("option '--" ++ long ++ "' requires an argument"))
          | _, v =>
            if d.final then { found := found ++ [(d.key, v)], operands := operands }
            else go n rest (found ++ [(d.key, v)]) operands
      | 45 :: c :: cs =>
        match readLetters decls (cs.length + 2) (c :: cs) rest with
        | (more, rest', none) => go n rest' (found ++ more) operands
        | (more, _, some e) => { found := found ++ more, operands := operands, wrong := some e }
      | _ =>
        if permute then go n rest found (operands ++ [a])
        else { found := found, operands := operands ++ a :: rest }

def readOptions (decls : List OptionDecl) (permute : Bool) (args : List Bytes) :
    Except Bytes (FoundOptions × List Bytes) :=
  let reading := scanOptions decls permute args
  match reading.wrong with
  | some e => .error e
  | none => .ok (reading.found, reading.operands)

/-! ## Arguments from a list of choices -/

/-- Why an argument picks no choice. -/
inductive ChoiceError where
  | invalid
  | ambiguous

def pickChoice {α : Type} [BEq α] (choices : List (String × α)) (arg : Bytes) :
    Except ChoiceError α :=
  let text := arg.text
  match choices.find? (·.1 == text) with
  | some (_, v) => .ok v
  | none =>
    match choices.filter (·.1.startsWith text) with
    | [] => .error .invalid
    | (_, v) :: more => if more.all (·.2 == v) then .ok v else .error .ambiguous

def choiceLines {α : Type} [BEq α] (choices : List (String × α)) : Bytes :=
  let groups := choices.foldl (fun (acc : List (α × List String)) (name, v) =>
    match acc.getLast? with
    | some (w, names) =>
      if w == v then acc.dropLast ++ [(w, names ++ [name])] else acc ++ [(v, [name])]
    | none => [(v, [name])]) []
  groups.flatMap fun (_, names) =>
    bytes "\n  - " ++ (bytes ", ").intercalate (names.map fun n => messageQuote (bytes n))

def ToolRun.badChoice {α : Type} [BEq α] (r : ToolRun) (argv0 : Bytes) (option : String)
    (arg : Bytes) (why : ChoiceError) (choices : List (String × α)) : ToolRun :=
  let what := match why with
    | .invalid => "invalid argument "
    | .ambiguous => "ambiguous argument "
  { (r.err (toolMessage argv0 (bytes what ++ messageQuote arg ++ bytes " for " ++
      messageQuote (bytes option)) ++ bytes "Valid arguments are:" ++ choiceLines choices ++
      [10] ++ tryHelp argv0)) with status := 1 }

end LintBridge.Host
