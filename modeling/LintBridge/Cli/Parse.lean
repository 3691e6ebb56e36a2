import LintBridge.Cli.Spec
import LintBridge.Cli.Similar
import LintBridge.Settings.Basic
/-!
# Reading the command line

The arguments are read left to right as commands, options (`--name`, `--name=value`, `-h`) and
operands, with `--` ending the options. Each option's values are checked when the next option,
command or the end is reached, so the first wrong argument is the one reported.
-/

namespace LintBridge.Cli

/-- Why a command line was not read. Help that was asked for is one of them. -/
inductive ArgErrorKind where
  | displayHelp
  | displayHelpOnMissingArgumentOrSubcommand
  | missingRequiredArgument
  | missingSubcommand
  | valueValidation
  | invalidValue
  | unknownArgument
  | argumentConflict
  | invalidSubcommand
  | tooManyValues
  deriving DecidableEq, Repr

/-- The name of a kind. -/
def ArgErrorKind.name : ArgErrorKind → String
  | .displayHelp => "DisplayHelp"
  | .displayHelpOnMissingArgumentOrSubcommand => "DisplayHelpOnMissingArgumentOrSubcommand"
  | .missingRequiredArgument => "MissingRequiredArgument"
  | .missingSubcommand => "MissingSubcommand"
  | .valueValidation => "ValueValidation"
  | .invalidValue => "InvalidValue"
  | .unknownArgument => "UnknownArgument"
  | .argumentConflict => "ArgumentConflict"
  | .invalidSubcommand => "InvalidSubcommand"
  | .tooManyValues => "TooManyValues"

/-- A command line that was not read, and the text shown for it. -/
structure ArgError where
  kind : ArgErrorKind
  text : String
  deriving Repr

/-- A command line is refused, or the reader itself fails on it. -/
inductive ArgFailure where
  | refused (e : ArgError)
  | broken (message : String)
  deriving Repr

/-- Why a value is refused: it is empty where a value must not be, or it does not read. -/
inductive Refusal where
  | empty
  | invalid (reason : String)

/-- Reads a count the way an unsigned 64-bit integer is read: an optional `+`, then digits; the
first character that is no digit, or the first digit that makes it too large, refuses it. -/
def readCount (s : String) : Except String Nat :=
  let tooLarge := "number too large to fit in target type"
  let badDigit := "invalid digit found in string"
  let go : List Char → Nat → Except String Nat := fun cs start =>
    cs.foldl (fun acc c => acc.bind fun n =>
      if c.isDigit then
        let m := 10 * n + (c.toNat - '0'.toNat)
        if m < Nat.pow 2 64 then .ok m else .error tooLarge
      else .error badDigit) (.ok start)
  match s.toList with
  | [] => .error "cannot parse integer from empty string"
  | ['+'] => .error badDigit
  | ['-'] => .error badDigit
  | '+' :: rest => go rest 0
  | cs => go cs 0

def checkValue (id value : String) : Option Refusal :=
  let reason {α : Type} (r : Except UnknownChoice α) : Option Refusal :=
    match r with
    | .ok _ => none
    | .error e => some (.invalid e.message)
  if id = "show-errors" then reason (DisplayMode.ofName value)
  else if id = "format" then reason (Layout.ofName value)
  else if id = "severity" then reason (Severity.ofName value)
  else if id = "max-errors" then
    match readCount value with
    | .ok _ => none
    | .error r => some (.invalid r)
  else if id = "FILES" ∧ value.isEmpty then some .empty
  else none

/-- What an argument read: the values of each argument given, by the name of the option or the
placeholder of the operands. -/
abbrev Matches := List (String × List String)

/-- Where the reader is: between arguments, waiting for an option's value, or among operands. -/
inductive ReadState where
  | idle
  | awaiting (id : String)
  | operands
  deriving DecidableEq

/-- What has been read of one command: the arguments given, the argument whose values are still
being collected, where the reader is, and whether `--` was seen. -/
structure Reading where
  matched : Matches := []
  pending : Option (String × List String) := none
  state : ReadState := .idle
  trailing : Bool := false

def CommandSpec.option? (c : CommandSpec) (long : String) : Option OptionSpec :=
  c.options.find? (·.long = long)

def CommandSpec.isOperand (c : CommandSpec) (id : String) : Bool :=
  match c.operand with
  | some p => p.value == id
  | none => false

/-- The long names a command knows, in the order of its arguments. -/
def CommandSpec.longs (c : CommandSpec) : List String :=
  c.options.map (·.long) ++ (if c.helpFlag then ["help"] else [])

def CommandSpec.labelOf (c : CommandSpec) (id : String) : String :=
  match c.option? id, c.operand with
  | some o, _ => o.label
  | none, some p => if p.value = id then p.label else "--" ++ id
  | none, none => "--" ++ id

/-- The usage line that names the arguments given: the options among them in the order they
were given, then the required operands, then `<COMMAND>` when a command must follow. -/
def CommandSpec.usageWith (c : CommandSpec) (used : List String) : String :=
  let required := match c.operand with
    | some p => if p.required then [p.value] else []
    | none => []
  let ids := (required ++ used).eraseDups
  let options := ids.filter (fun id => !c.isOperand id)
  let operands := ids.filter c.isOperand
  c.usageName ++ String.join ((options ++ operands).map fun id => " " ++ c.labelOf id) ++
    (if c.commands.isEmpty then "" else " <COMMAND>")

def CommandSpec.usageFor (c : CommandSpec) (used : List String) : String :=
  if used.isEmpty then c.usage else c.usageWith used

def CommandSpec.errorText (c : CommandSpec) (message : String) (tips : List String)
    (usage : Option String) : String :=
  "error: " ++ message ++
    (if tips.isEmpty then "" else "\n" ++ String.join (tips.map ("\n  tip: " ++ ·))) ++
    (match usage with
     | some u => "\n\nUsage: " ++ u
     | none => "") ++
    (if c.helpFlag then "\n\nFor more information, try '--help'.\n" else "\n")

/-- An error of a command. -/
def CommandSpec.fail (c : CommandSpec) (kind : ArgErrorKind) (message : String) (tips : List String)
    (usage : Option String) : ArgError :=
  ⟨kind, c.errorText message tips usage⟩

/-- The help of a command, asked for. -/
def CommandSpec.help (c : CommandSpec) : ArgError := ⟨.displayHelp, c.helpText⟩

/-- The arguments given that a usage line may name: all but the required operands. -/
def CommandSpec.named (c : CommandSpec) (m : Matches) : List String :=
  (m.map (·.1)).filter fun id =>
    match c.operand with
    | some p => !(p.required && p.value == id)
    | none => true

def addValues (m : Matches) (id : String) (values : List String) (gather : Bool) : Matches :=
  if gather ∧ (m.lookup id).isSome then m.map fun (k, vs) => if k = id then (k, vs ++ values) else (k, vs)
  else m ++ [(id, values)]

/-- Takes the collected values of an argument: the option needs one, may not be given twice,
and each value must pass its check. Gives what is read even when it fails, as far as it got. -/
def CommandSpec.commit (c : CommandSpec) (m : Matches) (id : String) (values : List String) :
    Matches × Option ArgError :=
  let label := c.labelOf id
  let gather := c.isOperand id
  if !gather ∧ values.isEmpty then
    (m, some (c.fail .invalidValue ("a value is required for '" ++ label ++ "' but none was supplied") [] none))
  else if !gather ∧ (m.lookup id).isSome then
    (m.filter (·.1 ≠ id), some (c.fail .argumentConflict
      ("the argument '" ++ label ++ "' cannot be used multiple times") [] (some c.usage)))
  else
    let refused := values.findSome? fun v => (checkValue id v).map (v, ·)
    match refused with
    | some (_, .empty) =>
      (addValues m id [] gather,
        some (c.fail .invalidValue ("a value is required for '" ++ label ++ "' but none was supplied") [] none))
    | some (v, .invalid reason) =>
      (addValues m id [] gather,
        some (c.fail .valueValidation ("invalid value '" ++ v ++ "' for '" ++ label ++ "': " ++ reason) [] none))
    | none => (addValues m id values gather, none)

def CommandSpec.settle (c : CommandSpec) (r : Reading) : Reading × Option ArgError :=
  match r.pending with
  | none => (r, none)
  | some (id, values) =>
    let (m, e) := c.commit r.matched id values
    ({ r with matched := m, pending := none }, e)

/-- Takes the pending argument's values, stopping at an error. -/
def CommandSpec.resolve (c : CommandSpec) (r : Reading) : Except ArgError Reading :=
  match c.settle r with
  | (r', none) => .ok r'
  | (_, some e) => .error e

def CommandSpec.setFlag (c : CommandSpec) (r : Reading) (id : String) : Except ArgError Reading := do
  let r ← c.resolve r
  if (r.matched.lookup id).isSome then
    .error (c.fail .argumentConflict ("the argument '" ++ c.labelOf id ++ "' cannot be used multiple times")
      [] (some c.usage))
  else .ok { r with matched := r.matched ++ [(id, ["true"])], state := .idle }

def similarTip (what : String) (names : List String) : String :=
  match names with
  | [n] => "a similar " ++ what ++ " exists: '" ++ n ++ "'"
  | _ => "some similar " ++ what ++ "s exist: " ++ ", ".intercalate (names.map fun n => "'" ++ n ++ "'")

def operandTip (arg : String) : String :=
  "to pass '" ++ arg ++ "' as a value, use '-- " ++ arg ++ "'"

def CommandSpec.closeOption (c : CommandSpec) (name : String) (rest : List String) :
    Option (String × Option String) :=
  match (closeNames name c.longs).getLast? with
  | some n => some (n, none)
  | none =>
    let found := c.commands.filterMap fun (sub, _) =>
      match commandNamed sub, rest.idxOf? sub with
      | some s, some place =>
        (closeNames name s.longs).getLast?.map fun n => (place, (n, some sub))
      | _, _ => none
    let first := found.foldl (fun best x =>
      match best with
      | some b => if x.1 < b.1 then some x else some b
      | none => some x) none
    first.map (·.2)

def CommandSpec.unknownLong (c : CommandSpec) (r : Reading) (name : String) (rest : List String) : ArgError :=
  let arg := "--" ++ name
  let close := c.closeOption name rest
  let matched := match close with
    | some (n, none) => if (r.matched.lookup n).isSome then r.matched else r.matched ++ [(n, [])]
    | _ => r.matched
  let tips := match close with
    | some (n, none) => [similarTip "argument" ["--" ++ n]]
    | some (n, some sub) => ["'" ++ sub ++ " --" ++ n ++ "' exists"]
    | none => if !r.trailing ∧ c.operand.isSome then [operandTip arg] else []
  c.fail .unknownArgument ("unexpected argument '" ++ arg ++ "' found") tips (some (c.usageFor (c.named matched)))

/-- An argument that is neither an option nor an operand of the command. -/
def CommandSpec.stray (c : CommandSpec) (arg : String) (trailing : Bool) : ArgError :=
  let names := c.commands.map (·.1)
  if trailing ∧ names.contains arg then
    c.fail .unknownArgument ("unexpected argument '" ++ arg ++ "' found")
      ["subcommand '" ++ arg ++ "' exists; to use it, remove the '--' before it"] (some c.usage)
  else if !names.isEmpty then
    let close := closeNames arg names
    c.fail .invalidSubcommand ("unrecognized subcommand '" ++ arg ++ "'")
      (if close.isEmpty then [] else [similarTip "subcommand" close]) (some c.usage)
  else
    c.fail .unknownArgument ("unexpected argument '" ++ arg ++ "' found") [] (some c.usage)

def helpCommand (names : List String) : ArgError :=
  let rec walk (c : CommandSpec) : List String → ArgError
    | [] => c.help
    | n :: rest =>
      match (if c.commands.any (·.1 = n) then commandNamed n else none) with
      | some s => walk s rest
      | none => c.fail .invalidSubcommand ("unrecognized subcommand '" ++ n ++ "'") [] (some c.usage)
  walk rootSpec names

/-- A command line read: the arguments of the program and of the command that follows. -/
structure Parsed where
  matched : Matches
  command : Option (String × Matches)

/-- The checks at the end of a command's arguments. -/
def CommandSpec.finish (c : CommandSpec) (r : Reading) (command : Option (String × Matches)) :
    Except ArgFailure Parsed :=
  match c.resolve r with
  | .error e => .error (.refused e)
  | .ok r =>
    if command.isNone ∧ !c.commands.isEmpty then
      if r.matched.isEmpty then .error (.refused ⟨.displayHelpOnMissingArgumentOrSubcommand, c.helpText⟩)
      else
        .error (.refused (c.fail .missingSubcommand
          ("'" ++ c.usageName ++ "' requires a subcommand but one was not provided\n  [subcommands: " ++
            ", ".intercalate (c.commands.map (·.1)) ++ "]") [] (some c.usage)))
    else
      match c.operand with
      | some p =>
        if p.required ∧ (r.matched.lookup p.value).isNone then
          .error (.refused (c.fail .missingRequiredArgument
            ("the following required arguments were not provided:\n  " ++ p.label) []
            (some (c.usageWith (r.matched.map (·.1) ++ [p.value])))))
        else .ok ⟨r.matched, command⟩
      | none => .ok ⟨r.matched, command⟩

/-- Reads the arguments of a command. -/
def CommandSpec.read (c : CommandSpec) (r : Reading) : List String → Except ArgFailure Parsed
  | [] => c.finish r none
  | arg :: rest =>
    let refuse (e : ArgError) : Except ArgFailure Parsed := .error (.refused e)
    let isCommand := !r.trailing ∧ r.state ≠ .operands ∧ c.commands.any (·.1 = arg)
    if isCommand then
      if arg = "help" then refuse (helpCommand rest)
      else
        match c.resolve r, commandNamed arg with
        | .error e, _ => refuse e
        | .ok r', some sub =>
          match sub.read {} rest with
          | .error e => .error e
          | .ok p => c.finish r' (some (arg, p.matched))
        | .ok r', none => c.finish r' none
    else if !r.trailing ∧ arg = "--" then c.read { r with trailing := true } rest
    else if !r.trailing ∧ arg.startsWith "--" then
      let body := (arg.drop 2).toString
      let (name, attached) := match body.splitOn "=" with
        | [] => (body, none)
        | [n] => (n, none)
        | n :: more => (n, some ("=".intercalate more))
      if name.isEmpty then .error (.broken "internal error: entered unreachable code: `to_long` always has the flag specified")
      else if name = "help" ∧ c.helpFlag then
        match attached with
        | some v =>
          refuse (c.fail .tooManyValues ("unexpected value '" ++ v ++ "' for '--help' found; no more were expected")
            [] (some (c.usageFor (c.named r.matched ++ ["help"]))))
        | none =>
          match c.resolve r with
          | .error e => refuse e
          | .ok _ => refuse c.help
      else
        match c.option? name with
        | some o =>
          match o.value, attached with
          | none, some v =>
            refuse (c.fail .tooManyValues ("unexpected value '" ++ v ++ "' for '" ++ o.label ++
              "' found; no more were expected") [] (some (c.usageFor (c.named r.matched ++ [name]))))
          | none, none =>
            match c.setFlag r name with
            | .error e => refuse e
            | .ok r' => c.read r' rest
          | some _, some v =>
            match c.resolve r with
            | .error e => refuse e
            | .ok r' =>
              match c.commit r'.matched name [v] with
              | (_, some e) => refuse e
              | (m, none) => c.read { r' with matched := m, state := .idle } rest
          | some _, none =>
            match c.resolve r with
            | .error e => refuse e
            | .ok r' => c.read { r' with pending := some (name, []), state := .awaiting name } rest
        | none => refuse (c.unknownLong (c.settle r).1 name rest)
    else if !r.trailing ∧ arg.startsWith "-" ∧ arg ≠ "-" then
      let first := (arg.drop 1).toString.toList.headD ' '
      if first = 'h' ∧ c.helpFlag then
        match c.resolve r with
        | .error e => refuse e
        | .ok _ => refuse c.help
      else
        let shown := "-" ++ String.singleton first
        refuse (c.fail .unknownArgument ("unexpected argument '" ++ shown ++ "' found")
          (if c.operand.isSome then [operandTip shown] else []) (some c.usage))
    else
      match r.state, r.trailing with
      | .awaiting id, false =>
        let values := match r.pending with
          | some (_, vs) => vs
          | none => []
        c.read { r with pending := some (id, values ++ [arg]), state := .idle } rest
      | _, _ =>
        match c.operand with
        | some p =>
          let continuing := match r.pending with
            | some (id, _) => id == p.value
            | none => false
          let settled := if continuing then .ok r else c.resolve r
          match settled with
          | .error e => refuse e
          | .ok r' =>
            let values := match r'.pending with
              | some (_, vs) => vs
              | none => []
            c.read { r' with pending := some (p.value, values ++ [arg]), state := .operands } rest
        | none => refuse (c.stray arg r.trailing)

/-- What `check` is asked to do. -/
structure CheckRequest where
  files : List String
  command : Option String
  showErrors : Option DisplayMode
  maxErrors : Option Nat
  format : Option Layout
  severity : Option Severity
  json : Bool
  deriving Repr

/-- What the command line asks for. -/
inductive Request where
  | check (r : CheckRequest)
  | errors (docsUrl : Option String)
  deriving Repr

/-- A command line read: the configuration file named, and the request. -/
structure Invocation where
  config : Option String
  request : Request
  deriving Repr

def Matches.value? (m : Matches) (id : String) : Option String :=
  (m.lookup id).bind (·.head?)

/-- The request of a command line read. -/
def Parsed.invocation (p : Parsed) : Option Invocation := do
  let (name, sub) ← p.command
  let config := (sub.value? "config").orElse fun _ => p.matched.value? "config"
  if name = "check" then
    let choice {α : Type} (read : String → Except UnknownChoice α) (id : String) : Option α :=
      (sub.value? id).bind fun v => (read v).toOption
    pure ⟨config, .check {
      files := (sub.lookup "FILES").getD []
      command := sub.value? "command"
      showErrors := choice DisplayMode.ofName "show-errors"
      maxErrors := (sub.value? "max-errors").bind fun v => (readCount v).toOption
      format := choice Layout.ofName "format"
      severity := choice Severity.ofName "severity"
      json := (sub.lookup "json").isSome }⟩
  else pure ⟨config, .errors (sub.value? "docs-url")⟩

/-- Reads a command line, the program's name excluded. -/
def readArgs (args : List String) : Except ArgFailure Invocation :=
  match rootSpec.read {} args with
  | .error e => .error e
  | .ok p =>
    match p.invocation with
    | some i => .ok i
    | none => .error (.refused ⟨.missingSubcommand, ""⟩)

end LintBridge.Cli
