/-!
# The command line's grammar and help

The commands `check`, `errors` and `help`, and the `--config` option before or after them. Each
command is a `CommandSpec`, from which its help text and usage line are made.
-/

namespace LintBridge.Cli

/-- An option: its long name, the placeholder of its value (none for a flag), its help line and
its rank in the listing. -/
structure OptionSpec where
  long : String
  value : Option String
  help : String
  rank : Nat
  deriving Repr

/-- How an option is written in help and messages: `--name <VALUE>` or `--name`. -/
def OptionSpec.label (o : OptionSpec) : String :=
  "--" ++ o.long ++ match o.value with
    | some v => " <" ++ v ++ ">"
    | none => ""

/-- The operands of a command: their placeholder, help line, and whether one is required. -/
structure OperandSpec where
  value : String
  help : String
  required : Bool
  deriving Repr

/-- How operands are written: `<FILES>...` when required, `[COMMAND]...` when not. -/
def OperandSpec.label (p : OperandSpec) : String :=
  if p.required then "<" ++ p.value ++ ">..." else "[" ++ p.value ++ "]..."

/-- A command: its name, the name it is shown under in usage lines, what it does, its options,
whether it has `-h, --help`, its operands and its commands (by name, with what they do). -/
structure CommandSpec where
  name : String
  usageName : String
  about : String
  options : List OptionSpec
  helpFlag : Bool
  operand : Option OperandSpec
  commands : List (String × String)
  deriving Repr

def programName : String := "norminette-diag"

def configOption : OptionSpec :=
  ⟨"config", some "CONFIG", "Path to config file (overrides default search)", 0⟩

def checkSpec : CommandSpec where
  name := "check"
  usageName := programName ++ " check"
  about := "Lint files and print diagnostics"
  options := [
    ⟨"command", some "COMMAND", "Linter command (the file path is appended)", 0⟩,
    ⟨"show-errors", some "SHOW_ERRORS", "Show only the first finding per file, or all of them", 1⟩,
    ⟨"max-errors", some "MAX_ERRORS", "Maximum diagnostics per file", 2⟩,
    ⟨"format", some "FORMAT", "Layout of the linter's report: tabbed, colon", 3⟩,
    ⟨"severity", some "SEVERITY", "Severity reported for every finding: error, warning", 4⟩,
    ⟨"json", none, "Print JSON instead of one line per diagnostic", 5⟩,
    configOption]
  helpFlag := true
  operand := some ⟨"FILES", "Files to check", true⟩
  commands := []

def errorsSpec : CommandSpec where
  name := "errors"
  usageName := programName ++ " errors"
  about := "List documented error identifiers and their pages"
  options := [⟨"docs-url", some "DOCS_URL", "Documentation root (defaults to the configured one)", 0⟩,
    configOption]
  helpFlag := true
  operand := none
  commands := []

def helpSpec : CommandSpec where
  name := "help"
  usageName := programName ++ " help"
  about := "Print this message or the help of the given subcommand(s)"
  options := []
  helpFlag := false
  operand := some ⟨"COMMAND", "Print help for the subcommand(s)", false⟩
  commands := []

def rootSpec : CommandSpec where
  name := programName
  usageName := programName
  about := "Run norminette and print its findings as diagnostics"
  options := [configOption]
  helpFlag := true
  operand := none
  commands := [(checkSpec.name, checkSpec.about), (errorsSpec.name, errorsSpec.about),
    (helpSpec.name, helpSpec.about)]

def commandNamed (name : String) : Option CommandSpec :=
  [checkSpec, errorsSpec, helpSpec].find? (·.name = name)

/-- Spaces. -/
def spaces (n : Nat) : String := String.ofList (List.replicate n ' ')

/-- Lines of a listing: each label padded to the widest one plus two, then its help. -/
def listing (indent : String) (rows : List (String × String)) : List String :=
  let widest := rows.foldl (fun w (label, _) => max w label.length) 2
  rows.map fun (label, help) => indent ++ label ++ spaces (widest + 2 - label.length) ++ help

/-- Whether option `a` is listed before option `b`: lower rank first, then by name. -/
def OptionSpec.before (a b : OptionSpec) : Bool :=
  a.rank < b.rank || (a.rank == b.rank && decide (a.long < b.long))

def insertOption (o : OptionSpec) : List OptionSpec → List OptionSpec
  | [] => [o]
  | p :: rest => if o.before p then o :: p :: rest else p :: insertOption o rest

def CommandSpec.sortedOptions (c : CommandSpec) : List OptionSpec :=
  c.options.foldl (fun acc o => insertOption o acc) []

def CommandSpec.optionLines (c : CommandSpec) : List String :=
  let rows := c.sortedOptions.map fun o => ("    " ++ o.label, o.help)
  let rows := if c.helpFlag then rows ++ [("-h, --help", "Print help")] else rows
  let widest := rows.foldl (fun w (label, _) => max w (label.length - 4)) 2
  rows.map fun (label, help) => "  " ++ label ++ spaces (widest + 2 - (label.length - 4)) ++ help

/-- The usage line of a command, without its heading. -/
def CommandSpec.usage (c : CommandSpec) : String :=
  c.usageName ++ (if c.options.isEmpty then "" else " [OPTIONS]") ++
    (match c.operand with
     | some p => " " ++ p.label
     | none => "") ++
    (if c.commands.isEmpty then "" else " <COMMAND>")

def CommandSpec.helpText (c : CommandSpec) : String :=
  let commands := if c.commands.isEmpty then [] else
    ["Commands:\n" ++ "\n".intercalate (listing "  " c.commands)]
  let operands := match c.operand with
    | some p => ["Arguments:\n" ++ "\n".intercalate (listing "  " [(p.label, p.help)])]
    | none => []
  let options := if c.options.isEmpty ∧ ¬c.helpFlag then [] else
    ["Options:\n" ++ "\n".intercalate c.optionLines]
  c.about ++ "\n\nUsage: " ++ c.usage ++ "\n\n" ++ "\n\n".intercalate (commands ++ operands ++ options) ++ "\n"

end LintBridge.Cli
