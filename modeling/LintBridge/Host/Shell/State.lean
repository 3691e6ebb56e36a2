import LintBridge.Host.Shell.Parse
import LintBridge.Host.Numeral
/-!
# Shell scripts: the state of a run

A running shell is a process of its own on a machine that all processes share. A subshell gets a
copy of its parent's process; what it did to the machine stays. Commands end normally or unwind
to their loop, their function, the end of the process or the end of the program.
-/

namespace LintBridge.Host.Shell

/-- A shell variable: its value (none when declared without one) and attributes. -/
structure Var where
  value : Option Bytes
  exported : Bool := false
  readonly : Bool := false

/-- The shell's options. Job control and interactivity cannot be turned on without a terminal,
so they stay off. -/
structure Options where
  errexit : Bool := false
  noglob : Bool := false
  ignoreeof : Bool := false
  noexec : Bool := false
  stdinScript : Bool := false
  xtrace : Bool := false
  verbose : Bool := false
  vi : Bool := false
  emacs : Bool := false
  noclobber : Bool := false
  allexport : Bool := false
  notify : Bool := false
  nounset : Bool := false
  privileged : Bool := false

/-- The option letters and their options, in the order `$-` lists them backwards. -/
def Options.letters (o : Options) : List (Char × Bool) :=
  [('e', o.errexit), ('f', o.noglob), ('I', o.ignoreeof), ('n', o.noexec), ('s', o.stdinScript),
    ('x', o.xtrace), ('v', o.verbose), ('V', o.vi), ('E', o.emacs), ('C', o.noclobber),
    ('a', o.allexport), ('b', o.notify), ('u', o.nounset), ('p', o.privileged)]

def Options.setLetter (o : Options) (c : Char) (on : Bool) : Option Options :=
  match c with
  | 'e' => some { o with errexit := on }
  | 'f' => some { o with noglob := on }
  | 'I' => some { o with ignoreeof := on }
  | 'n' => some { o with noexec := on }
  | 's' => some { o with stdinScript := on }
  | 'x' => some { o with xtrace := on }
  | 'v' => some { o with verbose := on }
  | 'V' => some { o with vi := on }
  | 'E' => some { o with emacs := on }
  | 'C' => some { o with noclobber := on }
  | 'a' => some { o with allexport := on }
  | 'b' => some { o with notify := on }
  | 'u' => some { o with nounset := on }
  | 'p' => some { o with privileged := on }
  | 'i' | 'm' => some o
  | _ => none

def Options.setNamed (o : Options) (name : String) (on : Bool) : Option Options :=
  match name with
  | "errexit" => o.setLetter 'e' on
  | "noglob" => o.setLetter 'f' on
  | "ignoreeof" => o.setLetter 'I' on
  | "noexec" => o.setLetter 'n' on
  | "stdin" => o.setLetter 's' on
  | "xtrace" => o.setLetter 'x' on
  | "verbose" => o.setLetter 'v' on
  | "vi" => o.setLetter 'V' on
  | "emacs" => o.setLetter 'E' on
  | "noclobber" => o.setLetter 'C' on
  | "allexport" => o.setLetter 'a' on
  | "notify" => o.setLetter 'b' on
  | "nounset" => o.setLetter 'u' on
  | "privileged" => o.setLetter 'p' on
  | "interactive" | "monitor" | "nolog" | "debug" => some o
  | _ => none

/-- The long names of the options with their state, as `set -o` lists them. -/
def Options.named (o : Options) : List (String × Bool) :=
  [("errexit", o.errexit), ("noglob", o.noglob), ("ignoreeof", o.ignoreeof),
    ("interactive", false), ("monitor", false), ("noexec", o.noexec), ("stdin", o.stdinScript),
    ("xtrace", o.xtrace), ("verbose", o.verbose), ("vi", o.vi), ("emacs", o.emacs),
    ("noclobber", o.noclobber), ("allexport", o.allexport), ("notify", o.notify),
    ("nounset", o.nounset), ("privileged", o.privileged), ("nolog", false), ("debug", false)]

/-- What `local` saved in a function, put back when it returns: a variable as it was (none when
unset), or with `-` the options. -/
inductive Saved where
  | var (name : String) (old : Option Var)
  | options (o : Options)

/-- Where writes to a descriptor go. -/
inductive Sink where
  /-- The program's own output (1) or error (2) stream. -/
  | terminal (fd : Nat)
  | null
  | file (path : String)
  /-- A capture: a pipe or a command substitution. -/
  | buffer (id : Nat)
  deriving DecidableEq

/-- An open descriptor. -/
inductive Channel where
  | writer (s : Sink)
  /-- Reads from an input stream of the machine. -/
  | reader (id : Nat)
  /-- A directory opened for reading: every read of it fails. -/
  | directory
  deriving DecidableEq

/-- What all processes of a run share: the files, the terminal streams, the captures and the
input streams. -/
structure Machine where
  files : Files
  out : Bytes := []
  err : Bytes := []
  buffers : List (Nat × Bytes) := []
  inputs : List (Nat × Bytes) := []
  nextId : Nat := 1

/-- A function: its body and the line it was defined on. -/
structure FunctionDef where
  body : Command
  line : Nat

/-- A process of the shell. -/
structure Process where
  /-- The name errors are reported under: `$0` as the shell started. -/
  name : Bytes
  arg0 : Bytes
  params : List Bytes := []
  vars : List (String × Var) := []
  funcs : List (String × FunctionDef) := []
  opts : Options := {}
  fds : List (Nat × Channel)
  traps : List (Nat × Bytes) := []
  status : Nat := 0
  pid : Nat
  lastBackground : Option Nat := none
  jobs : List (Nat × Nat) := []
  lineno : Nat := 0
  funcLine : Nat := 0
  commandName : Option String := none
  locals : List (List Saved) := []
  /-- Whether the shell is the larger one of the machine, which words some messages otherwise. -/
  bash : Bool := false
  loopDepth : Nat := 0
  substStatus : Option Nat := none
  hashed : List String := []
  /-- The aliases, in the order they were first defined. -/
  aliases : List (String × Bytes) := []
  /-- Where `getopts` stands: the index of the next argument, counting from 1, and the offset
  of the next letter in the argument before it, while letters are left there. -/
  optind : Nat := 1
  optoff : Option Nat := none
  /-- The file mode creation mask. -/
  umask : Nat := 18
  /-- Whether a write to the standard output failed since the builtin running started. -/
  outputFailed : Bool := false

/-- The whole state: the running process and the machine. -/
structure State where
  proc : Process
  machine : Machine

/-- How a command unwinds instead of ending normally. -/
inductive Flow where
  | breakLoop (n : Nat)
  | continueLoop (n : Nat)
  | returnFrom
  /-- The process ends, with the status of the state. -/
  | exit
  /-- An error, with status 2: it ends the process, unless it happened in a regular builtin. -/
  | failed
  /-- The whole program is ended by a signal. -/
  | killed (pid signal : Nat)

abbrev Sh := ExceptT Flow (StateM State)

/-- Runs shell code and gives how it ended, so that the caller decides what unwinds further. -/
def attempt {α : Type} (x : Sh α) : Sh (Except Flow α) := ExceptT.lift x.run

def resume {α : Type} : Except Flow α → Sh α
  | .ok a => pure a
  | .error f => throw f

/-! ## Text -/

/-- A number in decimal. -/
def decimal (n : Nat) : Bytes := bytes (toString n)

/-- An integer in decimal. -/
def decimalInt (n : Int) : Bytes := bytes (toString n)

/-! ## The process -/

def proc : Sh Process := do return (← get).proc

def modifyProc (f : Process → Process) : Sh Unit :=
  modify fun s => { s with proc := f s.proc }

def modifyMachine (f : Machine → Machine) : Sh Unit :=
  modify fun s => { s with machine := f s.machine }

/-- The machine's files. -/
def files : Sh Files := do return (← get).machine.files

def setStatus (n : Nat) : Sh Unit := modifyProc fun p => { p with status := n }

/-- The status of the last command. -/
def status : Sh Nat := do return (← proc).status

def freshId : Sh Nat := do
  let s ← get
  set { s with machine := { s.machine with nextId := s.machine.nextId + 1 } }
  return s.machine.nextId

/-! ## Writing and reading descriptors -/

/-- Bytes written to a sink. -/
def Machine.put (m : Machine) (sink : Sink) (bs : Bytes) : Machine :=
  match sink with
  | .terminal 1 => { m with out := m.out ++ bs }
  | .terminal _ => { m with err := m.err ++ bs }
  | .null => m
  | .file path => { m with files := m.files.append path bs }
  | .buffer id =>
    { m with buffers := m.buffers.map fun (k, b) => if k == id then (k, b ++ bs) else (k, b) }

def writeFd (fd : Nat) (bs : Bytes) : Sh Bool := do
  match (← proc).fds.lookup fd with
  | some (.writer sink) => do
    if !bs.isEmpty then modifyMachine fun m => m.put sink bs
    return true
  | _ => return false

/-- Writes bytes to a descriptor. Bytes for a standard output that is not open for writing are
lost, and the failure is noted for the builtin that wrote them. -/
def write (fd : Nat) (bs : Bytes) : Sh Unit := do
  let ok ← writeFd fd bs
  if !ok && fd == 1 && !bs.isEmpty then modifyProc fun p => { p with outputFailed := true }

def pendingInput (fd : Nat) : Sh Bytes := do
  match (← proc).fds.lookup fd with
  | some (.reader id) => return ((← get).machine.inputs.lookup id).getD []
  | _ => return []

def pendingStdin : Sh (Except OsError Bytes) := do
  match (← proc).fds.lookup 0 with
  | some .directory => return .error .isADirectory
  | _ => return .ok (← pendingInput 0)

def consumeInput (fd : Nat) (rest : Bytes) : Sh Unit := do
  match (← proc).fds.lookup fd with
  | some (.reader id) =>
    modifyMachine fun m =>
      { m with inputs := m.inputs.map fun (k, b) => if k == id then (k, rest) else (k, b) }
  | _ => pure ()

def newInput (bs : Bytes) : Sh Channel := do
  let id ← freshId
  modifyMachine fun m => { m with inputs := (id, bs) :: m.inputs }
  return .reader id

def setFd (fd : Nat) (c : Option Channel) : Sh Unit :=
  modifyProc fun p =>
    let rest := p.fds.filter (·.1 != fd)
    { p with fds := match c with
      | some ch => (fd, ch) :: rest
      | none => rest }

/-! ## Messages -/

def messagePrefix : Sh Bytes := do
  let p ← proc
  let base := p.name ++ bytes (": " ++ (if p.bash then "line " else "") ++ toString p.lineno ++ ": ")
  return match p.commandName with
    | some c => base ++ bytes (c ++ ": ")
    | none => base

/-- Writes a message of the shell to its error stream. -/
def report (msg : Bytes) : Sh Unit := do
  write 2 ((← messagePrefix) ++ msg ++ [10])

def reportNotFound (cmd : Bytes) : Sh Unit := do
  report (cmd ++ bytes (if (← proc).bash then ": command not found" else ": not found"))

def fatal {α : Type} (msg : Bytes) : Sh α := do
  report msg
  setStatus 2
  throw .failed

/-! ## Variables -/

def findVar (name : String) : Sh (Option Var) := do return (← proc).vars.lookup name

def varValue (name : String) : Sh (Option Bytes) := do
  return ((← findVar name).bind (·.value))

def putVar (name : String) (v : Var) : Sh Unit :=
  modifyProc fun p => { p with vars := (name, v) :: p.vars.filter (·.1 != name) }

def assign (name : String) (value : Bytes) : Sh Unit := do
  let p ← proc
  match p.vars.lookup name with
  | some v =>
    if v.readonly then fatal (bytes (name ++ ": is read only"))
    else putVar name { v with value := some value, exported := v.exported || p.opts.allexport }
  | none => putVar name { value := some value, exported := p.opts.allexport }
  if name == "OPTIND" then
    let k := (readDigitsIn 10 (value.takeWhile isDigitByte)).1
    modifyProc fun p => { p with optind := if k == 0 then 1 else k, optoff := none }

def assignExported (name : String) (value : Bytes) : Sh Unit := do
  assign name value
  match ← findVar name with
  | some v => putVar name { v with exported := true }
  | none => pure ()

def removeVar (name : String) : Sh Unit :=
  modifyProc fun p => { p with vars := p.vars.filter (·.1 != name) }

/-- The exported variables with values, as a program's environment. -/
def environment : Sh (List (String × Bytes)) := do
  return (← proc).vars.reverse.filterMap fun (k, v) =>
    if v.exported then v.value.map (k, ·) else none

def fieldSeparators : Sh Bytes := do
  return ((← varValue "IFS").getD [32, 9, 10])

def optionFlags : Sh Bytes := do
  let o := (← proc).opts
  return bytes (String.ofList ((o.letters.filter (·.2)).map (·.1)).reverse)

end LintBridge.Host.Shell
