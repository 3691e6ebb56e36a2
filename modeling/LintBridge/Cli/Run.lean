import LintBridge.Cli.Parse
import LintBridge.Config.Load
import LintBridge.Linter.Check
import LintBridge.Diagnostic.Json
import LintBridge.Diagnostic.KnownErrors
import LintBridge.Diagnostic.Docs
import LintBridge.Json.Write
/-!
# Running the command line

`check` lints each file under the loaded defaults and the options given, and exits with 2 when
some file could not be checked, else 1 when there are diagnostics, else 0. `errors` lists the
documented identifiers with their pages.
-/

namespace LintBridge.Cli

/-- How a run ends: with an exit status, with an error that ends it, or with a fault. -/
inductive Ending where
  | exit (code : Nat)
  | failure (message : String)
  | fault (f : Fault)
  deriving Repr

/-- What a run wrote and how it ended. -/
structure RunResult where
  out : String
  err : String
  ending : Ending
  deriving Repr

/-- The absolute form of a path, against a working directory: `.` parts are dropped, `..` parts
are kept, and a trailing slash stays. -/
def absolutePath (cwd path : String) : String :=
  let parts := (path.splitOn "/").filter fun c => c ≠ "" ∧ c ≠ "."
  let base :=
    if path.startsWith "/" then
      if path.startsWith "//" ∧ ¬path.startsWith "///" then "//" else "/"
    else cwd
  let joined := parts.foldl (fun acc c => if acc.endsWith "/" then acc ++ c else acc ++ "/" ++ c) base
  if path.endsWith "/" ∧ ¬joined.endsWith "/" then joined ++ "/" else joined

/-- The settings of a `check` run: the loaded defaults with the options given over them. -/
def CheckRequest.settings (r : CheckRequest) (d : Settings) : Settings where
  command := r.command.getD d.command
  showErrors := r.showErrors.getD d.showErrors
  maxErrors := if r.maxErrors.isSome then r.maxErrors else d.maxErrors
  outputFormat := r.format.getD d.outputFormat
  severity := r.severity.getD d.severity
  docsUrl := d.docsUrl

/-- The records of one file, under its absolute path. -/
structure FileReport where
  path : String
  records : List Record

def reportsJson (reports : List FileReport) : Json :=
  .arr (reports.map fun r => .obj [("path", .str r.path), ("diagnostics", .arr (r.records.map Record.toJson))])

/-- The rows a report prints: each record with the path of its file. -/
def FileReport.rows (r : FileReport) : List (String × Record) := r.records.map (r.path, ·)

/-- Prints one more row after the lines written so far, unless a fault has stopped the printing;
a row that cannot be printed stops it. -/
def printRow : String × Option Fault → String × Record → String × Option Fault
  | (out, some f), _ => (out, some f)
  | (out, none), (path, record) =>
    match record.render path with
    | .ok line => (out ++ line ++ "\n", none)
    | .error f => (out, some f)

/-- The lines of the reports, one per record, or the fault that stops them with the lines
written before it. -/
def reportLines (reports : List FileReport) : String × Option Fault :=
  (reports.flatMap FileReport.rows).foldl printRow ("", none)

/-- Checks one more file under its absolute path: its records join the reports, or its failure is
written on standard error under the name the file was given as. -/
def checkStep (launch : Launcher) (home : Option String) (cwd : String) (s : Settings)
    (acc : List FileReport × String × Bool) (file : String) : List FileReport × String × Bool :=
  let path := absolutePath cwd file
  match checkFile launch home path s with
  | .ok records => (acc.1 ++ [⟨path, records⟩], acc.2.1, acc.2.2)
  | .error e => (acc.1, acc.2.1 ++ file ++ ": " ++ e.message ++ "\n", true)

/-- Checks the files and prints what was found. -/
def runCheck (launch : Launcher) (home : Option String) (cwd : String) (r : CheckRequest)
    (s : Settings) : RunResult :=
  let (reports, err, failed) := r.files.foldl (checkStep launch home cwd s) ([], "", false)
  let code := if failed then 2 else if reports.any (!·.records.isEmpty) then 1 else 0
  if r.json then ⟨Json.pretty 0 (reportsJson reports) ++ "\n", err, .exit code⟩
  else
    match reportLines reports with
    | (out, some f) => ⟨out, err, .fault f⟩
    | (out, none) => ⟨out, err, .exit code⟩

def padIdentifier (id : String) : String :=
  id ++ String.ofList (List.replicate (24 - id.length) ' ')

def runErrors (docsUrl : String) : RunResult :=
  let lines := KnownErrors.names.toList.map fun id =>
    padIdentifier id ++ " " ++ Docs.documentationUrl id docsUrl ++ "\n"
  ⟨String.join lines, "", .exit 0⟩

/-- Runs what a command line asks for. -/
def run (launch : Launcher) (home : Option String) (world : Config.Surroundings) (inv : Invocation) :
    RunResult :=
  let loaded := match inv.config with
    | some path => Config.loadFrom world (some path)
    | none => Config.load world
  match loaded with
  | .error e => ⟨"", "", .failure (": ".intercalate ("Failed to load configuration" :: e.chain))⟩
  | .ok d =>
    match inv.request with
    | .check r => runCheck launch home world.cwd r (r.settings d)
    | .errors docsUrl => runErrors (docsUrl.getD d.docsUrl)

def faultReport (message : String) : String :=
  "\nthread panicked\n" ++ message ++
    "\nnote: run with `RUST_BACKTRACE=1` environment variable to display a backtrace\n"

/-- What the program shows for a command line, and its exit status: help on standard output,
other refusals on standard error with status 2, a failure as `Error: ` and its reasons with
status 2, and a fault with status 101. -/
def program (launch : Launcher) (home : Option String) (world : Config.Surroundings) (args : List String) :
    String × String × Nat :=
  match readArgs args with
  | .error (.refused e) =>
    if e.kind = .displayHelp then (e.text, "", 0) else ("", e.text, 2)
  | .error (.broken message) => ("", faultReport message, 101)
  | .ok inv =>
    let r := run launch home world inv
    match r.ending with
    | .exit code => (r.out, r.err, code)
    | .failure message => (r.out, r.err ++ "Error: " ++ message ++ "\n", 2)
    | .fault f => (r.out, r.err ++ faultReport f.message, 101)

end LintBridge.Cli
