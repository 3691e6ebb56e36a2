import LintBridge.Cli.Run
/-!
# The command line

Gathers what the command needs from the process, the arguments, the working directory, the
`NORMINETTE_*` variables and `HOME`, and the configuration files it may read, then runs it
and prints what it prints, exiting with its code. Programs are launched by the host model.
-/

open LintBridge

def variableNames : List String :=
  Config.pathVariable :: Config.settingKeys.map fun k => "NORMINETTE_" ++ k.toUpper

def readVariables : IO (List (String × String)) :=
  variableNames.filterMapM fun name => do
    return (← IO.getEnv name).map fun v => (name, v)

def readIfThere (path : String) : IO (Option (String × String)) := do
  try
    return some (path, ← IO.FS.readFile path)
  catch _ =>
    return none

def readConfigFiles (cwd : String) (names : List String) : IO (List (String × String)) :=
  (names.flatMap (Config.pathsFor cwd)).filterMapM readIfThere

def configArgument (args : List String) : Option String :=
  match Cli.readArgs args with
  | .ok inv => inv.config
  | .error _ => none

def main (args : List String) : IO UInt32 := do
  let cwd := (← IO.currentDir).toString
  let env ← readVariables
  let names := Config.defaultName :: ((env.lookup Config.pathVariable).toList ++ (configArgument args).toList)
  let files ← readConfigFiles cwd names
  let home ← IO.getEnv "HOME"
  let (out, err, code) := Cli.program (Host.launch (home.getD "/")) home ⟨cwd, files, env⟩ args
  IO.print out
  IO.eprint err
  (← IO.getStdout).flush
  return code.toUInt32
