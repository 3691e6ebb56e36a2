import LintBridge.Host.Shell.Run
/-!
# Launching programs

A program is started by its name (looked up on the search path unless it holds a slash) with its
arguments, no input, and an environment of `PATH` and `HOME`, in the root directory. Shells run
their scripts; the other programs are the tools of the machine. A name that leads to no program
is refused before anything runs.
-/

namespace LintBridge.Host

open Shell

/-- Runs a program of the machine by its name, with standard input empty and its output and
error streams kept: how it ends (none when a signal ended it), and what it wrote. -/
def launch (home name : String) (args : List String) : Outcome :=
  let fs : Files := { home := home }
  match fs.resolve name with
  | .error e => .refused e
  | .ok _ =>
    let machine : Machine := { files := fs, inputs := [(0, [])] }
    let process : Process :=
      { name := bytes "launcher", arg0 := bytes "launcher", pid := 1,
        fds := [(0, .reader 0), (1, .writer (.terminal 1)), (2, .writer (.terminal 2))],
        vars := [("PATH", { value := some (bytes searchPath), exported := true }),
                 ("HOME", { value := some (bytes home), exported := true })] }
    let path := if name.contains '/' then name else programPath name
    let env := [("PATH", bytes searchPath), ("HOME", bytes home)]
    let fuel := 100000
    let run : Sh (Option Nat) := do
      match fs.find path with
      | .ok (.program prog) =>
        if prog == "sh" || prog == "dash" || prog == "bash" then
          match ← runShell fuel (prog == "bash") (bytes name) (args.map bytes) env with
          | .exited code => pure (some code)
          | .signaled _ => pure none
        else do
          runProgram fuel path (bytes name) (args.map bytes) env
          pure (some (← status))
      | _ => pure (some 126)
    let (r, s) := (run.run).run { proc := process, machine := machine }
    let code := match r with
      | .ok c => c.map (Int.ofNat ·)
      | .error _ => some (Int.ofNat s.proc.status)
    .finished code s.machine.out s.machine.err

end LintBridge.Host
