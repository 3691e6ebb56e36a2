import LintBridge.Host.Shell.Builtins
import LintBridge.Host.Shell.Pattern
import LintBridge.Host.Shell.Arith
import LintBridge.Host.Shell.Glob
/-!
# Shell scripts: running them

A script runs one line at a time, each line read and then run. Pipelines, subshells, command
substitutions and background jobs run in a copy of the process, their parts one after the other.
Every function takes the depth it may still nest, and a run is given enough for any script here.
-/

namespace LintBridge.Host.Shell

/-! ## Values of parameters -/

def paramValue (name : String) : Sh (Option Bytes) := do
  let p ← proc
  match name with
  | "#" => return some (decimal p.params.length)
  | "?" => return some (decimal p.status)
  | "$" => return some (decimal p.pid)
  | "!" => return p.lastBackground.map decimal
  | "-" => return some (← optionFlags)
  | "0" => return some p.arg0
  | _ =>
    let b := bytes name
    if !b.isEmpty && b.all isDigitByte then
      let k := (readDigitsIn 10 b).1
      return if k == 0 then some p.arg0 else p.params[k - 1]?
    else varValue name

def joinSeparator : Sh Bytes := do
  match ← varValue "IFS" with
  | none => return [32]
  | some [] => return []
  | some (c :: _) => return [c]

def allParamsAtoms (split quoted : Bool) (name : String) : Sh (List Atom) := do
  let ps := (← proc).params
  if split && quoted && name == "@" then
    return [Atom.hardBreak].intercalate (ps.map fun p => .mark :: quotedAtoms p)
  else if split && !quoted then
    return [Atom.softBreak].intercalate (ps.map (expandedAtoms false))
  else
    let sep ← joinSeparator
    return (expandedAtoms quoted sep).intercalate (ps.map (expandedAtoms quoted))

def dropTrailingNewlines (bs : Bytes) : Bytes := (bs.reverse.dropWhile (· == 10)).reverse

/-- Evaluates an arithmetic expression; its assignments stay, and its errors end the shell. -/
def arithmetic (text : Bytes) : Sh Int64 := do
  let vars := (← proc).vars
  let env := fun name => (vars.lookup name).bind (·.value)
  let (result, assigned) := evalArith env text
  for (k, x) in assigned do assign k (decimalInt x.toInt)
  match result with
  | .ok v => return v
  | .error (.malformed msg) =>
    fatal (bytes ("arithmetic expression: " ++ msg ++ ": \"") ++ text ++ bytes "\"")
  | .error (.illegalNumber t) => fatal (bytes "Illegal number: " ++ t)
  | .error .overflow => throw (.killed (← proc).pid 8)

def tildeHome (user : Bytes) : Sh (Option Bytes) := do
  if user.isEmpty then
    match ← varValue "HOME" with
    | some h => return if h.isEmpty then none else some h
    | none => return none
  else return (accountHome user.text).map bytes

def tildePiece (assignment atPoint last : Bool) (s : Bytes) : Sh (List Piece) := do
  let segments := if assignment then s.splitOn 58 else [s]
  let count := segments.length
  let mut out : List Piece := []
  for (seg, i) in segments.zipIdx do
    let sep : List Piece := if i + 1 < count then [.lit [58]] else []
    let point := if i == 0 then atPoint else true
    match seg with
    | 126 :: more =>
      let user := more.takeWhile (· != 47)
      let after := more.drop user.length
      let cut := after.isEmpty && i + 1 == count && !last
      match ← (if point && !cut then tildeHome user else pure none) with
      | some home => out := out ++ [.single home] ++ (if after.isEmpty then [] else [.lit after]) ++ sep
      | none => out := out ++ [.lit seg] ++ sep
    | _ => out := out ++ [.lit seg] ++ sep
  return out

def expandTildes (assignment : Bool) : Nat → Bool → List Piece → Sh (List Piece)
  | 0, _, ps => pure ps
  | _ + 1, _, [] => pure []
  | n + 1, atPoint, p :: rest => do
    match p with
    | .lit s =>
      let front ← tildePiece assignment atPoint rest.isEmpty s
      let more ← expandTildes assignment n (assignment && s.getLast? == some 58) rest
      pure (front ++ more)
    | _ => pure (p :: (← expandTildes assignment n false rest))

/-- The kind of command a name runs. -/
inductive CommandKind where
  | special
  | function (f : FunctionDef)
  | builtin
  | program (path : String)
  | missing

def findInPath (name : String) : Sh (Option String) := do
  let some path := (← varValue "PATH") | return none
  let fs ← files
  let dirs := path.text.splitOn ":"
  return dirs.findSome? fun dir =>
    let candidate := (if dir.isEmpty then "." else dir) ++ "/" ++ name
    match fs.find candidate with
    | .ok (.program _) => some candidate
    | _ => none

def classify (name : String) (functions : Bool) : Sh CommandKind := do
  if name.contains '/' then return .program name
  else if specialBuiltins.contains name then return .special
  else do
    let funcs := (← proc).funcs
    match (if functions then funcs.lookup name else none) with
    | some f => return .function f
    | none =>
      if regularBuiltins.contains name then return .builtin
      else
        match ← findInPath name with
        | some p => return .program p
        | none => return .missing

def describeCommand (name : Bytes) (verbose : Bool) : Sh Bool := do
  let k := asciiText name
  let say (long short : Bytes) : Sh Bool := do
    write 1 ((if verbose then name ++ long else short) ++ [10])
    return true
  if keywords.contains k then say (bytes " is a shell keyword") name
  else
    match ← classify k true with
    | .special => say (bytes " is a special shell builtin") name
    | .builtin => say (bytes " is a shell builtin") name
    | .function _ => say (bytes " is a shell function") name
    | .program p =>
      if k.contains '/' then
        match (← files).find k with
        | .ok (.program _) => say (bytes " is " ++ name) name
        | _ => do
          if verbose then write 1 (name ++ bytes ": not found\n")
          return false
      else do
        let tracked := (← proc).hashed.contains k
        modifyProc fun pr => { pr with hashed := if tracked then pr.hashed else k :: pr.hashed }
        say (bytes (if tracked then " is a tracked alias for " ++ p else " is " ++ p)) (bytes p)
    | .missing => do
      if verbose then write 1 (name ++ bytes ": not found\n")
      return false

def typeBuiltin (args : List Bytes) : Sh Unit := do
  let mut status := 0
  for a in args do
    if !(← describeCommand a true) then status := 127
  setStatus status

def hashBuiltin (args : List Bytes) : Sh Unit := do
  if args.isEmpty then
    for k in (← proc).hashed.reverse do
      match ← findInPath k with
      | some p => write 1 (bytes p ++ [10])
      | none => pure ()
    setStatus 0
  else if args == [bytes "-r"] then
    modifyProc fun p => { p with hashed := [] }
    setStatus 0
  else
    let mut status := 0
    for a in args do
      match ← findInPath (asciiText a) with
      | some _ => modifyProc fun p =>
          { p with hashed := if p.hashed.contains (asciiText a) then p.hashed else (asciiText a) :: p.hashed }
      | none => do
        report (a ++ bytes ": not found")
        status := 1
    setStatus status

/-! ## Files of redirections -/

def openError (e : OsError) : String :=
  match e with
  | .notFound | .notADirectory => "No such file"
  | e => e.text

def createError (e : OsError) : String :=
  match e with
  | .notFound | .notADirectory => "Directory nonexistent"
  | e => e.text

def openRedirect (mode : FileMode) (name : Bytes) : Sh (Except Bytes Channel) := do
  let path := name.text
  let fs ← files
  let copyOf (k : Nat) : Sh (Except Bytes Channel) := do
    match (← proc).fds.lookup k with
    | some ch => return .ok ch
    | none => return .ok (.writer .null)
  match mode with
  | .read =>
    match fs.find path with
    | .ok (.file content _) => return .ok (← newInput content)
    | .ok (.device (.descriptor k)) => copyOf k
    | .ok (.directory _) => return .ok .directory
    | .ok _ => return .ok (← newInput [])
    | .error e => return .error (bytes "cannot open " ++ name ++ bytes (": " ++ openError e))
  | .readWrite =>
    match fs.find path with
    | .ok (.file content _) => return .ok (← newInput content)
    | .ok (.device (.descriptor k)) => copyOf k
    | .ok (.directory _) => return .error (bytes "cannot create " ++ name ++ bytes ": Is a directory")
    | .ok _ => return .ok (← newInput [])
    | .error _ =>
      match fs.creatable path with
      | .ok () => do
        modifyMachine fun m => { m with files := m.files.write path [] }
        return .ok (← newInput [])
      | .error e => return .error (bytes "cannot create " ++ name ++ bytes (": " ++ createError e))
  | mode =>
    let target := absolutePath fs.cwd path
    match fs.find path with
    | .ok (.file _ _) =>
      if mode == .write && (← proc).opts.noclobber then
        return .error (bytes "cannot create " ++ name ++ bytes ": File exists")
      else do
        if mode != .append then modifyMachine fun m => { m with files := m.files.write path [] }
        return .ok (.writer (.file target))
    | .ok (.program _) =>
      return .error (bytes "cannot create " ++ name ++ bytes ": Permission denied")
    | .ok (.directory _) => return .error (bytes "cannot create " ++ name ++ bytes ": Is a directory")
    | .ok (.device (.descriptor k)) => copyOf k
    | .ok (.device _) => return .ok (.writer .null)
    | .error .notFound =>
      match fs.creatable path with
      | .ok () => do
        modifyMachine fun m => { m with files := m.files.write path [] }
        return .ok (.writer (.file target))
      | .error e => return .error (bytes "cannot create " ++ name ++ bytes (": " ++ createError e))
    | .error e => return .error (bytes "cannot create " ++ name ++ bytes (": " ++ createError e))

def Redirect.fd : Redirect → Nat
  | .file fd _ _ | .dup fd _ _ | .here fd _ | .hereBody fd _ => fd

def restoreFds (saved : List (Nat × Channel)) (rs : List Redirect) : Sh Unit := do
  for fd in (rs.map Redirect.fd).eraseDups do
    setFd fd (saved.lookup fd)

def withTemporaryVars (values : List (String × Bytes)) (body : Sh Unit) : Sh Unit := do
  if values.isEmpty then body
  else
    let mut saved : List (String × Option Var) := []
    for (k, v) in values do
      saved := (k, ← findVar k) :: saved
      assign k v
      match ← findVar k with
      | some var => putVar k { var with exported := true }
      | none => pure ()
    let r ← attempt body
    for (k, old) in saved do
      match old with
      | some v => putVar k v
      | none => removeVar k
    resume r

def popLocals : Sh Unit := do
  match (← proc).locals with
  | frame :: outer => do
    for saved in frame.reverse do
      match saved with
      | .var k (some v) => putVar k v
      | .var k none => removeVar k
      | .options o => modifyProc fun p => { p with opts := o }
    modifyProc fun p => { p with locals := outer }
  | [] => pure ()

def survive (act : Sh Unit) : Sh Unit := do
  match ← attempt act with
  | .error .failed => pure ()
  | r => resume r

def checkErrexit (tested : Bool) : Sh Unit := do
  let p ← proc
  if p.opts.errexit && !tested && p.status != 0 then throw .exit

def traceCommand (values : List (String × Bytes)) (fields : List Bytes) : Sh Unit := do
  if (← proc).opts.xtrace then
    let ps4 := (← varValue "PS4").getD (bytes "+ ")
    let items := values.map (fun (k, v) => bytes k ++ [61] ++ v) ++ fields
    write 2 (ps4 ++ [32].intercalate items ++ [10])

/-- How a nested shell ended: with a status, or by a signal. -/
inductive ShellEnd where
  | exited (code : Nat)
  | signaled (signal : Nat)

/-- The options of a shell's command line: the options set, the command of `-c`, and the
arguments left; or the error. -/
structure Invocation where
  opts : Options := {}
  command : Bool := false
  rest : List Bytes := []

def readInvocation : Nat → List Bytes → Invocation → Except Bytes Invocation
  | 0, args, inv => .ok { inv with rest := args }
  | _ + 1, [], inv => .ok { inv with rest := [] }
  | n + 1, a :: rest, inv =>
    match a with
    | 45 :: [] => .ok { inv with rest := rest }
    | 45 :: 45 :: [] => .ok { inv with rest := rest }
    | c :: letters =>
      if c == 45 || c == 43 then
        let on := c == 45
        match letterLoop (letters.length + 1) on letters rest inv with
        | .ok (inv, rest) => readInvocation n rest inv
        | .error e => .error e
      else .ok { inv with rest := a :: rest }
    | [] => .ok { inv with rest := a :: rest }
where
  letterLoop : Nat → Bool → Bytes → List Bytes → Invocation → Except Bytes (Invocation × List Bytes)
    | 0, _, _, rest, inv => .ok (inv, rest)
    | _ + 1, _, [], rest, inv => .ok (inv, rest)
    | k + 1, on, l :: ls, rest, inv =>
      if l == 99 then letterLoop k on ls rest { inv with command := true }
      else if l == 108 then letterLoop k on ls rest inv
      else if l == 111 then
        match rest with
        | name :: more =>
          match inv.opts.setNamed (asciiText name) on with
          | some o => letterLoop k on ls more { inv with opts := o }
          | none => .error (bytes "Illegal option -o " ++ name)
        | [] => letterLoop k on ls [] inv
      else
        match inv.opts.setLetter (Char.ofNat l.toNat) on with
        | some o => letterLoop k on ls rest { inv with opts := o }
        | none => .error (bytes "Illegal option " ++ [if on then 45 else 43, l])

/-- Carries out what a standalone program did: its writes, its files, the input it read and
its status. -/
def finishRun (r : ToolRun) : Sh Unit := do
  for (fd, bs) in r.writes do write fd bs
  modifyMachine fun m => { m with files := r.files }
  match r.inputLeft with
  | some rest => consumeInput 0 rest
  | none => pure ()
  setStatus r.status

mutual

def expandPieces : Nat → Bool → Bool → Bool → List Piece → Sh (List Atom)
  | 0, _, _, _, _ => pure []
  | _ + 1, _, _, _, [] => pure []
  | n + 1, split, quoted, litSplits, p :: ps => do
    let a ← expandPiece n split quoted litSplits p
    let b ← expandPieces n split quoted litSplits ps
    pure (a ++ b)

def expandPiece : Nat → Bool → Bool → Bool → Piece → Sh (List Atom)
  | 0, _, _, _, _ => pure []
  | n + 1, split, quoted, litSplits, p =>
    match p with
    | .lit s => pure (s.map fun b => Atom.byte b quoted (litSplits && !quoted))
    | .esc b => pure [.byte b true false]
    | .single s => pure (.mark :: quotedAtoms s)
    | .double [.param "@" .plain] =>
      if split then expandParam n split true "@" .plain
      else do
        let a ← expandParam n split true "@" .plain
        pure (.mark :: a)
    | .double ps => do
      let a ← expandPieces n split true false ps
      pure (.mark :: a)
    | .param name op => expandParam n split quoted name op
    | .command c => do
      let out ← substitute n c
      pure (expandedAtoms quoted (dropTrailingNewlines out))
    | .arith ps => do
      let a ← expandPieces n false true false ps
      let v ← arithmetic (Atom.bytes a)
      pure (expandedAtoms quoted (decimalInt v.toInt))

def expandParam : Nat → Bool → Bool → String → ParamOp → Sh (List Atom)
  | 0, _, _, _, _ => pure []
  | n + 1, split, quoted, name, op => do
    let p ← proc
    let isAll := name == "@" || name == "*"
    let value ← if isAll then pure (if p.params.isEmpty then none else some ([32].intercalate p.params))
      else paramValue name
    let isSet := value.isSome
    let isEmpty := (value.getD []).isEmpty
    let checkUnset : Sh Unit := do
      if !isSet && p.opts.nounset && !isAll then fatal (bytes name ++ bytes ": parameter not set")
    let valueAtoms : Sh (List Atom) :=
      if isAll then allParamsAtoms split quoted name
      else pure (expandedAtoms quoted (value.getD []))
    match op with
    | .plain => do checkUnset; valueAtoms
    | .length => do
      checkUnset
      let len ← if isAll then do
          let sep ← joinSeparator
          let seps := if quoted && sep.isEmpty then 0 else p.params.length - 1
          pure (p.params.foldl (fun n w => n + w.length) 0 + seps)
        else pure (value.getD []).length
      pure (expandedAtoms quoted (decimal len))
    | .useDefault colon w =>
      if !isSet || (colon && isEmpty) then expandPieces n split quoted true w else valueAtoms
    | .assignDefault colon w =>
      if !isSet || (colon && isEmpty) then do
        let a ← expandPieces n false quoted false w
        let v := Atom.bytes a
        if isName (bytes name) then assign name v
        else fatal (bytes name ++ bytes ": bad variable name")
        pure (expandedAtoms quoted v)
      else valueAtoms
    | .errorIfUnset colon w =>
      if !isSet || (colon && isEmpty) then do
        let msg ← if w.isEmpty then
            pure (bytes (if colon then "parameter not set or null" else "parameter not set"))
          else do
            let a ← expandPieces n false true false w
            pure (Atom.bytes a)
        fatal (bytes name ++ bytes ": " ++ msg)
      else valueAtoms
    | .useAlternative colon w =>
      if isSet && !(colon && isEmpty) then expandPieces n split quoted true w else pure []
    | .removePrefix longest w => do
      checkUnset
      let pat ← patternOf n w
      pure (expandedAtoms quoted (removePrefix pat longest (value.getD [])))
    | .removeSuffix longest w => do
      checkUnset
      let pat ← patternOf n w
      pure (expandedAtoms quoted (removeSuffix pat longest (value.getD [])))
    | .bad _ => fatal (bytes "Bad substitution")

def patternOf : Nat → List Piece → Sh (List PatItem)
  | 0, _ => pure []
  | n + 1, w => do
    let w ← expandTildes false (w.length + 1) true w
    let a ← expandPieces n false false false w
    pure (Pattern.ofMarked (Atom.marked a))

def expandFields : Nat → List Piece → Sh (List Bytes)
  | 0, _ => pure []
  | n + 1, w => do
    let w ← expandTildes false (w.length + 1) true w
    let a ← expandPieces n true false false w
    let ifs ← fieldSeparators
    let fields := splitFields ifs a
    if (← proc).opts.noglob then pure (fields.map Atom.bytes)
    else
      let fs ← files
      pure (fields.flatMap (globField fs))

def expandText : Nat → Bool → Bool → List Piece → Sh Bytes
  | 0, _, _, _ => pure []
  | n + 1, tilde, assignment, w => do
    let w ← if tilde then expandTildes assignment (w.length + 1) true w else pure w
    let a ← expandPieces n false false false w
    pure (Atom.bytes a)

def expandWords : Nat → List (List Piece) → Sh (List Bytes)
  | 0, _ => pure []
  | _ + 1, [] => pure []
  | n + 1, w :: ws => do
    let first ← expandFields n w
    let declaration := match first with
      | f :: _ => ["export", "readonly", "local"].contains (asciiText f)
      | [] => false
    let mut out := first
    for w' in ws do
      match declaration, assignmentOf w' with
      | true, some (k, value) =>
        out := out ++ [bytes k ++ [61] ++ (← expandText n true true value)]
      | _, _ =>
        out := out ++ (← expandFields n w')
    pure out

def substitute : Nat → Command → Sh Bytes
  | 0, _ => pure []
  | n + 1, c => do
    let id ← freshId
    modifyMachine fun m => { m with buffers := (id, []) :: m.buffers }
    let st ← subshell n (do
      setFd 1 (some (.writer (.buffer id)))
      runCommand n c false)
    let m := (← get).machine
    let out := (m.buffers.lookup id).getD []
    modifyMachine fun m => { m with buffers := m.buffers.filter (·.1 != id) }
    modifyProc fun p => { p with substStatus := some st }
    pure out

def subshell : Nat → Sh Unit → Sh Nat
  | 0, _ => pure 0
  | n + 1, body => do
    let saved ← proc
    let savedCwd := (← files).cwd
    modifyProc fun p => { p with traps := p.traps.filter (·.2.isEmpty) }
    let r ← attempt body
    match r with
    | .error (.killed pid sig) => throw (.killed pid sig)
    | _ => pure ()
    runExitTrap n
    let st := (← proc).status % 256
    modify fun s => { s with proc := saved, machine := { s.machine with files := { s.machine.files with cwd := savedCwd } } }
    pure st

def runExitTrap : Nat → Sh Unit
  | 0 => pure ()
  | n + 1 => do
    match (← proc).traps.lookup 0 with
    | some action => do
      modifyProc fun p => { p with traps := p.traps.filter (·.1 != 0) }
      let st ← status
      let r ← attempt (runText n action)
      match r with
      | .error (.killed pid sig) => throw (.killed pid sig)
      | .error .exit | .error .failed => pure ()
      | _ => setStatus st
    | none => pure ()

def runText : Nat → Bytes → Sh Unit
  | 0, _ => pure ()
  | n + 1, text => runReader n (Reader.ofBytes text)

def runReader : Nat → Reader → Sh Unit
  | 0, _ => pure ()
  | n + 1, r => do
    let aliases := (← proc).aliases
    match { r with aliases := aliases }.next with
    | .error e => do
      modifyProc fun p => { p with lineno := e.line }
      fatal (bytes e.message)
    | .ok (none, _) => pure ()
    | .ok (some c, r') => do
      if !(← proc).opts.noexec then
        match c with
        | some c => runCommand n c false
        | none => pure ()
      runReader n r'

def runCommand : Nat → Command → Bool → Sh Unit
  | 0, _, _ => pure ()
  | n + 1, c, tested => do
    if (← proc).opts.noexec then return
    match c with
    | .simple line assigns words rs => runSimple n line assigns words rs tested
    | .pipeline negate parts => do
      match parts with
      | [p] => runCommand n p true
      | _ => runPipeline n parts none (negate || tested)
      if negate then setStatus (if (← status) == 0 then 1 else 0)
      else checkErrexit tested
    | .andThen a b => do
      runCommand n a true
      if (← status) == 0 then runCommand n b tested
    | .orElse a b => do
      runCommand n a true
      if (← status) != 0 then runCommand n b tested
    | .sequence a b => do
      runCommand n a tested
      runCommand n b tested
    | .background a => do
      let pid ← freshId
      let st ← subshell n (do
        setFd 0 (some (← newInput []))
        runCommand n a false)
      modifyProc fun p => { p with jobs := (pid, st) :: p.jobs, lastBackground := some pid }
      setStatus 0
    | .subshell body rs => withRedirects n rs (do
        let st ← subshell n (runCommand n body tested)
        setStatus st
        checkErrexit tested)
    | .group body rs => withRedirects n rs (runCommand n body tested)
    | .ifThen cond body otherwise rs => withRedirects n rs (do
        runCommand n cond true
        if (← status) == 0 then runCommand n body tested
        else
          match otherwise with
          | some e => runCommand n e tested
          | none => setStatus 0)
    | .loop untilDone cond body rs => withRedirects n rs (do
        modifyProc fun p => { p with loopDepth := p.loopDepth + 1 }
        let r ← attempt (runLoop n untilDone cond body tested 0)
        modifyProc fun p => { p with loopDepth := p.loopDepth - 1 }
        resume r)
    | .forIn line name words body rs => withRedirects n rs (do
        modifyProc fun p => { p with lineno := line }
        let items ← expandWords n words
        modifyProc fun p => { p with loopDepth := p.loopDepth + 1 }
        let r ← attempt (runFor n name items body tested 0)
        modifyProc fun p => { p with loopDepth := p.loopDepth - 1 }
        resume r)
    | .caseOf line word arms rs => withRedirects n rs (do
        modifyProc fun p => { p with lineno := line }
        let text ← expandText n true false word
        runCase n text arms tested)
    | .function line name body => do
      modifyProc fun p => { p with funcs := (name, ⟨body, line⟩) :: p.funcs.filter (·.1 != name) }
      setStatus 0
    | .nothing => setStatus 0

def withRedirects : Nat → List Redirect → Sh Unit → Sh Unit
  | 0, _, _ => pure ()
  | n + 1, rs, body =>
    if rs.isEmpty then body
    else do
      let saved := (← proc).fds
      let ok ← applyRedirects n rs
      if ok then
        let r ← attempt body
        restoreFds saved rs
        resume r
      else restoreFds saved rs

def applyRedirects : Nat → List Redirect → Sh Bool
  | 0, _ => pure true
  | _ + 1, [] => pure true
  | n + 1, r :: rs => do
    let ok ← match r with
      | .file fd mode target => do
        let name ← expandText n true false target
        match ← openRedirect mode name with
        | .ok ch => do setFd fd (some ch); pure true
        | .error msg => do report msg; setStatus 2; pure false
      | .dup fd _ target => do
        let t ← expandText n true false target
        match t with
        | [45] => do setFd fd none; pure true
        | [d] =>
          if isDigitByte d then
            match (← proc).fds.lookup (d.toNat - 48) with
            | some ch => do setFd fd (some ch); pure true
            | none => do
              report (t ++ bytes ": Bad file descriptor")
              setStatus 2
              pure false
          else fatal (bytes "Syntax error: Bad fd number")
        | _ => fatal (bytes "Syntax error: Bad fd number")
      | .hereBody fd body => do
        let text ← expandText n false false body
        setFd fd (some (← newInput text))
        pure true
      | .here fd _ => do
        setFd fd (some (← newInput []))
        pure true
    if ok then applyRedirects n rs else pure false

def runSimple : Nat → Nat → List (String × List Piece) → List (List Piece) → List Redirect →
    Bool → Sh Unit
  | 0, _, _, _, _, _ => pure ()
  | n + 1, line, assigns, words, rs, tested => do
    modifyProc fun p => { p with lineno := line, substStatus := none }
    let fields ← expandWords n words
    let saved := (← proc).fds
    let ok ← applyRedirects n rs
    let kind ← match fields with
      | cmd :: _ => classify (asciiText cmd) true
      | [] => pure CommandKind.builtin
    if !ok then
      restoreFds saved rs
      match kind, fields with
      | .special, _ :: _ => throw .exit
      | _, _ => pure ()
    else
      let mut values : List (String × Bytes) := []
      for (k, w) in assigns do
        values := values ++ [(k, ← expandText n true true w)]
      traceCommand values fields
      let r ← attempt (do
        match fields with
        | [] => do
          for (k, v) in values do assign k v
          setStatus ((← proc).substStatus.getD 0)
        | cmd :: args =>
          match kind with
          | .special => do
            for (k, v) in values do assign k v
            runBuiltin n (asciiText cmd) args
          | .function f => withTemporaryVars values (runFunction n f args tested)
          | .builtin => withTemporaryVars values (survive (runBuiltin n (asciiText cmd) args))
          | .program path => do
            let env ← environment
            let env := env.filter (fun (k, _) => !values.any (·.1 == k)) ++ values
            if !(asciiText cmd).contains '/' then
              modifyProc fun p =>
                { p with hashed := if p.hashed.contains (asciiText cmd) then p.hashed else (asciiText cmd) :: p.hashed }
            runProgram n path cmd args env
          | .missing => do
            reportNotFound cmd
            setStatus 127)
      let keep := match fields with
        | [e] => e == bytes "exec"
        | _ => false
      if !keep then restoreFds saved rs
      resume r
      checkErrexit tested

def runPipeline : Nat → List Command → Option Channel → Bool → Sh Unit
  | 0, _, _, _ => pure ()
  | _ + 1, [], _, _ => pure ()
  | n + 1, [p], input, tested => do
    let st ← subshell n (do
      match input with
      | some ch => setFd 0 (some ch)
      | none => pure ()
      runCommand n p tested)
    setStatus st
  | n + 1, p :: rest, input, tested => do
    let id ← freshId
    modifyMachine fun m => { m with buffers := (id, []) :: m.buffers }
    let _ ← subshell n (do
      match input with
      | some ch => setFd 0 (some ch)
      | none => pure ()
      setFd 1 (some (.writer (.buffer id)))
      runCommand n p tested)
    let out := ((← get).machine.buffers.lookup id).getD []
    modifyMachine fun m => { m with buffers := m.buffers.filter (·.1 != id) }
    let ch ← newInput out
    runPipeline n rest (some ch) tested

def runLoop : Nat → Bool → Command → Command → Bool → Nat → Sh Unit
  | 0, _, _, _, _, last => setStatus last
  | n + 1, untilDone, cond, body, tested, last => do
    let r ← attempt (runCommand n cond true)
    match r with
    | .error (.breakLoop k) =>
      if k > 1 then throw (.breakLoop (k - 1)) else setStatus 0
    | .error (.continueLoop k) =>
      if k > 1 then throw (.continueLoop (k - 1)) else runLoop n untilDone cond body tested last
    | .error f => throw f
    | .ok () =>
      if ((← status) == 0) == untilDone then setStatus last
      else
        let r ← attempt (runCommand n body tested)
        match r with
        | .ok () => runLoop n untilDone cond body tested (← status)
        | .error (.breakLoop k) =>
          if k > 1 then throw (.breakLoop (k - 1)) else pure ()
        | .error (.continueLoop k) =>
          if k > 1 then throw (.continueLoop (k - 1))
          else runLoop n untilDone cond body tested (← status)
        | .error f => throw f

def runFor : Nat → String → List Bytes → Command → Bool → Nat → Sh Unit
  | 0, _, _, _, _, last => setStatus last
  | _ + 1, _, [], _, _, last => setStatus last
  | n + 1, name, item :: items, body, tested, _ => do
    assign name item
    let r ← attempt (runCommand n body tested)
    match r with
    | .ok () => runFor n name items body tested (← status)
    | .error (.breakLoop k) =>
      if k > 1 then throw (.breakLoop (k - 1)) else pure ()
    | .error (.continueLoop k) =>
      if k > 1 then throw (.continueLoop (k - 1)) else runFor n name items body tested (← status)
    | .error f => throw f

def runCase : Nat → Bytes → List CaseArm → Bool → Sh Unit
  | 0, _, _, _ => pure ()
  | _ + 1, _, [], _ => setStatus 0
  | n + 1, word, .arm pats body :: arms, tested => do
    if ← matchesAny n word pats then
      match body with
      | some b => runCommand n b tested
      | none => setStatus 0
    else runCase n word arms tested

def matchesAny : Nat → Bytes → List (List Piece) → Sh Bool
  | 0, _, _ => pure false
  | _ + 1, _, [] => pure false
  | n + 1, word, p :: ps => do
    let pat ← patternOf n p
    if matchesAll pat word then pure true else matchesAny n word ps

def runFunction : Nat → FunctionDef → List Bytes → Bool → Sh Unit
  | 0, _, _, _ => pure ()
  | n + 1, f, args, tested => do
    let saved ← proc
    modifyProc fun p =>
      { p with params := args, locals := [] :: p.locals, loopDepth := 0, funcLine := f.line,
               optind := 1, optoff := none }
    let r ← attempt (runCommand n f.body tested)
    popLocals
    modifyProc fun p =>
      { p with params := saved.params, loopDepth := saved.loopDepth, funcLine := saved.funcLine,
               optind := saved.optind, optoff := saved.optoff }
    match r with
    | .error .returnFrom => pure ()
    | r => resume r

def runBuiltin : Nat → String → List Bytes → Sh Unit
  | 0, _, _ => pure ()
  | n + 1, name, args =>
    if name == "command" then commandBuiltin n args
    else asBuiltin name (do
      match name with
      | ":" | "true" => setStatus 0
      | "false" => setStatus 1
      | "echo" => echoBuiltin args
      | "printf" => printfBuiltin args
      | "test" => testBuiltin false args
      | "[" => testBuiltin true args
      | "exit" => exitBuiltin args
      | "return" => returnBuiltin args
      | "break" => breakBuiltin false args
      | "continue" => breakBuiltin true args
      | "shift" => shiftBuiltin args
      | "set" => setBuiltin args
      | "unset" => unsetBuiltin args
      | "export" => attributeBuiltin false args
      | "readonly" => attributeBuiltin true args
      | "local" => localBuiltin args
      | "cd" => cdBuiltin args
      | "pwd" => pwdBuiltin args
      | "read" => readBuiltin args
      | "trap" => trapBuiltin args
      | "wait" => waitBuiltin args
      | "umask" => umaskBuiltin args
      | "times" => timesBuiltin
      | "ulimit" => ulimitBuiltin
      | "alias" => aliasBuiltin args
      | "unalias" => unaliasBuiltin args
      | "getopts" => getoptsBuiltin args
      | "type" => typeBuiltin args
      | "hash" => hashBuiltin args
      | "kill" => do
        match ← killBuiltin args with
        | some action => do
          let st ← status
          runText n action
          setStatus st
        | none => pure ()
      | "eval" => do
        setStatus 0
        runText n ([32].intercalate args)
      | "." => dotBuiltin n args
      | "exec" => execBuiltin n args
      | _ => setStatus 0)

def dotBuiltin : Nat → List Bytes → Sh Unit
  | 0, _ => pure ()
  | n + 1, args => do
    match args with
    | [] => setStatus 0
    | file :: rest => do
      let fs ← files
      let path ← if file.contains 47 then pure (some file.text)
        else do
          let path := ((← varValue "PATH").map Bytes.text).getD ""
          let dirs := if path.isEmpty && (← varValue "PATH").isNone then [] else path.splitOn ":"
          pure (dirs.findSome? fun dir =>
            let candidate := (if dir.isEmpty then "." else dir) ++ "/" ++ file.text
            match fs.find candidate with
            | .ok (.file _ _) => some candidate
            | _ => none)
      match path with
      | none => fatal (file ++ bytes ": not found")
      | some p =>
        let content : Except OsError Bytes := match fs.read p with
          | .error .isADirectory => .ok []
          | c => c
        match content with
        | .error e => fatal (bytes "cannot open " ++ file ++ bytes (": " ++ openError e))
        | .ok content => do
          let saved := (← proc).params
          if !rest.isEmpty then modifyProc fun pr => { pr with params := rest }
          setStatus 0
          let r ← attempt (runText n content)
          if !rest.isEmpty then modifyProc fun pr => { pr with params := saved }
          match r with
          | .error .returnFrom => pure ()
          | r => resume r

def execBuiltin : Nat → List Bytes → Sh Unit
  | 0, _ => pure ()
  | n + 1, args => do
    match args with
    | [] => setStatus 0
    | cmd :: rest => do
      let path ← if cmd.contains 47 then pure (some cmd.text) else findInPath (asciiText cmd)
      match path with
      | some p => do
        runProgram n p cmd rest (← environment)
        throw .exit
      | none => do
        reportNotFound cmd
        setStatus 127
        throw .exit

def commandBuiltin : Nat → List Bytes → Sh Unit
  | 0, _ => pure ()
  | n + 1, args => do
    let opts := args.takeWhile fun a => a.length > 1 && a.head? == some 45 && a != bytes "--"
    let rest := args.drop opts.length
    let rest := if rest.head? == some (bytes "--") then rest.drop 1 else rest
    let letters := opts.flatMap (·.drop 1)
    if letters.contains 118 || letters.contains 86 then asBuiltin "command" do
      match rest with
      | a :: _ => setStatus (if ← describeCommand a (letters.contains 86) then 0 else 127)
      | [] => setStatus 0
    else
      match rest with
      | [] => setStatus 0
      | cmd :: cmdArgs =>
        match ← classify (asciiText cmd) false with
        | .special | .builtin => runBuiltin n (asciiText cmd) cmdArgs
        | .program path => runProgram n path cmd cmdArgs (← environment)
        | _ => do
          report (cmd ++ bytes ": not found")
          setStatus 127

/-- Runs a program with the current descriptors. -/
def runProgram : Nat → String → Bytes → List Bytes → List (String × Bytes) → Sh Unit
  | 0, _, _, _, _ => pure ()
  | n + 1, path, argv0, args, env => do
    let fs ← files
    match fs.find path with
    | .ok (.program prog) =>
      if prog == "sh" || prog == "dash" || prog == "bash" then do
        match ← runShell n (prog == "bash") argv0 args env with
        | .exited code => setStatus code
        | .signaled sig =>
          -- the shell that waited says which signal ended the command, unless it is an
          -- interrupt or a broken pipe
          if !(← proc).bash && sig != 2 && sig != 13 then write 2 (bytes (signalText sig) ++ [10])
          setStatus (128 + sig)
      else if prog == "env" then runEnv n argv0 args env
      else do
        let input ← pendingStdin
        finishRun (runTool prog argv0 args env input fs)
    | .ok _ => do
      report (argv0 ++ bytes ": Permission denied")
      setStatus 126
    | .error _ => do
      report (argv0 ++ bytes ": not found")
      setStatus 127

def runEnv : Nat → Bytes → List Bytes → List (String × Bytes) → Sh Unit
  | 0, _, _, _ => pure ()
  | n + 1, argv0, args, env => do
    let fs ← files
    match envRequest argv0 args env fs with
    | .done r => finishRun r
    | .launch env dir cmd rest =>
      let moved : Except (Bytes × OsError) String := match dir with
        | none => .ok fs.cwd
        | some d =>
          match fs.find d.text with
          | .ok (.directory _) => .ok (absolutePath fs.cwd d.text)
          | .ok _ => .error (d, .notADirectory)
          | .error e => .error (d, e)
      match moved with
      | .error (d, e) => do
        write 2 (toolMessage argv0 (bytes "cannot change directory to " ++ fileQuote d ++
          bytes ": " ++ e.bytes))
        setStatus 125
      | .ok cwd => do
        let saved := fs.cwd
        modifyMachine fun m => { m with files := { m.files with cwd := cwd } }
        match findCommand (← files) (env.lookup "PATH") cmd with
        | .ok p => runProgram n p cmd rest env
        | .error e => do
          write 2 (toolMessage argv0 (messageQuote cmd ++ bytes ": " ++ e.bytes))
          -- a name with a blank is likely a whole line of options from a script's first line
          if e == .notFound && cmd.any (fun b => b == 32 || (9 ≤ b && b ≤ 13)) then
            write 2 (toolMessage argv0 (bytes "use -[v]S to pass options in shebang lines"))
          setStatus (if e == .notFound then 127 else 126)
        modifyMachine fun m => { m with files := { m.files with cwd := saved } }

def runShell : Nat → Bool → Bytes → List Bytes → List (String × Bytes) → Sh ShellEnd
  | 0, _, _, _, _ => pure (.exited 0)
  | n + 1, bash, argv0, args, env => do
    let parent ← proc
    match readInvocation (args.length + 1) args {} with
    | .error msg => do
      write 2 (argv0 ++ bytes ": 0: " ++ msg ++ [10])
      pure (.exited 2)
    | .ok inv => do
      let fs ← files
      let source : Except Bytes (Bytes × Bytes × List Bytes) :=
        if inv.command then
          match inv.rest with
          | [] => .error (bytes "-c requires an argument")
          | cmd :: more =>
            match more with
            | name :: params => .ok (cmd, name, params)
            | [] => .ok (cmd, argv0, [])
        else if inv.opts.stdinScript || inv.rest.isEmpty then .ok ([], argv0, inv.rest)
        else
          match inv.rest with
          | file :: params =>
            -- a directory opens, and reading it fails as an end of input would
            match fs.read file.text with
            | .ok content => .ok (content, file, params)
            | .error .isADirectory => .ok ([], file, params)
            | .error e => .error (bytes "cannot open " ++ file ++ bytes (": " ++ openError e))
          | [] => .ok ([], argv0, [])
      match source with
      | .error msg => do
        write 2 (argv0 ++ bytes ": 0: " ++ msg ++ [10])
        pure (.exited 2)
      | .ok (script, name, params) => do
        let stdinScript := !inv.command && (inv.opts.stdinScript || inv.rest.isEmpty)
        let pid ← freshId
        let vars : List (String × Var) := env.reverse.map fun (k, v) => (k, { value := some v, exported := true })
        -- the environment overrides the defaults, but not the variables the shell always sets
        let defaults : List (String × Bytes) :=
          [("PATH", bytes searchPath), ("PS1", bytes "# "), ("PS2", bytes "> "), ("PS4", bytes "+ ")]
        let vars := defaults.foldl (fun vs (k, v) =>
          if vs.any (·.1 == k) then vs else vs ++ [(k, { value := some v })]) vars
        let fixed : List (String × Bytes) :=
          [("IFS", bytes " \t\n"), ("OPTIND", bytes "1"), ("PPID", decimal parent.pid)]
        let vars := fixed.foldl (fun vs (k, v) =>
          match vs.lookup k with
          | some old => vs.map fun (n, x) => if n == k then (n, { old with value := some v }) else (n, x)
          | none => vs ++ [(k, { value := some v })]) vars
        let vars := vars.filter (·.1 != "PWD") ++ [("PWD", { value := some (bytes fs.cwd), exported := true })]
        set { (← get) with proc := {
          name := name, arg0 := name, params := params, vars := vars, fds := parent.fds,
          pid := pid, opts := { inv.opts with stdinScript := stdinScript }, bash := bash } }
        let script ← if stdinScript then do
            let input ← pendingInput 0
            consumeInput 0 []
            pure input
          else pure script
        let r ← attempt (runText n script)
        let ending ← match r with
          | .error (.killed _ sig) => pure (ShellEnd.signaled sig)
          | _ => do
            let r2 ← attempt (runExitTrap n)
            match r2 with
            | .error (.killed _ sig) => pure (ShellEnd.signaled sig)
            | _ => pure (ShellEnd.exited ((← status) % 256))
        modify fun s => { s with proc := parent }
        pure ending

end

end LintBridge.Host.Shell
