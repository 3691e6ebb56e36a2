import LintBridge.Host.Shell.State
import LintBridge.Host.Shell.Fields
import LintBridge.Host.Tools
/-!
# Shell builtins that run on the state alone

The builtins that run no further shell code, from `:` and `echo` to `ulimit` and `alias`. Each
sets the status; an error in a special builtin ends the shell, one in a regular builtin gives
status 2.
-/

namespace LintBridge.Host.Shell

def regularBuiltins : List String :=
  ["[", "alias", "bg", "cd", "command", "echo", "false", "fg", "getopts", "hash", "jobs", "kill",
    "printf", "pwd", "read", "test", "true", "type", "ulimit", "umask", "unalias", "wait"]

def isBuiltin (name : String) : Bool := specialBuiltins.contains name || regularBuiltins.contains name

def shellNumber (s : Bytes) : Option Nat :=
  (testInteger s).bind fun v => if v < 0 || v > 2147483647 then none else some v.toNat

def numberOrFail (s : Bytes) : Sh Nat :=
  match shellNumber s with
  | some n => pure n
  | none => fatal (bytes "Illegal number: " ++ s)

def asBuiltin (name : String) (act : Sh Unit) : Sh Unit := do
  let saved := (← proc).commandName
  modifyProc fun p => { p with commandName := some name, outputFailed := false }
  let r ← attempt act
  if (← proc).outputFailed && r matches .ok _ then
    report (bytes (name ++ ": I/O error"))
    modifyProc fun p => { p with status := p.status ||| 1 }
  modifyProc fun p => { p with commandName := saved, outputFailed := false }
  resume r

def singleQuote (s : Bytes) : Bytes :=
  let parts := splitQuotes (s.length + 1) s
  if parts.isEmpty then bytes "''" else parts.flatten
where
  /-- The quoted parts: text in single quotes, runs of quotes in double quotes. -/
  splitQuotes : Nat → Bytes → List Bytes
    | 0, _ => []
    | _ + 1, [] => []
    | n + 1, bs =>
      if bs.head? == some 39 then
        let qs := bs.takeWhile (· == 39)
        ([34] ++ qs ++ [34]) :: splitQuotes n (bs.drop qs.length)
      else
        let t := bs.takeWhile (· != 39)
        ([39] ++ t ++ [39]) :: splitQuotes n (bs.drop t.length)

/-! ## Output builtins -/

def echoBuiltin (args : List Bytes) : Sh Unit := do
  let (args, newline) := match args with
    | a :: rest => if a == bytes "-n" then (rest, false) else (args, true)
    | [] => ([], true)
  let rec go : List Bytes → Bytes
    | [] => if newline then [10] else []
    | [a] =>
      let (t, stop) := shellText a
      if stop then t else t ++ (if newline then [10] else [])
    | a :: rest =>
      let (t, stop) := shellText a
      if stop then t else t ++ [32] ++ go rest
  write 1 (go args)
  setStatus 0

def printfBuiltin (args : List Bytes) : Sh Unit := do
  match args with
  | a :: rest =>
    if a == bytes "--" then printfWith rest
    else if a.length > 1 && a.head? == some 45 then do
      report (bytes "Illegal option " ++ a.take 2)
      setStatus 2
    else printfWith args
  | [] => printfWith []
where
  printfWith : List Bytes → Sh Unit
    | [] => do
      report (bytes "usage: printf format [arg ...]")
      setStatus 2
    | fmt :: rest => do
      let res := printfRun .shell fmt rest
      for m in res.messages do report m
      write 1 res.out
      setStatus res.status

def shellFacts : Sh (Bytes → FileFacts) := do
  let fs ← files
  return fs.facts

def testBuiltin (bracket : Bool) (args : List Bytes) : Sh Unit := do
  match testStatus (← shellFacts) bracket args with
  | .ok s => setStatus s
  | .error msg => do
    report msg
    setStatus 2

/-! ## Control -/

def exitBuiltin (args : List Bytes) : Sh Unit := do
  match args with
  | a :: _ => setStatus (← numberOrFail a)
  | [] => pure ()
  throw .exit

def returnBuiltin (args : List Bytes) : Sh Unit := do
  match args with
  | a :: _ => setStatus (← numberOrFail a)
  | [] => pure ()
  throw .returnFrom

def breakBuiltin (isContinue : Bool) (args : List Bytes) : Sh Unit := do
  let n ← match args with
    | a :: _ => do
      let n ← numberOrFail a
      if n == 0 then fatal (bytes "Illegal number: " ++ a) else pure n
    | [] => pure 1
  let n := min n (← proc).loopDepth
  setStatus 0
  if n > 0 then throw (if isContinue then .continueLoop n else .breakLoop n)

def shiftBuiltin (args : List Bytes) : Sh Unit := do
  let n ← match args with
    | a :: _ => numberOrFail a
    | [] => pure 1
  let p ← proc
  if n > p.params.length then fatal (bytes "can't shift that many")
  modifyProc fun p => { p with params := p.params.drop n }
  setStatus 0

/-! ## Variables -/

def isVarName (s : Bytes) : Bool := isName s

def splitAssignment (a : Bytes) : Bytes × Option Bytes :=
  let name := a.takeWhile (· != 61)
  if name.length < a.length then (name, some (a.drop (name.length + 1))) else (a, none)

def sortedVars : Sh (List (String × Var)) := do
  let vs := (← proc).vars
  return (vs.toArray.qsort fun a b => decide (bytes a.1 < bytes b.1)).toList

def showVariables : Sh Unit := do
  for (k, v) in ← sortedVars do
    match v.value with
    | some value => write 1 (bytes k ++ [61] ++ singleQuote value ++ [10])
    | none => pure ()

def setOptions : Nat → List Bytes → Sh (List Bytes × Bool)
  | 0, args => pure (args, false)
  | _ + 1, [] => pure ([], false)
  | n + 1, a :: rest =>
    match a with
    | 45 :: [] => do
      modifyProc fun p => { p with opts := { p.opts with xtrace := false, verbose := false } }
      pure (rest, false)
    | 45 :: 45 :: [] => pure (rest, true)
    | c :: letters =>
      if c == 45 || c == 43 then do
        let on := c == 45
        let rest ← setLetters (letters.length + 1) on letters rest
        setOptions n rest
      else pure (a :: rest, false)
    | [] => pure (a :: rest, false)
where
  setLetters : Nat → Bool → Bytes → List Bytes → Sh (List Bytes)
    | 0, _, _, rest => pure rest
    | _ + 1, _, [], rest => pure rest
    | k + 1, on, l :: ls, rest =>
      if l == 111 then do
        match rest with
        | name :: more => do
          match (← proc).opts.setNamed (asciiText name) on with
          | some o => modifyProc fun p => { p with opts := o }
          | none => fatal (bytes "Illegal option -o " ++ name)
          if on && name == bytes "monitor" then noTerminal
          setLetters k on ls more
        | [] => do
          let o := (← proc).opts
          if on then do
            write 1 (bytes "Current option settings\n")
            for (name, v) in o.named do
              let pad := String.ofList (List.replicate (16 - name.length) ' ')
              write 1 (bytes (name ++ pad ++ (if v then "on" else "off") ++ "\n"))
          else
            for (name, v) in o.named do
              write 1 (bytes ("set " ++ (if v then "-o " else "+o ") ++ name ++ "\n"))
          setLetters k on ls []
      else do
        match (← proc).opts.setLetter (Char.ofNat l.toNat) on with
        | some o => do
          modifyProc fun p => { p with opts := o }
          if on && l == 109 then noTerminal
          setLetters k on ls rest
        | none => fatal (bytes "Illegal option " ++ [if on then 45 else 43, l])
  /-- Job control asked for without a terminal: a warning, and it stays off. -/
  noTerminal : Sh Unit := report (bytes "can't access tty; job control turned off")

def setBuiltin (args : List Bytes) : Sh Unit := do
  if args.isEmpty then showVariables
  else
    let (rest, dashes) ← setOptions (args.length + 1) args
    if !rest.isEmpty || dashes then
      modifyProc fun p => { p with params := rest, optind := 1, optoff := none }
  setStatus 0

def optionSpec (c : UInt8) : Bytes → Option Bool
  | [] => none
  | x :: 58 :: more => if x == c then some true else optionSpec c more
  | x :: more => if x == c then some false else optionSpec c more

def builtinOptions (spec : Bytes) : Nat → List Bytes →
    Except Bytes (List (UInt8 × Option Bytes) × List Bytes)
  | 0, args => .ok ([], args)
  | _ + 1, [] => .ok ([], [])
  | n + 1, a :: rest =>
    match a with
    | [45, 45] => .ok ([], rest)
    | 45 :: c :: cs =>
      match letters (cs.length + 1) (c :: cs) rest with
      | .ok (found, rest') =>
        match builtinOptions spec n rest' with
        | .ok (more, left) => .ok (found ++ more, left)
        | .error e => .error e
      | .error e => .error e
    | _ => .ok ([], a :: rest)
where
  /-- The letters of one option word, and the arguments after those it took. -/
  letters : Nat → Bytes → List Bytes → Except Bytes (List (UInt8 × Option Bytes) × List Bytes)
    | 0, _, rest => .ok ([], rest)
    | _ + 1, [], rest => .ok ([], rest)
    | k + 1, c :: cs, rest =>
      match optionSpec c spec with
      | none => .error (bytes "Illegal option -" ++ [c])
      | some false =>
        match letters k cs rest with
        | .ok (found, rest') => .ok ((c, none) :: found, rest')
        | .error e => .error e
      | some true =>
        if !cs.isEmpty then .ok ([(c, some cs)], rest)
        else
          match rest with
          | v :: more => .ok ([(c, some v)], more)
          | [] => .error (bytes "No arg for -" ++ [c] ++ bytes " option")

def unsetBuiltin (args : List Bytes) : Sh Unit := do
  match builtinOptions (bytes "vf") (args.length + 1) args with
  | .error e => fatal e
  | .ok (opts, names) =>
    let functions := (opts.getLast?.map (·.1)) == some 102
    for name in names do
      if functions then
        modifyProc fun p => { p with funcs := p.funcs.filter (·.1 != (asciiText name)) }
      else
        let name := (splitAssignment name).1
        if !isVarName name then fatal (name ++ bytes ": bad variable name")
        match ← findVar (asciiText name) with
        | some v => if v.readonly then fatal (name ++ bytes ": is read only") else removeVar (asciiText name)
        | none => pure ()
    setStatus 0

def attributeBuiltin (readonly : Bool) (args : List Bytes) : Sh Unit := do
  let word := if readonly then "readonly" else "export"
  let (listing, names) ← match builtinOptions (bytes "p") (args.length + 1) args with
    | .error e => fatal e
    | .ok (opts, names) => pure (!opts.isEmpty, names)
  if listing || names.isEmpty then
    for (k, v) in ← sortedVars do
      if (if readonly then v.readonly else v.exported) then
        match v.value with
        | some value => write 1 (bytes (word ++ " " ++ k ++ "=") ++ singleQuote value ++ [10])
        | none => write 1 (bytes (word ++ " " ++ k ++ "\n"))
  else
    for a in names do
      let (name, value) := splitAssignment a
      if !isVarName name then fatal (name ++ bytes ": bad variable name")
      let k := asciiText name
      match value with
      | some v => assign k v
      | none => pure ()
      match ← findVar k with
      | some var => putVar k (if readonly then { var with readonly := true } else { var with exported := true })
      | none => putVar k { value := none, readonly := readonly, exported := !readonly }
  setStatus 0

def localBuiltin (args : List Bytes) : Sh Unit := do
  let p ← proc
  match p.locals with
  | [] => fatal (bytes "not in a function")
  | frame :: outer => do
    let mut frame := frame
    for a in args do
      if a == [45] then
        frame := frame ++ [.options (← proc).opts]
      else
        let (name, value) := splitAssignment a
        if !isVarName name then fatal (name ++ bytes ": bad variable name")
        let k := asciiText name
        let old ← findVar k
        let known := frame.any fun
          | .var n _ => n == k
          | .options _ => false
        if !known then frame := frame ++ [.var k old]
        match value with
        | some v => assign k v
        | none => if old.isNone then putVar k { value := none } else pure ()
    modifyProc fun p => { p with locals := frame :: outer }
  setStatus 0

/-! ## Directories -/

def logicalPath (cwd dir : String) : String :=
  let twoSlashes (p : String) : Bool := p.startsWith "//" && !p.startsWith "///"
  let (lead, base) :=
    if dir.startsWith "/" then (if twoSlashes dir then "//" else "/", [])
    else (if twoSlashes cwd then "//" else "/", (cwd.splitOn "/").filter (· ≠ ""))
  let parts := ((dir.splitOn "/").filter (· ≠ "")).foldl (fun acc p =>
    if p == "." then acc else if p == ".." then acc.dropLast else acc ++ [p]) base
  lead ++ "/".intercalate parts

def cdCandidates (cdpath : Option Bytes) (dest : Bytes) : List (Bytes × Bool) :=
  let direct := dest.head? == some 47 || dest == [46] || dest == [46, 46] ||
    dest.take 2 == [46, 47] || dest.take 3 == [46, 46, 47]
  let dest := if dest.isEmpty then [46] else dest
  match cdpath with
  | none => []
  | some path =>
    if direct then []
    else
      (path.splitOn 58).map fun entry =>
        if entry.isEmpty then (dest, false) else (entry ++ [47] ++ dest, true)

def cdBuiltin (args : List Bytes) : Sh Unit := do
  match builtinOptions (bytes "LP") (args.length + 1) args with
  | .error e => fatal e
  | .ok (opts, operands) =>
    let physical := (opts.getLast?.map (·.1)) == some 80
    let oldDir ← varValue "OLDPWD"
    let home ← varValue "HOME"
    let (target, announce) := match operands with
      | a :: _ => if a == bytes "-" then (oldDir.getD [], true) else (a, false)
      | [] => (home.getD [], false)
    let fs ← files
    let cdpath ← varValue "CDPATH"
    let isDir (p : Bytes) : Bool :=
      match fs.find p.text with
      | .ok (.directory _) => true
      | _ => false
    let (target, announce) :=
      match (cdCandidates cdpath target).find? fun (p, _) => isDir p with
      | some (p, shown) => (p, announce || shown)
      | none => (if target.isEmpty && cdpath.isSome then [46] else target, announce)
    let dir : Option String :=
      if physical then
        match fs.find (if target.isEmpty then "." else target.text) with
        | .ok (.directory _) => some (absolutePath fs.cwd target.text)
        | _ => none
      else
        let dir := logicalPath fs.cwd target.text
        match fs.node (absolutePath "/" dir) with
        | some (.directory _) => some dir
        | _ => none
    match dir with
    | some dir => do
      let old := fs.cwd
      modifyMachine fun m => { m with files := { m.files with cwd := dir } }
      assignExported "OLDPWD" (bytes old)
      assignExported "PWD" (bytes dir)
      if announce then write 1 (bytes dir ++ [10])
      setStatus 0
    | none => do
      report (bytes "can't cd to " ++ target)
      setStatus 2

def pwdBuiltin (args : List Bytes) : Sh Unit := do
  match builtinOptions (bytes "LP") (args.length + 1) args with
  | .error e => fatal e
  | .ok (opts, _) =>
    let physical := (opts.getLast?.map (·.1)) == some 80
    let cwd := (← files).cwd
    write 1 (bytes (if physical then absolutePath "/" cwd else cwd) ++ [10])
    setStatus 0

/-! ## Input -/

/-- Reads a line for `read`: the bytes up to the newline, each saying whether a backslash
escaped it, whether a newline ended it, and the input after it. With `raw`, backslashes are
plain. -/
def readLine (raw : Bool) : Nat → Bytes → List (UInt8 × Bool) → List (UInt8 × Bool) × Bool × Bytes
  | 0, bs, acc => (acc, false, bs)
  | _ + 1, [], acc => (acc, false, [])
  | _ + 1, 10 :: rest, acc => (acc, true, rest)
  | n + 1, 92 :: rest, acc =>
    if raw then readLine raw n rest (acc ++ [(92, false)])
    else
      match rest with
      | 10 :: more => readLine raw n more acc
      | c :: more => readLine raw n more (acc ++ [(c, true)])
      | [] => (acc, false, [])
  | n + 1, b :: rest, acc => readLine raw n rest (acc ++ [(b, false)])

/-- Splits the line of `read` among `k` variables: each takes a field, the last the rest of the
line without the separator blanks at its ends. When that rest is one field and what ends it,
separators of which at most one is not a blank, the last takes the field alone. -/
def readFields (ifs : Bytes) : Nat → Nat → List (UInt8 × Bool) → List Bytes
  | 0, _, _ => []
  | _, 0, _ => []
  | _ + 1, 1, line =>
    let isBlank (c : UInt8 × Bool) : Bool := !c.2 && ifs.contains c.1 && isIfsBlank c.1
    let isSep (c : UInt8 × Bool) : Bool := !c.2 && ifs.contains c.1
    let line := line.dropWhile isBlank
    let field := line.takeWhile (!isSep ·)
    let after := line.drop field.length
    if after.all isSep && (after.filter (!isBlank ·)).length ≤ 1 then [field.map (·.1)]
    else [((line.reverse.dropWhile isBlank).reverse).map (·.1)]
  | fuel + 1, k + 1, line =>
    let isBlank (c : UInt8 × Bool) : Bool := !c.2 && ifs.contains c.1 && isIfsBlank c.1
    let isSep (c : UInt8 × Bool) : Bool := !c.2 && ifs.contains c.1
    let line := line.dropWhile isBlank
    let field := line.takeWhile (!isSep ·)
    let rest := line.drop field.length
    let rest := rest.dropWhile isBlank
    let rest := match rest with
      | c :: more => if isSep c then more.dropWhile isBlank else rest
      | [] => []
    field.map (·.1) :: readFields ifs fuel k rest

def readBuiltin (args : List Bytes) : Sh Unit := do
  match builtinOptions (bytes "p:r") (args.length + 1) args with
  | .error e => fatal e
  | .ok (opts, vars) =>
    let raw := opts.any (·.1 == 114)
    if vars.isEmpty then do
      report (bytes "arg count")
      setStatus 2
    else
      let input ← pendingInput 0
      let (line, ended, rest) := readLine raw (input.length + 1) input []
      consumeInput 0 rest
      let ifs ← fieldSeparators
      let values := readFields ifs (vars.length + 1) vars.length line
      for (name, i) in vars.zipIdx do
        if !isVarName name then fatal (name ++ bytes ": bad variable name")
        assign (asciiText name) (values.getD i [])
      setStatus (if ended then 0 else 1)

/-! ## Signals -/

def signalName (n : Nat) : String :=
  match [(0, "EXIT"), (1, "HUP"), (2, "INT"), (3, "QUIT"), (4, "ILL"), (5, "TRAP"), (6, "ABRT"),
      (7, "BUS"), (8, "FPE"), (9, "KILL"), (10, "USR1"), (11, "SEGV"), (12, "USR2"), (13, "PIPE"),
      (14, "ALRM"), (15, "TERM"), (17, "CHLD"), (18, "CONT"), (19, "STOP"), (20, "TSTP"),
      (21, "TTIN"), (22, "TTOU"), (23, "URG"), (24, "XCPU"), (25, "XFSZ"), (26, "VTALRM"),
      (27, "PROF"), (28, "WINCH"), (29, "IO"), (30, "PWR"), (31, "SYS")].lookup n with
  | some name => name
  | none =>
    if n == 34 then "RTMIN"
    else if 34 < n && n < 50 then "RTMIN+" ++ toString (n - 34)
    else if 50 ≤ n && n < 64 then "RTMAX-" ++ toString (64 - n)
    else if n == 64 then "RTMAX"
    else toString n

def signalText (n : Nat) : String :=
  match [(1, "Hangup"), (2, "Interrupt"), (3, "Quit"), (4, "Illegal instruction"),
      (5, "Trace/breakpoint trap"), (6, "Aborted"), (7, "Bus error"),
      (8, "Floating point exception"), (9, "Killed"), (10, "User defined signal 1"),
      (11, "Segmentation fault"), (12, "User defined signal 2"), (13, "Broken pipe"),
      (14, "Alarm clock"), (15, "Terminated"), (16, "Stack fault"), (17, "Child exited"),
      (18, "Continued"), (19, "Stopped (signal)"), (20, "Stopped"), (21, "Stopped (tty input)"),
      (22, "Stopped (tty output)"), (23, "Urgent I/O condition"), (24, "CPU time limit exceeded"),
      (25, "File size limit exceeded"), (26, "Virtual timer expired"),
      (27, "Profiling timer expired"), (28, "Window changed"), (29, "I/O possible"),
      (30, "Power failure"), (31, "Bad system call")].lookup n with
  | some text => text
  | none =>
    if 34 ≤ n && n ≤ 64 then "Real-time signal " ++ toString (n - 34)
    else "Unknown signal " ++ toString n

def signalCount : Nat := 65

def signalNumber (s : Bytes) : Option Nat :=
  if !s.isEmpty && s.all isDigitByte then
    let v := (readDigitsIn 10 s).1
    if v < signalCount then some v else none
  else none

def signalOf (least : Nat) (s : Bytes) : Option Nat :=
  match signalNumber s with
  | some v => some v
  | none =>
    let upper := s.map fun b => if 97 ≤ b && b ≤ 122 then b - 32 else b
    (List.range signalCount).find? fun k => least ≤ k && bytes (signalName k) == upper

def trapBuiltin (args : List Bytes) : Sh Unit := do
  match builtinOptions [] (args.length + 1) args with
  | .error e => fatal e
  | .ok (_, []) => do
    let traps := (← proc).traps
    for k in List.range signalCount do
      match traps.lookup k with
      | some action =>
        write 1 (bytes "trap -- " ++ singleQuote action ++ bytes (" " ++ signalName k ++ "\n"))
      | none => pure ()
    setStatus 0
  | .ok (_, first :: more) => do
    let (action, sigs) :=
      if more.isEmpty || (signalNumber first).isSome then (none, first :: more)
      else (some first, more)
    let action := action.bind fun a => if a == bytes "-" then none else some a
    for s in sigs do
      match signalOf 0 s with
      | some sig =>
        modifyProc fun p =>
          let others := p.traps.filter (·.1 != sig)
          { p with traps := match action with
            | some a => others ++ [(sig, a)]
            | none => others }
      | none => do
        write 2 (bytes "trap: " ++ s ++ bytes ": bad trap\n")
        setStatus 1
        return
    setStatus 0

def killUsage {α : Type} : Sh α :=
  fatal (bytes "Usage: kill [-s sigspec | -signum | -sigspec] [pid | job]... or\nkill -l [exitstatus]")

def signalIgnored (sig : Nat) : Bool := sig == 0 || sig == 17 || sig == 18 || sig == 23 || sig == 28

def killBuiltin (args : List Bytes) : Sh (Option Bytes) := do
  if args.isEmpty then killUsage
  -- the signal, whether to list, and the arguments left
  let mut signo : Option Nat := none
  let mut list := false
  let mut rest := args
  match args with
  | a :: more =>
    if a.head? == some 45 then
      match signalOf 1 (a.drop 1) with
      | some sig => do
        signo := some sig
        rest := more
      | none =>
        match builtinOptions (bytes "ls:") (args.length + 1) args with
        | .error e => fatal e
        | .ok (opts, left) => do
          for (c, v) in opts do
            if c == 108 then list := true
            else
              match signalOf 1 (v.getD []) with
              | some sig => signo := some sig
              | none => fatal (bytes "invalid signal number or name: " ++ v.getD [])
          rest := left
  | [] => pure ()
  if !list && signo.isNone then signo := some 15
  if (signo.isNone || rest.isEmpty) != list then killUsage
  if list then
    match rest with
    | [] => do
      write 1 (bytes "0\n")
      for k in (List.range signalCount).drop 1 do write 1 (bytes (signalName k ++ "\n"))
    | v :: _ => do
      let k ← numberOrFail v
      let k := if k > 128 then k - 128 else k
      if 0 < k && k < signalCount then write 1 (bytes (signalName k ++ "\n"))
      else fatal (bytes "invalid signal number or exit status: " ++ v)
    setStatus 0
    return none
  let sig := signo.getD 15
  let p ← proc
  let mut trapped : Option Bytes := none
  let mut status := 0
  for pidText in rest do
    if pidText.head? == some 37 then fatal (bytes "No such job: " ++ pidText)
    let pid ← numberOrFail pidText
    if pid == p.pid then
      match p.traps.lookup sig with
      | some action =>
        if sig == 9 || sig == 19 then throw (.killed p.pid sig)
        else if !action.isEmpty then trapped := some action
      | none => if !signalIgnored sig then throw (.killed p.pid sig)
    else if (p.jobs.lookup pid).isSome then pure ()
    else do
      write 2 ((← messagePrefix) ++ bytes "No such process\n\n")
      status := 1
  setStatus status
  return trapped

def waitBuiltin (args : List Bytes) : Sh Unit := do
  let p ← proc
  match args.getLast? with
  | some a =>
    match shellNumber a with
    | some pid => setStatus ((p.jobs.lookup pid).getD 127)
    | none => fatal (bytes "Illegal number: " ++ a)
  | none => setStatus 0

/-! ## Small builtins -/

def maskSymbols (mask : Nat) : Bytes :=
  let allowed := 511 - mask % 512
  let part (who : String) (shift : Nat) : String :=
    let bits := allowed / Nat.pow 8 shift % 8
    who ++ "=" ++ (if bits / 4 % 2 == 1 then "r" else "") ++ (if bits / 2 % 2 == 1 then "w" else "") ++
      (if bits % 2 == 1 then "x" else "")
  bytes (part "u" 2 ++ "," ++ part "g" 1 ++ "," ++ part "o" 0)

def maskDigits (mask : Nat) : Bytes :=
  let digits := (Nat.toDigits 8 mask)
  bytes (String.ofList (List.replicate (4 - digits.length) '0' ++ digits))

def applySymbolic (allowed : Nat) (mode : Bytes) : Option Nat :=
  go (mode.length + 1) allowed mode
where
  /-- Reads the users of a clause. -/
  users (bs : Bytes) : Nat × Bytes :=
    let who := bs.takeWhile fun b => b == 97 || b == 117 || b == 103 || b == 111
    let positions := who.foldl (fun acc b =>
      acc ||| (if b == 97 then 73 else if b == 117 then 64 else if b == 103 then 8 else 1)) 0
    (if positions == 0 then 73 else positions, bs.drop who.length)
  /-- The permissions named after an operator. -/
  perms (current : Nat) (bs : Bytes) : Nat × Bytes :=
    let named := bs.takeWhile fun b =>
      b == 114 || b == 119 || b == 120 || b == 117 || b == 103 || b == 111 || b == 88 || b == 115
    let v := named.foldl (fun acc b =>
      acc ||| (if b == 114 then 4 else if b == 119 then 2 else if b == 120 then 1
        else if b == 117 then current / 64 else if b == 103 then current / 8
        else if b == 111 then current else if b == 88 then (if current &&& 73 != 0 then 1 else 0)
        else 0)) 0
    (v % 8, bs.drop named.length)
  /-- Applies the clauses from here on. -/
  go : Nat → Nat → Bytes → Option Nat
    | 0, _, _ => none
    | _ + 1, current, [] => some current
    | k + 1, current, bs =>
      let (positions, afterUsers) := users bs
      match afterUsers with
      | op :: afterOp =>
        if op == 61 || op == 43 || op == 45 then
          let (v, afterPerms) := perms current afterOp
          let value := v * positions
          let next :=
            if op == 45 then current &&& (511 - value)
            else if op == 43 then current ||| value
            else (current &&& (511 - 7 * positions)) ||| value
          match afterPerms with
          | [] => some next
          | 44 :: more => go k next more
          | more => go k next more
        else none
      | [] => none

def umaskBuiltin (args : List Bytes) : Sh Unit := do
  match builtinOptions (bytes "S") (args.length + 1) args with
  | .error e => fatal e
  | .ok (opts, rest) =>
    let mask := (← proc).umask
    match rest with
    | [] =>
      write 1 ((if opts.isEmpty then maskDigits mask else maskSymbols mask) ++ [10])
    | m :: _ =>
      if m.head?.any isDigitByte then
        if m.all fun b => 48 ≤ b && b ≤ 55 then
          let v := m.foldl (fun acc b => acc * 8 + (b - 48).toNat) 0
          modifyProc fun p => { p with umask := v % 512 }
        else fatal (bytes "Illegal number: " ++ m)
      else
        match applySymbolic (511 - mask) m with
        | some allowed => modifyProc fun p => { p with umask := 511 - allowed % 512 }
        | none => fatal (bytes "Illegal mode: " ++ m)
    setStatus 0

def timesBuiltin : Sh Unit := do
  write 1 (bytes "0m0.000000s 0m0.000000s\n0m0.000000s 0m0.000000s\n")
  setStatus 0

def ulimitBuiltin : Sh Unit := do
  write 1 (bytes "unlimited\n")
  setStatus 0

def aliasBucket (name : String) : Nat :=
  let bs := bytes name
  ((bs.headD 0).toNat * 16 + bs.foldl (fun n b => n + b.toNat) 0) % 39

def aliasLine (name : String) (value : Bytes) : Bytes :=
  bytes name ++ [61] ++ singleQuote value ++ [10]

def aliasBuiltin (args : List Bytes) : Sh Unit := do
  if args.isEmpty then
    let all := (← proc).aliases
    for b in List.range 39 do
      for (k, v) in all do
        if aliasBucket k == b then write 1 (aliasLine k v)
    setStatus 0
  else
    let mut status := 0
    for a in args do
      match (a.drop 1).idxOf? 61 with
      | some i =>
        let name := asciiText (a.take (i + 1))
        let value := a.drop (i + 2)
        modifyProc fun p =>
          { p with aliases := if p.aliases.any (·.1 == name)
              then p.aliases.map fun (k, v) => if k == name then (k, value) else (k, v)
              else p.aliases ++ [(name, value)] }
      | none =>
        match (← proc).aliases.lookup (asciiText a) with
        | some v => write 1 (aliasLine (asciiText a) v)
        | none => do
          write 2 (bytes "alias: " ++ a ++ bytes " not found\n")
          status := 1
    setStatus status

def unaliasBuiltin (args : List Bytes) : Sh Unit := do
  if args.head? == some (bytes "-a") then
    modifyProc fun p => { p with aliases := [] }
    setStatus 0
  else
    let mut status := 0
    for a in args do
      if (← proc).aliases.any (·.1 == asciiText a) then
        modifyProc fun p => { p with aliases := p.aliases.filter (·.1 != asciiText a) }
      else
        write 2 (bytes "unalias: " ++ a ++ bytes " not found\n")
        status := 1
    setStatus status

/-! ## Options of scripts -/

/-- One step of `getopts`: the letter to store (`?` at the end and on errors, `:` for a missing
argument when errors are silent), the value of `OPTARG` (none to unset it), the message to
write, whether the options are done, and where the next step starts. -/
structure OptionStep where
  letter : UInt8
  optarg : Option (Option Bytes) := none
  message : Option Bytes := none
  done : Bool := false
  optind : Nat
  optoff : Option Nat := none

def optionStep (optstr : Bytes) (base : List Bytes) (ind : Nat) (off : Option Nat) :
    OptionStep :=
  let silent := optstr.head? == some 58
  -- the letters left in the argument being read, if any
  let inWord : Option Bytes :=
    if ind ≤ 1 then none
    else
      match off with
      | none => none
      | some o =>
        let w := base.getD (ind - 2) []
        if w.length < o then none else some (w.drop o)
  -- the letters to read from and the index (from 0) of the argument after them
  let start : Except Nat (Bytes × Nat) :=
    match inWord with
    | some (c :: cs) => .ok (c :: cs, ind - 1)
    | _ =>
      match base[ind - 1]? with
      | some [45, 45] => .error ind
      | some (45 :: c :: cs) => .ok (c :: cs, ind)
      | _ => .error (ind - 1)
  match start with
  | .error next => { letter := 63, done := true, optind := next + 1 }
  | .ok ([], next) => { letter := 63, done := true, optind := next + 1 }
  | .ok (c :: rest, next) =>
    let word := base.getD (next - 1) []
    let offset := some (word.length - rest.length)
    match optionSpec c optstr with
    | none =>
      if silent then { letter := 63, optarg := some (some [c]), optind := next + 1, optoff := offset }
      else { letter := 63, optarg := some none, message := some (bytes "Illegal option -" ++ [c]),
             optind := next + 1, optoff := offset }
    | some false => { letter := c, optarg := some (some []), optind := next + 1, optoff := offset }
    | some true =>
      if !rest.isEmpty then { letter := c, optarg := some (some rest), optind := next + 1 }
      else
        match base[next]? with
        | some v => { letter := c, optarg := some (some v), optind := next + 2 }
        | none =>
          if silent then { letter := 58, optarg := some (some [c]), optind := next + 1 }
          else { letter := 63, optarg := some none,
                 message := some (bytes "No arg for -" ++ [c] ++ bytes " option"), optind := next + 1 }

def getoptsBuiltin (args : List Bytes) : Sh Unit := do
  match args with
  | optstr :: var :: rest => do
    let p ← proc
    let base := if rest.isEmpty then p.params else rest
    let (ind, off) := if p.optind > base.length + 1 then (1, none) else (p.optind, p.optoff)
    let step := optionStep optstr base ind off
    match step.message with
    | some m => write 2 (m ++ [10])
    | none => pure ()
    match step.optarg with
    | some (some v) => assign "OPTARG" v
    | some none => removeVar "OPTARG"
    | none => pure ()
    assign "OPTIND" (decimal step.optind)
    assign (asciiText var) [step.letter]
    modifyProc fun p => { p with optind := step.optind, optoff := step.optoff }
    setStatus (if step.done then 1 else 0)
  | _ => fatal (bytes "Usage: getopts optstring var [arg...]")

end LintBridge.Host.Shell
