import LintBridge.Host.Help
/-!
# ls

`ls` names file operands as written and directory operands by their entries in byte order, hidden
ones only with `-a` or `-A`. Operands that name nothing are reported first, with status 2.
-/

namespace LintBridge.Host.Listing

open LintBridge.Host

def listingOptions : List OptionDecl :=
  [{ key := "a", letter := some 97, long := some "all" },
    { key := "A", letter := some 65, long := some "almost-all" },
    { key := "d", letter := some 100, long := some "directory" },
    { key := "r", letter := some 114, long := some "reverse" },
    { key := "p", letter := some 112 },
    { key := "F", letter := some 70, long := some "classify", arg := .optional },
    .flag '1', .flag 'C', .flag 'x', .flag 'b', .flag 'B', .flag 'c', .flag 'f', .flag 'g',
    .flag 'G', .flag 'h', .flag 'H', .flag 'i', .flag 'k', .flag 'l', .flag 'L', .flag 'n',
    .flag 'N', .flag 'o', .flag 'q', .flag 'Q', .flag 's', .flag 'S', .flag 't', .flag 'u',
    .flag 'U', .flag 'v', .flag 'X', .flag 'Z', .flag 'm', .flag 'R', .flag 'D',
    .valued 'w', .valued 'I', .valued 'T',
    .named "color" "color" .optional, .named "human-readable" "human-readable" .no,
    .named "recursive" "recursive" .no] ++ helpOptions

def kindMark (classify slash : Bool) : Except OsError Node → Bytes
  | .ok (.directory _) => if classify || slash then [47] else []
  | .ok (.program _) => if classify then [42] else []
  | _ => []

def orderNames (reverse : Bool) (names : List Bytes) : List Bytes :=
  let sorted := names.mergeSort fun a b => !decide (b < a)
  if reverse then sorted.reverse else sorted

def shownEntries (fs : Files) (path : Bytes) (all almost : Bool) : List Bytes :=
  let entries := fs.entries (absolutePath fs.cwd path.text)
  (entries.map bytes).filter fun e =>
    if all then true
    else if almost then e != bytes "." && e != bytes ".."
    else e.head? != some 46

def lsTool (argv0 : Bytes) (args : List Bytes) (fs : Files) : ToolRun :=
  let r : ToolRun := { files := fs }
  let reading := scanOptions listingOptions true args
  match reading.wrong with
  | some msg => r.usageWith 2 argv0 msg
  | none =>
    let found := reading.found
    if found.has "help" || found.has "version" then r.answerAbout "ls" argv0 found
    else
      let all := found.has "a"
      let almost := found.has "A"
      let asFiles := found.has "d"
      let reverse := found.has "r"
      let classify := found.has "F"
      let slash := found.has "p"
      let operands := if reading.operands.isEmpty then [bytes "."] else reading.operands
      let looked := operands.map fun name => (name, fs.find name.text)
      let r := looked.foldl (fun (r : ToolRun) (name, node) =>
        match node with
        | .error e =>
          { (r.err (toolMessage argv0 (bytes "cannot access " ++ fileQuote name ++ bytes ": " ++
            e.bytes))) with status := 2 }
        | .ok _ => r) r
      let isDir (n : Except OsError Node) : Bool :=
        match n with
        | .ok (.directory _) => !asFiles
        | _ => false
      let present := looked.filter fun (_, n) => n.toOption.isSome
      let fileNames := orderNames reverse ((present.filter fun (_, n) => !isDir n).map (·.1))
      let dirNames := orderNames reverse ((present.filter fun (_, n) => isDir n).map (·.1))
      let nameLine (shown : Bytes) (node : Except OsError Node) : Bytes :=
        shown ++ kindMark classify slash node ++ [10]
      let r := r.out (fileNames.flatMap fun name => nameLine name (fs.find name.text))
      let headed := operands.length > 1
      let (r, _) := dirNames.foldl (fun (acc : ToolRun × Bool) dir =>
        let (r, first) := acc
        let entries := orderNames reverse (shownEntries fs dir all almost)
        let dirPath := if dir.getLast? == some 47 then dir else dir ++ [47]
        let listing := entries.flatMap fun e => nameLine e (fs.find (dirPath ++ e).text)
        let head := (if first then [] else [10]) ++ (if headed then dir ++ bytes ":\n" else [])
        (r.out (head ++ listing), false)) (r, fileNames.isEmpty)
      r

end LintBridge.Host.Listing
