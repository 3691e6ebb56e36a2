import LintBridge.Host.Help
/-!
# Who runs, and on what

`whoami`, `id`, `groups`, `logname`, `tty`, `uname` and `arch` answer from the machine's
accounts and its fixed description. Scripts run as the administrator, and nobody is logged in.
-/

namespace LintBridge.Host.Identity

open LintBridge.Host

def groupName (gid : Nat) : String :=
  match machineGroups.find? (·.2 == gid) with
  | some (name, _) => name
  | none => toString gid

def accountIds (name : String) : Option (Nat × Nat) :=
  (accounts.find? (·.1 == name)).map fun (_, uid, gid, _) => (uid, gid)

def accountName (uid : Nat) : String :=
  match accounts.find? (·.2.1 == uid) with
  | some (name, _) => name
  | none => toString uid

def noOperands (r : ToolRun) (argv0 : Bytes) (operands : List Bytes) (text : String) : ToolRun :=
  match operands with
  | [] => r.out (bytes text)
  | extra :: _ => r.usage argv0 (bytes "extra operand " ++ messageQuote extra)

def bareOptions : List OptionDecl := helpOptions

def whoamiTool (argv0 : Bytes) (args : List Bytes) (fs : Files) : ToolRun :=
  let r : ToolRun := { files := fs }
  match readOptions bareOptions true args with
  | .error msg => r.usage argv0 msg
  | .ok (found, operands) =>
    if found.has "help" || found.has "version" then r.answerAbout "whoami" argv0 found
    else noOperands r argv0 operands "root\n"

def lognameTool (argv0 : Bytes) (args : List Bytes) (fs : Files) : ToolRun :=
  let r : ToolRun := { files := fs }
  match readOptions bareOptions true args with
  | .error msg => r.usage argv0 msg
  | .ok (found, operands) =>
    if found.has "help" || found.has "version" then r.answerAbout "logname" argv0 found
    else
      match operands with
      | [] => r.fail argv0 (bytes "no login name")
      | extra :: _ => r.usage argv0 (bytes "extra operand " ++ messageQuote extra)

def ttyOptions : List OptionDecl :=
  [.flag 's', .named "s" "silent" .no, .named "s" "quiet" .no] ++ helpOptions

def ttyTool (argv0 : Bytes) (args : List Bytes) (fs : Files) : ToolRun :=
  let r : ToolRun := { files := fs }
  match readOptions ttyOptions true args with
  | .error msg => r.usageWith 2 argv0 msg
  | .ok (found, operands) =>
    if found.has "help" || found.has "version" then r.answerAbout "tty" argv0 found
    else
      match operands with
      | [] => { (if found.has "s" then r else r.out (bytes "not a tty\n")) with status := 1 }
      | extra :: _ => r.usageWith 2 argv0 (bytes "extra operand " ++ messageQuote extra)

def idOptions : List OptionDecl :=
  [.flag 'a', .flag 'Z', .flag 'g', .flag 'G', .flag 'n', .flag 'r', .flag 'u', .flag 'z',
    .named "Z" "context" .no, .named "g" "group" .no, .named "G" "groups" .no,
    .named "n" "name" .no, .named "r" "real" .no, .named "u" "user" .no,
    .named "z" "zero" .no] ++ helpOptions

def idLine (found : FoundOptions) (uid gid : Nat) : Bytes :=
  let names := found.has "n"
  let ending : Bytes := if found.has "z" then [0] else [10]
  if found.has "u" then bytes (if names then accountName uid else toString uid) ++ ending
  else if found.has "g" then bytes (if names then groupName gid else toString gid) ++ ending
  else if found.has "G" then
    bytes (if names then groupName gid else toString gid) ++ ending
  else
    bytes ("uid=" ++ toString uid ++ "(" ++ accountName uid ++ ") gid=" ++ toString gid ++
      "(" ++ groupName gid ++ ") groups=" ++ toString gid ++ "(" ++ groupName gid ++ ")\n")

def idTool (argv0 : Bytes) (args : List Bytes) (fs : Files) : ToolRun :=
  let r : ToolRun := { files := fs }
  match readOptions idOptions true args with
  | .error msg => r.usage argv0 msg
  | .ok (found, users) =>
    if found.has "help" || found.has "version" then r.answerAbout "id" argv0 found
    else
      let only := ["u", "g", "G"].filter found.has
      if found.has "Z" then
        r.fail argv0 (bytes "--context (-Z) works only on an SELinux-enabled kernel")
      else if only.length > 1 then
        r.fail argv0 (bytes "cannot print \"only\" of more than one choice")
      else if only.isEmpty && (found.has "n" || found.has "r") then
        r.fail argv0 (bytes "cannot print only names or real IDs in default format")
      else if only.isEmpty && found.has "z" then
        r.fail argv0 (bytes "option --zero not permitted in default format")
      else if users.isEmpty then r.out (idLine found 0 0)
      else
        users.foldl (fun (r : ToolRun) user =>
          match accountIds user.text with
          | some (uid, gid) => r.out (idLine found uid gid)
          | none => r.fail argv0 (messageQuote user ++ bytes ": no such user")) r

def groupsTool (argv0 : Bytes) (args : List Bytes) (fs : Files) : ToolRun :=
  let r : ToolRun := { files := fs }
  match readOptions bareOptions true args with
  | .error msg => r.usage argv0 msg
  | .ok (found, users) =>
    if found.has "help" || found.has "version" then r.answerAbout "groups" argv0 found
    else if users.isEmpty then r.out (bytes "root\n")
    else
      users.foldl (fun (r : ToolRun) user =>
        match accountIds user.text with
        | some (_, gid) => r.out (user ++ bytes " : " ++ bytes (groupName gid) ++ [10])
        | none => r.fail argv0 (messageQuote user ++ bytes ": no such user")) r

def unameOptions : List OptionDecl :=
  [.flag 'a', .flag 's', .flag 'n', .flag 'r', .flag 'v', .flag 'm', .flag 'p', .flag 'i',
    .flag 'o', .named "a" "all" .no, .named "s" "kernel-name" .no, .named "n" "nodename" .no,
    .named "r" "kernel-release" .no, .named "v" "kernel-version" .no,
    .named "m" "machine" .no, .named "p" "processor" .no, .named "i" "hardware-platform" .no,
    .named "o" "operating-system" .no] ++ helpOptions

def unameFields : List (String × String) :=
  [("s", "Linux"), ("n", "localhost"), ("r", "6.1.0"), ("v", "#1 SMP Debian 6.1.0"),
    ("m", "x86_64"), ("p", "unknown"), ("i", "unknown"), ("o", "GNU/Linux")]

def unameTool (argv0 : Bytes) (args : List Bytes) (fs : Files) : ToolRun :=
  let r : ToolRun := { files := fs }
  match readOptions unameOptions true args with
  | .error msg => r.usage argv0 msg
  | .ok (found, operands) =>
    if found.has "help" || found.has "version" then r.answerAbout "uname" argv0 found
    else
      match operands with
      | extra :: _ => r.usage argv0 (bytes "extra operand " ++ messageQuote extra)
      | [] =>
        let all := found.has "a"
        let chosen := unameFields.filter fun (k, v) =>
          found.has k || (all && !(v == "unknown" && (k == "p" || k == "i")))
        let chosen := if chosen.isEmpty then [("s", "Linux")] else chosen
        r.out (bytes (" ".intercalate (chosen.map (·.2)) ++ "\n"))

def archTool (argv0 : Bytes) (args : List Bytes) (fs : Files) : ToolRun :=
  let r : ToolRun := { files := fs }
  match readOptions bareOptions true args with
  | .error msg => r.usage argv0 msg
  | .ok (found, operands) =>
    if found.has "help" || found.has "version" then r.answerAbout "arch" argv0 found
    else noOperands r argv0 operands "x86_64\n"

end LintBridge.Host.Identity
