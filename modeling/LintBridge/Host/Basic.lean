import LintBridge.Text.Utf8
/-!
# The host

The machine on which the linter runs, as far as answers can show it: a small file system, and
programs that are refused before they start or finish with a status and the bytes they wrote.
-/

namespace LintBridge.Host

abbrev Bytes := List UInt8

/-- The bytes of a text in UTF-8. -/
def bytes (s : String) : Bytes := Text.utf8 s

/-- Bytes read as UTF-8, ill-formed sequences replaced. -/
def Bytes.text (bs : Bytes) : String := String.ofList (Text.decodeLossy bs)

/-- Why a program could not be started, or a file not used. -/
inductive OsError where
  | notFound
  | permissionDenied
  | notADirectory
  | isADirectory
  deriving DecidableEq, Repr

/-- The operating system's text for an error. -/
def OsError.text : OsError → String
  | .notFound => "No such file or directory"
  | .permissionDenied => "Permission denied"
  | .notADirectory => "Not a directory"
  | .isADirectory => "Is a directory"

/-- The operating system's text for an error, with its number. -/
def OsError.message : OsError → String
  | .notFound => "No such file or directory (os error 2)"
  | .permissionDenied => "Permission denied (os error 13)"
  | .notADirectory => "Not a directory (os error 20)"
  | .isADirectory => "Is a directory (os error 21)"

/-- What launching a program gives. -/
inductive Outcome where
  | refused (e : OsError)
  | finished (code : Option Int) (stdout stderr : List UInt8)
  deriving Repr

/-! ## Files -/

/-- A device file. -/
inductive Device where
  /-- Reads nothing and swallows what is written. -/
  | null
  /-- Reads zero bytes without end. -/
  | zero
  /-- Stands for one of the reading program's own descriptors. -/
  | descriptor (fd : Nat)
  deriving DecidableEq, Repr

/-- What a path names. A file of the machine whose content is not known here (`own`) is never
empty. -/
inductive Node where
  | directory (writable : Bool)
  | file (content : Bytes) (own : Bool)
  | device (d : Device)
  | program (name : String)
  deriving DecidableEq, Repr

/-- The programs found on the search path. -/
def programs : List String :=
  ["sh", "dash", "bash", "echo", "printf", "true", "false", "cat", "test", "[", "basename", "dirname",
    "env", "printenv", "seq", "sleep", "head", "tail", "wc", "tee", "rm", "rmdir", "mkdir",
    "touch", "pwd", "grep", "tr", "expr", "sort", "ls",
    "whoami", "id", "groups", "logname", "tty", "uname", "arch",
    "cut", "uniq", "tac", "paste", "fold", "nl", "yes", "od"]

def programDir : String := "/usr/bin"

def searchPath : String := "/usr/local/sbin:/usr/local/bin:/usr/sbin:/usr/bin:/sbin:/bin"

def baseDirectories (home : String) : List (String × Bool) :=
  [("/", true), ("/usr", true), ("/usr/bin", true), ("/usr/sbin", true),
    ("/usr/lib", true), ("/usr/local", true), ("/usr/local/bin", true),
    ("/usr/local/sbin", true), ("/usr/share", true), ("/usr/games", true), ("/home", true),
    ("/tmp", true), ("/etc", true), ("/dev", true), ("/proc", false), ("/sys", false),
    ("/var", true), ("/var/tmp", true), ("/var/cache", true), ("/var/cache/man", true),
    ("/var/spool", true), ("/var/mail", true), ("/var/backups", true), ("/run", true),
    ("/root", true), ("/opt", true), ("/srv", true), ("/mnt", true), ("/media", true),
    ("/boot", true), ("/var/log", true), ("/var/lib", true), ("/var/local", true),
    ("/var/opt", true), ("/usr/src", true), ("/usr/include", true), ("/usr/libexec", true),
    ("/usr/lib64", true), (home, true)]

def accounts : List (String × Nat × Nat × String × String × String) :=
  [("root", 0, 0, "root", "/root", "/bin/bash"),
    ("daemon", 1, 1, "daemon", "/usr/sbin", "/usr/sbin/nologin"),
    ("bin", 2, 2, "bin", "/bin", "/usr/sbin/nologin"),
    ("sys", 3, 3, "sys", "/dev", "/usr/sbin/nologin"),
    ("sync", 4, 65534, "sync", "/bin", "/bin/sync"),
    ("games", 5, 60, "games", "/usr/games", "/usr/sbin/nologin"),
    ("man", 6, 12, "man", "/var/cache/man", "/usr/sbin/nologin"),
    ("lp", 7, 7, "lp", "/var/spool/lpd", "/usr/sbin/nologin"),
    ("mail", 8, 8, "mail", "/var/mail", "/usr/sbin/nologin"),
    ("news", 9, 9, "news", "/var/spool/news", "/usr/sbin/nologin"),
    ("uucp", 10, 10, "uucp", "/var/spool/uucp", "/usr/sbin/nologin"),
    ("proxy", 13, 13, "proxy", "/bin", "/usr/sbin/nologin"),
    ("www-data", 33, 33, "www-data", "/var/www", "/usr/sbin/nologin"),
    ("backup", 34, 34, "backup", "/var/backups", "/usr/sbin/nologin"),
    ("list", 38, 38, "Mailing List Manager", "/var/list", "/usr/sbin/nologin"),
    ("irc", 39, 39, "ircd", "/run/ircd", "/usr/sbin/nologin"),
    ("_apt", 42, 65534, "", "/nonexistent", "/usr/sbin/nologin"),
    ("nobody", 65534, 65534, "nobody", "/nonexistent", "/usr/sbin/nologin")]

def accountHome (name : String) : Option String :=
  (accounts.find? (·.1 == name)).map fun (_, _, _, _, home, _) => home

def passwdText : String :=
  String.join (accounts.map fun (name, uid, gid, desc, home, shell) =>
    name ++ ":x:" ++ toString uid ++ ":" ++ toString gid ++ ":" ++ desc ++ ":" ++ home ++ ":" ++
      shell ++ "\n")

def machineGroups : List (String × Nat) :=
  [("root", 0), ("daemon", 1), ("bin", 2), ("sys", 3), ("adm", 4), ("tty", 5), ("disk", 6),
    ("lp", 7), ("mail", 8), ("news", 9), ("uucp", 10), ("man", 12), ("proxy", 13),
    ("kmem", 15), ("dialout", 20), ("fax", 21), ("voice", 22), ("cdrom", 24), ("floppy", 25),
    ("tape", 26), ("sudo", 27), ("audio", 29), ("dip", 30), ("www-data", 33),
    ("backup", 34), ("operator", 37), ("list", 38), ("irc", 39), ("src", 40), ("shadow", 42),
    ("utmp", 43), ("video", 44), ("sasl", 45), ("plugdev", 46), ("staff", 50),
    ("games", 60), ("users", 100), ("nogroup", 65534)]

def groupText : String :=
  String.join (machineGroups.map fun (name, gid) => name ++ ":x:" ++ toString gid ++ ":\n")

def baseFiles : List (String × Node) :=
  [("/etc/passwd", .file (bytes passwdText) false), ("/etc/group", .file (bytes groupText) false),
    ("/etc/hostname", .file [] true), ("/etc/shadow", .file [] true),
    ("/etc/gshadow", .file [] true),
    ("/etc/hosts", .file [] true), ("/dev/null", .device .null),
    ("/dev/zero", .device .zero), ("/dev/stdin", .device (.descriptor 0)),
    ("/dev/stdout", .device (.descriptor 1)), ("/dev/stderr", .device (.descriptor 2))]

def machineLinks : List String :=
  ["/bin", "/sbin", "/lib", "/lib64", "/usr/bin/sh", "/dev/stdin", "/dev/stdout", "/dev/stderr"]

def stickyDirectories : List String := ["/tmp", "/var/tmp"]

def otherGroupPaths : List String := ["/var/mail", "/etc/shadow", "/etc/gshadow", "/var/local"]

def pathParts (p : String) : List String :=
  ((p.splitOn "/").filter (fun s => s ≠ "" && s ≠ ".")).foldl
    (fun acc s => if s = ".." then acc.dropLast else acc ++ [s]) []

/-- A path made absolute against a working directory, with `.`, `..` and repeated slashes
resolved and the directories that lead elsewhere followed. -/
def absolutePath (cwd p : String) : String :=
  let full := if p.startsWith "/" then p else cwd ++ "/" ++ p
  let parts := match pathParts full with
    | "bin" :: rest => "usr" :: "bin" :: rest
    | "sbin" :: rest => "usr" :: "sbin" :: rest
    | "lib" :: rest => "usr" :: "lib" :: rest
    | "lib64" :: rest => "usr" :: "lib64" :: rest
    | ps => ps
  "/" ++ "/".intercalate parts

/-- The files a run of programs shares: what scripts wrote, over the machine's own. -/
structure Files where
  home : String
  cwd : String := "/"
  written : List (String × Bytes) := []
  removed : List String := []
  made : List String := []
  deriving Repr

def Files.node (fs : Files) (path : String) : Option Node :=
  if fs.removed.contains path then none
  else
    match fs.written.lookup path with
    | some content => some (.file content false)
    | none =>
      match (baseDirectories fs.home).lookup path with
      | some w => some (.directory w)
      | none =>
        if fs.made.contains path then some (.directory true)
        else
          match baseFiles.lookup path with
          | some n => some n
          | none =>
            if path.startsWith (programDir ++ "/") &&
                programs.contains (path.drop (programDir.length + 1)).toString then
              some (.program (path.drop (programDir.length + 1)).toString)
            else none

def parentOf (path : String) : String :=
  match (pathParts path).dropLast with
  | [] => "/"
  | ps => "/" ++ "/".intercalate ps

def Files.walkError (fs : Files) (p : String) : Option OsError :=
  let full := if p.startsWith "/" then p else fs.cwd ++ "/" ++ p
  let parts := (full.splitOn "/").filter (· ≠ "")
  let prefixes := (List.range parts.length).map fun i => "/" ++ "/".intercalate (parts.take i)
  prefixes.findSome? fun q =>
    let path := absolutePath "/" q
    if path == "/" then none
    else
      match fs.node path with
      | some (.directory _) => none
      | some _ => some .notADirectory
      | none => some .notFound

/-- The names in a directory given by its absolute path, with `.` and `..`: the machine's own
entries (the search path's programs in `/usr/bin`, and at the root the links `bin`, `sbin`,
`lib` and `lib64`) and what scripts made there. -/
def Files.entries (fs : Files) (dir : String) : List String :=
  let known := (baseDirectories fs.home).map (·.1) ++ baseFiles.map (·.1) ++
    fs.written.map (·.1) ++ fs.made
  let inDir := (known.filter fun p => p != "/" && parentOf p == dir && fs.node p != none).map
    fun p => (pathParts p).getLastD ""
  let own := if dir == programDir then programs
    else if dir == "/" then ["bin", "sbin", "lib", "lib64"] else []
  (["." , ".."] ++ own ++ inDir).eraseDups

/-- What a path names, or why it names nothing. -/
def Files.find (fs : Files) (p : String) : Except OsError Node :=
  if p.isEmpty then .error .notFound
  else if let some e := fs.walkError p then .error e
  else
    match fs.node (absolutePath fs.cwd p) with
    | some n =>
      match n with
      | .directory _ => .ok n
      | _ => if p.endsWith "/" then .error .notADirectory else .ok n
    | none => .error .notFound

def Files.creatable (fs : Files) (p : String) : Except OsError Unit :=
  let path := absolutePath fs.cwd p
  if p.isEmpty then .error .notFound
  else if let some e := fs.walkError p then .error e
  else
    match fs.node (parentOf path) with
    | some (.directory true) => .ok ()
    | some (.directory false) => .error .permissionDenied
    | some _ => .error .notADirectory
    | none => .error .notFound

/-- The files with a file's content replaced. -/
def Files.write (fs : Files) (p : String) (content : Bytes) : Files :=
  let path := absolutePath fs.cwd p
  { fs with written := (path, content) :: fs.written.filter (·.1 ≠ path),
            removed := fs.removed.filter (· ≠ path) }

/-- The files with bytes added at the end of a file. -/
def Files.append (fs : Files) (p : String) (more : Bytes) : Files :=
  let path := absolutePath fs.cwd p
  match fs.written.lookup path with
  | some content => fs.write path (content ++ more)
  | none => fs.write path more

/-- The content of a file, or why it cannot be read. -/
def Files.read (fs : Files) (p : String) : Except OsError Bytes :=
  match fs.find p with
  | .ok (.file content _) => .ok content
  | .ok (.device .null) => .ok []
  | .ok (.device _) => .ok []
  | .ok (.program _) => .ok []
  | .ok (.directory _) => .error .isADirectory
  | .error e => .error e

/-- The program a command name starts: a name with a slash is a path, any other name is looked
up on the search path. -/
def Files.resolve (fs : Files) (name : String) : Except OsError String :=
  if name.contains '/' then
    match fs.find name with
    | .ok (.program p) => .ok p
    | .ok _ => .error .permissionDenied
    | .error e => .error e
  else if programs.contains name then .ok name
  else .error .notFound

def programPath (name : String) : String := programDir ++ "/" ++ name

end LintBridge.Host
