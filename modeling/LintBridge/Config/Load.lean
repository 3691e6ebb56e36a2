import LintBridge.Config.Value
import LintBridge.Settings.Basic
/-!
# Loading the server configuration

The defaults of every document come from three layers, later ones winning: the built-in
settings, a TOML file, and the `NORMINETTE_*` environment variables. A value of the wrong kind
stops the load with a message naming its key and where it came from.
-/

namespace LintBridge.Config

/-- The components of a path, without empty ones and `.`. -/
def components (p : String) : List String :=
  (p.splitOn "/").filter fun c => c ≠ "" ∧ c ≠ "."

def resolveComponents (cs : List String) : List String :=
  (cs.foldl (fun acc c => if c = ".." then acc.drop 1 else c :: acc) []).reverse

def joinComponents (cs : List String) : String :=
  "/" ++ "/".intercalate cs

def relativeTo (base target : List String) : List String :=
  match base, target with
  | b :: bs, t :: ts => if b = t then relativeTo bs ts else bs.map (fun _ => "..") ++ ".." :: t :: ts
  | bs, ts => bs.map (fun _ => "..") ++ ts

/-- What the configuration can see of the machine: the working directory, the text of each
file by absolute path, and the environment variables. -/
structure Surroundings where
  cwd : String
  files : List (String × String)
  env : List (String × String)

def Surroundings.fileAt (s : Surroundings) (path : List String) : Option String :=
  (s.files.find? fun (p, _) => resolveComponents (components p) = path).map (·.2)

def knownExtensions : List String := ["toml", "json", "yaml", "yml", "ini", "ron", "json5"]

/-- Why the configuration did not load. -/
inductive ConfigError where
  /-- No file was found for a required name. -/
  | notFound (name : String)
  /-- The file has an extension of no known format. -/
  | unknownFormat (path : String)
  /-- The file is not a TOML document; the cause is the reader's message. -/
  | malformed (uri : String) (cause : String)
  /-- A value does not fit its key. -/
  | mismatch (key : String) (origin : Origin) (m : TypeMismatch)
  /-- A value names no known choice. -/
  | invalid (key : String) (e : UnknownChoice)
  deriving Repr

namespace ConfigError

def isLoad : ConfigError → Bool
  | .invalid _ _ => false
  | _ => true

/-- The reason the layers did not read, for an error of that kind. -/
def cause : ConfigError → Option String
  | .notFound name => some ("configuration file \"" ++ name ++ "\" not found")
  | .unknownFormat path => some ("configuration file \"" ++ path ++ "\" is not of a registered file format")
  | .malformed uri c => some (c ++ " in " ++ uri)
  | .mismatch key origin m =>
    -- a table is rebuilt when the layers merge and so no longer knows where it came from
    let place := if m.found = .map then "" else " in " ++ origin.name
    some ("invalid type: " ++ m.found.describe ++ ", expected " ++ m.expected ++ " for key `" ++ key ++
      "`" ++ place)
  | .invalid _ _ => none

/-- The error as shown. -/
def message (e : ConfigError) : String :=
  match e with
  | .invalid key c => "Invalid configuration value for " ++ key ++ ": " ++ c.message
  | _ => "Failed to load configuration: " ++ (e.cause.getD "")

/-- The error and the errors it stems from, outermost first. -/
def chain (e : ConfigError) : List String :=
  e.message :: e.cause.toList

end ConfigError

abbrev Layers := List (String × (Value × Origin))

/-- Sets a key, replacing what an earlier layer gave. -/
def Layers.set (ls : Layers) (key : String) (v : Value × Origin) : Layers :=
  (key, v) :: ls.filter (·.1 ≠ key)

def nameBase (cwd name : String) : List String :=
  if name.startsWith "/" then components name else components cwd ++ components name

def withExtensions (cwd name : String) : List (List String) :=
  let base := nameBase cwd name
  knownExtensions.map fun ext => resolveComponents (base.dropLast ++ [base.getLastD "" ++ "." ++ ext])

def findFile (s : Surroundings) (name : String) : Except ConfigError (Option (List String × String)) :=
  let exact := resolveComponents (nameBase s.cwd name)
  match s.fileAt exact with
  | some text =>
    let last := exact.getLastD ""
    let ext := if (last.drop 1).contains '.' then (last.splitOn ".").getLastD "" else ""
    if knownExtensions.contains ext then .ok (some (exact, text))
    else .error (.unknownFormat (joinComponents exact))
  | none =>
    .ok ((withExtensions s.cwd name).findSome? fun p => (s.fileAt p).map fun text => (p, text))

/-- Every path a load may read for a name, absolute. -/
def pathsFor (cwd name : String) : List String :=
  (resolveComponents (nameBase cwd name) :: withExtensions cwd name).map joinComponents

def fileLayer (s : Surroundings) (name : String) (required : Bool) : Except ConfigError Layers :=
  match findFile s name with
  | .error e => if required then .error e else .ok []
  | .ok none => if required then .error (.notFound name) else .ok []
  | .ok (some (path, text)) =>
    let uri := "/".intercalate (relativeTo (resolveComponents (components s.cwd)) path)
    match Toml.parse text with
    | .error e => .error (.malformed uri (Toml.TomlError.render text e))
    | .ok table =>
      -- keys are matched without regard to ASCII case; of two that then coincide the later wins
      .ok (table.foldl (fun ls (k, v) => ls.set k.toLower (Value.ofToml v, .file uri)) [])

/-- The keys the settings read. -/
def settingKeys : List String :=
  ["command", "show_errors", "max_errors", "output_format", "severity", "docs_url"]

def envPrefix : String := "norminette_"

def envLayer (s : Surroundings) (ls : Layers) : Layers :=
  s.env.foldl (fun acc (k, v) =>
    let key := k.toLower
    if key.startsWith envPrefix then
      acc.set (String.ofList (key.toList.drop envPrefix.length)) (Value.ofEnvironment v, .environment)
    else acc) ls

def readKey {α : Type} (ls : Layers) (key : String) (convert : Value → Except TypeMismatch α) :
    Except ConfigError (Option α) :=
  match ls.lookup key with
  | none => .ok none
  | some (v, origin) =>
    match convert v with
    | .ok a => .ok (some a)
    | .error m => .error (.mismatch key origin m)

/-- The six keys of the layers, each as it was given. -/
structure Given where
  command : Option String
  showErrors : Option String
  maxErrors : Option Nat
  outputFormat : Option String
  severity : Option String
  docsUrl : Option String

/-- Reads the six keys in order. -/
def Given.read (ls : Layers) : Except ConfigError Given := do
  let command ← readKey ls "command" Value.toText
  let showErrors ← readKey ls "show_errors" Value.toText
  let maxErrors ← readKey ls "max_errors" Value.toCount
  let outputFormat ← readKey ls "output_format" Value.toText
  let severity ← readKey ls "severity" Value.toText
  let docsUrl ← readKey ls "docs_url" Value.toText
  pure ⟨command, showErrors, maxErrors, outputFormat, severity, docsUrl⟩

def choose {α : Type} (key : String) (read : String → Except UnknownChoice α) (given : Option String)
    (default : α) : Except ConfigError α :=
  match given with
  | none => .ok default
  | some text =>
    match read text with
    | .ok a => .ok a
    | .error e => .error (.invalid key e)

/-- The settings the given keys make of the built-in ones. -/
def Given.settings (g : Given) : Except ConfigError Settings := do
  let d := Settings.default
  let showErrors ← choose "show_errors" DisplayMode.ofName g.showErrors d.showErrors
  let outputFormat ← choose "output_format" Layout.ofName g.outputFormat d.outputFormat
  let severity ← choose "severity" Severity.ofName g.severity d.severity
  pure { command := g.command.getD d.command, showErrors,
         maxErrors := g.maxErrors.orElse fun _ => d.maxErrors, outputFormat, severity,
         docsUrl := g.docsUrl.getD d.docsUrl }

/-- The name of the file read when none is given. -/
def defaultName : String := "norminette-lsp"

/-- Loads the default settings from the named file, which must then exist, or from the default
file if there is one, with the environment over it. -/
def loadFrom (s : Surroundings) (path : Option String) : Except ConfigError Settings := do
  let ls ← fileLayer s (path.getD defaultName) path.isSome
  let g ← Given.read (envLayer s ls)
  g.settings

/-- The variable that names the configuration file. -/
def pathVariable : String := "NORMINETTE_CONFIG_PATH"

/-- Loads the default settings from the file the environment names, or the default file. -/
def load (s : Surroundings) : Except ConfigError Settings :=
  loadFrom s (s.env.lookup pathVariable)

end LintBridge.Config
