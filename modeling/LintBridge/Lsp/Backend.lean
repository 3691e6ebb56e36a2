import LintBridge.Lsp.Convert
import LintBridge.Linter.Check
import LintBridge.Session
import LintBridge.Settings.Json
/-!
# The language server

The server keeps the open documents, the client's features, the server-wide settings and a
session with the settings cached per document. Every open, change or save runs one validation,
whose records become the document's diagnostics, or whose failure is sent as a notification.
-/

namespace LintBridge.Lsp

/-- An error answer of JSON-RPC. -/
structure RpcError where
  code : Int
  message : String
  deriving DecidableEq, Repr

namespace RpcError

def parseError : RpcError := ⟨-32700, "Parse error"⟩

def invalidRequest : RpcError := ⟨-32600, "Invalid request"⟩

def methodNotFound : RpcError := ⟨-32601, "Method not found"⟩

def invalidParams (message : String) : RpcError := ⟨-32602, message⟩

def internalError : RpcError := ⟨-32603, "Internal error"⟩

def notInitialized : RpcError := ⟨-32002, "Server not initialized"⟩

/-- The JSON of an error. -/
def toJson (e : RpcError) : Json := .obj [("code", .num (.int e.code)), ("message", .str e.message)]

end RpcError

/-- A message from the server to the client: a request, which the client answers, or a
notification. -/
structure Outgoing where
  method : String
  params : Json
  isRequest : Bool

/-- The JSON of a message as the client sees it, without its id. -/
def Outgoing.toJson (m : Outgoing) : Json := .obj [("method", .str m.method), ("params", m.params)]

/-- What the server runs against: the way to launch programs, the home directory, and the
client's answer to each request the server sends. -/
structure Context where
  launch : Launcher
  home : Option String
  answer : Outgoing → Except RpcError Json

/-- What the server remembers of an open document. -/
structure DocumentState where
  version : Int
  languageId : String
  deriving DecidableEq, Repr

/-- The state of the server. -/
structure Backend where
  defaults : Settings
  globalSettings : Settings
  support : ClientSupport
  documents : List (Web.Url × DocumentState)
  session : Session

/-- A fresh server with its server-wide defaults. -/
def Backend.new (defaults : Settings) : Backend :=
  ⟨defaults, defaults, ClientSupport.none, [], Session.empty⟩

/-- The state of an open document. -/
def Backend.document? (b : Backend) (uri : Web.Url) : Option DocumentState :=
  (b.documents.find? fun (u, _) => u.show == uri.show).map (·.2)

/-- Opens a document, or replaces the state of an open one in its place. -/
def Backend.putDocument (b : Backend) (uri : Web.Url) (d : DocumentState) : Backend :=
  if b.documents.any (·.1.show == uri.show) then
    { b with documents := b.documents.map fun (u, old) => if u.show == uri.show then (u, d) else (u, old) }
  else { b with documents := b.documents ++ [(uri, d)] }

/-- Forgets a document. -/
def Backend.dropDocument (b : Backend) (uri : Web.Url) : Backend :=
  { b with documents := b.documents.filter fun (u, _) => u.show != uri.show }

/-- The state of the server and the messages it has sent so far. -/
structure Turn where
  backend : Backend
  sent : List Outgoing

/-- A computation of the server. -/
abbrev Handler := ReaderT Context (StateM Turn)

/-- The server's state. -/
def current : Handler Backend := do return (← get).backend

/-- Changes the server's state. -/
def update (f : Backend → Backend) : Handler Unit :=
  modify fun t => { t with backend := f t.backend }

/-- Sends a message. -/
def emit (m : Outgoing) : Handler Unit :=
  modify fun t => { t with sent := t.sent ++ [m] }

/-- Sends a notification. -/
def notify (method : String) (params : Json) : Handler Unit := emit ⟨method, params, false⟩

/-- Sends a request and takes the client's answer. -/
def request (m : Outgoing) : Handler (Except RpcError Json) := do
  emit m
  return (← read).answer m

/-- Sends a request with a method and parameters and takes the client's answer. -/
def ask (method : String) (params : Json) : Handler (Except RpcError Json) :=
  request ⟨method, params, true⟩

/-- The notification that carries the complete set of diagnostics of a document. -/
def diagnosticsNotice (uri : Web.Url) (ds : List LspDiagnostic) (version : Option Int) :
    Outgoing :=
  ⟨"textDocument/publishDiagnostics", present [("uri", some (.str uri.show)),
    ("diagnostics", some (.arr (ds.map LspDiagnostic.toJson))),
    ("version", version.map fun v => .num (.int v))], false⟩

/-- Publishes the complete set of diagnostics of a document. -/
def publish (uri : Web.Url) (ds : List LspDiagnostic) (version : Option Int) : Handler Unit :=
  emit (diagnosticsNotice uri ds version)

/-- The `error` notification that reports a linter that could not be run, with the text of the
failure. -/
def linterErrorNotice (e : LinterError) : Outgoing := ⟨"error", .str e.message, false⟩

def settingsSection : String := "42norminette"

/-- The request for the settings of a document. -/
def configurationRequest (uri : Web.Url) : Outgoing :=
  ⟨"workspace/configuration",
    .obj [("items", .arr [.obj [("scopeUri", .str uri.show), ("section", .str settingsSection)]])],
    true⟩

/-- The settings that a configuration change sends to a client without
`workspace/configuration`: the settings section of its payload, read over the defaults. -/
def settingsFromChange (payload : Json) (defaults : Settings) : Settings :=
  Settings.fromValue ((payload.field? settingsSection).getD .null) defaults

/-- The settings of a document, fetched from the client and cached when needed. -/
def documentSettings (uri : Web.Url) : Handler Settings := do
  let b ← current
  match b.session.cachedSettings uri.show with
  | some s => return s
  | none =>
    if !b.support.configuration then return b.globalSettings
    let generation := b.session.settingsGeneration
    let reply ← request (configurationRequest uri)
    match reply with
    | .ok (.arr values) =>
      let s := match values with
        | v :: _ => Settings.fromValue v b.defaults
        | [] => b.defaults
      let b ← current
      if (b.document? uri).isSome then
        update fun b => { b with session := (b.session.cacheSettingsFrom generation uri.show s).2 }
      return s
    | _ => return b.defaults

/-- Why a validation published nothing. -/
inductive ValidationError where
  | notAFile
  | linter (e : LinterError)

/-- Runs the linter on a document and converts its records. -/
def runValidation (uri : Web.Url) : Handler (Except ValidationError (List LspDiagnostic)) := do
  match uri.toFilePath with
  | none => return .error .notAFile
  | some path =>
    let s ← documentSettings uri
    let ctx ← read
    match checkFile ctx.launch ctx.home path s with
    | .error e => return .error (.linter e)
    | .ok records =>
      let related := if (← current).support.relatedInformation then some uri else none
      return .ok (records.map fun r => toLspDiagnostic r related)

/-- Validates a document and publishes the result, unless a newer run superseded it. -/
def validate (uri : Web.Url) : Handler Unit := do
  let (token, session) := (← current).session.beginRun uri.show
  update fun b => { b with session := session }
  let result ← runValidation uri
  let (fresh, session) := (← current).session.finishRun token
  update fun b => { b with session := session }
  if fresh then
    match result with
    | .ok ds => publish uri ds (((← current).document? uri).map (·.version))
    | .error .notAFile => pure ()
    | .error (.linter e) => emit (linterErrorNotice e)

/-- Validates every open document. -/
def validateAll : Handler Unit := do
  for (uri, _) in (← current).documents do
    validate uri

/-- Gives an open document a new version; a document that is not open stays closed. -/
def Backend.setVersion (b : Backend) (uri : Web.Url) (version : Int) : Backend :=
  match b.document? uri with
  | some d => b.putDocument uri { d with version := version }
  | none => b

/-- Forgets a closed document: its state, its cached settings and its run. -/
def Backend.close (b : Backend) (uri : Web.Url) : Backend :=
  { b.dropDocument uri with session := b.session.evict uri.show }

/-- Takes a configuration change: a client with `workspace/configuration` is asked again, so the
cached settings go; for any other client the payload gives the server-wide settings. -/
def Backend.reconfigure (b : Backend) (payload : Json) : Backend :=
  if b.support.configuration then { b with session := b.session.clearSettings }
  else { b with globalSettings := settingsFromChange payload b.defaults }

/-! ## Handlers -/

/-- `initialize`: records the client's features and answers with the server's. -/
def onInitialize (c : ClientCapabilities) : Handler Json := do
  let support := ClientSupport.ofCapabilities c
  update fun b => { b with support := support }
  return initializeResult support

/-- `initialized`: asks to hear of configuration changes when the client has configuration,
then greets. -/
def onInitialized : Handler Unit := do
  if (← current).support.configuration then
    let _ ← ask "client/registerCapability" (.obj [("registrations", .arr [.obj
      [("id", .str "norminette-did-change-configuration"),
        ("method", .str "workspace/didChangeConfiguration")]])])
  notify "window/logMessage"
    (.obj [("type", .nat 3), ("message", .str "Norminette language server initialized")])

/-- `textDocument/didOpen`. -/
def onDidOpen (d : TextDocumentItem) : Handler Unit := do
  update fun b => b.putDocument d.uri ⟨d.version, d.languageId⟩
  validate d.uri

/-- `textDocument/didChange`: a new version of a document. -/
def onDidChange (uri : Web.Url) (version : Int) : Handler Unit := do
  update fun b => b.setVersion uri version
  validate uri

/-- `textDocument/didSave`. -/
def onDidSave (uri : Web.Url) : Handler Unit := validate uri

/-- `textDocument/didClose`: forgets the document and clears its diagnostics. -/
def onDidClose (uri : Web.Url) : Handler Unit := do
  update fun b => b.close uri
  publish uri [] none

/-- `workspace/didChangeConfiguration`: drops the cached settings, or takes the new
server-wide settings from the payload, then validates every open document. -/
def onDidChangeConfiguration (payload : Json) : Handler Unit := do
  update fun b => b.reconfigure payload
  validateAll

def onCodeAction (uri : Web.Url) (ds : List LspDiagnostic) : Handler Json := do
  if ds.isEmpty then return .arr []
  match (← current).document? uri with
  | none => return .arr []
  | some d =>
    let language := if d.languageId.isEmpty then defaultLanguage else d.languageId
    return .arr ((codeActions ds language).map QuickFix.toJson)

end LintBridge.Lsp
