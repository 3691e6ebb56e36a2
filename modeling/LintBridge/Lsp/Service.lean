import LintBridge.Lsp.Backend
import LintBridge.Lsp.Requests
/-!
# The JSON-RPC service

Every incoming message passes the server's lifecycle before it reaches a handler: `initialize`
once and first, nothing after `shutdown` but `exit`. Unknown requests get `Method not found`, and
parameters are read after the lifecycle check.
-/

namespace LintBridge.Lsp

/-- Where the server is in its life. -/
inductive Lifecycle where
  | uninitialized
  | initialized
  | shutDown
  | exited
  deriving DecidableEq, Repr

/-- A message from the client: a request when it has an id. -/
structure Incoming where
  method : String
  id : Option Json
  params : Option Json

/-- A server: its place in the lifecycle and its backend. -/
structure Server where
  lifecycle : Lifecycle
  backend : Backend

/-- A fresh server. -/
def Server.new (defaults : Settings) : Server := ⟨.uninitialized, Backend.new defaults⟩

/-- What one message leads to: the server after it, the messages the server sent, and the
answer when there is one. -/
structure Outcome where
  server : Server
  sent : List Outgoing
  response : Option (Except RpcError Json)

def notificationMethods : List String :=
  ["initialized", "workspace/didChangeWorkspaceFolders", "workspace/didChangeConfiguration",
    "workspace/didChangeWatchedFiles", "workspace/didCreateFiles", "workspace/didRenameFiles",
    "workspace/didDeleteFiles", "textDocument/didOpen", "textDocument/didChange",
    "textDocument/willSave", "textDocument/didSave", "textDocument/didClose"]

def requestMethods : List String :=
  ["workspace/symbol", "workspaceSymbol/resolve", "workspace/executeCommand",
    "workspace/willCreateFiles", "workspace/willRenameFiles", "workspace/willDeleteFiles",
    "textDocument/willSaveWaitUntil", "textDocument/declaration", "textDocument/definition",
    "textDocument/typeDefinition", "textDocument/implementation", "textDocument/references",
    "textDocument/prepareCallHierarchy", "callHierarchy/incomingCalls",
    "callHierarchy/outgoingCalls", "textDocument/prepareTypeHierarchy",
    "typeHierarchy/supertypes", "typeHierarchy/subtypes", "textDocument/documentHighlight",
    "textDocument/documentLink", "documentLink/resolve", "textDocument/hover",
    "textDocument/codeLens", "codeLens/resolve", "textDocument/foldingRange",
    "textDocument/selectionRange", "textDocument/documentSymbol",
    "textDocument/semanticTokens/full", "textDocument/semanticTokens/full/delta",
    "textDocument/semanticTokens/range", "textDocument/inlineValue", "textDocument/inlayHint",
    "inlayHint/resolve", "textDocument/moniker", "textDocument/completion",
    "completionItem/resolve", "textDocument/diagnostic", "workspace/diagnostic",
    "textDocument/signatureHelp", "textDocument/codeAction", "codeAction/resolve",
    "textDocument/documentColor", "textDocument/colorPresentation", "textDocument/formatting",
    "textDocument/rangeFormatting", "textDocument/onTypeFormatting", "textDocument/rename",
    "textDocument/prepareRename", "textDocument/linkedEditingRange"]

def paramsOf {α : Type} (params : Option Json) (d : Decoder α) : Except RpcError α :=
  match params with
  | none => .error (.invalidParams "Missing params field")
  | some p => (d p).mapError RpcError.invalidParams

def whenFits {α : Type} (params : Option Json) (d : Decoder α) (h : α → Handler Unit) :
    Handler Unit :=
  match paramsOf params d with
  | .ok v => h v
  | .error _ => pure ()

def takeNotification (method : String) (params : Option Json) : Handler Unit :=
  match method with
  | "initialized" => whenFits params decodeInitialized fun _ => onInitialized
  | "textDocument/didOpen" => whenFits params decodeDidOpen onDidOpen
  | "textDocument/didChange" => whenFits params decodeDidChange fun (uri, v) => onDidChange uri v
  | "textDocument/didSave" => whenFits params decodeDidSave onDidSave
  | "textDocument/didClose" => whenFits params decodeDidClose onDidClose
  | "workspace/didChangeConfiguration" =>
    whenFits params decodeDidChangeConfiguration onDidChangeConfiguration
  | _ => pure ()

def answerRequest (method : String) (params : Option Json) : Handler (Except RpcError Json) :=
  if method == "textDocument/codeAction" then
    match paramsOf params decodeCodeActionParams with
    | .ok (uri, ds) => do return .ok (← onCodeAction uri ds)
    | .error e => pure (.error e)
  else
    match params, requestShape method with
    | none, _ => pure (.error (.invalidParams "Missing params field"))
    | some p, some d =>
      match d p with
      | .ok () => pure (.error .methodNotFound)
      | .error e => pure (.error (.invalidParams e))
    | some _, none => pure (.error .methodNotFound)

/-- Runs a handler on a server's backend. -/
def Server.run {α : Type} (ctx : Context) (srv : Server) (h : Handler α) : α × Backend × List Outgoing :=
  let (a, t) := (h.run ctx).run ⟨srv.backend, []⟩
  (a, t.backend, t.sent)

/-- Nothing happens. -/
def Server.quiet (srv : Server) (response : Option (Except RpcError Json)) : Outcome :=
  ⟨srv, [], response⟩

/-- The answer to a request with the given error, or nothing for a notification. -/
def refuse (id : Option Json) (e : RpcError) : Option (Except RpcError Json) :=
  id.map fun _ => .error e

/-- Handles `initialize`. -/
def Server.initialize (ctx : Context) (srv : Server) (m : Incoming) : Outcome :=
  if srv.lifecycle ≠ .uninitialized then srv.quiet (refuse m.id .invalidRequest)
  else match m.id with
    | none => srv.quiet none
    | some _ =>
      match paramsOf m.params decodeInitialize with
      | .error e => srv.quiet (some (.error e))
      | .ok caps =>
        let (r, b, sent) := srv.run ctx (onInitialize caps)
        ⟨⟨.initialized, b⟩, sent, some (.ok r)⟩

def Server.shutdown (srv : Server) (m : Incoming) : Outcome :=
  match srv.lifecycle with
  | .uninitialized => srv.quiet (refuse m.id .notInitialized)
  | .initialized =>
    let down := { srv with lifecycle := .shutDown }
    match m.id, m.params with
    | none, _ => down.quiet none
    | some _, some p => down.quiet (some (.error (.invalidParams ("Unexpected params: " ++ p.canonical))))
    | some _, none => down.quiet (some (.ok .null))
  | _ => srv.quiet (refuse m.id .invalidRequest)

/-- Handles a method the server knows, once the lifecycle allows it. -/
def Server.normal (srv : Server) (m : Incoming) (handle : Server → Outcome) : Outcome :=
  match srv.lifecycle with
  | .uninitialized => srv.quiet (refuse m.id .notInitialized)
  | .initialized => handle srv
  | _ => srv.quiet (refuse m.id .invalidRequest)

/-- Handles one message from the client. -/
def Server.receive (ctx : Context) (srv : Server) (m : Incoming) : Outcome :=
  if srv.lifecycle = .exited then srv.quiet none
  else if m.method == "exit" then ⟨{ srv with lifecycle := .exited }, [], none⟩
  else if m.method == "initialize" then srv.initialize ctx m
  else if m.method == "shutdown" then srv.shutdown m
  else if m.method == "$/cancelRequest" then srv.quiet (refuse m.id .invalidRequest)
  else if notificationMethods.contains m.method then
    srv.normal m fun srv =>
      match m.id with
      | some _ => srv.quiet (some (.error .invalidRequest))
      | none =>
        let (_, b, sent) := srv.run ctx (takeNotification m.method m.params)
        ⟨{ srv with backend := b }, sent, none⟩
  else if requestMethods.contains m.method then
    srv.normal m fun srv =>
      match m.id with
      | none => srv.quiet none
      | some _ =>
        let (r, b, sent) := srv.run ctx (answerRequest m.method m.params)
        ⟨{ srv with backend := b }, sent, some r⟩
  else srv.quiet (refuse m.id .methodNotFound)

end LintBridge.Lsp
