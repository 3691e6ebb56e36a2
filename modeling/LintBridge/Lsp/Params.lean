import LintBridge.Lsp.Capabilities
/-!
# Parameters of the messages the server handles

The parameters of each notification and request the server acts on, read as strictly as the
protocol's types read them: the session's start with the client's capabilities, the changes of
documents and settings, and the request for code actions.
-/

namespace LintBridge.Lsp

/-! ## Requests and notifications -/

def progressToken : Decoder Unit :=
  anyOf "NumberOrString" [fun j => (i32 j).map fun _ => (), fun j => (string j).map fun _ => ()]

def workDone : Part := .flat [.field (maybe "workDoneToken" progressToken)]

def partialResult : Part := .flat [.field (maybe "partialResultToken" progressToken)]

def decodeFolder : Decoder Unit := fun j => do
  let _ ← record "WorkspaceFolder" [need "uri" url, need "name" string] j

def decodeClientInfo : Decoder Unit := fun j => do
  let _ ← record "ClientInfo" [need "name" string, maybe "version" string] j

def decodeInitialize : Decoder ClientCapabilities := fun j => do
  flatShape "InitializeParams"
    [.field (maybe "processId" u32), .field (maybe "rootPath" string),
      .field (maybe "rootUri" url), .field (maybe "initializationOptions" anyValue),
      .field (need "capabilities" ClientCapabilities.decode),
      .field (maybe "trace" (variant ["off", "messages", "verbose"])),
      .field (maybe "workspaceFolders" (listOf decodeFolder)),
      .field (maybe "clientInfo" decodeClientInfo), .field (maybe "locale" string), workDone] j
  match j with
  | .obj fields => required fields "capabilities" ClientCapabilities.decode
  | _ => wrongType j "struct InitializeParams"

def decodeInitialized : Decoder Unit := fun j => do
  let _ ← record "InitializedParams" [] j

/-- An open document as the client describes it. -/
structure TextDocumentItem where
  uri : Web.Url
  languageId : String
  version : Int
  text : String

/-- Reads an open document. -/
def TextDocumentItem.decode : Decoder TextDocumentItem := fun j => do
  let f ← record "TextDocumentItem"
    [need "uri" url, need "languageId" string, need "version" i32, need "text" string] j
  pure ⟨← required f "uri" url, ← required f "languageId" string, ← required f "version" i32,
    ← required f "text" string⟩

def decodeIdentifier : Decoder Web.Url := fun j => do
  let f ← record "TextDocumentIdentifier" [need "uri" url] j
  required f "uri" url

def decodeVersioned : Decoder (Web.Url × Int) := fun j => do
  let f ← record "VersionedTextDocumentIdentifier" [need "uri" url, need "version" i32] j
  pure (← required f "uri" url, ← required f "version" i32)

def decodeChange : Decoder Unit := fun j => do
  let _ ← record "TextDocumentContentChangeEvent"
    [maybe "range" LspRange.decode, maybe "rangeLength" u32, need "text" string] j

def decodeDidOpen : Decoder TextDocumentItem := fun j => do
  let f ← record "DidOpenTextDocumentParams" [need "textDocument" TextDocumentItem.decode] j
  required f "textDocument" TextDocumentItem.decode

def decodeDidChange : Decoder (Web.Url × Int) := fun j => do
  let f ← record "DidChangeTextDocumentParams"
    [need "textDocument" decodeVersioned, need "contentChanges" (listOf decodeChange)] j
  required f "textDocument" decodeVersioned

def decodeDidSave : Decoder Web.Url := fun j => do
  let f ← record "DidSaveTextDocumentParams"
    [need "textDocument" decodeIdentifier, maybe "text" string] j
  required f "textDocument" decodeIdentifier

def decodeDidClose : Decoder Web.Url := fun j => do
  let f ← record "DidCloseTextDocumentParams" [need "textDocument" decodeIdentifier] j
  required f "textDocument" decodeIdentifier

def decodeDidChangeConfiguration : Decoder Json := fun j => do
  let f ← record "DidChangeConfigurationParams" [need "settings" anyValue] j
  required f "settings" anyValue

def decodeFileEvent : Decoder Unit := fun j => do
  let _ ← record "FileEvent" [need "uri" url, need "type" i32] j

def decodeDidChangeWatchedFiles : Decoder Unit := fun j => do
  let _ ← record "DidChangeWatchedFilesParams" [need "changes" (listOf decodeFileEvent)] j

def decodeContext : Decoder (List LspDiagnostic) := fun j => do
  let f ← record "CodeActionContext"
    [need "diagnostics" (listOf LspDiagnostic.decode), maybe "only" (listOf string),
      maybe "triggerKind" i32] j
  required f "diagnostics" (listOf LspDiagnostic.decode)

def decodeCodeActionParams : Decoder (Web.Url × List LspDiagnostic) := fun j => do
  flatShape "CodeActionParams"
    [.field (need "textDocument" decodeIdentifier), .field (need "range" LspRange.decode),
      .field (need "context" decodeContext), workDone, partialResult] j
  match j with
  | .obj f => pure (← required f "textDocument" decodeIdentifier, ← required f "context" decodeContext)
  | _ => wrongType j "struct CodeActionParams"

end LintBridge.Lsp
