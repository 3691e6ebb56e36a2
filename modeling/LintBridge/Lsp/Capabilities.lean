import LintBridge.Lsp.Types
/-!
# What a client can do

The capabilities a client announces are checked against the shape the protocol declares for
every part, and a wrong value anywhere refuses them all. Only the few values that change what
the server does are kept, in `ClientCapabilities`.
-/

namespace LintBridge.Lsp

/-! ## Common parts -/

/-- An optional flag. -/
def flag (key : String) : FieldSpec := maybe key boolean

def dynamicRegistration : FieldSpec := flag "dynamicRegistration"

def dynamicOnly (name : String) : Decoder Unit := shape name [dynamicRegistration]

def refreshOnly (name : String) : Decoder Unit := shape name [flag "refreshSupport"]

def markupKind : Decoder String := variant ["plaintext", "markdown"]

def resolveSupport (name : String) : Decoder Unit :=
  shape name [need "properties" (listOf string)]

def tagSupport : Decoder Unit := shape "TagSupport" [need "valueSet" (listOf i32)]

def tagsField (key : String) : FieldSpec :=
  ⟨key, fun j => match j with
    | .null | .bool _ => .ok ()
    | _ => tagSupport j, true, true⟩

def symbolKinds : Decoder Unit := shape "SymbolKindCapability" [maybe "valueSet" (listOf i32)]

/-! ## Workspace -/

def workspaceEditShape : Decoder Unit := shape "WorkspaceEditClientCapabilities"
  [flag "documentChanges",
    maybe "resourceOperations" (listOf (variant ["create", "rename", "delete"])),
    maybe "failureHandling"
      (variant ["abort", "transactional", "textOnlyTransactional", "undo"]),
    flag "normalizesLineEndings",
    maybe "changeAnnotationSupport"
      (shape "ChangeAnnotationWorkspaceEditClientCapabilities" [flag "groupsOnLabel"])]

def workspaceSymbolShape : Decoder Unit := shape "WorkspaceSymbolClientCapabilities"
  [dynamicRegistration, maybe "symbolKind" symbolKinds, tagsField "tagSupport",
    maybe "resolveSupport" (resolveSupport "WorkspaceSymbolResolveSupportCapability")]

def fileOperationsShape : Decoder Unit := shape "WorkspaceFileOperationsClientCapabilities"
  [dynamicRegistration, flag "didCreate", flag "willCreate", flag "didRename",
    flag "willRename", flag "didDelete", flag "willDelete"]

def workspaceFields : List FieldSpec :=
  [flag "applyEdit",
    maybe "workspaceEdit" workspaceEditShape,
    maybe "didChangeConfiguration" (dynamicOnly "DynamicRegistrationClientCapabilities"),
    maybe "didChangeWatchedFiles" (shape "DidChangeWatchedFilesClientCapabilities"
      [dynamicRegistration, flag "relativePatternSupport"]),
    maybe "symbol" workspaceSymbolShape,
    maybe "executeCommand" (dynamicOnly "DynamicRegistrationClientCapabilities"),
    flag "workspaceFolders",
    flag "configuration",
    maybe "semanticTokens" (refreshOnly "SemanticTokensWorkspaceClientCapabilities"),
    maybe "codeLens" (refreshOnly "CodeLensWorkspaceClientCapabilities"),
    maybe "fileOperations" fileOperationsShape,
    maybe "inlineValue" (refreshOnly "InlineValueWorkspaceClientCapabilities"),
    maybe "inlayHint" (refreshOnly "InlayHintWorkspaceClientCapabilities"),
    maybe "diagnostic" (refreshOnly "DiagnosticWorkspaceClientCapabilities")]

/-! ## Text documents -/

def completionItemShape : Decoder Unit := shape "CompletionItemCapability"
  [flag "snippetSupport", flag "commitCharactersSupport",
    maybe "documentationFormat" (listOf markupKind), flag "deprecatedSupport",
    flag "preselectSupport", tagsField "tagSupport", flag "insertReplaceSupport",
    maybe "resolveSupport" (resolveSupport "CompletionItemCapabilityResolveSupport"),
    maybe "insertTextModeSupport" (shape "InsertTextModeSupport" [need "valueSet" (listOf i32)]),
    flag "labelDetailsSupport"]

def completionShape : Decoder Unit := shape "CompletionClientCapabilities"
  [dynamicRegistration, maybe "completionItem" completionItemShape,
    maybe "completionItemKind"
      (shape "CompletionItemKindCapability" [maybe "valueSet" (listOf i32)]),
    flag "contextSupport", maybe "insertTextMode" i32,
    maybe "completionList" (shape "CompletionListCapability" [maybe "itemDefaults" (listOf string)])]

def signatureHelpShape : Decoder Unit := shape "SignatureHelpClientCapabilities"
  [dynamicRegistration,
    maybe "signatureInformation" (shape "SignatureInformationSettings"
      [maybe "documentationFormat" (listOf markupKind),
        maybe "parameterInformation"
          (shape "ParameterInformationSettings" [flag "labelOffsetSupport"]),
        flag "activeParameterSupport"]),
    flag "contextSupport"]

def documentSymbolShape : Decoder Unit := shape "DocumentSymbolClientCapabilities"
  [dynamicRegistration, maybe "symbolKind" symbolKinds,
    flag "hierarchicalDocumentSymbolSupport", tagsField "tagSupport"]

def gotoShape : Decoder Unit := shape "GotoCapability" [dynamicRegistration, flag "linkSupport"]

def decodeKindSupport : Decoder (List String) := fun j => do
  let f ← record "CodeActionKindLiteralSupport" [need "valueSet" (listOf string)] j
  required f "valueSet" (listOf string)

def decodeLiteralSupport : Decoder (List String) := fun j => do
  let f ← record "CodeActionLiteralSupport" [need "codeActionKind" decodeKindSupport] j
  required f "codeActionKind" decodeKindSupport

def decodeCodeAction : Decoder Bool := fun j => do
  let f ← record "CodeActionClientCapabilities"
    [dynamicRegistration, maybe "codeActionLiteralSupport" decodeLiteralSupport,
      flag "isPreferredSupport", flag "disabledSupport", flag "dataSupport",
      maybe "resolveSupport" (resolveSupport "CodeActionCapabilityResolveSupport"),
      flag "honorsChangeAnnotations"] j
  pure (← optional f "codeActionLiteralSupport" decodeLiteralSupport).isSome

def renameShape : Decoder Unit := shape "RenameClientCapabilities"
  [dynamicRegistration, flag "prepareSupport", maybe "prepareSupportDefaultBehavior" i32,
    flag "honorsChangeAnnotations"]

def decodePublish : Decoder (Option Bool) := fun j => do
  let f ← record "PublishDiagnosticsClientCapabilities"
    [flag "relatedInformation", tagsField "tagSupport", flag "versionSupport",
      flag "codeDescriptionSupport", flag "dataSupport"] j
  optional f "relatedInformation" boolean

def foldingRangeShape : Decoder Unit := shape "FoldingRangeClientCapabilities"
  [dynamicRegistration, maybe "rangeLimit" u32, flag "lineFoldingOnly",
    maybe "foldingRangeKind" (shape "FoldingRangeKindCapability"
      [maybe "valueSet" (listOf (variant ["comment", "imports", "region"]))]),
    maybe "foldingRange" (shape "FoldingRangeCapability" [flag "collapsedText"])]

def fullTokens : Decoder Unit :=
  anyOf "SemanticTokensFullOptions"
    [fun j => (boolean j).map fun _ => (), shape "Delta" [flag "delta"]]

def semanticTokensShape : Decoder Unit := shape "SemanticTokensClientCapabilities"
  [dynamicRegistration,
    need "requests" (shape "SemanticTokensClientCapabilitiesRequests"
      [flag "range", maybe "full" fullTokens]),
    need "tokenTypes" (listOf string), need "tokenModifiers" (listOf string),
    need "formats" (listOf string), flag "overlappingTokenSupport",
    flag "multilineTokenSupport", flag "serverCancelSupport", flag "augmentsSyntaxTokens"]

def registrationOnly : String := "DynamicRegistrationClientCapabilities"

def textDocumentFields : List FieldSpec :=
  [maybe "synchronization" (shape "TextDocumentSyncClientCapabilities"
      [dynamicRegistration, flag "willSave", flag "willSaveWaitUntil", flag "didSave"]),
    maybe "completion" completionShape,
    maybe "hover" (shape "HoverClientCapabilities"
      [dynamicRegistration, maybe "contentFormat" (listOf markupKind)]),
    maybe "signatureHelp" signatureHelpShape,
    maybe "references" (dynamicOnly registrationOnly),
    maybe "documentHighlight" (dynamicOnly registrationOnly),
    maybe "documentSymbol" documentSymbolShape,
    maybe "formatting" (dynamicOnly registrationOnly),
    maybe "rangeFormatting" (dynamicOnly registrationOnly),
    maybe "onTypeFormatting" (dynamicOnly registrationOnly),
    maybe "declaration" gotoShape,
    maybe "definition" gotoShape,
    maybe "typeDefinition" gotoShape,
    maybe "implementation" gotoShape,
    maybe "codeAction" decodeCodeAction,
    maybe "codeLens" (dynamicOnly registrationOnly),
    maybe "documentLink" (shape "DocumentLinkClientCapabilities"
      [dynamicRegistration, flag "tooltipSupport"]),
    maybe "colorProvider" (dynamicOnly registrationOnly),
    maybe "rename" renameShape,
    maybe "publishDiagnostics" decodePublish,
    maybe "foldingRange" foldingRangeShape,
    maybe "selectionRange" (dynamicOnly "SelectionRangeClientCapabilities"),
    maybe "linkedEditingRange" (dynamicOnly "LinkedEditingRangeClientCapabilities"),
    maybe "callHierarchy" (dynamicOnly "CallHierarchyClientCapabilities"),
    maybe "semanticTokens" semanticTokensShape,
    maybe "moniker" (dynamicOnly "MonikerClientCapabilities"),
    maybe "typeHierarchy" (dynamicOnly registrationOnly),
    maybe "inlineValue" (dynamicOnly "InlineValueClientCapabilities"),
    maybe "inlayHint" (shape "InlayHintClientCapabilities"
      [dynamicRegistration,
        maybe "resolveSupport" (resolveSupport "InlayHintResolveClientCapabilities")]),
    maybe "diagnostic" (shape "DiagnosticClientCapabilities"
      [dynamicRegistration, flag "relatedDocumentSupport"])]

/-! ## Window and general -/

def windowShape : Decoder Unit := shape "WindowClientCapabilities"
  [flag "workDoneProgress",
    maybe "showMessage" (shape "ShowMessageRequestClientCapabilities"
      [maybe "messageActionItem"
        (shape "MessageActionItemCapabilities" [flag "additionalPropertiesSupport"])]),
    maybe "showDocument" (shape "ShowDocumentClientCapabilities" [need "support" boolean])]

def generalShape : Decoder Unit := shape "GeneralClientCapabilities"
  [maybe "regularExpressions" (shape "RegularExpressionsClientCapabilities"
      [need "engine" string, maybe "version" string]),
    maybe "markdown" (shape "MarkdownClientCapabilities"
      [need "parser" string, maybe "version" string, maybe "allowedTags" (listOf string)]),
    maybe "staleRequestSupport" (shape "StaleRequestSupportClientCapabilities"
      [need "cancel" boolean, need "retryOnContentModified" (listOf string)]),
    maybe "positionEncodings" (listOf string)]

/-! ## What the server keeps -/

/-- What a client says it can do, as far as the server cares. -/
structure ClientCapabilities where
  configuration : Option Bool
  workspaceFolders : Option Bool
  relatedInformation : Option Bool
  codeActionLiterals : Bool
  deriving DecidableEq, Repr

def decodeTextDocument : Decoder (Option Bool × Bool) := fun j => do
  let f ← record "TextDocumentClientCapabilities" textDocumentFields j
  let related ← optional f "publishDiagnostics" decodePublish
  let literals ← optional f "codeAction" decodeCodeAction
  pure (related.bind id, literals.getD false)

def decodeWorkspace : Decoder (Option Bool × Option Bool) := fun j => do
  let f ← record "WorkspaceClientCapabilities" workspaceFields j
  pure (← optional f "configuration" boolean, ← optional f "workspaceFolders" boolean)

/-- Reads a client's capabilities. -/
def ClientCapabilities.decode : Decoder ClientCapabilities := fun j => do
  let f ← record "ClientCapabilities"
    [maybe "workspace" decodeWorkspace, maybe "textDocument" decodeTextDocument,
      maybe "window" windowShape, maybe "general" generalShape,
      maybe "experimental" anyValue] j
  let (configuration, folders) := (← optional f "workspace" decodeWorkspace).getD (none, none)
  let (related, literals) := (← optional f "textDocument" decodeTextDocument).getD (none, false)
  pure ⟨configuration, folders, related, literals⟩

end LintBridge.Lsp
