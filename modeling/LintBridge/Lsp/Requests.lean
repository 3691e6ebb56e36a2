import LintBridge.Lsp.Params
/-!
# Parameters of the requests the server declines

Requests the server does not answer are refused as not provided, but their parameters are read
first, so a request with parameters of the wrong shape is refused for its parameters instead.
-/

namespace LintBridge.Lsp

/-! ## Common parts -/

/-- Fields of a structure that are all its own. -/
def own (specs : List FieldSpec) : List Part := specs.map .field

def defaulted {α : Type} (key : String) (d : Decoder α) : FieldSpec :=
  ⟨key, fun j => (d j).map fun _ => (), true, true⟩

def positionParams : Part :=
  .flat (own [need "textDocument" decodeIdentifier, need "position" LspPosition.decode])

def positionShape : Decoder Unit :=
  shape "TextDocumentPositionParams"
    [need "textDocument" decodeIdentifier, need "position" LspPosition.decode]

def documentField : FieldSpec := need "textDocument" decodeIdentifier

def commandShape : Decoder Unit :=
  shape "Command" [need "title" string, need "command" string, maybe "arguments" (listOf anyValue)]

def textEditShape : Decoder Unit :=
  shape "TextEdit" [need "range" LspRange.decode, need "newText" string]

def markupShape : Decoder Unit := shape "MarkupContent" [need "kind" markupKind, need "value" string]

def stringOrMarkup (name : String) : Decoder Unit :=
  anyOf name [fun j => (string j).map fun _ => (), markupShape]

def hierarchyItem (name : String) (tags : Decoder Unit) : Decoder Unit :=
  shape name
    [need "name" string, need "kind" i32, maybe "tags" tags, maybe "detail" string,
      need "uri" url, need "range" LspRange.decode, need "selectionRange" LspRange.decode,
      maybe "data" anyValue]

def formattingOptions : Decoder Unit :=
  flatShape "FormattingOptions"
    [.field (need "tabSize" u32), .field (need "insertSpaces" boolean),
      .rest (anyOf "FormattingProperty"
        [fun j => (boolean j).map fun _ => (), fun j => (i32 j).map fun _ => (),
          fun j => (string j).map fun _ => ()]),
      .field (flag "trimTrailingWhitespace"), .field (flag "insertFinalNewline"),
      .field (flag "trimFinalNewlines")]

/-! ## Edits of the workspace -/

def annotatedEdit : Decoder Unit :=
  flatShape "AnnotatedTextEdit"
    [.flat (own [need "range" LspRange.decode, need "newText" string]),
      .field (need "annotationId" string)]

def documentEdit : Decoder Unit :=
  shape "TextDocumentEdit"
    [need "textDocument"
        (shape "OptionalVersionedTextDocumentIdentifier" [need "uri" url, maybe "version" i32]),
      need "edits" (listOf (anyOf "OneOf" [textEditShape, annotatedEdit]))]

def fileOperation : Decoder Unit
  | .obj fields =>
    match fields.lookup "kind" with
    | some (.str "create") =>
      shape "CreateFile"
        [need "uri" url,
          maybe "options" (shape "CreateFileOptions" [flag "overwrite", flag "ignoreIfExists"]),
          maybe "annotationId" string] (.obj fields)
    | some (.str "rename") =>
      shape "RenameFile"
        [need "oldUri" url, need "newUri" url,
          maybe "options" (shape "RenameFileOptions" [flag "overwrite", flag "ignoreIfExists"]),
          maybe "annotationId" string] (.obj fields)
    | some (.str "delete") =>
      shape "DeleteFile"
        [need "uri" url,
          maybe "options" (shape "DeleteFileOptions" [flag "recursive", flag "ignoreIfNotExists"]),
          maybe "annotationId" string] (.obj fields)
    | some (.str s) => unknownVariant ["create", "rename", "delete"] s
    | some j => wrongType j "variant identifier"
    | none => .error "missing field `kind`"
  | j => wrongType j "internally tagged enum ResourceOp"

def documentChanges : Decoder Unit :=
  anyOf "DocumentChanges"
    [fun j => (listOf documentEdit j).map fun _ => (),
      fun j => (listOf (anyOf "DocumentChangeOperation" [fileOperation, documentEdit]) j).map
        fun _ => ()]

def workspaceEdit : Decoder Unit :=
  shape "WorkspaceEdit"
    [maybe "changes" (mapOf url (listOf textEditShape)), maybe "documentChanges" documentChanges,
      maybe "changeAnnotations" (mapOf string (shape "ChangeAnnotation"
        [need "label" string, flag "needsConfirmation", maybe "description" string]))]

/-! ## Items sent back to be completed -/

def completionItem : Decoder Unit :=
  shape "CompletionItem"
    [need "label" string,
      maybe "labelDetails" (shape "CompletionItemLabelDetails"
        [maybe "detail" string, maybe "description" string]),
      maybe "kind" i32, maybe "detail" string,
      maybe "documentation" (stringOrMarkup "Documentation"), flag "deprecated",
      flag "preselect", maybe "sortText" string, maybe "filterText" string,
      maybe "insertText" string, maybe "insertTextFormat" i32, maybe "insertTextMode" i32,
      maybe "textEdit" (anyOf "CompletionTextEdit"
        [textEditShape, shape "InsertReplaceEdit"
          [need "newText" string, need "insert" LspRange.decode, need "replace" LspRange.decode]]),
      maybe "additionalTextEdits" (listOf textEditShape), maybe "command" commandShape,
      maybe "commitCharacters" (listOf string), maybe "data" anyValue,
      maybe "tags" (listOf i32)]

def codeActionItem : Decoder Unit :=
  shape "CodeAction"
    [need "title" string, maybe "kind" string, maybe "diagnostics" (listOf LspDiagnostic.decode),
      maybe "edit" workspaceEdit, maybe "command" commandShape, flag "isPreferred",
      maybe "disabled" (shape "CodeActionDisabled" [need "reason" string]),
      maybe "data" anyValue]

def labelPart : Decoder Unit :=
  shape "InlayHintLabelPart"
    [need "value" string, maybe "tooltip" (stringOrMarkup "InlayHintLabelPartTooltip"),
      maybe "location" Location.decode, maybe "command" commandShape]

def inlayHintItem : Decoder Unit :=
  shape "InlayHint"
    [need "position" LspPosition.decode,
      need "label" (anyOf "InlayHintLabel"
        [fun j => (string j).map fun _ => (), fun j => (listOf labelPart j).map fun _ => ()]),
      maybe "kind" i32, maybe "textEdits" (listOf textEditShape),
      maybe "tooltip" (stringOrMarkup "InlayHintTooltip"), flag "paddingLeft",
      flag "paddingRight", maybe "data" anyValue]

def workspaceSymbolItem : Decoder Unit :=
  shape "WorkspaceSymbol"
    [need "name" string, need "kind" i32, maybe "tags" (listOf i32),
      maybe "containerName" string,
      need "location" (anyOf "OneOf"
        [fun j => (Location.decode j).map fun _ => (), shape "WorkspaceLocation" [need "uri" url]]),
      maybe "data" anyValue]

/-! ## Signatures -/

def parameterShape : Decoder Unit :=
  shape "ParameterInformation"
    [need "label" (anyOf "ParameterLabel"
        [fun j => (string j).map fun _ => (), fun j => match j with
          | .arr [a, b] => do let _ ← u32 a; let _ ← u32 b
          | _ => .error "not two offsets"]),
      maybe "documentation" (stringOrMarkup "Documentation")]

def signatureHelpValue : Decoder Unit :=
  shape "SignatureHelp"
    [need "signatures" (listOf (shape "SignatureInformation"
        [need "label" string, maybe "documentation" (stringOrMarkup "Documentation"),
          maybe "parameters" (listOf parameterShape), maybe "activeParameter" u32])),
      maybe "activeSignature" u32, maybe "activeParameter" u32]

def signatureContext : Decoder Unit :=
  shape "SignatureHelpContext"
    [need "triggerKind" i32, maybe "triggerCharacter" string, need "isRetrigger" boolean,
      maybe "activeSignatureHelp" signatureHelpValue]

/-! ## The requests -/

def placeRequest (name : String) : Decoder Unit :=
  flatShape name [positionParams, workDone, partialResult]

def documentRequest (name : String) : Decoder Unit :=
  flatShape name [.field documentField, workDone, partialResult]

def hierarchyRequest (name : String) (item : Decoder Unit) : Decoder Unit :=
  flatShape name [.field (need "item" item), workDone, partialResult]

def filesRequest (name item : String) (uris : List String) : Decoder Unit :=
  shape name [need "files" (listOf (shape item (uris.map fun k => need k string)))]

def requestShape : String → Option (Decoder Unit)
  | "textDocument/declaration" | "textDocument/definition" | "textDocument/typeDefinition"
  | "textDocument/implementation" => some (placeRequest "GotoDefinitionParams")
  | "textDocument/references" =>
    some (flatShape "ReferenceParams"
      [positionParams, workDone, partialResult,
        .field (need "context" (shape "ReferenceContext" [need "includeDeclaration" boolean]))])
  | "textDocument/prepareCallHierarchy" =>
    some (flatShape "CallHierarchyPrepareParams" [positionParams, workDone])
  | "callHierarchy/incomingCalls" =>
    some (hierarchyRequest "CallHierarchyIncomingCallsParams"
      (hierarchyItem "CallHierarchyItem" fun j => (listOf i32 j).map fun _ => ()))
  | "callHierarchy/outgoingCalls" =>
    some (hierarchyRequest "CallHierarchyOutgoingCallsParams"
      (hierarchyItem "CallHierarchyItem" fun j => (listOf i32 j).map fun _ => ()))
  | "textDocument/prepareTypeHierarchy" =>
    some (flatShape "TypeHierarchyPrepareParams" [positionParams, workDone])
  | "typeHierarchy/supertypes" =>
    some (hierarchyRequest "TypeHierarchySupertypesParams"
      (hierarchyItem "TypeHierarchyItem" fun j => (i32 j).map fun _ => ()))
  | "typeHierarchy/subtypes" =>
    some (hierarchyRequest "TypeHierarchySubtypesParams"
      (hierarchyItem "TypeHierarchyItem" fun j => (i32 j).map fun _ => ()))
  | "textDocument/documentHighlight" => some (placeRequest "DocumentHighlightParams")
  | "textDocument/documentLink" => some (documentRequest "DocumentLinkParams")
  | "documentLink/resolve" =>
    some (shape "DocumentLink"
      [need "range" LspRange.decode, maybe "target" url, maybe "tooltip" string,
        maybe "data" anyValue])
  | "textDocument/hover" => some (flatShape "HoverParams" [positionParams, workDone])
  | "textDocument/codeLens" => some (documentRequest "CodeLensParams")
  | "codeLens/resolve" =>
    some (shape "CodeLens"
      [need "range" LspRange.decode, maybe "command" commandShape, maybe "data" anyValue])
  | "textDocument/foldingRange" => some (documentRequest "FoldingRangeParams")
  | "textDocument/selectionRange" =>
    some (flatShape "SelectionRangeParams"
      [.field documentField, .field (need "positions" (listOf LspPosition.decode)), workDone,
        partialResult])
  | "textDocument/documentSymbol" => some (documentRequest "DocumentSymbolParams")
  | "textDocument/semanticTokens/full" =>
    some (flatShape "SemanticTokensParams" [workDone, partialResult, .field documentField])
  | "textDocument/semanticTokens/full/delta" =>
    some (flatShape "SemanticTokensDeltaParams"
      [workDone, partialResult, .field documentField, .field (need "previousResultId" string)])
  | "textDocument/semanticTokens/range" =>
    some (flatShape "SemanticTokensRangeParams"
      [workDone, partialResult, .field documentField, .field (need "range" LspRange.decode)])
  | "textDocument/inlineValue" =>
    some (flatShape "InlineValueParams"
      [workDone, .field documentField, .field (need "range" LspRange.decode),
        .field (need "context" (shape "InlineValueContext"
          [need "frameId" i32, need "stoppedLocation" LspRange.decode]))])
  | "textDocument/inlayHint" =>
    some (flatShape "InlayHintParams"
      [workDone, .field documentField, .field (need "range" LspRange.decode)])
  | "inlayHint/resolve" => some inlayHintItem
  | "textDocument/moniker" => some (placeRequest "MonikerParams")
  | "textDocument/completion" =>
    some (flatShape "CompletionParams"
      [positionParams, workDone, partialResult,
        .field (maybe "context" (shape "CompletionContext"
          [need "triggerKind" i32, maybe "triggerCharacter" string]))])
  | "completionItem/resolve" => some completionItem
  | "textDocument/diagnostic" =>
    some (flatShape "DocumentDiagnosticParams"
      [.field documentField, .field (maybe "identifier" string),
        .field (maybe "previousResultId" string), workDone, partialResult])
  | "workspace/diagnostic" =>
    some (flatShape "WorkspaceDiagnosticParams"
      [.field (maybe "identifier" string),
        .field (need "previousResultIds" (listOf (shape "PreviousResultId"
          [need "uri" url, need "value" string]))), workDone, partialResult])
  | "textDocument/signatureHelp" =>
    some (flatShape "SignatureHelpParams"
      [.field (maybe "context" signatureContext), positionParams, workDone])
  | "codeAction/resolve" => some codeActionItem
  | "textDocument/documentColor" => some (documentRequest "DocumentColorParams")
  | "textDocument/colorPresentation" =>
    some (flatShape "ColorPresentationParams"
      [.field documentField,
        .field (need "color" (shape "Color"
          [need "red" single, need "green" single, need "blue" single, need "alpha" single])),
        .field (need "range" LspRange.decode), workDone, partialResult])
  | "textDocument/formatting" =>
    some (flatShape "DocumentFormattingParams"
      [.field documentField, .field (need "options" formattingOptions), workDone])
  | "textDocument/rangeFormatting" =>
    some (flatShape "DocumentRangeFormattingParams"
      [.field documentField, .field (need "range" LspRange.decode),
        .field (need "options" formattingOptions), workDone])
  | "textDocument/onTypeFormatting" =>
    some (flatShape "DocumentOnTypeFormattingParams"
      [positionParams, .field (need "ch" string), .field (need "options" formattingOptions)])
  | "textDocument/rename" =>
    some (flatShape "RenameParams"
      [positionParams, .field (need "newName" string), workDone])
  | "textDocument/prepareRename" => some positionShape
  | "textDocument/linkedEditingRange" =>
    some (flatShape "LinkedEditingRangeParams" [positionParams, workDone])
  | "workspace/symbol" =>
    some (flatShape "WorkspaceSymbolParams" [partialResult, workDone, .field (need "query" string)])
  | "workspaceSymbol/resolve" => some workspaceSymbolItem
  | "workspace/executeCommand" =>
    some (flatShape "ExecuteCommandParams"
      [.field (need "command" string), .field (defaulted "arguments" (listOf anyValue)), workDone])
  | "workspace/willCreateFiles" => some (filesRequest "CreateFilesParams" "FileCreate" ["uri"])
  | "workspace/willRenameFiles" =>
    some (filesRequest "RenameFilesParams" "FileRename" ["oldUri", "newUri"])
  | "workspace/willDeleteFiles" => some (filesRequest "DeleteFilesParams" "FileDelete" ["uri"])
  | "textDocument/willSaveWaitUntil" =>
    some (shape "WillSaveTextDocumentParams" [documentField, need "reason" i32])
  | _ => none

end LintBridge.Lsp
