import GrammarServer.Protocol.Part

/-!
# Capabilities of editors

When a session starts, an editor tells at length what it can do.  The server makes no use
of it, but refuses an editor whose account is not well-formed.
-/

namespace GrammarServer.Protocol.Shape

open Member

/-- A capability that may be registered later; `names` are its further flags. -/
def registration (names : List String) : List Member :=
  flags ("dynamicRegistration" :: names)

/-- A capability that has no more than that. -/
def registrable : Shape := record (registration [])

/-- A capability to have something refreshed. -/
def refreshable : Shape := record (flags ["refreshSupport"])

/-- The properties that can be filled in later. -/
def resolvable : Shape := record [required "properties" (list string)]

/-- The tags that are known, or a truth value in their place. -/
def tagSupport : Member :=
  defaulted "tagSupport"
    (option (either bool (record [required "valueSet" (list int32)])))

/-- The kinds of symbols that are known. -/
def symbolKinds : Shape := record [optional "valueSet" (list int32)]

/-! ## Workspaces -/

/-- What an editor can do with the edits of a workspace. -/
def workspaceEditCapability : Shape :=
  record [
    optional "documentChanges" bool,
    optional "resourceOperations" (list (name ["create", "rename", "delete"])),
    optional "failureHandling"
      (name ["abort", "transactional", "textOnlyTransactional", "undo"]),
    optional "normalizesLineEndings" bool,
    optional "changeAnnotationSupport" (record (flags ["groupsOnLabel"]))]

/-- What an editor can do with the symbols of a workspace. -/
def workspaceSymbolCapability : Shape :=
  record (registration [] ++ [
    optional "symbolKind" symbolKinds,
    tagSupport,
    optional "resolveSupport" resolvable])

/-- What an editor can do with a workspace. -/
def workspaceCapability : Shape :=
  record [
    optional "applyEdit" bool,
    optional "workspaceEdit" workspaceEditCapability,
    optional "didChangeConfiguration" registrable,
    optional "didChangeWatchedFiles" (record (registration ["relativePatternSupport"])),
    optional "symbol" workspaceSymbolCapability,
    optional "executeCommand" registrable,
    optional "workspaceFolders" bool,
    optional "configuration" bool,
    optional "semanticTokens" refreshable,
    optional "codeLens" refreshable,
    optional "fileOperations" (record (registration
      ["didCreate", "willCreate", "didRename", "willRename", "didDelete", "willDelete"])),
    optional "inlineValue" refreshable,
    optional "inlayHint" refreshable,
    optional "diagnostic" refreshable]

/-! ## Documents -/

/-- What an editor can do with a single completion. -/
def completionItemCapability : Shape :=
  record [
    optional "snippetSupport" bool,
    optional "commitCharactersSupport" bool,
    optional "documentationFormat" (list markupKind),
    optional "deprecatedSupport" bool,
    optional "preselectSupport" bool,
    tagSupport,
    optional "insertReplaceSupport" bool,
    optional "resolveSupport" resolvable,
    optional "insertTextModeSupport" (record [required "valueSet" (list int32)]),
    optional "labelDetailsSupport" bool]

/-- What an editor can do with completions. -/
def completionCapability : Shape :=
  record (registration [] ++ [
    optional "completionItem" completionItemCapability,
    optional "completionItemKind" symbolKinds,
    optional "contextSupport" bool,
    optional "insertTextMode" int32,
    optional "completionList" (record [optional "itemDefaults" (list string)])])

/-- What an editor can do with signatures. -/
def signatureCapability : Shape :=
  record (registration [] ++ [
    optional "signatureInformation" (record [
      optional "documentationFormat" (list markupKind),
      optional "parameterInformation" (record (flags ["labelOffsetSupport"])),
      optional "activeParameterSupport" bool]),
    optional "contextSupport" bool])

/-- What an editor can do with the symbols of a document. -/
def documentSymbolCapability : Shape :=
  record (registration [] ++ [
    optional "symbolKind" symbolKinds,
    optional "hierarchicalDocumentSymbolSupport" bool,
    tagSupport])

/-- What an editor can do with actions. -/
def actionCapability : Shape :=
  record (registration [] ++ [
    optional "codeActionLiteralSupport" (record [
      required "codeActionKind" (record [required "valueSet" (list string)])]),
    optional "isPreferredSupport" bool,
    optional "disabledSupport" bool,
    optional "dataSupport" bool,
    optional "resolveSupport" resolvable,
    optional "honorsChangeAnnotations" bool])

/-- What an editor can do with diagnostics that are published. -/
def publishedCapability : Shape :=
  record [
    optional "relatedInformation" bool,
    tagSupport,
    optional "versionSupport" bool,
    optional "codeDescriptionSupport" bool,
    optional "dataSupport" bool]

/-- What an editor can do with folds. -/
def foldingCapability : Shape :=
  record (registration [] ++ [
    optional "rangeLimit" uint32,
    optional "lineFoldingOnly" bool,
    optional "foldingRangeKind" (record [
      optional "valueSet" (list (name ["comment", "imports", "region"]))]),
    optional "foldingRange" (record (flags ["collapsedText"]))])

/-- What an editor can do with semantic tokens. -/
def tokensCapability : Shape :=
  record (registration [] ++ [
    required "requests" (record [
      optional "range" bool,
      optional "full" (either bool (object (flags ["delta"])))]),
    required "tokenTypes" (list string),
    required "tokenModifiers" (list string),
    required "formats" (list string)]
    ++ flags ["overlappingTokenSupport", "multilineTokenSupport", "serverCancelSupport",
      "augmentsSyntaxTokens"])

/-- What an editor can do with a place that a symbol leads to. -/
def gotoCapability : Shape := record (registration ["linkSupport"])

/-- What an editor can do with documents. -/
def documentCapability : Shape :=
  record [
    optional "synchronization" (record (registration
      ["willSave", "willSaveWaitUntil", "didSave"])),
    optional "completion" completionCapability,
    optional "hover" (record (registration [] ++ [
      optional "contentFormat" (list markupKind)])),
    optional "signatureHelp" signatureCapability,
    optional "references" registrable,
    optional "documentHighlight" registrable,
    optional "documentSymbol" documentSymbolCapability,
    optional "formatting" registrable,
    optional "rangeFormatting" registrable,
    optional "onTypeFormatting" registrable,
    optional "declaration" gotoCapability,
    optional "definition" gotoCapability,
    optional "typeDefinition" gotoCapability,
    optional "implementation" gotoCapability,
    optional "codeAction" actionCapability,
    optional "codeLens" registrable,
    optional "documentLink" (record (registration ["tooltipSupport"])),
    optional "colorProvider" registrable,
    optional "rename" (record (registration ["prepareSupport"] ++ [
      optional "prepareSupportDefaultBehavior" int32,
      optional "honorsChangeAnnotations" bool])),
    optional "publishDiagnostics" publishedCapability,
    optional "foldingRange" foldingCapability,
    optional "selectionRange" registrable,
    optional "linkedEditingRange" registrable,
    optional "callHierarchy" registrable,
    optional "semanticTokens" tokensCapability,
    optional "moniker" registrable,
    optional "typeHierarchy" registrable,
    optional "inlineValue" registrable,
    optional "inlayHint" (record (registration [] ++ [optional "resolveSupport" resolvable])),
    optional "diagnostic" (record (registration ["relatedDocumentSupport"]))]

/-! ## The rest -/

/-- What an editor can do with its window. -/
def windowCapability : Shape :=
  record [
    optional "workDoneProgress" bool,
    optional "showMessage" (record [
      optional "messageActionItem" (record (flags ["additionalPropertiesSupport"]))]),
    optional "showDocument" (record [required "support" bool])]

/-- What an editor can do in general. -/
def generalCapability : Shape :=
  record [
    optional "regularExpressions" (record [
      required "engine" string, optional "version" string]),
    optional "markdown" (record [
      required "parser" string,
      optional "version" string,
      optional "allowedTags" (list string)]),
    optional "staleRequestSupport" (record [
      required "cancel" bool, required "retryOnContentModified" (list string)]),
    optional "positionEncodings" (list string)]

/-- What an editor can do. -/
def capabilities : Shape :=
  record [
    optional "workspace" workspaceCapability,
    optional "textDocument" documentCapability,
    optional "window" windowCapability,
    optional "general" generalCapability,
    optional "experimental" any]

/-- The start of a session. -/
def start : Shape :=
  record [
    optional "processId" uint32,
    optional "rootPath" string,
    defaulted "rootUri" (option uri),
    optional "initializationOptions" any,
    required "capabilities" capabilities,
    defaulted "trace" (option (name ["off", "messages", "verbose"])),
    optional "workspaceFolders"
      (list (record [required "uri" uri, required "name" string])),
    optional "clientInfo" (record [required "name" string, optional "version" string]),
    optional "locale" string]

end GrammarServer.Protocol.Shape
