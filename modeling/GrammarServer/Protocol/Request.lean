import GrammarServer.Protocol.Capability

/-!
# Parameters of messages

The shapes of the parameters of the messages that the protocol knows.  A request may
carry tokens under which the editor wants to hear of its progress and of partial results.
-/

namespace GrammarServer.Protocol

namespace Shape

open Member

/-! ## Common members -/

/-- The document that a message is about. -/
def onDocument : List Member := [required "textDocument" document]

/-- The position that a request is about. -/
def onPosition : List Member := onDocument ++ [required "position" position]

/-- The range that a request is about. -/
def onRange : List Member := onDocument ++ [required "range" range]

/-- The token for the progress of a request. -/
def progress : List Member := [optional "workDoneToken" (either int32 string)]

/-- The tokens for the progress of a request and for its partial results. -/
def partialResults : List Member :=
  progress ++ [optional "partialResultToken" (either int32 string)]

/-! ## Documents -/

/-- The opening of a document. -/
def opening : Shape :=
  record [required "textDocument" (record [
    required "uri" uri,
    required "languageId" string,
    required "version" int32,
    required "text" string])]

/-- The change of a document. -/
def change : Shape :=
  record [
    required "textDocument" (record [required "uri" uri, required "version" int32]),
    required "contentChanges" (list (record [
      optional "range" range,
      optional "rangeLength" uint32,
      required "text" string]))]

/-- The saving of a document. -/
def saving : Shape := record (onDocument ++ [optional "text" string])

/-- The closing of a document. -/
def closing : Shape := record onDocument

/-! ## Requests -/

/-- A request about a document, with partial results. -/
def documentRequest : Shape := object (onDocument ++ partialResults)

/-- A request about a position, with partial results. -/
def positionRequest : Shape := object (onPosition ++ partialResults)

/-- A request about a position, without partial results. -/
def wholePositionRequest : Shape := object (onPosition ++ progress)

/-- A request for the neighbours of an item of a hierarchy. -/
def hierarchyRequest (tags : Shape) : Shape :=
  object (required "item" (hierarchyItem tags) :: partialResults)

/-- A request about files that are about to be changed; `names` are the members that
name each file. -/
def filesRequest (names : List String) : Shape :=
  record [required "files" (list (record (names.map fun member => required member string)))]

/-- A result that the editor has already. -/
def previousResult : Shape :=
  record [required "uri" uri, required "value" string]

/-- The requests that the protocol knows and the server does not offer, with the shape of
their parameters. -/
def unofferedRequests : List (String × Shape) := [
  ("textDocument/declaration", positionRequest),
  ("textDocument/typeDefinition", positionRequest),
  ("textDocument/implementation", positionRequest),
  ("textDocument/documentHighlight", positionRequest),
  ("textDocument/moniker", positionRequest),
  ("textDocument/linkedEditingRange", wholePositionRequest),
  ("textDocument/prepareCallHierarchy", wholePositionRequest),
  ("textDocument/prepareTypeHierarchy", wholePositionRequest),
  ("textDocument/prepareRename", record onPosition),
  ("textDocument/signatureHelp",
    object (onPosition ++ progress ++ [optional "context" signatureContext])),
  ("textDocument/onTypeFormatting",
    object (onPosition ++ [required "ch" string, required "options" formattingOptions])),
  ("textDocument/semanticTokens/range", object (onRange ++ partialResults)),
  ("textDocument/inlayHint", object (onRange ++ progress)),
  ("textDocument/inlineValue",
    object (onRange ++ progress ++ [required "context" (record [
      required "frameId" int32, required "stoppedLocation" range])])),
  ("textDocument/rangeFormatting",
    object (onRange ++ progress ++ [required "options" formattingOptions])),
  ("textDocument/colorPresentation",
    object (onRange ++ partialResults ++ [required "color" color])),
  ("textDocument/semanticTokens/full/delta",
    object (onDocument ++ partialResults ++ [required "previousResultId" string])),
  ("textDocument/selectionRange",
    object (onDocument ++ partialResults ++ [required "positions" (list position)])),
  ("textDocument/documentLink", documentRequest),
  ("textDocument/documentColor", documentRequest),
  ("textDocument/codeLens", documentRequest),
  ("textDocument/diagnostic",
    object (onDocument ++ partialResults ++ [
      optional "identifier" string, optional "previousResultId" string])),
  ("textDocument/willSaveWaitUntil", record (onDocument ++ [required "reason" int32])),
  ("callHierarchy/incomingCalls", hierarchyRequest (list int32)),
  ("callHierarchy/outgoingCalls", hierarchyRequest (list int32)),
  ("typeHierarchy/supertypes", hierarchyRequest int32),
  ("typeHierarchy/subtypes", hierarchyRequest int32),
  ("documentLink/resolve", link),
  ("codeLens/resolve", lens),
  ("inlayHint/resolve", hint),
  ("completionItem/resolve", completionItem),
  ("codeAction/resolve", action),
  ("workspaceSymbol/resolve", workspaceSymbol),
  ("workspace/diagnostic",
    object (partialResults ++ [
      optional "identifier" string, required "previousResultIds" (list previousResult)])),
  ("workspace/executeCommand",
    object (progress ++ [required "command" string, defaulted "arguments" (list any)])),
  ("workspace/willCreateFiles", filesRequest ["uri"]),
  ("workspace/willRenameFiles", filesRequest ["oldUri", "newUri"]),
  ("workspace/willDeleteFiles", filesRequest ["uri"])]

end Shape

/-- The notifications that the protocol knows and the server does not act on. -/
def unofferedNotifications : List String :=
  ["textDocument/willSave", "workspace/didChangeConfiguration",
    "workspace/didChangeWorkspaceFolders", "workspace/didChangeWatchedFiles",
    "workspace/didCreateFiles", "workspace/didRenameFiles", "workspace/didDeleteFiles"]

end GrammarServer.Protocol
