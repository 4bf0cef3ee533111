import GrammarServer.Protocol.Request
import GrammarServer.Server.Message

/-!
# Messages in JSON

How messages are read.  The parameters of each method have a shape, and a message with
parameters of another shape is refused; of those that have it, only some members matter.
-/

namespace GrammarServer.Protocol

open Text

/-! ## Diagnostics -/

/-- The severity with a number. -/
def severity? (value : Json) : Option DiagnosticSeverity :=
  match value.asInt? with
  | some 1 => some .error
  | some 2 => some .warning
  | some 3 => some .information
  | some 4 => some .hint
  | _ => none

/-- A diagnostic as the server itself writes it. -/
def diagnostic? (value : Json) : Option Diagnostic := do
  let member ← object? value
  return {
    range := ← range? (← member "range")
    severity := ← optional? severity? (member "severity")
    code := ← optional? Json.asString? (member "code")
    source := ← optional? Json.asString? (member "source")
    message := ← (← member "message").asString? }

/-! ## Methods -/

/-- The names of the messages that the server handles. -/
inductive Method where
  | start
  | started
  | shutdown
  | didOpen
  | didChange
  | didSave
  | didClose
  | formatting
  | codeAction
  | hover
  | completion
  | definition
  | references
  | documentSymbol
  | rename
  | semanticTokens
  | foldingRange
  | workspaceSymbol
deriving DecidableEq, Repr

/-- A method as it is called in the protocol. -/
def Method.name : Method → String
  | .start => "initialize"
  | .started => "initialized"
  | .shutdown => "shutdown"
  | .didOpen => "textDocument/didOpen"
  | .didChange => "textDocument/didChange"
  | .didSave => "textDocument/didSave"
  | .didClose => "textDocument/didClose"
  | .formatting => "textDocument/formatting"
  | .codeAction => "textDocument/codeAction"
  | .hover => "textDocument/hover"
  | .completion => "textDocument/completion"
  | .definition => "textDocument/definition"
  | .references => "textDocument/references"
  | .documentSymbol => "textDocument/documentSymbol"
  | .rename => "textDocument/rename"
  | .semanticTokens => "textDocument/semanticTokens/full"
  | .foldingRange => "textDocument/foldingRange"
  | .workspaceSymbol => "workspace/symbol"

/-- All methods. -/
def Method.all : List Method :=
  [.start, .started, .shutdown, .didOpen, .didChange, .didSave, .didClose, .formatting,
    .codeAction, .hover, .completion, .definition, .references, .documentSymbol, .rename,
    .semanticTokens, .foldingRange, .workspaceSymbol]

/-- The method of a given name. -/
def Method.ofName? (name : String) : Option Method :=
  Method.all.find? (·.name == name)

/-- Whether a method is a notification, to which no response is given. -/
def Method.isNotification : Method → Bool
  | .started | .didOpen | .didChange | .didSave | .didClose => true
  | _ => false

open Member Shape in
/-- The shape of the parameters of a method.  A finished start has no members of
interest; the parameters of a shutdown play no part. -/
def Method.shape : Method → Shape
  | .start => Shape.start
  | .started => record []
  | .shutdown => any
  | .didOpen => opening
  | .didChange => change
  | .didSave => saving
  | .didClose => closing
  | .formatting =>
    object (onDocument ++ progress ++ [required "options" formattingOptions])
  | .codeAction => object (onRange ++ partialResults ++ [required "context" actionContext])
  | .hover => wholePositionRequest
  | .completion =>
    object (onPosition ++ partialResults ++ [optional "context" completionContext])
  | .definition => positionRequest
  | .references =>
    object (onPosition ++ partialResults ++ [
      required "context" (record [required "includeDeclaration" bool])])
  | .documentSymbol => documentRequest
  | .rename => object (onPosition ++ progress ++ [required "newName" string])
  | .semanticTokens => documentRequest
  | .foldingRange => documentRequest
  | .workspaceSymbol => object (partialResults ++ [required "query" string])

/-! ## Messages -/

/-- What of the start of a session matters. -/
def readStart? (params : Json) : Option StartParams := do
  let member ← record? ["processId", "rootPath", "rootUri", "initializationOptions",
    "capabilities", "trace", "workspaceFolders", "clientInfo", "locale"] params
  let folder? (value : Json) : Option Uri := do
    uri? (← (← record? ["uri", "name"] value) "uri")
  return {
    rootUri := ← optional? uri? (member "rootUri")
    folders := (← optional? (list? folder?) (member "workspaceFolders")).getD [] }

/-- The opening of a document. -/
def didOpen? (params : Json) : Option Message := do
  let outer ← record? ["textDocument"] params
  let member ← record? ["uri", "languageId", "version", "text"] (← outer "textDocument")
  return .didOpen (← uri? (← member "uri")) (← (← member "text").asString?)
    (← version? (← member "version"))

/-- The change of a document.  Of each change only the new text matters. -/
def didChange? (params : Json) : Option Message := do
  let outer ← record? ["textDocument", "contentChanges"] params
  let member ← record? ["uri", "version"] (← outer "textDocument")
  let change? (value : Json) : Option String := do
    (← (← record? ["range", "rangeLength", "text"] value) "text").asString?
  return .didChange (← uri? (← member "uri")) (← version? (← member "version"))
    (← list? change? (← outer "contentChanges"))

/-- The saving of a document. -/
def didSave? (params : Json) : Option Message := do
  let member ← record? ["textDocument", "text"] params
  return .didSave (← documentUri? (← member "textDocument"))
    (← optional? Json.asString? (member "text"))

/-- The closing of a document. -/
def didClose? (params : Json) : Option Message := do
  return .didClose (← documentUri? (← (← record? ["textDocument"] params) "textDocument"))

/-- The document that a request is about. -/
def requestUri? (params : Json) : Option Uri := do
  documentUri? (← params.get? "textDocument")

/-- The position that a request is about. -/
def requestPosition? (params : Json) : Option Position := do
  position? (← params.get? "position")

/-- The message of a method whose parameters have their shape. -/
def readMessage? (method : Method) (params : Json) : Option Message :=
  match method with
  | .start => (readStart? params).map .start
  | .started => some .started
  | .shutdown => some .shutdown
  | .didOpen => didOpen? params
  | .didChange => didChange? params
  | .didSave => didSave? params
  | .didClose => didClose? params
  | .formatting => (requestUri? params).map .formatting
  | .codeAction => do
    return .codeAction (← requestUri? params) (← range? (← params.get? "range"))
  | .hover => do return .hover (← requestUri? params) (← requestPosition? params)
  | .completion => (requestUri? params).map .completion
  | .definition => do return .definition (← requestUri? params) (← requestPosition? params)
  | .references => do
    let context ← record? ["includeDeclaration"] (← params.get? "context")
    return .references (← requestUri? params) (← requestPosition? params)
      (← (← context "includeDeclaration").asBool?)
  | .documentSymbol => (requestUri? params).map .documentSymbol
  | .rename => do
    return .rename (← requestUri? params) (← requestPosition? params)
      (← (← params.get? "newName").asString?)
  | .semanticTokens => (requestUri? params).map .semanticTokens
  | .foldingRange => (requestUri? params).map .foldingRange
  | .workspaceSymbol => do return .workspaceSymbol (← (← params.get? "query").asString?)

/-- The message that a method and its parameters make, if the parameters have their
shape. -/
def message? (method : Method) (params : Json) : Option Message :=
  if method.shape params then readMessage? method params else none

/-- The start of a session. -/
def startParams? (params : Json) : Option StartParams :=
  if Shape.start params then readStart? params else none

end GrammarServer.Protocol
