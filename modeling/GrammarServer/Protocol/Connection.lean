import GrammarServer.Protocol.Encode
import GrammarServer.Protocol.Params
import GrammarServer.Server.Step

/-!
# Connections

A connection takes the server through its life: it must be started before anything else
is asked of it, after a shutdown it refuses everything, and after `exit` it is gone.
Requests carry an identifier and are answered; notifications carry none and are not.
-/

namespace GrammarServer.Protocol

/-- Where a connection stands in its life. -/
inductive Phase where
  | uninitialized
  | running
  | shutDown
  | exited
deriving DecidableEq, Repr

/-- A server and where its connection stands. -/
structure Connection where
  phase : Phase := .uninitialized
  server : ServerState := {}

/-- A call as it arrives: a method, an identifier if an answer is wanted, and
parameters. -/
structure Incoming where
  method : String
  id : Option Json := none
  params : Option Json := none

/-- An error response. -/
structure RpcError where
  code : Int
  message : Option String := none
  data : Option Json := none

namespace RpcError

/-- The call is not allowed in this phase, or a notification carries an identifier. -/
def invalidRequest : RpcError := ⟨-32600, some "Invalid request", none⟩

/-- There is no such method. -/
def methodNotFound : RpcError := ⟨-32601, some "Method not found", none⟩

/-- The parameters do not fit the method. -/
def invalidParams : RpcError := ⟨-32602, none, none⟩

/-- The handling of a request failed. -/
def handlerFailed (error : ServerError) : RpcError := ⟨-32603, some error.message, none⟩

/-- A request was handled, but its reply is of another kind than it asks for. -/
def unexpectedReply : RpcError := ⟨-32603, some "Internal error", none⟩

/-- The session has not been started. -/
def notInitialized : RpcError := ⟨-32002, some "Server not initialized", none⟩

end RpcError

/-- The response to a call. -/
inductive Response where
  | none
  | result (id : Json) (value : Json)
  | error (id : Json) (error : RpcError)
  /-- The connection is gone. -/
  | exited

/-- A notification from the server to the editor. -/
inductive Sent where
  | log (text : String)
  | publish (publication : Publication)
deriving DecidableEq, Repr

/-- What a call brings about: a response and notifications. -/
structure Reaction where
  response : Response := .none
  sent : List Sent := []

/-- An error response to a call, if it asks for one. -/
def Incoming.refuse (incoming : Incoming) (error : RpcError) : Reaction :=
  match incoming.id with
  | some id => { response := .error id error }
  | none => {}

/-! ## What the server can do -/

/-- The answer to the start of a session: what the server can do and what it is. -/
def startResult : Json :=
  let yes : Json := .bool true
  let names (list : List String) : Json := .array (list.map .string)
  .object [
    ("capabilities", .object [
      ("textDocumentSync", .object [
        ("openClose", yes), ("change", .nat 1), ("save", .object [("includeText", yes)])]),
      ("documentFormattingProvider", yes),
      ("codeActionProvider", yes),
      ("hoverProvider", yes),
      ("completionProvider", .object [("triggerCharacters", names ["%", "$"])]),
      ("definitionProvider", yes),
      ("referencesProvider", yes),
      ("documentSymbolProvider", yes),
      ("renameProvider", yes),
      ("semanticTokensProvider", .object [
        ("legend", .object [
          ("tokenTypes", names tokenTypeNames), ("tokenModifiers", names tokenModifierNames)]),
        ("full", yes)]),
      ("workspaceSymbolProvider", yes),
      ("foldingRangeProvider", yes)]),
    ("serverInfo", .object [("name", .string "collie-lsp"), ("version", .string "0.3.0")])]

/-! ## Handling calls -/

namespace Connection

/-- Let the server handle a message and pass on what it publishes. -/
def handle (factory : EngineFactory) (connection : Connection) (message : Message) :
    Connection × Except ServerError Reply × List Sent :=
  let (server, outcome) := connection.server.step factory message
  let connection := { connection with server := server }
  match outcome with
  | .ok answer => (connection, .ok answer.reply, answer.published.map .publish)
  | .error error => (connection, .error error, [])

/-- Take a notification of a running connection.  One that asks for an answer is
refused, one with bad parameters ignored. -/
def notify (factory : EngineFactory) (connection : Connection) (method : Method)
    (incoming : Incoming) : Connection × Reaction :=
  match incoming.id, incoming.params.bind (message? method) with
  | some _, _ => (connection, incoming.refuse .invalidRequest)
  | none, none => (connection, {})
  | none, some message =>
    let (connection, _, sent) := connection.handle factory message
    let logged := if method = .started then [.log "LSP server initialized"] else []
    (connection, { sent := logged ++ sent })

/-- Take a request of a running connection.  One that asks for no answer is ignored, and a
reply of the wrong kind is not passed on. -/
def request (factory : EngineFactory) (connection : Connection) (method : Method)
    (incoming : Incoming) : Connection × Reaction :=
  match incoming.id, incoming.params.bind (message? method) with
  | none, _ => (connection, {})
  | some _, none => (connection, incoming.refuse .invalidParams)
  | some id, some message =>
    let (connection, outcome, sent) := connection.handle factory message
    match outcome with
    | .ok value =>
      if message.expects value then (connection, ⟨.result id (reply value), sent⟩)
      else (connection, ⟨.error id .unexpectedReply, sent⟩)
    | .error error => (connection, ⟨.error id (.handlerFailed error), sent⟩)

/-- Start the session.  Only a connection that has not been started can be. -/
def start (factory : EngineFactory) (connection : Connection) (incoming : Incoming) :
    Connection × Reaction :=
  if connection.phase = .uninitialized then
    match incoming.id, incoming.params.bind (message? .start) with
    | none, _ => (connection, {})
    | some _, none => (connection, incoming.refuse .invalidParams)
    | some id, some message =>
      let (connection, _, sent) := connection.handle factory message
      ({ connection with phase := .running },
        ⟨.result id startResult, .log "LSP server initializing" :: sent⟩)
  else (connection, incoming.refuse .invalidRequest)

/-- Shut the server down.  It is shut down even if the request itself is refused. -/
def shutdown (factory : EngineFactory) (connection : Connection) (incoming : Incoming) :
    Connection × Reaction :=
  let connection := { connection with phase := .shutDown }
  match incoming.id, incoming.params with
  | none, _ => (connection, {})
  | some _, some _ => (connection, incoming.refuse .invalidParams)
  | some id, none =>
    let (connection, _, sent) := connection.handle factory .shutdown
    (connection, ⟨.result id .null, .log "LSP server shutting down" :: sent⟩)

/-- Take a call that needs a running server. -/
def whileRunning (connection : Connection) (incoming : Incoming)
    (act : Connection × Reaction) : Connection × Reaction :=
  match connection.phase with
  | .running => act
  | .uninitialized => (connection, incoming.refuse .notInitialized)
  | .shutDown | .exited => (connection, incoming.refuse .invalidRequest)

/-- Take a call of a method that the server offers. -/
def offered (factory : EngineFactory) (connection : Connection) (method : Method)
    (incoming : Incoming) : Connection × Reaction :=
  match method with
  | .start => connection.start factory incoming
  | .shutdown => connection.whileRunning incoming (connection.shutdown factory incoming)
  | _ =>
    connection.whileRunning incoming <|
      if method.isNotification then connection.notify factory method incoming
      else connection.request factory method incoming

/-- Take a call of a method that the server does not offer.  A method outside the
protocol is reported by name, unless it is one that may be ignored. -/
def unoffered (connection : Connection) (incoming : Incoming) : Connection × Reaction :=
  match Shape.unofferedRequests.lookup incoming.method with
  | some shape =>
    connection.whileRunning incoming <|
      if incoming.params.any shape then (connection, incoming.refuse .methodNotFound)
      else (connection, incoming.refuse .invalidParams)
  | none =>
    if unofferedNotifications.contains incoming.method then
      connection.whileRunning incoming (connection, incoming.refuse .invalidRequest)
    else if incoming.method.startsWith "$/" then (connection, {})
    else
      (connection,
        incoming.refuse { RpcError.methodNotFound with data := some (.string incoming.method) })

/-- Take a call. -/
def receive (factory : EngineFactory) (connection : Connection) (incoming : Incoming) :
    Connection × Reaction :=
  if connection.phase = .exited then (connection, { response := .exited })
  else if incoming.method = "exit" then ({ connection with phase := .exited }, {})
  else if incoming.method = "$/cancelRequest" then
    (connection, incoming.refuse .invalidRequest)
  else
    match Method.ofName? incoming.method with
    | some method => connection.offered factory method incoming
    | none => connection.unoffered incoming

end Connection

/-! ## Responses and notifications in JSON -/

/-- An error of a response. -/
def RpcError.toJson (error : RpcError) : Json :=
  .objectOf [
    ("code", some (.int error.code)),
    ("message", error.message.map .string),
    ("data", error.data)]

/-- The members of a response, if there is one to give. -/
def Response.members? : Response → Option (List (String × Json))
  | .none => Option.none
  | .exited => Option.none
  | .result id value => some [("id", id), ("result", value)]
  | .error id cause => some [("id", id), ("error", cause.toJson)]

/-- The members of a notification. -/
def Sent.members : Sent → List (String × Json)
  | .log text => [
    ("method", .string "window/logMessage"),
    ("params", .object [("type", .nat 3), ("message", .string text)])]
  | .publish publication => [
    ("method", .string "textDocument/publishDiagnostics"),
    ("params", .objectOf [
      ("uri", some (uri publication.uri)),
      ("diagnostics", some (.array (publication.diagnostics.map diagnostic))),
      ("version", publication.version.map .int)])]

end GrammarServer.Protocol
