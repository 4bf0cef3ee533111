import GrammarServer.Json.Printer
import GrammarServer.Json.Reading
import GrammarServer.Protocol.Connection

/-!
# Frames

How calls and responses travel between editor and server: each is one JSON object,
framed by a header that announces its length in bytes.  A header ends with an empty
line.

Main definitions:

- `contentLength?` and `frame` read the header of a frame and write a whole frame.
- `Connection.receiveBody` takes the body of a frame as a call.
- `Reaction.frames` lists what is sent back.
-/

namespace GrammarServer.Protocol

/-! ## Headers -/

/-- The name of the header field that announces the length of a body. -/
def lengthField : String := "content-length"

/-- The length that one header line announces, if it is the field that does. -/
def lengthInLine? (line : String) : Option Nat :=
  match line.toList.span (· != ':') with
  | (name, ':' :: value) =>
    if Text.lowercase (Text.trim (String.ofList name)) = lengthField then
      let digits := Text.trimChars value
      if !digits.isEmpty && digits.all Char.isDigit then (String.ofList digits).toNat? else none
    else none
  | _ => none

/-- The length that a header announces; of several the first counts. -/
def contentLength? (header : List String) : Option Nat :=
  header.findSome? lengthInLine?

/-- A JSON value as the body of a frame. -/
def frame (body : Json) : String :=
  let text := body.render
  "Content-Length: " ++ toString text.utf8ByteSize ++ "\r\n\r\n" ++ text

/-! ## Bodies -/

/-- The call that a JSON object stands for. -/
def Incoming.ofJson? (body : Json) : Option Incoming := do
  let method ← (body.get? "method").bind Json.asString?
  return { method := method, id := body.get? "id", params := body.get? "params" }

/-- The body is not JSON. -/
def RpcError.unreadable : RpcError := ⟨-32700, some "Parse error", none⟩

/-- Take the body of a frame.  What is not JSON is reported, and an object without a
method is ignored. -/
def Connection.receiveBody (factory : EngineFactory) (connection : Connection)
    (bytes : List UInt8) : Connection × Reaction :=
  match (Text.ofUtf8? bytes).bind Json.parse? with
  | none => (connection, { response := .error .null .unreadable })
  | some body =>
    match Incoming.ofJson? body with
    | none => (connection, {})
    | some incoming => connection.receive factory incoming

/-- An object of the protocol with the given members. -/
def versioned (members : List (String × Json)) : Json :=
  .object (("jsonrpc", .string "2.0") :: members)

/-- The frames that a reaction sends: the notifications first, then the response. -/
def Reaction.frames (reaction : Reaction) : List String :=
  ((reaction.sent.map Sent.members) ++ reaction.response.members?.toList).map fun members =>
    frame (versioned members)

end GrammarServer.Protocol
