import Slight.Acp.Wire
import Slight.Support.Program
import Slight.Support.System

/-!
# Slight.Acp.Client

The host's client of an agent: it sends requests, and while it waits for a response
it serves the frames that come in.

Reading a frame, parsing its params, the handler and the writer all fail into the
one `Result` of the call that waits.  So a request frame whose params are not read
ends a call it has nothing to do with, and nobody answers it.

`AcpClient.history` keeps what became of each request, for the statements.
-/

namespace Slight

namespace Acp

open Support Program

variable (schema : Schema)

/-! ## state -/

/-- A frame the host writes. -/
inductive Outbound where
  | request (id : RequestId) (method : String) (params : Json)
  | notification (method : String) (params : Json)
  | result (id : RequestId) (value : Json)
  | error (id : RequestId) (error : schema.Error)

/-- Lines to be read, frames written, and how many the agent still takes. -/
structure Transport where
  lines : List String
  sent : List (Outbound schema) := []
  room : Option Nat := none

inductive ClientError where
  | wire (error : WireError)
  | protocol (error : schema.Error)
  | closed
  | unknownDeferredRequest (id : RequestId)
  | decode (text : String)

inductive HandlerOutcome where
  | respond (outcome : Except schema.Error Json)
  | defer

class ClientHandler (H : Type) where
  handleRequest : H → RequestId → AgentToClientRequest schema → HandlerOutcome schema × H
  handleNotification : H → AgentToClientNotification schema → H

/-- What became of a request: it was answered or deferred when it was read, or
answered later. -/
inductive Handled where
  | answered (id : RequestId) (outcome : Except schema.Error Json)
  | deferred (id : RequestId)
  | responded (id : RequestId) (outcome : Except schema.Error Json)

structure AcpClient (H : Type) where
  transport : Transport schema
  handler : H
  nextId : Int := 0
  notifications : List (AgentToClientNotification schema) := []
  deferred : Finset RequestId := ∅
  orphanResponses : List (RequestId × Except schema.Error Json) := []
  history : List (Handled schema) := []

/-- Calls of the client. -/
abbrev Calling (H : Type) := Program (AcpClient schema H) (ClientError schema)

variable {schema}

/-- The reply to a request. -/
def Outbound.reply (id : RequestId) : Except schema.Error Json → Outbound schema
  | .ok value => .result id value
  | .error failure => .error id failure

/-- The request a frame answers. -/
def Outbound.replyTo : Outbound schema → Option RequestId
  | .result id _ | .error id _ => some id
  | .request .. | .notification .. => none

namespace Handled

/-- The request that was read. -/
def read? : Handled schema → Option RequestId
  | answered id _ | deferred id => some id
  | responded .. => none

/-- The reply that was written. -/
def reply? : Handled schema → Option (Outbound schema)
  | answered id outcome | responded id outcome => some (.reply id outcome)
  | deferred _ => none

def deferred? : Handled schema → Option RequestId
  | deferred id => some id
  | _ => none

def responded? : Handled schema → Option RequestId
  | responded id _ => some id
  | _ => none

end Handled

/-! ## the transport -/

def maxFrameBytes : Nat := 16 * 1024 * 1024

/-- A line without its newline. -/
def trimmed (line : String) : String :=
  String.ofList (line.toList.rdropWhile fun c => c == '\n' || c == '\r')

/-- The next line that is not empty, and what is left to read. -/
def readFrame : List String → Except WireError (Option String) × List String
  | [] => (.ok none, [])
  | line :: rest =>
      if maxFrameBytes < line.utf8ByteSize then
        (.error (.malformed ("frame exceeds " ++ toString maxFrameBytes ++ " bytes")), rest)
      else if (trimmed line).isEmpty then readFrame rest
      else (.ok (some (trimmed line)), rest)

namespace AcpClient

variable {H : Type}

def recvInbound : Calling schema H (Option (AcpMessage schema)) := do
  let client ← get
  let (frame, lines) := readFrame client.transport.lines
  set { client with transport := { client.transport with lines } }
  match frame with
  | .error error => throw (.wire error)
  | .ok none => return none
  | .ok (some line) =>
      match classifyInbound schema line with
      | .error error => throw (.wire error)
      | .ok message => return some message

def sendRaw (frame : Outbound schema) : Calling schema H Unit := do
  let client ← get
  match client.transport.room with
  | some 0 => throw (.wire .io)
  | room =>
      set { client with
        transport := { client.transport with
          sent := client.transport.sent ++ [frame]
          room := room.map (· - 1) } }

def remember (handled : Handled schema) : Calling schema H Unit :=
  modify fun client => { client with history := client.history ++ [handled] }

/-! ## calls -/

def nextRequestId : Calling schema H RequestId := do
  let client ← get
  set { client with nextId := client.nextId + 1 }
  return .number (client.nextId + 1)

def notify (method : String) (params : Json) : Calling schema H Unit :=
  sendRaw (.notification method params)

/-- A request is handled, and answered unless it is deferred. -/
def serve [ClientHandler schema H] (id : RequestId) (request : AgentToClientRequest schema) :
    Calling schema H Unit := do
  let client ← get
  let (outcome, handler) := ClientHandler.handleRequest client.handler id request
  set { client with handler }
  match outcome with
  | .respond outcome =>
      sendRaw (.reply id outcome)
      remember (.answered id outcome)
  | .defer =>
      modify fun client => { client with deferred := insert id client.deferred }
      remember (.deferred id)

/-- Reads and serves one frame. -/
def nextMessage [ClientHandler schema H] : Calling schema H (Option (AcpMessage schema)) := do
  match ← recvInbound with
  | none => return none
  | some message =>
      match message with
      | .request id request => serve id request
      | .notification notification =>
          modify fun client => { client with
            handler := ClientHandler.handleNotification client.handler notification
            notifications := client.notifications ++ [notification] }
      | .response .. => pure ()
      return some message

/-- The loop of `wait_for_response`; every round reads a line, so `rounds` is enough
when it exceeds the lines there are. -/
def waitRounds [ClientHandler schema H] (id : RequestId) : Nat → Calling schema H Json
  | 0 => throw .closed
  | rounds + 1 => do
      match ← nextMessage with
      | none => throw .closed
      | some (.response got outcome) =>
          if got = id then
            match outcome with
            | .ok value => return value
            | .error error => throw (.protocol error)
          else
            modify fun client => { client with
              orphanResponses := client.orphanResponses ++ [(got, outcome)] }
            waitRounds id rounds
      | some (.request ..) | some (.notification _) => waitRounds id rounds

def waitForResponse [ClientHandler schema H] (id : RequestId) : Calling schema H Json := do
  let client ← get
  waitRounds id (client.transport.lines.length + 1)

/-- A request of the host's; `read` is what decodes the result. -/
def request [ClientHandler schema H] {α : Type} (read : Json → Except String α)
    (method : String) (params : Json) : Calling schema H α := do
  let id ← nextRequestId
  sendRaw (.request id method params)
  let value ← waitForResponse id
  match read value with
  | .ok result => return result
  | .error text => throw (.decode text)

def takeDeferred (id : RequestId) : Calling schema H Unit := do
  let client ← get
  if id ∈ client.deferred then set { client with deferred := client.deferred.erase id }
  else throw (.unknownDeferredRequest id)

/-- Answers a deferred request. -/
def respond (id : RequestId) (outcome : Except schema.Error Json) : Calling schema H Unit := do
  takeDeferred id
  sendRaw (.reply id outcome)
  remember (.responded id outcome)

def respondResult (id : RequestId) (value : Json) : Calling schema H Unit := respond id (.ok value)

def respondError (id : RequestId) (error : schema.Error) : Calling schema H Unit :=
  respond id (.error error)

end AcpClient

/-- The value of a `RequestPermissionResponse`. -/
def permissionOutcomeValue : RequestPermissionOutcome → Json
  | .cancelled => .obj [("outcome", .obj [("outcome", .str "cancelled")])]
  | .selected optionId =>
      .obj [("outcome", .obj [("outcome", .str "selected"), ("optionId", .str optionId)])]

def AcpClient.respondPermission {H : Type} (id : RequestId) (outcome : RequestPermissionOutcome) :
    Calling schema H Unit :=
  respond id (.ok (permissionOutcomeValue outcome))

/-- Cancels every permission request and rejects unknown methods. -/
structure DenyAllHandler where

instance : ClientHandler schema DenyAllHandler where
  handleRequest handler _
    | .requestPermission _ => (.respond (.ok (permissionOutcomeValue .cancelled)), handler)
    | .other .. => (.respond (.error schema.methodNotFound), handler)
  handleNotification handler _ := handler

/-! ## runs -/

/-- A call of the client, or lines the agent sends. -/
inductive Op (schema : Schema) where
  | arrive (lines : List String)
  | nextMessage
  | waitForResponse (id : RequestId)
  | request (method : String) (params : Json)
  | notify (method : String) (params : Json)
  | respond (id : RequestId) (outcome : Except schema.Error Json)

def Op.run {H : Type} [ClientHandler schema H] (client : AcpClient schema H) :
    Op schema → AcpClient schema H
  | .arrive lines =>
      { client with transport := { client.transport with
        lines := client.transport.lines ++ lines } }
  | .nextMessage => AcpClient.nextMessage.final client
  | .waitForResponse id => (AcpClient.waitForResponse id).final client
  | .request method params => (AcpClient.request .ok method params).final client
  | .notify method params => (AcpClient.notify method params).final client
  | .respond id outcome => (AcpClient.respond id outcome).final client

/-- Runs of a client that has written and handled nothing. -/
def clientSystem (schema : Schema) (H : Type) [ClientHandler schema H] :
    System (AcpClient schema H) (Op schema) :=
  .ofNext
    (fun client => client.transport.sent = [] ∧ client.deferred = ∅ ∧ client.history = [])
    (fun client op => some (op.run client))

end Acp

end Slight
