import Slight.Client.Responding
import Slight.Client.State

/-!
# Slight.Client.Frames

The frame union as the client reads and writes it.

Writing goes through `convertToSnakeCase`, which splits a camel-case key into its
words; an optional field that is `nil` is left out.  Of the nine frames the client
only writes the three it sends, `hello`, `command` and `pong`.
-/

namespace Slight

/-! ## keys -/

/-- The words of a camel-case key, the one under way in `word`.  A word ends before an
upper-case letter; of several in a row the last begins the next word, if a lower-case
letter follows it.  `upper` says that `word` is such a row. -/
def camelWords (upper : Bool) (word : List Char) : List Char → List (List Char)
  | [] => [word]
  | c :: rest =>
      match upper with
      | false =>
          if c.isUpper then word :: camelWords true [c] rest
          else camelWords false (word ++ [c]) rest
      | true =>
          if c.isLower then
            match word.dropLast, word.getLast? with
            | [], _ => camelWords false (word ++ [c]) rest
            | before, some last => before :: camelWords false [last, c] rest
            | before, none => before :: camelWords false [c] rest
          else camelWords true (word ++ [c]) rest

/-- Snake case for camel case. -/
def convertToSnakeCase (key : String) : String :=
  match key.toList with
  | [] => key
  | first :: rest =>
      .ofList ("_".toList.intercalate ((camelWords false [first] rest).map (·.map Char.toLower)))

example : convertToSnakeCase "workingDirectoryLabel" = "working_directory_label" := by
  decide +kernel

/-- Values the client encodes as JSON. -/
class Encodable (α : Type) where
  encodeJSON : α → Json

export Encodable (encodeJSON)

instance : Encodable Int := ⟨.int⟩

instance : Encodable String := ⟨.str⟩

instance : Encodable JSONValue := ⟨JSONValue.encode⟩

section

variable {α : Type} [Encodable α]

/-- A field in front of the `rest` of a keyed container. -/
def encodeField (key : String) (a : α) (rest : Fields) : Fields :=
  (convertToSnakeCase key, encodeJSON a) :: rest

/-- `encodeIfPresent`: a field that is `nil` is left out. -/
def encodeIfPresent (key : String) (a : Option α) (rest : Fields) : Fields :=
  match a with
  | none => rest
  | some a => encodeField key a rest

end

/-- A struct, encoded into a keyed container. -/
class KeyedEncodable (α : Type) where
  encodeFields : α → Fields

export KeyedEncodable (encodeFields)

instance {α : Type} [KeyedEncodable α] : Encodable α := ⟨fun a => .obj (encodeFields a)⟩

namespace Client

/-- `GatewayProtocol.version`. -/
def gatewayVersion : Int := 1

/-! ## the frames the client sends -/

/-- Where the client stopped; a client that never saw an event has neither field. -/
structure ResumeRequest where
  sessionId : Option String
  lastEventSequence : Option Int
  deriving DecidableEq

instance : KeyedEncodable ResumeRequest where
  encodeFields r := encodeIfPresent "sessionId" r.sessionId <|
    encodeIfPresent "lastEventSequence" r.lastEventSequence []

instance : Keyed ResumeRequest where
  ofContainer container := do
    let sessionId ← container.decodeIfPresent "sessionId"
    let lastEventSequence ← container.decodeIfPresent "lastEventSequence"
    pure { sessionId, lastEventSequence }

/-- The first frame of a connection. -/
structure ClientHello where
  protocolVersion : Int
  clientId : String
  clientName : String
  clientVersion : String
  deviceId : Option String
  credential : Option String
  resume : Option ResumeRequest
  deriving DecidableEq

instance : KeyedEncodable ClientHello where
  encodeFields h := encodeField "v" h.protocolVersion <| encodeField "clientId" h.clientId <|
    encodeField "clientName" h.clientName <| encodeField "clientVersion" h.clientVersion <|
    encodeIfPresent "deviceId" h.deviceId <| encodeIfPresent "credential" h.credential <|
    encodeIfPresent "resume" h.resume []

/-- The client can decode all frames of the union, those it sends among them. -/
instance : Keyed ClientHello where
  ofContainer container := do
    let protocolVersion ← container.decodeOr "v" gatewayVersion
    let clientId ← container.decode "clientId"
    let clientName ← container.decodeOr "clientName" "Slight"
    let clientVersion ← container.decodeOr "clientVersion" "0"
    let deviceId ← container.decodeIfPresent "deviceId"
    let credential ← container.decodeIfPresent "credential"
    let resume ← container.decodeIfPresent "resume"
    pure { protocolVersion, clientId, clientName, clientVersion, deviceId, credential, resume }

/-- A command as it is encoded, under the request id that was drawn for it. -/
structure GatewayCommand where
  protocolVersion : Int
  requestId : String
  command : String
  sessionId : Option String
  params : Option JSONValue

instance : KeyedEncodable GatewayCommand where
  encodeFields c := encodeField "v" c.protocolVersion <| encodeField "requestId" c.requestId <|
    encodeField "command" c.command <| encodeIfPresent "sessionId" c.sessionId <|
    encodeIfPresent "params" c.params []

instance : Keyed GatewayCommand where
  ofContainer container := do
    let protocolVersion ← container.decodeOr "v" gatewayVersion
    let requestId ← container.decode "requestId"
    let command ← container.decode "command"
    let sessionId ← container.decodeIfPresent "sessionId"
    let params ← container.decodeIfPresent "params"
    pure { protocolVersion, requestId, command, sessionId, params }

/-- The answer to a ping. -/
structure PongFrame where
  protocolVersion : Int
  nonce : String
  deriving DecidableEq

instance : KeyedEncodable PongFrame where
  encodeFields p := encodeField "v" p.protocolVersion <| encodeField "nonce" p.nonce []

instance : Keyed PongFrame where
  ofContainer container := do
    let protocolVersion ← container.decodeOr "v" gatewayVersion
    let nonce ← container.decodeOr "nonce" ""
    pure { protocolVersion, nonce }

/-- A frame of the client's: what `GatewayFrame` encodes for the three it sends. -/
inductive Outgoing where
  | hello (hello : ClientHello)
  | command (command : GatewayCommand)
  | pong (pong : PongFrame)

namespace Outgoing

/-- The `type` field. -/
def frameType : Outgoing → String
  | hello _ => "hello"
  | command _ => "command"
  | pong _ => "pong"

/-- The type, and the fields of the body next to it. -/
def encode : Outgoing → Fields
  | hello value => encodeField "type" "hello" (encodeFields value)
  | command value => encodeField "type" "command" (encodeFields value)
  | pong value => encodeField "type" "pong" (encodeFields value)

end Outgoing

/-! ## the frames the client receives -/

/-- A capability that is missing has the default of the whole record. -/
instance : Keyed GatewayCapabilities where
  ofContainer container := do
    let supportsReplay ← container.decodeOr "supportsReplay" true
    let maxReplayEvents ← container.decodeIfPresent "maxReplayEvents"
    let maxEventJournal ← container.decodeIfPresent "maxEventJournal"
    let supportsRawAcp ← container.decodeOr "supportsRawAcp" false
    let permissionOptions ← container.decodeOr "permissionOptions" true
    let hostAdmin ← container.decodeOr "hostAdmin" true
    pure { supportsReplay, maxReplayEvents, maxEventJournal, supportsRawAcp, permissionOptions,
           hostAdmin }

/-- Only the id of the connection is required. -/
instance : Keyed ServerWelcome where
  ofContainer container := do
    let protocolVersion ← container.decodeOr "v" gatewayVersion
    let connectionId ← container.decode "connectionId"
    let serverName ← container.decodeOr "serverName" "slight-host"
    let serverVersion ← container.decodeOr "serverVersion" "0"
    let hostId ← container.decodeIfPresent "hostId"
    let capabilities ← container.decodeOr "capabilities" .default
    let heartbeatIntervalMs ← container.decodeIfPresent "heartbeatIntervalMs"
    let resyncRequired ← container.decodeOr "resyncRequired" false
    let resyncReason ← container.decodeIfPresent "resyncReason"
    pure { protocolVersion, connectionId, serverName, serverVersion, hostId, capabilities,
           heartbeatIntervalMs, resyncRequired, resyncReason }

/-- A heartbeat of the host. -/
structure PingFrame where
  protocolVersion : Int
  nonce : String
  deriving DecidableEq

instance : Keyed PingFrame where
  ofContainer container := do
    let protocolVersion ← container.decodeOr "v" gatewayVersion
    let nonce ← container.decodeOr "nonce" ""
    pure { protocolVersion, nonce }

/-- The host has dropped events the client has not seen. -/
structure ResyncRequired where
  protocolVersion : Int
  reason : String
  sessionId : Option String
  oldestAvailableSequence : Option Int
  deriving DecidableEq

instance : Keyed ResyncRequired where
  ofContainer container := do
    let protocolVersion ← container.decodeOr "v" gatewayVersion
    let reason ← container.decodeOr "reason" "history_unavailable"
    let sessionId ← container.decodeIfPresent "sessionId"
    let oldestAvailableSequence ← container.decodeIfPresent "oldestAvailableSequence"
    pure { protocolVersion, reason, sessionId, oldestAvailableSequence }

/-- A frame of the client's was refused. -/
structure GatewayProtocolError where
  protocolVersion : Int
  code : String
  message : String
  requestId : Option String
  retryable : Bool
  deriving DecidableEq

/-- Every field has a default, so that no error frame is lost. -/
instance : Keyed GatewayProtocolError where
  ofContainer container := do
    let protocolVersion ← container.decodeOr "v" gatewayVersion
    let code ← container.decodeOr "code" "unknown"
    let message ← container.decodeOr "message" ""
    let requestId ← container.decodeIfPresent "requestId"
    let retryable ← container.decodeOr "retryable" false
    pure { protocolVersion, code, message, requestId, retryable }

/-- The frame union; a type the client does not know is kept as it is. -/
inductive GatewayFrame where
  | hello (hello : ClientHello)
  | welcome (welcome : ServerWelcome)
  | command (command : GatewayCommand)
  | ack (ack : GatewayAck)
  | event (event : GatewayEvent)
  | ping (ping : PingFrame)
  | pong (pong : PongFrame)
  | resyncRequired (resync : ResyncRequired)
  | error (error : GatewayProtocolError)
  | unknown (type : String) (raw : JSONValue)

/-- The frame a type names. -/
def GatewayFrame.ofType (type : String) (container : Container) (j : Json) :
    Option GatewayFrame :=
  match type with
  | "hello" => (ofContainer container).map .hello
  | "welcome" => (ofContainer container).map .welcome
  | "command" => (ofContainer container).map .command
  | "ack" => (ofContainer container).map .ack
  | "event" => (ofContainer container).map .event
  | "ping" => (ofContainer container).map .ping
  | "pong" => (ofContainer container).map .pong
  | "resync_required" => (ofContainer container).map .resyncRequired
  | "error" => (ofContainer container).map .error
  | _ => some (.unknown type (.decode j))

instance : Decodable GatewayFrame where
  decodeJSON j := do
    let container ← j.container
    let type ← container.decode "type"
    GatewayFrame.ofType type container j

end Client

end Slight
