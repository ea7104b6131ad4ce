import Slight.Protocol.Frames
import Slight.Session.Reads

/-!
# Slight.Gateway.Protocol

What the gateway speaks of: protocol errors, scopes, the commands with their
params and results, and the frames of a connection.

A command carries its params as JSON and decodes them by command.  Results are
kept as the values they encode, those of the host administration as JSON, and so
are the events in a frame the host sends; `Gateway.Wire` says which JSON a frame
is and reads it back.
-/

namespace Slight

namespace Gateway

/-- `PROTOCOL_VERSION`. -/
def protocolVersion : UInt32 := 1

/-! ## errors -/

/-- What a command or a frame can be refused for. -/
inductive ProtocolError where
  | malformedFrame (text : String)
  | invalidVersion (requested supported : UInt32)
  | unauthenticated (text : String)
  | unauthorized (text : String)
  | unknownSession (text : String)
  | unsupportedCapability (text : String)
  | resyncRequired (text : String)
  | unsupportedCommand (text : String)
  | invalidParams (text : String)
  | invalidFrame (text : String)
  | internal (text : String)

/-- An error as an acknowledgement carries it: the stable code, the text and whether a
retry may help. -/
structure GatewayErrorBody where
  code : String
  message : String
  retryable : Bool
  deriving DecidableEq

namespace ProtocolError

/-- The stable code.  Two variants have a code that is not their name: an unsupported
command is `unsupported` and an invalid frame `invalid_command`. -/
def code : ProtocolError → String
  | malformedFrame _ => "malformed_frame"
  | invalidVersion _ _ => "invalid_version"
  | unauthenticated _ => "unauthenticated"
  | unauthorized _ => "unauthorized"
  | unknownSession _ => "unknown_session"
  | unsupportedCapability _ => "unsupported_capability"
  | resyncRequired _ => "resync_required"
  | unsupportedCommand _ => "unsupported"
  | invalidParams _ => "invalid_params"
  | invalidFrame _ => "invalid_command"
  | internal _ => "internal"

/-- The `Display` text. -/
def message : ProtocolError → String
  | malformedFrame text => "malformed frame: " ++ text
  | invalidVersion requested supported =>
      "unsupported protocol version " ++ toString requested ++ "; supported version is " ++
        toString supported
  | unauthenticated text => "authentication failed: " ++ text
  | unauthorized text => "not authorized: " ++ text
  | unknownSession text => "unknown session: " ++ text
  | unsupportedCapability text => "agent does not support " ++ text
  | resyncRequired text => "resync required: " ++ text
  | unsupportedCommand text => "unsupported command: " ++ text
  | invalidParams text => "invalid params: " ++ text
  | invalidFrame text => "invalid frame: " ++ text
  | internal text => "internal error: " ++ text

/-- Only what failed inside the host may be tried again. -/
def retryable : ProtocolError → Bool
  | internal _ => true
  | _ => false

def body (error : ProtocolError) : GatewayErrorBody where
  code := error.code
  message := error.message
  retryable := error.retryable

end ProtocolError

/-- What an error of the manager is for a client. -/
def sessionError : SessionError → ProtocolError
  | .unknownSession id => .unknownSession id
  | .unknownAgent agent => .invalidParams ("unknown agent: " ++ agent)
  | .notRunning id => .invalidFrame ("session is not running: " ++ id)
  | .emptyTitle => .invalidParams "session title must not be empty"
  | .unsupportedCapability capability => .unsupportedCapability capability
  | .noPendingPermission id => .invalidFrame ("no pending permission for session: " ++ id)
  | .permissionMismatch id _ _ => .invalidFrame ("permission mismatch for session: " ++ id)
  | .agent error => .internal error.message

/-! ## scopes -/

/-- What a device may be allowed to do. -/
inductive Scope where
  | readSessions
  | sendInput
  | respondPermission
  | createSession
  | manageHost
  deriving DecidableEq

/-- The scope's name in an error text. -/
def Scope.name : Scope → String
  | readSessions => "ReadSessions"
  | sendInput => "SendInput"
  | respondPermission => "RespondPermission"
  | createSession => "CreateSession"
  | manageHost => "ManageHost"

/-- Who speaks on a connection: the device its credential was issued to, and the scopes
that device was given. -/
structure AuthContext where
  deviceId : String
  deviceLabel : String
  scopes : List Scope
  deriving DecidableEq

namespace AuthContext

/-- The context with every scope, which every accepted hello is given. -/
def all (deviceId deviceLabel : String) : AuthContext where
  deviceId := deviceId
  deviceLabel := deviceLabel
  scopes := [.readSessions, .sendInput, .respondPermission, .createSession, .manageHost]

def has (context : AuthContext) (scope : Scope) : Bool := context.scopes.contains scope

end AuthContext

/-! ## commands -/

/-- The commands the server knows, in the order of `command_name`. -/
inductive CommandName where
  | sessionResume
  | sessionList
  | sessionWorkingDirectories
  | sessionCreate
  | sessionAttach
  | sessionDetach
  | sessionInput
  | sessionCancel
  | sessionRename
  | sessionArchive
  | sessionSetMode
  | sessionSetConfigOption
  | sessionPermissionRespond
  | sessionInspect
  | sessionHistory
  | eventsReplay
  | agentSessionsList
  | agentSessionImport
  | hostStatus
  | hostStart
  | hostStop
  | hostRestart
  | hostConfiguration
  | hostDiagnostics
  | hostShutdown
  | deviceList
  | deviceRevoke
  | pairingCreate
  | pairingList
  deriving DecidableEq

namespace CommandName

/-- The commands under their names. -/
def names : List (String × CommandName) :=
  [("session.resume", sessionResume),
    ("session.list", sessionList),
    ("session.working_directories", sessionWorkingDirectories),
    ("session.create", sessionCreate),
    ("session.attach", sessionAttach),
    ("session.detach", sessionDetach),
    ("session.input", sessionInput),
    ("session.cancel", sessionCancel),
    ("session.rename", sessionRename),
    ("session.archive", sessionArchive),
    ("session.set_mode", sessionSetMode),
    ("session.set_config_option", sessionSetConfigOption),
    ("session.permission.respond", sessionPermissionRespond),
    ("session.inspect", sessionInspect),
    ("session.history", sessionHistory),
    ("events.replay", eventsReplay),
    ("agent.sessions.list", agentSessionsList),
    ("agent.sessions.import", agentSessionImport),
    ("host.status", hostStatus),
    ("host.start", hostStart),
    ("host.stop", hostStop),
    ("host.restart", hostRestart),
    ("host.configuration", hostConfiguration),
    ("host.diagnostics", hostDiagnostics),
    ("host.shutdown", hostShutdown),
    ("device.list", deviceList),
    ("device.revoke", deviceRevoke),
    ("pairing.create", pairingCreate),
    ("pairing.list", pairingList)]

def ofName (name : String) : Option CommandName := names.lookup name

end CommandName

/-- `GatewayCommand`. -/
structure Command where
  protocolVersion : UInt32
  requestId : String
  command : String
  sessionId : Option String
  params : Option Json

/-- The params decoded as `α`; a missing value counts as `null`. -/
def Command.paramsAs (α : Type) [Serde α] (command : Command) : Option α :=
  ofJson (command.params.getD .null)

/-! ### params -/

instance : Serde SessionRecovery where
  toJson
    | .load => .str "load"
    | .resume => .str "resume"
  ofJson := ofVariants [("load", .load), ("resume", .resume)]

/-- Params of `session.create`. -/
structure CreateSessionParams where
  agent : String
  model : Option String
  effort : Option String
  workingDirectoryLabel : String
  initialPrompt : Option String

instance : Record CreateSessionParams where
  toFields p := [("agent", toJson p.agent), ("model", toJson p.model), ("effort", toJson p.effort),
    ("working_directory_label", toJson p.workingDirectoryLabel),
    ("initial_prompt", toJson p.initialPrompt)]
  ofFields fields := do
    let agent ← fields.required "agent"
    let model ← fields.optional "model"
    let effort ← fields.optional "effort"
    let workingDirectoryLabel ← fields.required "working_directory_label"
    let initialPrompt ← fields.optional "initial_prompt"
    pure { agent, model, effort, workingDirectoryLabel, initialPrompt }

/-- Params of `session.history`: the newest page before a sequence number, or the newest
page of all. -/
structure SessionHistoryParams where
  beforeSequence : Option Nat
  limit : Option Nat

/-- The params of a command that has none, and of one whose params do not decode. -/
instance : Inhabited SessionHistoryParams := ⟨⟨none, none⟩⟩

instance : Record SessionHistoryParams where
  toFields p := [("before_sequence", toJson p.beforeSequence), ("limit", toJson p.limit)]
  ofFields fields := do
    let beforeSequence ← fields.optional "before_sequence"
    let limit ← fields.optional "limit"
    pure { beforeSequence, limit }

/-- Params of `agent.sessions.list`. -/
structure AgentSessionsListParams where
  agent : String
  workingDirectoryLabel : Option String
  cursor : Option String

instance : Record AgentSessionsListParams where
  toFields p := [("agent", toJson p.agent),
    ("working_directory_label", toJson p.workingDirectoryLabel), ("cursor", toJson p.cursor)]
  ofFields fields := do
    let agent ← fields.required "agent"
    let workingDirectoryLabel ← fields.optional "working_directory_label"
    let cursor ← fields.optional "cursor"
    pure { agent, workingDirectoryLabel, cursor }

/-- Params of `agent.sessions.import`: the agent's own id of the session, and whether its
history is replayed (`load`) or it is only reconnected (`resume`). -/
structure ImportAgentSessionParams where
  agent : String
  agentSessionId : String
  workingDirectoryLabel : String
  recovery : SessionRecovery
  title : Option String

instance : Record ImportAgentSessionParams where
  toFields p := [("agent", toJson p.agent), ("agent_session_id", toJson p.agentSessionId),
    ("working_directory_label", toJson p.workingDirectoryLabel), ("recovery", toJson p.recovery),
    ("title", toJson p.title)]
  ofFields fields := do
    let agent ← fields.required "agent"
    let agentSessionId ← fields.required "agent_session_id"
    let workingDirectoryLabel ← fields.required "working_directory_label"
    let recovery ← fields.required "recovery"
    let title ← fields.optional "title"
    pure { agent, agentSessionId, workingDirectoryLabel, recovery, title }

/-- Params of `session.input`. -/
structure SendInputParams where
  text : String

instance : Record SendInputParams where
  toFields p := [("text", toJson p.text)]
  ofFields fields := do
    let text ← fields.required "text"
    pure { text }

/-- Params of `session.rename`. -/
structure RenameSessionParams where
  title : String

instance : Record RenameSessionParams where
  toFields p := [("title", toJson p.title)]
  ofFields fields := do
    let title ← fields.required "title"
    pure { title }

/-- Params of `session.archive`, which also undoes it. -/
structure ArchiveSessionParams where
  archived : Bool

instance : Record ArchiveSessionParams where
  toFields p := [("archived", toJson p.archived)]
  ofFields fields := do
    let archived ← fields.required "archived"
    pure { archived }

/-- Params of `session.set_mode`. -/
structure SetSessionModeParams where
  modeId : String

instance : Record SetSessionModeParams where
  toFields p := [("mode_id", toJson p.modeId)]
  ofFields fields := do
    let modeId ← fields.required "mode_id"
    pure { modeId }

/-- Params of `session.set_config_option`. -/
structure SetSessionConfigOptionParams where
  configId : String
  valueId : String

instance : Record SetSessionConfigOptionParams where
  toFields p := [("config_id", toJson p.configId), ("value_id", toJson p.valueId)]
  ofFields fields := do
    let configId ← fields.required "config_id"
    let valueId ← fields.required "value_id"
    pure { configId, valueId }

/-- Params of `session.permission.respond`: which request is answered, and with which of
its options. -/
structure RespondPermissionParams where
  permissionId : String
  optionId : String

instance : Record RespondPermissionParams where
  toFields p := [("permission_id", toJson p.permissionId), ("option_id", toJson p.optionId)]
  ofFields fields := do
    let permissionId ← fields.required "permission_id"
    let optionId ← fields.required "option_id"
    pure { permissionId, optionId }

/-- Params of `pairing.create`: the label of the device to be. -/
structure BeginPairingParams where
  label : String

instance : Record BeginPairingParams where
  toFields p := [("label", toJson p.label)]
  ofFields fields := do
    let label ← fields.required "label"
    pure { label }

/-- Params of `device.revoke`. -/
structure RevokeDeviceParams where
  deviceId : String

instance : Record RevokeDeviceParams where
  toFields p := [("device_id", toJson p.deviceId)]
  ofFields fields := do
    let deviceId ← fields.required "device_id"
    pure { deviceId }

/-! ### results -/

/-- A session of the agent's own, as `agent.sessions.list` reports it. -/
structure AgentSessionSummaryDto where
  agent : String
  agentSessionId : String
  cwd : String
  additionalDirectories : List String
  title : Option String
  updatedAt : Option String

/-- A page of the journal that ends before the asked sequence number. -/
structure SessionHistoryResult where
  session : SessionSummaryDto
  events : List GatewayEvent
  latestSequence : Nat
  oldestAvailableSequence : Option Nat
  hasMore : Bool

/-- The agent of a session, as `session.inspect` reports it. -/
structure AgentDescriptorDto where
  kind : String
  displayName : String
  version : Option String

def AgentSessionSummaryDto.fromListed (agent : String) (listed : ListedSessionSummary) :
    AgentSessionSummaryDto where
  agent := agent
  agentSessionId := listed.agentSessionId
  cwd := listed.cwd
  additionalDirectories := listed.additionalDirectories
  title := listed.title
  updatedAt := listed.updatedAt

def AgentDescriptorDto.ofDescriptor (descriptor : AgentDescriptor) : AgentDescriptorDto where
  kind := descriptor.kind.asStr
  displayName := descriptor.displayName
  version := descriptor.version

/-- All that the host knows of one session. -/
structure SessionInspectResult where
  session : SessionSummaryDto
  agent : AgentDescriptorDto
  acp : SessionAcpMetadata
  running : Bool
  pendingPermission : Option PermissionRequestPayload
  recentEvents : List GatewayEvent

/-- The result of a command, before it is encoded. -/
inductive CommandResult where
  | unit
  | sessions (sessions : List SessionSummaryDto)
  | paths (paths : List String)
  | session (session : SessionSummaryDto)
  | agentSessions (sessions : List AgentSessionSummaryDto) (nextCursor : Option String)
  | attached (result : SessionAttachResult)
  | history (result : SessionHistoryResult)
  | inspected (result : SessionInspectResult)
  | host (result : Json)

/-! ## frames -/

/-- The acknowledgement of a command. -/
structure CommandAck where
  requestId : String
  outcome : Except GatewayErrorBody CommandResult

/-- Whether the command succeeded. -/
def CommandAck.ok (ack : CommandAck) : Bool := ack.outcome.toBool

/-- Where a reconnecting client says it stopped. -/
structure ResumeRequest where
  sessionId : Option String
  lastEventSequence : Option UInt64
  deriving DecidableEq

/-- The first frame of a connection: the versions of the client, and the credential it
was given when it was paired. -/
structure ClientHello where
  protocolVersion : UInt32
  clientId : String
  clientName : String
  clientVersion : String
  deviceId : Option String
  credential : Option String
  resume : Option ResumeRequest
  deriving DecidableEq

/-- What the host can do for a client. -/
structure ServerCapabilities where
  supportsReplay : Bool
  maxReplayEvents : Option UInt64
  maxEventJournal : Option UInt64
  supportsRawAcp : Bool
  permissionOptions : Bool
  hostAdmin : Bool
  deriving DecidableEq

/-- What a welcome without capabilities is read as having. -/
def ServerCapabilities.default : ServerCapabilities where
  supportsReplay := true
  maxReplayEvents := none
  maxEventJournal := none
  supportsRawAcp := false
  permissionOptions := true
  hostAdmin := true

/-- The answer to a hello that is accepted. -/
structure ServerWelcome where
  protocolVersion : UInt32
  connectionId : String
  serverName : String
  serverVersion : String
  hostId : Option String
  capabilities : ServerCapabilities
  heartbeatIntervalMs : Option UInt64
  resyncRequired : Bool
  resyncReason : Option String
  deriving DecidableEq

/-- A heartbeat, which its receiver answers with the nonce. -/
structure PingFrame where
  protocolVersion : UInt32
  nonce : String
  deriving DecidableEq

/-- The answer to a heartbeat. -/
structure PongFrame where
  protocolVersion : UInt32
  nonce : String
  deriving DecidableEq

/-- The host no longer has the events the client asks for. -/
structure ResyncRequired where
  protocolVersion : UInt32
  reason : String
  sessionId : Option String
  oldestAvailableSequence : Option UInt64
  deriving DecidableEq

/-- A frame that is refused; a refused command is answered by its acknowledgement. -/
structure GatewayProtocolError where
  protocolVersion : UInt32
  code : String
  message : String
  requestId : Option String
  retryable : Bool
  deriving DecidableEq

/-- An error as a frame of its own. -/
def ProtocolError.toWire (error : ProtocolError) (requestId : Option String) :
    GatewayProtocolError where
  protocolVersion := protocolVersion
  code := error.code
  message := error.message
  requestId := requestId
  retryable := error.retryable

/-- A frame as a connection of the host sends it: the results and events in it are the
values themselves.  What it is on the wire is `Frame.wire` of `Gateway.Wire`. -/
inductive Frame where
  | hello (hello : ClientHello)
  | welcome (welcome : ServerWelcome)
  | command (command : Command)
  | ack (ack : CommandAck)
  | event (event : GatewayEvent)
  | ping (ping : PingFrame)
  | pong (pong : PongFrame)
  | resyncRequired (resync : ResyncRequired)
  | error (error : GatewayProtocolError)

namespace Frame

/-- The `type` field of a frame. -/
def frameType : Frame → String
  | hello _ => "hello"
  | welcome _ => "welcome"
  | command _ => "command"
  | ack _ => "ack"
  | event _ => "event"
  | ping _ => "ping"
  | pong _ => "pong"
  | resyncRequired _ => "resync_required"
  | error _ => "error"

/-- The acknowledgement a frame is. -/
def ack? : Frame → Option CommandAck
  | ack acknowledgement => some acknowledgement
  | _ => none

end Frame

end Gateway

end Slight
