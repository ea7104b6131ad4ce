import Slight.Gateway.Acks
import Slight.Gateway.Wire
import Slight.Session.Changes
import Slight.Support.Memo

/-!
# Slight.Gateway.Server

The gateway server: what one connection makes of a frame it receives.

A connection works on the server it shares with all others (`Server`: the
manager and the host's administration) and on a state of its own (`ConnState`).
`Dispatch` programs run over both; one that fails keeps what it has done so far.
The connection answers every frame with frames of its own.
-/

namespace Slight

namespace Gateway

open Support Program

/-! ## what the server talks to -/

/-- The administration of the host: pairings, devices and the host's life. -/
class HostAdmin (S C A : Type) where
  status : A → World S C → Json × A
  diagnostics : A → World S C → Json × A
  requestStart : A → World S C → Except ProtocolError Json × A
  requestStop : A → World S C → Except ProtocolError Json × A
  requestRestart : A → World S C → Except ProtocolError Json × A
  beginPairing : A → World S C → String → Except ProtocolError Json × A
  listPairings : A → World S C → Except ProtocolError Json × A
  listDevices : A → World S C → Except ProtocolError Json × A
  revokeDevice : A → World S C → String → Except ProtocolError Json × A

class Authenticator (A : Type) where
  authenticate : A → ClientHello → Except ProtocolError AuthContext × A

structure GatewayConfig where
  serverName : String
  serverVersion : String
  hostId : String
  capabilities : ServerCapabilities
  heartbeatIntervalMs : Option UInt64

/-! ## state -/

structure Server (S C A : Type) where
  world : World S C
  admin : A

/-- The receiving end of a channel of a session; the first `read` events sent
into it have been received. -/
structure Receiver where
  channel : Nat
  read : Nat
  deriving DecidableEq

structure ConnState where
  authed : Option AuthContext
  welcomeSent : Bool
  subscriptions : AList fun _ : SessionId => Receiver
  completedCommands : Memo String CommandAck

def ConnState.new : ConnState where
  authed := none
  welcomeSent := false
  subscriptions := ∅
  completedCommands := .empty

def completedCommandLimit : Nat := 256

/-- The server and the state of one of its connections. -/
structure Connected (S C A : Type) where
  server : Server S C A
  state : ConnState

/-- Programs of a connection. -/
abbrev Dispatch (S C A : Type) := Program (Connected S C A) ProtocolError

/-- The agent a client names. -/
def parseAgent (value : String) : AgentKind :=
  if value = "claude_code" then .claudeCode
  else if value = "codex" then .codex
  else if value = "fake" then .fake
  else .custom value

namespace Dispatch

variable {S C A : Type}

/-- Runs a program of the manager. -/
def manager {α : Type} (m : Manager S C α) : Dispatch S C A α :=
  ExceptT.mk do
    let connected ← get
    let (outcome, world) := m.exec connected.server.world
    set { connected with server := { connected.server with world } }
    pure (outcome.mapError sessionError)

@[simp] theorem exec_manager {α : Type} (m : Manager S C α) (connected : Connected S C A) :
    (manager m : Dispatch S C A α).exec connected =
      ((m.result connected.server.world).mapError sessionError,
        { connected with
          server := { connected.server with world := m.final connected.server.world } }) := rfl

/-- Asks the administration of the host. -/
def admin (request : A → World S C → Except ProtocolError Json × A) :
    Dispatch S C A CommandResult :=
  ExceptT.mk do
    let connected ← get
    let (outcome, admin) := request connected.server.admin connected.server.world
    set { connected with server := { connected.server with admin } }
    pure (outcome.map .host)

def modifyState (change : ConnState → ConnState) : Dispatch S C A Unit :=
  modify fun connected => { connected with state := change connected.state }

/-! ## commands -/

/-- The params of the command, which cannot be done without. -/
def params (α : Type) [Serde α] (command : Command) : Dispatch S C A α := do
  match command.paramsAs α with
  | some params => pure params
  | none =>
      let connected ← get
      throw (.invalidParams
        (connected.server.world.env.readError (command.params.getD .null)))

/-- The session the command names. -/
def sessionOf (command : Command) : Dispatch S C A SessionId :=
  match command.sessionId with
  | some sessionId => pure sessionId
  | none => throw (.invalidParams "session_id required")

/-- A command to one session. -/
def onSession (α : Type) [Serde α] (command : Command)
    (run : SessionId → α → Manager S C CommandResult) : Dispatch S C A CommandResult := do
  let sessionId ← sessionOf command
  let params ← params α command
  manager (run sessionId params)

/-- Opens a channel for the connection; it replaces the one the connection had. -/
def subscribe (sessionId : SessionId) : Dispatch S C A Unit := do
  match ← (manager (Manager.subscribe sessionId)).attempt with
  | .ok channel =>
      modifyState fun state =>
        { state with
          subscriptions := state.subscriptions.insert sessionId { channel, read := 0 } }
  | .error _ => pure ()

/-- Opening a channel never fails: what the manager refuses is left out. -/
theorem exec_subscribe (connected : Connected S C A) (sessionId : SessionId) :
    (subscribe sessionId).exec connected = (.ok (), (subscribe sessionId).final connected) := by
  rw [Program.final, subscribe, exec_bind, exec_attempt]
  dsimp only
  cases (manager (Manager.subscribe sessionId) : Dispatch S C A Nat).result connected <;> rfl

/-- Attaches the connection to the session: a snapshot, and a channel. -/
def attach (command : Command) : Dispatch S C A (SessionId × AttachResult) := do
  let sessionId ← sessionOf command
  let params : AttachSessionParams := (command.paramsAs AttachSessionParams).getD default
  let result ← manager (Manager.attach sessionId params.afterSequence)
  subscribe sessionId
  pure (sessionId, result)

def historyResult (sessionId : SessionId) (result : HistoryResult) : SessionHistoryResult where
  session := .ofSummary result.summary
  events := result.events.map (gatewayEvent sessionId)
  latestSequence := result.latestSequence
  oldestAvailableSequence := result.oldestAvailableSequence
  hasMore := result.hasMore

def inspectResult (sessionId : SessionId) (detail : SessionDetail) : SessionInspectResult where
  session := .ofSummary detail.summary
  agent := .ofDescriptor detail.agent
  acp := detail.acp
  running := detail.running
  pendingPermission := detail.pendingPermission
  recentEvents := detail.recentEvents.map (gatewayEvent sessionId)

variable [SessionStore S] [AcpSession C] [AcpDiscovery C] [HostAdmin S C A]

/-- The command's program, by its name. -/
def command (config : GatewayConfig) (command : Command) :
    CommandName → Dispatch S C A CommandResult
  | .sessionList => do
      let sessions ← manager Manager.listSessions
      pure (.sessions (sessions.map .ofSummary))
  | .sessionWorkingDirectories => do
      let paths ← manager (Manager.workspacePaths 20)
      pure (.paths paths)
  | .sessionCreate => do
      let params ← params CreateSessionParams command
      let summary ← manager (Manager.createSession {
        agent := parseAgent params.agent
        model := params.model
        effort := params.effort
        workingDirectoryLabel := params.workingDirectoryLabel
        initialPrompt := params.initialPrompt })
      pure (.session (.ofSummary summary))
  | .agentSessionsList => do
      let params ← params AgentSessionsListParams command
      let connected ← get
      let agent := parseAgent params.agent
      let cwd := params.workingDirectoryLabel.map
        (resolveWorkingDirectory connected.server.world.env.home)
      let page ← manager (Manager.listAgentSessions agent cwd params.cursor)
      let imported ← manager (Manager.importedAgentSessionIds agent)
      let sessions := page.sessions.filter fun listed => !imported.contains listed.agentSessionId
      pure (.agentSessions (sessions.map (.fromListed agent.asStr)) page.nextCursor)
  | .agentSessionImport => do
      let params ← params ImportAgentSessionParams command
      let summary ← manager (Manager.importSession {
        agent := parseAgent params.agent
        agentSessionId := params.agentSessionId
        workingDirectoryLabel := params.workingDirectoryLabel
        recovery := params.recovery
        title := params.title })
      pure (.session (.ofSummary summary))
  | .sessionAttach | .sessionResume => do
      let (sessionId, result) ← attach command
      pure (.attached (attachResult sessionId result 0))
  | .eventsReplay => do
      let (sessionId, result) ← attach command
      let limit := replayPage (config.capabilities.maxReplayEvents.map UInt64.toNat)
      pure (.attached (attachResult sessionId result limit))
  | .sessionHistory => do
      let sessionId ← sessionOf command
      let params : SessionHistoryParams := (command.paramsAs SessionHistoryParams).getD default
      let result ← manager
        (Manager.history sessionId params.beforeSequence (params.limit.getD 200))
      pure (.history (historyResult sessionId result))
  | .sessionDetach => do
      match command.sessionId with
      | some sessionId =>
          modifyState fun state =>
            { state with subscriptions := state.subscriptions.erase sessionId }
      | none => pure ()
      pure .unit
  | .sessionInput =>
      onSession SendInputParams command fun sessionId params => do
        Manager.sendInput sessionId params.text
        pure .unit
  | .sessionCancel => do
      let sessionId ← sessionOf command
      manager (Manager.cancelTurn sessionId)
      pure .unit
  | .sessionRename =>
      onSession RenameSessionParams command fun sessionId params => do
        let summary ← Manager.renameSession sessionId params.title
        pure (.session (.ofSummary summary))
  | .sessionArchive =>
      onSession ArchiveSessionParams command fun sessionId params => do
        let summary ← Manager.archiveSession sessionId params.archived
        pure (.session (.ofSummary summary))
  | .sessionSetMode =>
      onSession SetSessionModeParams command fun sessionId params => do
        Manager.setMode sessionId params.modeId
        pure .unit
  | .sessionSetConfigOption =>
      onSession SetSessionConfigOptionParams command fun sessionId params => do
        Manager.setConfigOption sessionId params.configId params.valueId
        pure .unit
  | .sessionPermissionRespond =>
      onSession RespondPermissionParams command fun sessionId params => do
        Manager.answerPermission sessionId params.permissionId params.optionId
        pure .unit
  | .sessionInspect => do
      let sessionId ← sessionOf command
      let detail ← manager (Manager.inspectSession sessionId)
      pure (.inspected (inspectResult sessionId detail))
  | .hostStatus | .hostConfiguration => admin fun admin world => (HostAdmin.status admin world).map .ok id
  | .hostStart => admin HostAdmin.requestStart
  | .hostStop | .hostShutdown => admin HostAdmin.requestStop
  | .hostRestart => admin HostAdmin.requestRestart
  | .hostDiagnostics => admin fun admin world => (HostAdmin.diagnostics admin world).map .ok id
  | .pairingCreate => do
      let params : BeginPairingParams := (command.paramsAs BeginPairingParams).getD
        { label := "paired device" }
      admin (HostAdmin.beginPairing · · params.label)
  | .pairingList => admin HostAdmin.listPairings
  | .deviceList => admin HostAdmin.listDevices
  | .deviceRevoke => do
      let params ← params RevokeDeviceParams command
      admin (HostAdmin.revokeDevice · · params.deviceId)

end Dispatch

/-! ## authorization -/

/-- The scope the server asks for. -/
def CommandName.scope? : CommandName → Option Scope
  | .sessionList | .sessionWorkingDirectories | .sessionAttach | .sessionDetach | .sessionInspect
  | .sessionHistory | .sessionResume | .eventsReplay | .agentSessionsList => some .readSessions
  | .sessionCreate | .agentSessionImport => some .createSession
  | .sessionInput | .sessionCancel | .sessionRename | .sessionArchive | .sessionSetMode =>
      some .sendInput
  | .sessionPermissionRespond => some .respondPermission
  | .hostStatus | .hostStart | .hostStop | .hostRestart | .hostConfiguration | .hostDiagnostics
  | .hostShutdown | .deviceList | .deviceRevoke | .pairingCreate | .pairingList =>
      some .manageHost
  | .sessionSetConfigOption => none

/-- Names that are not in the table pass. -/
def authorize (context : AuthContext) (command : String) : Except ProtocolError Unit :=
  match (CommandName.ofName command).bind CommandName.scope? with
  | some scope =>
      if context.has scope then .ok ()
      else .error (.unauthorized (command ++ " requires " ++ scope.name))
  | none => .ok ()

/-! ## frames -/

variable {S C A : Type}

def CommandAck.error (requestId : String) (error : ProtocolError) : CommandAck where
  requestId := requestId
  outcome := .error error.body

def rememberCommand (state : ConnState) (requestId : String) (response : CommandAck) : ConnState :=
  { state with
    completedCommands :=
      state.completedCommands.remember completedCommandLimit requestId response }

/-- How a command came to its acknowledgement. -/
inductive Handling where
  | unwelcomed
  | recalled
  | refused
  | dispatched (context : AuthContext)
  deriving DecidableEq

/-- A command with its acknowledgement. -/
structure Answer where
  command : Command
  ack : CommandAck
  handling : Handling

/-- What a connection makes of a frame.  `answer` and `welcomedAs` say what it was:
a command, or a hello that was accepted. -/
structure Processed (S C A : Type) where
  connected : Connected S C A
  outbound : List Frame
  answer : Option Answer
  welcomedAs : Option AuthContext

def Processed.replied (connected : Connected S C A) (outbound : List Frame) : Processed S C A where
  connected := connected
  outbound := outbound
  answer := none
  welcomedAs := none

def Connected.remember (connected : Connected S C A) (ack : CommandAck) : Connected S C A :=
  { connected with state := rememberCommand connected.state ack.requestId ack }

section

variable [SessionStore S] [AcpSession C] [AcpDiscovery C] [HostAdmin S C A] [Authenticator A]

def dispatch (config : GatewayConfig) (connected : Connected S C A) (command : Command) :
    CommandAck × Connected S C A :=
  match CommandName.ofName command.command with
  | some name =>
      let (outcome, connected) := (Dispatch.command config command name).exec connected
      ({ requestId := command.requestId, outcome := outcome.mapError ProtocolError.body },
        connected)
  | none => (.error command.requestId (.unsupportedCommand command.command), connected)

def processCommand (config : GatewayConfig) (connected : Connected S C A) (command : Command) :
    Connected S C A × Answer :=
  let requestId := command.requestId
  if connected.state.welcomeSent then
    match connected.state.completedCommands.recalled requestId with
    | some ack => (connected, { command, ack, handling := .recalled })
    | none =>
        let context := connected.state.authed.getD (.all "unauthenticated" "unauthenticated")
        match authorize context command.command with
        | .error error =>
            let ack := CommandAck.error requestId error
            (connected.remember ack, { command, ack, handling := .refused })
        | .ok () =>
            let (ack, connected) := dispatch config connected command
            (connected.remember ack, { command, ack, handling := .dispatched context })
  else
    let ack := CommandAck.error requestId (.unauthenticated "hello required")
    (connected, { command, ack, handling := .unwelcomed })

/-- A fresh id of the server's. -/
def Server.newUuid (server : Server S C A) : String × Server S C A :=
  (server.world.env.uuid server.world.ticks,
    { server with world := { server.world with ticks := server.world.ticks + 1 } })

def buildWelcome (config : GatewayConfig) (connectionId : String) (hello : ClientHello) :
    ServerWelcome where
  protocolVersion := protocolVersion
  connectionId := connectionId
  serverName := config.serverName
  serverVersion := config.serverVersion
  hostId := some config.hostId
  capabilities := config.capabilities
  heartbeatIntervalMs := config.heartbeatIntervalMs
  resyncRequired := hello.resume.isSome
  resyncReason := hello.resume.map fun _ => "attach_required"

/-- A hello that is accepted sets the context, also on a connection that has one. -/
def processHello (config : GatewayConfig) (connected : Connected S C A) (hello : ClientHello) :
    Processed S C A :=
  if hello.protocolVersion ≠ protocolVersion then
    .replied connected
      [.error ((ProtocolError.invalidVersion hello.protocolVersion protocolVersion).toWire none)]
  else
    let (outcome, admin) := Authenticator.authenticate connected.server.admin hello
    let server := { connected.server with admin }
    match outcome with
    | .ok context =>
        let (connectionId, server) := server.newUuid
        { connected :=
            { server, state := { connected.state with welcomeSent := true, authed := some context } }
          outbound := [.welcome (buildWelcome config connectionId hello)]
          answer := none
          welcomedAs := some context }
    | .error error => .replied { connected with server } [.error (error.toWire none)]

def processFrame (config : GatewayConfig) (connected : Connected S C A) :
    Wire.Frame → Processed S C A
  | .hello hello => processHello config connected hello
  | .command command =>
      let (connected, answer) := processCommand config connected command
      { connected, outbound := [.ack answer.ack], answer := some answer, welcomedAs := none }
  | .ping ping => .replied connected [.pong ⟨protocolVersion, ping.nonce⟩]
  | .pong _ => .replied connected []
  | other =>
      .replied connected [.error
        ((ProtocolError.invalidFrame ("unexpected frame: " ++ other.frameType)).toWire none)]

/-- A payload that arrived: a frame, or the error of decoding it. -/
abbrev Payload := Except ProtocolError Wire.Frame

def dispatchIncoming (config : GatewayConfig) (connected : Connected S C A) :
    Payload → Processed S C A
  | .ok frame => processFrame config connected frame
  | .error error => .replied connected [.error (error.toWire none)]

end

/-! ## subscriptions and heartbeats -/

/-- The events in a receiver's channel that were not received yet. -/
def Receiver.unread (receiver : Receiver) (channels : List (List SequencedEvent)) :
    List SequencedEvent :=
  (channels.getD receiver.channel []).drop receiver.read

/-- Receives all there is in the channel of one subscription. -/
def drainSubscription (connected : Connected S C A) (sessionId : SessionId) :
    ConnState × List Frame :=
  match connected.state.subscriptions.lookup sessionId with
  | none => (connected.state, [])
  | some receiver =>
      let events := receiver.unread (connected.server.world.channels sessionId)
      ({ connected.state with
          subscriptions := connected.state.subscriptions.insert sessionId
            { receiver with read := receiver.read + events.length } },
        events.map fun event => .event (gatewayEvent sessionId event))

/-- Receives all there is in the channels of some subscriptions. -/
def drainSubscriptions (connected : Connected S C A) :
    List SessionId → Connected S C A × List Frame
  | [] => (connected, [])
  | sessionId :: rest =>
      let (state, events) := drainSubscription connected sessionId
      let (connected, frames) := drainSubscriptions { connected with state } rest
      (connected, events ++ frames)

/-- A heartbeat. -/
def heartbeat (connected : Connected S C A) : Connected S C A × List Frame :=
  let (nonce, server) := connected.server.newUuid
  ({ connected with server }, [.ping ⟨protocolVersion, nonce⟩])

/-! ## a host for tests -/

/-- A host that knows one device with all scopes and one that may read only. -/
structure TestHost where
  shutdown : Bool

namespace TestHost

def state (state : String) : Json := .obj [("state", .str state)]

instance {S C : Type} : HostAdmin S C TestHost where
  status host _ := (state "running", host)
  diagnostics host _ := (.obj [("sessions", .arr [])], host)
  requestStart host _ := (.ok (state "running"), host)
  requestStop _ _ := (.ok (state "stopping"), { shutdown := true })
  requestRestart host _ := (.ok (state "stopping"), host)
  beginPairing host _ label := (.ok (.obj [("label", .str label)]), host)
  listPairings host _ := (.ok (.obj [("pairings", .arr [])]), host)
  listDevices host _ := (.ok (.obj [("devices", .arr [])]), host)
  revokeDevice host _ deviceId :=
    (.ok (.obj [("device_id", .str deviceId), ("revoked", .bool true)]), host)

instance : Authenticator TestHost where
  authenticate host hello :=
    if hello.credential = some "test" then (.ok (.all "device-test" "test device"), host)
    else if hello.credential = some "read" then
      (.ok {
        deviceId := "device-read"
        deviceLabel := "read-only device"
        scopes := [.readSessions] }, host)
    else (.error (.unauthenticated "invalid credential"), host)

/-- A server without sessions whose agent grants everything. -/
def server : Server SqliteStore ScriptedAgent TestHost where
  world :=
    { env := sampleEnv
      inner :=
        { adapters := [ScriptedAgent.adapter true]
          store := .empty 0
          sessions := ∅
          subscribers := ∅
          journalLimit := 8
          recovered := ∅ }
      ticks := 0
      effects := [] }
  admin := { shutdown := false }

def config : GatewayConfig where
  serverName := "slight-host"
  serverVersion := "0.0.0"
  hostId := "local"
  capabilities := .default
  heartbeatIntervalMs := none

def hello (credential : String) : Wire.Frame :=
  .hello {
    protocolVersion
    clientId := "client"
    clientName := "test"
    clientVersion := "0.0.0"
    deviceId := none
    credential := some credential
    resume := none }

def command (requestId command : String) (sessionId : Option String) (params : Json) :
    Wire.Frame :=
  .command { protocolVersion, requestId, command, sessionId, params := some params }

def create (requestId : String) : Wire.Frame :=
  command requestId "session.create" none
    (.obj [("agent", .str "fake"), ("working_directory_label", .str "src")])

end TestHost

end Gateway

end Slight
