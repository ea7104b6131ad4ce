import Slight.Session.Attach
import Slight.Session.Labels
import Slight.Session.Persisted
import Slight.Support.Program

/-!
# Slight.Session.Manager

The session manager.  Every operation runs under the manager's lock, so each is
one program over the manager's state; an operation that fails keeps what it has
done so far.

Around the manager stand the agents' connections (`AcpSession`), the adapters
that launch them, the store, and an environment of clock, UUIDs and file system
(`Env`) that is read by counting the readings.  `World.effects` records in order
what the manager did that others can see: the sessions it asked agents for, its
writes to the store, the events it appended, the subscriptions it took.
-/

namespace Slight

open Support

/-! ## what the manager talks to -/

/-- An agent's side of a session. -/
class AcpSession (C : Type) where
  initializeAgent : C → Except AcpError InitializeSummary × C
  newSession : C → String → Except AcpError SessionMetadata × C
  loadSession : C → String → String → Except AcpError SessionMetadata × C
  resumeSession : C → String → String → Except AcpError SessionMetadata × C
  prompt : C → String → Except AcpError Unit × C
  cancel : C → Except AcpError Unit × C
  respondPermission : C → String → Except AcpError Unit × C
  setMode : C → String → Except AcpError Unit × C
  setConfigOption : C → String → String → Except AcpError (List AcpConfigOption) × C
  drain : C → List AgentEvent × C
  isRunning : C → Bool × C

structure AgentLaunchConfig where
  workingDirectory : Option String
  initialPrompt : Option String

/-- An adapter; launches may differ from one to the next. -/
structure AgentAdapter (C : Type) where
  kind : AgentKind
  descriptor : AgentDescriptor
  spawnSession : Nat → AgentLaunchConfig → Except AcpError C

abbrev AdapterRegistry (C : Type) := List (AgentAdapter C)

def AdapterRegistry.get {C : Type} (adapters : AdapterRegistry C) (kind : AgentKind) :
    Option (AgentAdapter C) :=
  adapters.find? fun adapter => adapter.kind = kind

/-- Clock, UUIDs, file system and error texts.  The `n`-th reading is that of the
`n`-th time anything is read. -/
structure Env where
  nowMs : Nat → Int
  uuid : Nat → String
  home : String
  gitBranch : Nat → String → Option String
  /-- The text of the error of reading a record. -/
  readError : Json → String
  /-- UUIDs do not repeat. -/
  uuid_injective : Function.Injective uuid

/-! ## state -/

structure Session (C : Type) where
  summary : SessionSummary
  descriptor : AgentDescriptor
  initialized : InitializeSummary
  connection : C
  agentSessionId : Option String
  origin : SessionOrigin
  resolvedWorkingDirectory : String
  modes : Option AcpModeState
  configOptions : List AcpConfigOption
  journal : List SequencedEvent
  pendingPermission : Option PermissionRequestPayload
  running : Bool
  exitReported : Bool
  reasoningStartedAtMs : Option Int
  reasoningEndedAtMs : Option Int

structure RecoveredSession where
  summary : SessionSummary
  descriptor : AgentDescriptor
  agentSessionId : Option String
  journal : List SequencedEvent

/-- The manager's state.  A subscriber's channel is the list of all events sent
into it. -/
structure Inner (S C : Type) where
  adapters : AdapterRegistry C
  store : S
  sessions : AList fun _ : SessionId => Session C
  subscribers : AList fun _ : SessionId => List (List SequencedEvent)
  journalLimit : Nat
  recovered : AList fun _ : SessionId => RecoveredSession

/-- How a product session is bound to an agent session. -/
inductive OpenKind where
  | new
  | load (agentSessionId : String)
  | resume (agentSessionId : String)
  deriving DecidableEq

inductive StoreWrite where
  | upsertSession (session : StoredSession)
  | appendEvent (sessionId : SessionId) (event : StoredEvent)

inductive Effect where
  | requested (kind : OpenKind)
  | wrote (write : StoreWrite)
  | appended (sessionId : SessionId) (event : SequencedEvent)
  | subscribed (sessionId : SessionId)

structure World (S C : Type) where
  env : Env
  inner : Inner S C
  ticks : Nat
  effects : List Effect

/-- Programs over the manager's state. -/
abbrev Manager (S C : Type) := Program (World S C) SessionError

/-- The store after a write; one that fails changes nothing. -/
def StoreWrite.apply {S : Type} [SessionStore S] (store : S) (write : StoreWrite) : S :=
  let outcome :=
    match write with
    | .upsertSession session => SessionStore.upsertSession store session
    | .appendEvent sessionId event => SessionStore.appendEvent store sessionId event
  match outcome with
  | .ok store => store
  | .error _ => store

/-- The row an event is stored as. -/
def SequencedEvent.stored (event : SequencedEvent) : StoredEvent where
  sequence := event.sequence
  event := toJson event

namespace Session

variable {C : Type}

/-- The session with one more event; the journal keeps the last `limit`. -/
def record (session : Session C) (limit : Nat) (event : SequencedEvent) : Session C :=
  { session with
    summary := { session.summary with
      lastSequence := event.sequence
      lastActivityAtMs := event.timestampMs
      status := event.event.status?.getD session.summary.status }
    journal := (session.journal ++ [event]).rtake limit }

/-- The row the session is persisted as. -/
def stored (session : Session C) : StoredSession where
  sessionId := session.summary.id
  metadata := toJson ({
    summary := session.summary
    origin := session.origin
    agentSessionId := session.agentSessionId
    resolvedWorkingDirectory := session.resolvedWorkingDirectory } : PersistedSession)
  lastSequence := session.summary.lastSequence
  createdAtMs := session.summary.createdAtMs
  updatedAtMs := session.summary.lastActivityAtMs

end Session

namespace Manager

variable {S C : Type}

/-! ## the environment -/

/-- Counts one reading. -/
def tick : Manager S C Nat := do
  let world ← get
  set { world with ticks := world.ticks + 1 }
  pure world.ticks

def nowMs : Manager S C Int := do
  let world ← get
  let reading ← tick
  pure (world.env.nowMs reading)

def newUuid : Manager S C String := do
  let world ← get
  let reading ← tick
  pure (world.env.uuid reading)

def detectGitBranch (directory : String) : Manager S C (Option String) := do
  let world ← get
  let reading ← tick
  pure (world.env.gitBranch reading directory)

def spawnSession (adapter : AgentAdapter C) (launch : AgentLaunchConfig) :
    Manager S C (Except AcpError C) := do
  let reading ← tick
  pure (adapter.spawnSession reading launch)

def note (effect : Effect) : Manager S C Unit :=
  modify fun world => { world with effects := world.effects ++ [effect] }

/-! ## sessions -/

def lookupSession (sessionId : SessionId) : Manager S C (Option (Session C)) := do
  let world ← get
  pure (world.inner.sessions.lookup sessionId)

def setSession (sessionId : SessionId) (session : Session C) : Manager S C Unit :=
  modify fun world =>
    { world with
      inner := { world.inner with sessions := world.inner.sessions.insert sessionId session } }

/-- The session the operation is about. -/
def requireSession (sessionId : SessionId) : Manager S C (Session C) := do
  match ← lookupSession sessionId with
  | some session => pure session
  | none => throw (.unknownSession sessionId)

/-- Changes the session if there is one. -/
def modifySession (sessionId : SessionId) (change : Session C → Session C) :
    Manager S C Unit := do
  match ← lookupSession sessionId with
  | some session => setSession sessionId (change session)
  | none => pure ()

/-- One request to the session's agent. -/
def call {α : Type} (sessionId : SessionId) (request : C → Except AcpError α × C) :
    Manager S C α := do
  let session ← requireSession sessionId
  let (outcome, connection) := request session.connection
  setSession sessionId { session with connection }
  match outcome with
  | .ok a => pure a
  | .error error => throw (.agent error)

/-! ## store and subscribers -/

section

variable [SessionStore S]

/-- One call of the store; its outcome is discarded. -/
def writeStore (write : StoreWrite) : Manager S C Unit := do
  note (.wrote write)
  modify fun world =>
    { world with inner := { world.inner with store := write.apply world.inner.store } }

def persistSession (sessionId : SessionId) : Manager S C Unit := do
  match ← lookupSession sessionId with
  | some session => writeStore (.upsertSession session.stored)
  | none => pure ()

/-- Sends an event into every channel of the session. -/
def send (sessionId : SessionId) (event : SequencedEvent) : Manager S C Unit :=
  modify fun world =>
    match world.inner.subscribers.lookup sessionId with
    | none => world
    | some channels =>
        { world with
          inner := { world.inner with
            subscribers := world.inner.subscribers.insert sessionId
              (channels.map fun sent => sent ++ [event]) } }

def append (sessionId : SessionId) (event : SessionEvent) : Manager S C SequencedEvent := do
  let session ← requireSession sessionId
  let timestampMs ← nowMs
  let world ← get
  let sequenced : SequencedEvent :=
    { sequence := session.summary.lastSequence + 1, timestampMs, event }
  setSession sessionId (session.record world.inner.journalLimit sequenced)
  note (.appended sessionId sequenced)
  writeStore (.appendEvent sessionId sequenced.stored)
  persistSession sessionId
  send sessionId sequenced
  pure sequenced

/-- Opens a channel; its number among the session's channels is returned. -/
def subscribe (sessionId : SessionId) : Manager S C Nat := do
  let _ ← requireSession sessionId
  note (.subscribed sessionId)
  let world ← get
  let channels := (world.inner.subscribers.lookup sessionId).getD []
  set { world with
    inner := { world.inner with
      subscribers := world.inner.subscribers.insert sessionId (channels ++ [[]]) } }
  pure channels.length

/-! ## agent events -/

/-- Every block gets an id of its own. -/
def contentBlock (content : NormalizedContent) : Manager S C ContentBlock := do
  let id ← newUuid
  pure (.fromNormalized id content)

def toolContent (content : NormalizedToolContent) : Manager S C ToolCallContentPayload := do
  let id ← newUuid
  pure (.fromNormalized id content)

def applyAgentEvent (sessionId : SessionId) (event : AgentEvent) : Manager S C Unit := do
  match event with
  | .message role content =>
      let block ← contentBlock content
      let _ ← append sessionId
        (.message { role, text := content.textFallback, blocks := [block] })
  | .thought content =>
      let now ← nowMs
      modifySession sessionId fun session =>
        { session with
          reasoningStartedAtMs := session.reasoningStartedAtMs.or (some now)
          reasoningEndedAtMs := some now }
      let block ← contentBlock content
      let kind := if block.kind = .text then .reasoning else block.kind
      let _ ← append sessionId (.message {
        role := .assistant
        text := content.textFallback
        blocks := [{ block with kind }] })
  | .toolCall update =>
      let content ← update.content.mapM toolContent
      let _ ← append sessionId (.toolCall {
        id := update.toolCallId
        title := update.title
        kind := update.kind
        status := update.status
        detail := update.detail
        content
        locations := update.locations.map .ofLocation
        rawInput := update.rawInput
        rawOutput := update.rawOutput })
  | .plan plan =>
      let _ ← append sessionId (.plan ⟨plan.entries⟩)
  | .availableCommands commands =>
      let _ ← append sessionId (.commands ⟨commands⟩)
  | .configOptions options =>
      modifySession sessionId fun session => { session with configOptions := options }
      let _ ← append sessionId (.configOptions ⟨options⟩)
  | .sessionInfo update =>
      let title := update.title.join
      modifySession sessionId fun session =>
        match title.filter fun title => trim title ≠ "" with
        | some title => { session with summary := { session.summary with title } }
        | none => session
      let _ ← append sessionId (.sessionInfo { title, updatedAt := update.updatedAt.join })
  | .usage usage =>
      let _ ← append sessionId
        (.usage { used := usage.used, size := usage.size, cost := usage.cost })
  | .mode currentModeId =>
      modifySession sessionId fun session =>
        { session with modes := session.modes.map fun modes => { modes with currentModeId } }
      let _ ← append sessionId (.mode ⟨currentModeId⟩)
  | .permissionRequest request =>
      let payload := PermissionRequestPayload.ofRequest request
      modifySession sessionId fun session => { session with pendingPermission := some payload }
      let _ ← append sessionId (.permissionRequest payload)
      let _ ← append sessionId (.status ⟨.waitingPermission⟩)
  | .diagnostics level message =>
      let _ ← append sessionId (.diagnostics { level, message })
  | .turnEnded stopReason =>
      let session ← lookupSession sessionId
      modifySession sessionId fun session =>
        { session with reasoningStartedAtMs := none, reasoningEndedAtMs := none }
      let _ ← append sessionId (.status ⟨.idle⟩)
      let _ ← append sessionId (.turnEnded {
        stopReason := stopReasonString stopReason
        reasoningStartedAtMs := session.bind (·.reasoningStartedAtMs)
        reasoningEndedAtMs := session.bind (·.reasoningEndedAtMs) })
      if stopReason ≠ .endTurn then
        let _ ← append sessionId (.diagnostics {
          level := .info
          message := "turn ended: " ++ stopReasonName stopReason })
  | .exited code reason =>
      modifySession sessionId fun session => { session with running := false, exitReported := true }
      let _ ← append sessionId (.exit { code, reason })
      let _ ← append sessionId (.status ⟨.exited⟩)
  | .failed message =>
      let _ ← append sessionId (.diagnostics { level := .error, message })
      let _ ← append sessionId (.status ⟨.failed⟩)

/-- Reports the exit of an agent that did not report it itself. -/
def ensureExited (sessionId : SessionId) : Manager S C Unit := do
  match ← lookupSession sessionId with
  | none => pure ()
  | some session =>
      if session.exitReported then pure ()
      else
        modifySession sessionId fun session =>
          { session with running := false, exitReported := true }
        let _ ← append sessionId (.exit { code := none, reason := "agent_exited" })
        let _ ← append sessionId (.status ⟨.exited⟩)

end

/-! ## pumping -/

section

variable [SessionStore S] [AcpSession C]

/-- What the session's agent has sent, and whether it still runs. -/
def drainSession (sessionId : SessionId) :
    Manager S C (SessionId × List AgentEvent × Bool) := do
  match ← lookupSession sessionId with
  | none => pure (sessionId, [], true)
  | some session =>
      let (events, connection) := AcpSession.drain session.connection
      let (running, connection) := AcpSession.isRunning connection
      setSession sessionId { session with connection }
      pure (sessionId, events, running)

/-- Applies what was drained from one session; the number of events that could
be applied. -/
def applyDrained (drained : SessionId × List AgentEvent × Bool) : Manager S C Nat := do
  let (sessionId, events, running) := drained
  let outcomes ← events.mapM fun event => (applyAgentEvent sessionId event).attempt
  let applied := outcomes.countP fun outcome => outcome.toBool
  if running then pure applied
  else
    let _ ← (ensureExited sessionId).attempt
    pure applied

def pumpAll : Manager S C Nat := do
  let world ← get
  let collected ← world.inner.sessions.keys.mapM drainSession
  let applied ← (collected.filter fun drained =>
    !(drained.2.1.isEmpty && drained.2.2)).mapM applyDrained
  pure applied.sum

/-! ## operations on a session -/

def sendPrompt (sessionId : SessionId) (text : String) : Manager S C Unit := do
  let session ← requireSession sessionId
  if session.running then
    call sessionId (AcpSession.prompt · text)
    modifySession sessionId fun session =>
      { session with reasoningStartedAtMs := none, reasoningEndedAtMs := none }
    let block ← contentBlock (.text text)
    let _ ← append sessionId (.message { role := .user, text, blocks := [block] })
    let _ ← append sessionId (.status ⟨.working⟩)
  else throw (.notRunning sessionId)

def setMode (sessionId : SessionId) (modeId : String) : Manager S C Unit := do
  call sessionId (AcpSession.setMode · modeId)
  modifySession sessionId fun session =>
    { session with
      modes := session.modes.map fun modes => { modes with currentModeId := modeId } }
  let _ ← append sessionId (.mode ⟨modeId⟩)

def setConfigOption (sessionId : SessionId) (configId valueId : String) : Manager S C Unit := do
  let options ← call sessionId (AcpSession.setConfigOption · configId valueId)
  modifySession sessionId fun session => { session with configOptions := options }
  let _ ← append sessionId (.configOptions ⟨options⟩)

def cancel (sessionId : SessionId) : Manager S C Unit := do
  call sessionId AcpSession.cancel
  modifySession sessionId fun session => { session with pendingPermission := none }
  let _ ← append sessionId
    (.diagnostics { level := .info, message := "cancellation requested" })
  let _ ← append sessionId (.status ⟨.idle⟩)

def respondPermission (sessionId : SessionId) (permissionId optionId : String) :
    Manager S C Unit := do
  let session ← requireSession sessionId
  match session.pendingPermission with
  | none => throw (.noPendingPermission sessionId)
  | some pending =>
      if pending.id ≠ permissionId then
        throw (.permissionMismatch sessionId pending.id permissionId)
      else
        call sessionId (AcpSession.respondPermission · optionId)
        modifySession sessionId fun session => { session with pendingPermission := none }
        let _ ← append sessionId (.permissionResolved { id := pending.id, optionId })
        let _ ← append sessionId (.status ⟨.working⟩)

def renameSession (sessionId : SessionId) (title : String) : Manager S C SessionSummary := do
  let title := trim title
  if title = "" then throw .emptyTitle
  else
    let session ← requireSession sessionId
    let summary := { session.summary with title }
    setSession sessionId { session with summary }
    let _ ← append sessionId
      (.snapshot { summary, pendingPermission := session.pendingPermission })
    let session ← requireSession sessionId
    pure session.summary

/-- Archives a session that could not be recovered: its row is edited in place. -/
def archiveRecovered (sessionId : SessionId) (session : RecoveredSession) (archived : Bool) :
    Manager S C SessionSummary := do
  let summary := { session.summary with archived }
  let world ← get
  set { world with
    inner := { world.inner with
      recovered := world.inner.recovered.insert sessionId { session with summary } } }
  match SessionStore.getSession world.inner.store sessionId with
  | .ok (some stored) =>
      writeStore (.upsertSession
        { stored with metadata := archiveMetadata stored.metadata archived })
      pure summary
  | _ => pure summary

def archiveSession (sessionId : SessionId) (archived : Bool) : Manager S C SessionSummary := do
  match ← lookupSession sessionId with
  | some session =>
      let summary := { session.summary with archived }
      setSession sessionId { session with summary }
      persistSession sessionId
      pure summary
  | none =>
      let world ← get
      match world.inner.recovered.lookup sessionId with
      | some session => archiveRecovered sessionId session archived
      | none => throw (.unknownSession sessionId)

def attach (sessionId : SessionId) (afterSequence : Option Nat) : Manager S C AttachResult := do
  let world ← get
  match world.inner.sessions.lookup sessionId with
  | some session => pure (attachJournal session.summary session.journal afterSequence)
  | none =>
      match world.inner.recovered.lookup sessionId with
      | some session => pure (attachJournal session.summary session.journal afterSequence)
      | none => throw (.unknownSession sessionId)

def history (sessionId : SessionId) (beforeSequence : Option Nat) (limit : Nat) :
    Manager S C HistoryResult := do
  let world ← get
  match world.inner.sessions.lookup sessionId with
  | some session =>
      pure (historyJournal session.summary session.journal beforeSequence limit 200)
  | none =>
      match world.inner.recovered.lookup sessionId with
      | some session =>
          pure (historyJournal session.summary session.journal beforeSequence limit 100)
      | none => throw (.unknownSession sessionId)

/-! ## opening sessions -/

/-- The answer to a request on a connection that is not a session's yet. -/
def answered {α : Type} (answer : Except AcpError α × C) : Manager S C (α × C) :=
  match answer with
  | (.ok a, connection) => pure (a, connection)
  | (.error error, _) => throw (.agent error)

/-- Binds the connection to an agent session. -/
def bindSession (kind : OpenKind) (initialized : InitializeSummary) (connection : C)
    (workingDirectory : String) : Manager S C (SessionMetadata × C) := do
  match kind with
  | .new =>
      note (.requested .new)
      answered (AcpSession.newSession connection workingDirectory)
  | .load agentSessionId =>
      if initialized.agentCapabilities.loadSession then
        note (.requested (.load agentSessionId))
        answered (AcpSession.loadSession connection agentSessionId workingDirectory)
      else throw (.unsupportedCapability "session/load")
  | .resume agentSessionId =>
      if initialized.agentCapabilities.sessionResume then
        note (.requested (.resume agentSessionId))
        answered (AcpSession.resumeSession connection agentSessionId workingDirectory)
      else throw (.unsupportedCapability "session/resume")

/-- What the handshake says of the agent replaces what the adapter says. -/
def negotiated (descriptor : AgentDescriptor) (initialized : InitializeSummary) :
    AgentDescriptor where
  kind := descriptor.kind
  displayName := initialized.agentName.getD descriptor.displayName
  version := initialized.agentVersion.or descriptor.version

/-- Puts a new session in the map under a fresh id and persists it. -/
def registerSession (build : SessionId → Session C) : Manager S C SessionId := do
  let id ← newUuid
  setSession id (build id)
  persistSession id
  pure id

/-- A new session starts with the status event of an idle one. -/
def enrollSession (build : SessionId → Session C) : Manager S C SessionId := do
  let id ← registerSession build
  let _ ← append id (.status ⟨.idle⟩)
  pure id

/-- The path shared by `session/new`, `session/load` and `session/resume`. -/
def openSession (agent : AgentKind) (workingDirectoryLabel title : String)
    (model effort initialPrompt : Option String) (kind : OpenKind) (origin : SessionOrigin) :
    Manager S C SessionSummary := do
  let world ← get
  match world.inner.adapters.get agent with
  | none => throw (.unknownAgent agent.asStr)
  | some adapter =>
      let workingDirectoryLabel := normalizedWorkingDirectoryLabel workingDirectoryLabel
      let workingDirectory := resolveWorkingDirectory world.env.home workingDirectoryLabel
      match ← spawnSession adapter { workingDirectory := some workingDirectory, initialPrompt } with
      | .error error => throw (.agent error)
      | .ok connection =>
          let (initialized, connection) ← answered (AcpSession.initializeAgent connection)
          let (metadata, connection) ← bindSession kind initialized connection workingDirectory
          let now ← nowMs
          let gitBranch ← detectGitBranch workingDirectory
          let summary (id : SessionId) : SessionSummary :=
            { id
              title
              agent := agent.asStr
              model := model.or (currentConfigValue metadata.configOptions .model)
              effort
              workingDirectoryLabel
              gitBranch
              status := .idle
              createdAtMs := now
              lastActivityAtMs := now
              lastSequence := 0
              recovery := .live
              archived := false }
          let id ← enrollSession fun id =>
            { summary := summary id
              descriptor := negotiated adapter.descriptor initialized
              initialized
              connection
              agentSessionId := some metadata.agentSessionId
              origin
              resolvedWorkingDirectory := workingDirectory
              modes := metadata.modes
              configOptions := metadata.configOptions
              journal := []
              pendingPermission := none
              running := true
              exitReported := false
              reasoningStartedAtMs := none
              reasoningEndedAtMs := none }
          match initialPrompt with
          | some prompt =>
              sendPrompt id prompt
              let _ ← pumpAll
          | none => pure ()
          let session ← lookupSession id
          pure ((session.map (·.summary)).getD (summary id))

def createSession (request : CreateSessionRequest) : Manager S C SessionSummary :=
  openSession request.agent request.workingDirectoryLabel (defaultTitle request) request.model
    request.effort request.initialPrompt .new .new

def importSession (request : ImportSessionRequest) : Manager S C SessionSummary := do
  let (kind, origin) :=
    match request.recovery with
    | .load => (OpenKind.load request.agentSessionId, SessionOrigin.load)
    | .resume => (OpenKind.resume request.agentSessionId, SessionOrigin.resume)
  let summary ← openSession request.agent request.workingDirectoryLabel (importTitle request)
    none none none kind origin
  -- a load replays its history as updates
  let _ ← pumpAll
  let session ← lookupSession summary.id
  pure ((session.map (·.summary)).getD summary)

/-! ## the public operations -/

def sendInput (sessionId : SessionId) (text : String) : Manager S C Unit := do
  sendPrompt sessionId text
  let _ ← pumpAll

def cancelTurn (sessionId : SessionId) : Manager S C Unit := do
  cancel sessionId
  let _ ← pumpAll

def answerPermission (sessionId : SessionId) (permissionId optionId : String) :
    Manager S C Unit := do
  respondPermission sessionId permissionId optionId
  let _ ← pumpAll

end

end Manager

/-- The operations clients and the host's own threads can start. -/
inductive Operation where
  | createSession (request : CreateSessionRequest)
  | importSession (request : ImportSessionRequest)
  | sendInput (sessionId : SessionId) (text : String)
  | cancel (sessionId : SessionId)
  | respondPermission (sessionId : SessionId) (permissionId optionId : String)
  | renameSession (sessionId : SessionId) (title : String)
  | archiveSession (sessionId : SessionId) (archived : Bool)
  | setMode (sessionId : SessionId) (modeId : String)
  | setConfigOption (sessionId : SessionId) (configId valueId : String)
  | attach (sessionId : SessionId) (afterSequence : Option Nat)
  | history (sessionId : SessionId) (beforeSequence : Option Nat) (limit : Nat)
  | subscribe (sessionId : SessionId)
  | pump

/-- The operation's program; its result is for the caller only. -/
def Operation.run {S C : Type} [SessionStore S] [AcpSession C] : Operation → Manager S C Unit
  | createSession request => do let _ ← Manager.createSession request
  | importSession request => do let _ ← Manager.importSession request
  | sendInput sessionId text => Manager.sendInput sessionId text
  | cancel sessionId => Manager.cancelTurn sessionId
  | respondPermission sessionId permissionId optionId =>
      Manager.answerPermission sessionId permissionId optionId
  | renameSession sessionId title => do let _ ← Manager.renameSession sessionId title
  | archiveSession sessionId archived => do let _ ← Manager.archiveSession sessionId archived
  | setMode sessionId modeId => Manager.setMode sessionId modeId
  | setConfigOption sessionId configId valueId =>
      Manager.setConfigOption sessionId configId valueId
  | attach sessionId afterSequence => do let _ ← Manager.attach sessionId afterSequence
  | history sessionId beforeSequence limit => do
      let _ ← Manager.history sessionId beforeSequence limit
  | subscribe sessionId => do let _ ← Manager.subscribe sessionId
  | pump => do let _ ← Manager.pumpAll

/-! ## a scripted agent -/

/-- An agent that grants every request it supports; `events` is what it has sent
and nobody has drained yet. -/
structure ScriptedAgent where
  capabilities : AgentCapabilities
  events : List AgentEvent

namespace ScriptedAgent

def metadata (agentSessionId : String) : SessionMetadata where
  agentSessionId := agentSessionId
  modes := none
  configOptions := []

instance : AcpSession ScriptedAgent where
  initializeAgent agent :=
    (.ok {
      protocolVersion := 1
      agentName := none
      agentTitle := none
      agentVersion := none
      agentCapabilities := agent.capabilities }, agent)
  newSession agent _ := (.ok (metadata "native"), agent)
  loadSession agent agentSessionId _ := (.ok (metadata agentSessionId), agent)
  resumeSession agent agentSessionId _ := (.ok (metadata agentSessionId), agent)
  prompt agent _ := (.ok (), agent)
  cancel agent := (.ok (), agent)
  respondPermission agent _ := (.ok (), agent)
  setMode agent _ := (.ok (), agent)
  setConfigOption agent _ _ := (.ok [], agent)
  drain agent := (agent.events, { agent with events := [] })
  isRunning agent := (true, agent)

/-- An adapter that always launches such an agent. -/
def adapter (sessionResume : Bool) : AgentAdapter ScriptedAgent where
  kind := .fake
  descriptor := { kind := .fake, displayName := "Fake", version := none }
  spawnSession _ _ :=
    .ok { capabilities := { loadSession := false, sessionList := false, sessionResume }, events := [] }

end ScriptedAgent

/-- An environment whose clock counts the readings. -/
def sampleEnv : Env where
  nowMs reading := reading
  uuid reading := String.ofList (List.replicate reading 'u')
  home := "/home"
  gitBranch _ _ := none
  readError _ := "invalid"
  uuid_injective n m h := by
    have hlists := congrArg (fun text => text.toList.length) h
    simpa using hlists

end Slight
