import Slight.Acp.Types

/-!
# Slight.Session.Types

The session vocabulary of the host: session summaries, the events of a
session's journal with their payloads, and the requests, results and errors of
the session manager.
-/

namespace Slight

/-- Where a session stands: between turns, in one, waiting for an answer of the user, or
over. -/
inductive SessionStatus where
  | idle
  | working
  | waitingPermission
  | exited
  | failed
  deriving DecidableEq

/-- What a content block shows. -/
inductive ContentKind where
  | text
  | code
  | reasoning
  | toolResult
  | image
  | audio
  | resourceLink
  | resourceText
  | resourceBlob
  deriving DecidableEq

/-- A normalized content block safe to send to a client. -/
structure ContentBlock where
  id : String
  kind : ContentKind
  text : String
  language : Option String := none
  mimeType : Option String := none
  dataBase64 : Option String := none
  uri : Option String := none
  name : Option String := none
  title : Option String := none
  description : Option String := none
  size : Option Int := none
  deriving DecidableEq

namespace ContentBlock

/-- Flattens a normalized agent content block; `id` is a fresh UUID. -/
def fromNormalized (id : String) : NormalizedContent → ContentBlock
  | .text text => { id, kind := .text, text }
  | .image dataBase64 mimeType uri =>
      { id, kind := .image, text := "", mimeType := some mimeType,
        dataBase64 := some dataBase64, uri }
  | .audio dataBase64 mimeType =>
      { id, kind := .audio, text := "", mimeType := some mimeType, dataBase64 := some dataBase64 }
  | .resourceLink link =>
      { id, kind := .resourceLink, text := "", uri := some link.uri, name := some link.name,
        mimeType := link.mimeType, title := link.title, description := link.description,
        size := link.size }
  | .resource (.text uri text mimeType) =>
      { id, kind := .resourceText, text, uri := some uri, mimeType }
  | .resource (.blob uri dataBase64 mimeType) =>
      { id, kind := .resourceBlob, text := "", uri := some uri, mimeType,
        dataBase64 := some dataBase64 }

end ContentBlock

/-- One piece of rich tool-call output. -/
inductive ToolCallContentPayload where
  | content (block : ContentBlock)
  | diff (path : String) (oldText : Option String) (newText : String)
  | terminal (terminalId : String)
  deriving DecidableEq

/-- A file location touched by a tool call. -/
structure ToolCallLocationPayload where
  path : String
  line : Option UInt32
  deriving DecidableEq

/-! ## event payloads -/

/-- A change of the session's status. -/
structure StatusPayload where
  status : SessionStatus
  deriving DecidableEq

/-- A message: its text for a client that shows only text, and the blocks it consists of. -/
structure MessagePayload where
  role : MessageRole
  text : String
  blocks : List ContentBlock
  deriving DecidableEq

/-- The state of a tool call, whole: a later event with the same id replaces it. -/
structure ToolCallPayload where
  id : String
  title : String
  kind : Option String
  status : ToolCallStatus
  detail : Option String
  content : List ToolCallContentPayload
  locations : List ToolCallLocationPayload
  rawInput : Option Json
  rawOutput : Option Json

/-- A question of the agent that the user has to answer. -/
structure PermissionRequestPayload where
  id : String
  title : String
  detail : Option String
  toolCallId : Option String
  options : List PermissionOption
  deriving DecidableEq

/-- The payload a permission request is journaled as. -/
def PermissionRequestPayload.ofRequest (request : PermissionRequest) :
    PermissionRequestPayload where
  id := request.permissionId
  title := request.title
  detail := request.detail
  toolCallId := request.toolCallId
  options := request.options

/-- The answer to a permission request. -/
structure PermissionResolvedPayload where
  id : String
  optionId : String
  deriving DecidableEq

/-- The end of the agent's process. -/
structure ExitPayload where
  code : Option Int32
  reason : String
  deriving DecidableEq

/-- A note of the host or the agent about the session. -/
structure DiagnosticsPayload where
  level : DiagnosticLevel
  message : String
  deriving DecidableEq

/-- The outcome of a prompt turn, with the agent's own stop reason. -/
structure TurnEndedPayload where
  stopReason : String
  reasoningStartedAtMs : Option Int
  reasoningEndedAtMs : Option Int
  deriving DecidableEq

/-- A full replacement of the execution plan. -/
structure PlanPayload where
  entries : List PlanEntrySummary
  deriving DecidableEq

/-- The agent switched its session mode. -/
structure ModePayload where
  currentModeId : String
  deriving DecidableEq

/-- The agent's slash commands changed. -/
structure CommandsPayload where
  commands : List AvailableCommandSummary
  deriving DecidableEq

/-- A full replacement of the configuration options. -/
structure ConfigOptionsPayload where
  options : List AcpConfigOption
  deriving DecidableEq

/-- A partial update: a title only where the agent set one. -/
structure SessionInfoPayload where
  title : Option String
  updatedAt : Option String
  deriving DecidableEq

/-- Tokens in context, the size of the context window, and the cost so far. -/
structure UsagePayload where
  used : Nat
  size : Nat
  cost : Option AcpCost
  deriving DecidableEq

/-! ## session summaries -/

/-- Durable recovery outcome for a session after a host restart. -/
inductive SessionRecoveryState where
  | live
  | recovered
  | stale (reason : String)
  | unavailable (reason : String)
  deriving DecidableEq

/-- What a client lists of a session. -/
structure SessionSummary where
  id : SessionId
  title : String
  agent : String
  model : Option String
  effort : Option String
  workingDirectoryLabel : String
  gitBranch : Option String
  status : SessionStatus
  createdAtMs : Int
  lastActivityAtMs : Int
  lastSequence : Nat
  recovery : SessionRecoveryState
  archived : Bool
  deriving DecidableEq

/-- The summary after a change of it that has no event of its own. -/
structure SnapshotPayload where
  summary : SessionSummary
  pendingPermission : Option PermissionRequestPayload
  deriving DecidableEq

/-! ## events -/

/-- What the journal of a session records. -/
inductive SessionEvent where
  | status (payload : StatusPayload)
  | message (payload : MessagePayload)
  | toolCall (payload : ToolCallPayload)
  | plan (payload : PlanPayload)
  | mode (payload : ModePayload)
  | commands (payload : CommandsPayload)
  | configOptions (payload : ConfigOptionsPayload)
  | sessionInfo (payload : SessionInfoPayload)
  | usage (payload : UsagePayload)
  | turnEnded (payload : TurnEndedPayload)
  | permissionRequest (payload : PermissionRequestPayload)
  | permissionResolved (payload : PermissionResolvedPayload)
  | exit (payload : ExitPayload)
  | diagnostics (payload : DiagnosticsPayload)
  | snapshot (payload : SnapshotPayload)

namespace SessionEvent

/-- The name of the event frame. -/
def name : SessionEvent → String
  | status _ => "session.status"
  | message _ => "session.message"
  | toolCall _ => "session.tool_call"
  | plan _ => "session.plan"
  | mode _ => "session.mode"
  | commands _ => "session.commands"
  | configOptions _ => "session.config_options"
  | sessionInfo _ => "session.info"
  | usage _ => "session.usage"
  | turnEnded _ => "session.turn_ended"
  | permissionRequest _ => "session.permission_request"
  | permissionResolved _ => "session.permission_resolved"
  | exit _ => "session.exit"
  | diagnostics _ => "session.diagnostics"
  | snapshot _ => "session.snapshot"

/-- The status a status event carries. -/
def status? : SessionEvent → Option SessionStatus
  | status payload => some payload.status
  | _ => none

end SessionEvent

/-- A journal entry: an event under its number in the session and its time. -/
structure SequencedEvent where
  sequence : Nat
  timestampMs : Int
  event : SessionEvent

/-! ## requests, results and errors of the manager -/

/-- What `create_session` is asked for; the label is resolved to a directory on the host. -/
structure CreateSessionRequest where
  agent : AgentKind
  model : Option String
  effort : Option String
  workingDirectoryLabel : String
  initialPrompt : Option String
  deriving DecidableEq

/-- How an existing agent session is brought in. -/
inductive SessionRecovery where
  | load
  | resume
  deriving DecidableEq

/-- What `import_session` is asked for, the agent's session under its own id. -/
structure ImportSessionRequest where
  agent : AgentKind
  agentSessionId : String
  workingDirectoryLabel : String
  recovery : SessionRecovery
  title : Option String
  deriving DecidableEq

/-- The summary, the events after the asked number, and how far the journal reaches. -/
structure AttachResult where
  summary : SessionSummary
  replayed : List SequencedEvent
  latestSequence : Nat
  oldestAvailableSequence : Option Nat
  resyncRequired : Bool

/-- A page of the journal and whether older entries are left. -/
structure HistoryResult where
  summary : SessionSummary
  events : List SequencedEvent
  latestSequence : Nat
  oldestAvailableSequence : Option Nat
  hasMore : Bool

/-- Why the manager refuses an operation. -/
inductive SessionError where
  | unknownAgent (agent : String)
  | unknownSession (sessionId : SessionId)
  | notRunning (sessionId : SessionId)
  | emptyTitle
  | unsupportedCapability (capability : String)
  | noPendingPermission (sessionId : SessionId)
  | permissionMismatch (sessionId : SessionId) (expected actual : String)
  | agent (error : AcpError)
  deriving DecidableEq

/-! ## a small session -/

/-- An idle session of the agent `claude` with six events behind it. -/
def sampleSummary : SessionSummary where
  id := "s1"
  title := "build"
  agent := "claude"
  model := none
  effort := none
  workingDirectoryLabel := "src"
  gitBranch := none
  status := .idle
  createdAtMs := 0
  lastActivityAtMs := 0
  lastSequence := 6
  recovery := .live
  archived := false

/-- Status events with the given sequence numbers. -/
def sampleEvents (sequences : List Nat) : List SequencedEvent :=
  sequences.map fun sequence => ⟨sequence, 0, .status ⟨.working⟩⟩

end Slight
