import Slight.Client.Decoding
import Slight.Session.Codec

/-!
# Slight.Client.Payloads

The client's models of the event stream and their decoders: the event frame, and
one typed payload for each event name the client knows.

A type the client declares with the fields of the host's is the host's type
under the client's decoder; the types that differ are in the namespace `Client`.
Enums fall back to a default for the raw values a newer host may send.
-/

namespace Slight

/-! ## shared models -/

/-- An unknown status is a failed session. -/
instance : Decodable SessionStatus where
  decodeJSON := rawValueOr [("idle", .idle), ("working", .working),
    ("waiting_permission", .waitingPermission), ("exited", .exited), ("failed", .failed)] .failed

/-- An unknown kind of option is a custom one. -/
instance : Decodable PermissionOptionKind where
  decodeJSON := rawValueOr [("allow", .allow), ("allow_always", .allowAlways), ("deny", .deny),
    ("deny_always", .denyAlways), ("custom", .custom)] .custom

/-- An unknown status is a failed call; the payload has a default of its own for none. -/
instance : Decodable ToolCallStatus where
  decodeJSON := rawValueOr [("pending", .pending), ("in_progress", .inProgress),
    ("completed", .completed), ("failed", .failed), ("cancelled", .cancelled)] .failed

/-- An unknown kind of block is read as text. -/
instance : Decodable ContentKind where
  decodeJSON := rawValueOr [("text", .text), ("code", .code), ("reasoning", .reasoning),
    ("tool_result", .toolResult), ("image", .image), ("audio", .audio),
    ("resource_link", .resourceLink), ("resource_text", .resourceText),
    ("resource_blob", .resourceBlob)] .text

/-- The role of a message has no default: an unknown one does not decode. -/
instance : Decodable MessageRole where
  decodeJSON := ofVariants [("user", .user), ("assistant", .assistant), ("system", .system)]

/-- Unknown categories are kept, as on the host. -/
instance : Decodable AcpConfigCategory where
  decodeJSON
    | .str value => some (.ofText value)
    | _ => none

/-- An option must have all of its fields. -/
instance : Keyed PermissionOption where
  ofContainer container := do
    let optionId ← container.decode "optionId"
    let label ← container.decode "label"
    let kind ← container.decode "kind"
    pure { optionId, label, kind }

/-- A block without an id gets a fresh one, which nothing reads: it is left empty. -/
instance : Keyed ContentBlock where
  ofContainer container := do
    let id ← container.decodeOr "id" ""
    let kind ← container.decodeOr "kind" .text
    let text ← container.decodeOr "text" ""
    let language ← container.decodeIfPresent "language"
    let mimeType ← container.decodeIfPresent "mimeType"
    let dataBase64 ← container.decodeIfPresent "dataBase64"
    let uri ← container.decodeIfPresent "uri"
    let name ← container.decodeIfPresent "name"
    let title ← container.decodeIfPresent "title"
    let description ← container.decodeIfPresent "description"
    let size ← container.decodeIfPresent "size"
    pure { id, kind, text, language, mimeType, dataBase64, uri, name, title, description, size }

/-- `ToolCallContent`: the fields of a variant stand next to its `type`. -/
instance : Keyed ToolCallContentPayload where
  ofContainer container := do
    let type : String ← container.decode "type"
    match type with
    | "content" => (ofContainer container).map .content
    | "diff" =>
        let path ← container.decode "path"
        let oldText ← container.decodeIfPresent "oldText"
        let newText ← container.decode "newText"
        pure (.diff path oldText newText)
    | "terminal" => (container.decode "terminalId").map .terminal
    | _ => none

instance : Keyed PlanEntrySummary where
  ofContainer container := do
    let content ← container.decode "content"
    let priority ← container.decode "priority"
    let status ← container.decode "status"
    pure { content, priority, status }

instance : Keyed AvailableCommandSummary where
  ofContainer container := do
    let name ← container.decode "name"
    let description ← container.decode "description"
    let inputHint ← container.decodeIfPresent "inputHint"
    pure { name, description, inputHint }

instance : Keyed AcpConfigChoice where
  ofContainer container := do
    let valueId ← container.decode "valueId"
    let name ← container.decode "name"
    let description ← container.decodeIfPresent "description"
    pure { valueId, name, description }

instance : Keyed AcpConfigGroup where
  ofContainer container := do
    let id ← container.decodeIfPresent "id"
    let name ← container.decodeIfPresent "name"
    let options ← container.decode "options"
    pure { id, name, options }

/-- Tagged with `kind`; an option of a kind the client does not know does not decode, and
with it the list it stands in. -/
instance : Keyed AcpConfigKind where
  ofContainer container := do
    let kind : String ← container.decode "kind"
    match kind with
    | "select" =>
        let currentValueId ← container.decode "currentValueId"
        let groups ← container.decode "groups"
        pure (.select currentValueId groups)
    | "boolean" => (container.decode "currentValue").map .boolean
    | _ => none

instance : Keyed AcpConfigOption where
  ofContainer container := do
    let id ← container.decode "id"
    let name ← container.decode "name"
    let description ← container.decodeIfPresent "description"
    let category ← container.decodeIfPresent "category"
    let kind ← container.decode "kind"
    pure { id, name, description, category, kind }

/-- A state the client does not know, or none, counts as live. -/
instance : Keyed SessionRecoveryState where
  ofContainer container := do
    let state : String ← container.decodeOr "state" "live"
    match state with
    | "recovered" => pure .recovered
    | "stale" => (container.decodeOr "reason" "").map .stale
    | "unavailable" => (container.decodeOr "reason" "").map .unavailable
    | _ => pure .live

instance : Keyed StatusPayload where
  ofContainer container := do
    let status ← container.decode "status"
    pure { status }

/-- `PermissionRequest`: the id is the one the answer names. -/
instance : Keyed PermissionRequestPayload where
  ofContainer container := do
    let id ← container.decode "id"
    let title ← container.decode "title"
    let detail ← container.decodeIfPresent "detail"
    let toolCallId ← container.decodeIfPresent "toolCallId"
    let options ← container.decode "options"
    pure { id, title, detail, toolCallId, options }

instance : Keyed PermissionResolvedPayload where
  ofContainer container := do
    let id ← container.decode "id"
    let optionId ← container.decode "optionId"
    pure { id, optionId }

instance : Keyed PlanPayload where
  ofContainer container := do
    let entries ← container.decode "entries"
    pure { entries }

instance : Keyed ModePayload where
  ofContainer container := do
    let currentModeId ← container.decode "currentModeId"
    pure { currentModeId }

instance : Keyed ConfigOptionsPayload where
  ofContainer container := do
    let options ← container.decode "options"
    pure { options }

instance : Keyed CommandsPayload where
  ofContainer container := do
    let commands ← container.decode "commands"
    pure { commands }

/-- The times of the reasoning are whole milliseconds, absent for a turn without any. -/
instance : Keyed TurnEndedPayload where
  ofContainer container := do
    let stopReason ← container.decode "stopReason"
    let reasoningStartedAtMs ← container.decodeIfPresent "reasoningStartedAtMs"
    let reasoningEndedAtMs ← container.decodeIfPresent "reasoningEndedAtMs"
    pure { stopReason, reasoningStartedAtMs, reasoningEndedAtMs }

namespace Client

/-! ## models of the client's own -/

/-- The client's summary of a session.  Its two times are dates under the keys `createdAt`
and `lastActivityAt`. -/
structure SessionSummary where
  id : String
  title : String
  agent : String
  model : Option String
  effort : Option String
  workingDirectoryLabel : String
  gitBranch : Option String
  status : SessionStatus
  createdAt : Option Date
  lastActivityAt : Option Date
  lastSequence : Int
  recovery : SessionRecoveryState
  archived : Bool
  deriving DecidableEq

/-- Only what names the session is required; every other field has a default or may be
absent. -/
instance : Keyed SessionSummary where
  ofContainer container := do
    let id ← container.decode "id"
    let title ← container.decode "title"
    let agent ← container.decode "agent"
    let model ← container.decodeIfPresent "model"
    let effort ← container.decodeIfPresent "effort"
    let workingDirectoryLabel ← container.decode "workingDirectoryLabel"
    let gitBranch ← container.decodeIfPresent "gitBranch"
    let status ← container.decodeOr "status" .failed
    let createdAt ← container.decodeIfPresent "createdAt"
    let lastActivityAt ← container.decodeIfPresent "lastActivityAt"
    let lastSequence ← container.decodeOr "lastSequence" 0
    let recovery ← container.decodeOr "recovery" .live
    let archived ← container.decodeOr "archived" false
    pure { id, title, agent, model, effort, workingDirectoryLabel, gitBranch, status, createdAt,
           lastActivityAt, lastSequence, recovery, archived }

/-- A file a tool call touches, with a line of any size. -/
structure ToolLocation where
  path : String
  line : Option Int
  deriving DecidableEq

instance : Keyed ToolLocation where
  ofContainer container := do
    let path ← container.decode "path"
    let line ← container.decodeIfPresent "line"
    pure { path, line }

/-- A message, and for a host that streams them its id, whether more follows and whether it
continues the one before. -/
structure MessagePayload where
  role : MessageRole
  text : String
  blocks : List ContentBlock
  id : Option String
  isStreaming : Bool
  append : Bool
  deriving DecidableEq

/-- The three fields of streaming are absent from what the host sends. -/
instance : Keyed MessagePayload where
  ofContainer container := do
    let role ← container.decode "role"
    let text ← container.decodeOr "text" ""
    let blocks ← container.decodeOr "blocks" []
    let id ← container.decodeIfPresent "id"
    let isStreaming ← container.decodeOr "isStreaming" false
    let append ← container.decodeOr "append" false
    pure { role, text, blocks, id, isStreaming, append }

/-- The state of a tool call; raw values are kept as the client's own JSON. -/
structure ToolCallPayload where
  id : String
  title : String
  kind : Option String
  status : ToolCallStatus
  detail : Option String
  content : List ToolCallContentPayload
  locations : List ToolLocation
  rawInput : Option JSONValue
  rawOutput : Option JSONValue

/-- Only the id and the title are required. -/
instance : Keyed ToolCallPayload where
  ofContainer container := do
    let id ← container.decode "id"
    let title ← container.decode "title"
    let kind ← container.decodeIfPresent "kind"
    let status ← container.decodeOr "status" .pending
    let detail ← container.decodeIfPresent "detail"
    let content ← container.decodeOr "content" []
    let locations ← container.decodeOr "locations" []
    let rawInput ← container.decodeIfPresent "rawInput"
    let rawOutput ← container.decodeIfPresent "rawOutput"
    pure { id, title, kind, status, detail, content, locations, rawInput, rawOutput }

/-- Why a session ended, with an exit code of any size. -/
structure ExitPayload where
  code : Option Int
  reason : String
  deriving DecidableEq

instance : Keyed ExitPayload where
  ofContainer container := do
    let code ← container.decodeIfPresent "code"
    let reason ← container.decode "reason"
    pure { code, reason }

/-- A diagnostic, whose level is kept as text. -/
structure DiagnosticsPayload where
  level : String
  message : String
  deriving DecidableEq

instance : Keyed DiagnosticsPayload where
  ofContainer container := do
    let level ← container.decode "level"
    let message ← container.decode "message"
    pure { level, message }

/-- The state of a session as a whole. -/
structure SnapshotPayload where
  summary : SessionSummary
  pendingPermission : Option PermissionRequestPayload
  deriving DecidableEq

instance : Keyed SnapshotPayload where
  ofContainer container := do
    let summary ← container.decode "summary"
    let pendingPermission ← container.decodeIfPresent "pendingPermission"
    pure { summary, pendingPermission }

/-! ## event frames -/

/-- `GatewayEvent`: the payload stays a JSON value until its event name is looked at. -/
structure GatewayEvent where
  protocolVersion : Int
  sessionId : String
  sequence : Int
  event : String
  at_ : Option Date
  payload : Option JSONValue

/-- A frame without a version counts as version 1. -/
instance : Keyed GatewayEvent where
  ofContainer container := do
    let protocolVersion ← container.decodeOr "v" 1
    let sessionId ← container.decode "sessionId"
    let sequence ← container.decode "sequence"
    let event ← container.decode "event"
    let at_ ← container.decodeIfPresent "at"
    let payload ← container.decodeIfPresent "payload"
    pure { protocolVersion, sessionId, sequence, event, at_, payload }

/-- `GatewayFrame` on a frame of type `event`. -/
def decodeEventFrame (j : Json) : Option GatewayEvent := do
  let container ← j.container
  let type : String ← container.decode "type"
  if type = "event" then decodeJSON j else none

/-- A payload under the model of its event name. -/
inductive EventPayload where
  | status (payload : StatusPayload)
  | message (payload : MessagePayload)
  | toolCall (payload : ToolCallPayload)
  | plan (payload : PlanPayload)
  | mode (payload : ModePayload)
  | configOptions (payload : ConfigOptionsPayload)
  | commands (payload : CommandsPayload)
  | turnEnded (payload : TurnEndedPayload)
  | permissionRequest (payload : PermissionRequestPayload)
  | permissionResolved (payload : PermissionResolvedPayload)
  | exit (payload : ExitPayload)
  | snapshot (payload : SnapshotPayload)
  | diagnostics (payload : DiagnosticsPayload)

/-- The typed decoder of an event name; a name the client does not know has none. -/
def GatewayEvent.typedPayload (event : GatewayEvent) : Option EventPayload :=
  match event.event with
  | "session.status" => (payloadAs StatusPayload event.payload).map .status
  | "session.message" => (payloadAs MessagePayload event.payload).map .message
  | "session.tool_call" => (payloadAs ToolCallPayload event.payload).map .toolCall
  | "session.plan" => (payloadAs PlanPayload event.payload).map .plan
  | "session.mode" => (payloadAs ModePayload event.payload).map .mode
  | "session.config_options" => (payloadAs ConfigOptionsPayload event.payload).map .configOptions
  | "session.commands" => (payloadAs CommandsPayload event.payload).map .commands
  | "session.turn_ended" => (payloadAs TurnEndedPayload event.payload).map .turnEnded
  | "session.permission_request" =>
      (payloadAs PermissionRequestPayload event.payload).map .permissionRequest
  | "session.permission_resolved" =>
      (payloadAs PermissionResolvedPayload event.payload).map .permissionResolved
  | "session.exit" => (payloadAs ExitPayload event.payload).map .exit
  | "session.snapshot" => (payloadAs SnapshotPayload event.payload).map .snapshot
  | "session.diagnostics" => (payloadAs DiagnosticsPayload event.payload).map .diagnostics
  | _ => none

end Client

end Slight
