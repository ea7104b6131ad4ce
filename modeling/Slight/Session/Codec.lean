import Slight.Session.Types

/-!
# Slight.Session.Codec

The JSON form of session events and summaries: what the journal's rows and the
event frames hold.  Structs are written field by field in declaration order;
`SessionEvent` and the other enums with fields carry their variant in a tag.

Every value reads back as it was written, with two exceptions that `reread`
names: a category spelled like a known one reads back as the known one, and a
raw tool input or output of `null` reads back as absent.
-/

namespace Slight

/-! ## unit enums -/

/-- The unit enums are written as their variant's name in snake case, and only those names
are read. -/
instance : Serde SessionStatus where
  toJson
    | .idle => .str "idle"
    | .working => .str "working"
    | .waitingPermission => .str "waiting_permission"
    | .exited => .str "exited"
    | .failed => .str "failed"
  ofJson := ofVariants [("idle", .idle), ("working", .working),
    ("waiting_permission", .waitingPermission), ("exited", .exited), ("failed", .failed)]

instance : Serde ContentKind where
  toJson
    | .text => .str "text"
    | .code => .str "code"
    | .reasoning => .str "reasoning"
    | .toolResult => .str "tool_result"
    | .image => .str "image"
    | .audio => .str "audio"
    | .resourceLink => .str "resource_link"
    | .resourceText => .str "resource_text"
    | .resourceBlob => .str "resource_blob"
  ofJson := ofVariants [("text", .text), ("code", .code), ("reasoning", .reasoning),
    ("tool_result", .toolResult), ("image", .image), ("audio", .audio),
    ("resource_link", .resourceLink), ("resource_text", .resourceText),
    ("resource_blob", .resourceBlob)]

instance : Serde MessageRole where
  toJson
    | .user => .str "user"
    | .assistant => .str "assistant"
    | .system => .str "system"
  ofJson := ofVariants [("user", .user), ("assistant", .assistant), ("system", .system)]

instance : Serde ToolCallStatus where
  toJson
    | .pending => .str "pending"
    | .inProgress => .str "in_progress"
    | .completed => .str "completed"
    | .failed => .str "failed"
    | .cancelled => .str "cancelled"
  ofJson := ofVariants [("pending", .pending), ("in_progress", .inProgress),
    ("completed", .completed), ("failed", .failed), ("cancelled", .cancelled)]

instance : Serde PermissionOptionKind where
  toJson
    | .allow => .str "allow"
    | .allowAlways => .str "allow_always"
    | .deny => .str "deny"
    | .denyAlways => .str "deny_always"
    | .custom => .str "custom"
  ofJson := ofVariants [("allow", .allow), ("allow_always", .allowAlways), ("deny", .deny),
    ("deny_always", .denyAlways), ("custom", .custom)]

instance : Serde DiagnosticLevel where
  toJson
    | .debug => .str "debug"
    | .info => .str "info"
    | .warning => .str "warning"
    | .error => .str "error"
  ofJson := ofVariants [("debug", .debug), ("info", .info), ("warning", .warning),
    ("error", .error)]

/-- A name is read back as the variant it was written for, one case for each variant. -/
instance : LawfulSerde SessionStatus :=
  ⟨fun s => by cases s <;> rfl, fun s => by cases s <;> exact Json.noConfusion⟩

instance : LawfulSerde ContentKind :=
  ⟨fun k => by cases k <;> rfl, fun k => by cases k <;> exact Json.noConfusion⟩

instance : LawfulSerde MessageRole :=
  ⟨fun r => by cases r <;> rfl, fun r => by cases r <;> exact Json.noConfusion⟩

instance : LawfulSerde ToolCallStatus :=
  ⟨fun s => by cases s <;> rfl, fun s => by cases s <;> exact Json.noConfusion⟩

instance : LawfulSerde PermissionOptionKind :=
  ⟨fun k => by cases k <;> rfl, fun k => by cases k <;> exact Json.noConfusion⟩

instance : LawfulSerde DiagnosticLevel :=
  ⟨fun l => by cases l <;> rfl, fun l => by cases l <;> exact Json.noConfusion⟩

/-! ## structs -/

/-- The fields of media and links are left out where they are absent; `language` is always
written. -/
instance : Record ContentBlock where
  toFields b :=
    ("id", toJson b.id) :: ("kind", toJson b.kind) :: ("text", toJson b.text) ::
      ("language", toJson b.language) ::
      (skipNone "mime_type" b.mimeType <| skipNone "data_base64" b.dataBase64 <|
        skipNone "uri" b.uri <| skipNone "name" b.name <| skipNone "title" b.title <|
        skipNone "description" b.description <| skipNone "size" b.size [])
  ofFields fields := do
    let id ← fields.required "id"
    let kind ← fields.required "kind"
    let text ← fields.required "text"
    let language ← fields.optional "language"
    let mimeType ← fields.optional "mime_type"
    let dataBase64 ← fields.optional "data_base64"
    let uri ← fields.optional "uri"
    let name ← fields.optional "name"
    let title ← fields.optional "title"
    let description ← fields.optional "description"
    let size ← fields.optional "size"
    pure { id, kind, text, language, mimeType, dataBase64, uri, name, title, description, size }

instance : Record PermissionOption where
  toFields o := [("option_id", toJson o.optionId), ("label", toJson o.label),
    ("kind", toJson o.kind)]
  ofFields fields := do
    let optionId ← fields.required "option_id"
    let label ← fields.required "label"
    let kind ← fields.required "kind"
    pure { optionId, label, kind }

instance : Record PlanEntrySummary where
  toFields e := [("content", toJson e.content), ("priority", toJson e.priority),
    ("status", toJson e.status)]
  ofFields fields := do
    let content ← fields.required "content"
    let priority ← fields.required "priority"
    let status ← fields.required "status"
    pure { content, priority, status }

/-- `input_hint` is written as `null` where the command takes no input. -/
instance : Record AvailableCommandSummary where
  toFields c := [("name", toJson c.name), ("description", toJson c.description),
    ("input_hint", toJson c.inputHint)]
  ofFields fields := do
    let name ← fields.required "name"
    let description ← fields.required "description"
    let inputHint ← fields.optional "input_hint"
    pure { name, description, inputHint }

instance : Record AcpConfigChoice where
  toFields c := [("value_id", toJson c.valueId), ("name", toJson c.name),
    ("description", toJson c.description)]
  ofFields fields := do
    let valueId ← fields.required "value_id"
    let name ← fields.required "name"
    let description ← fields.optional "description"
    pure { valueId, name, description }

/-- The same two facts for every struct: its fields read back as it, and they still do with
a tag in front of them, since no struct has a field of the tag's name. -/
instance : LawfulRecord ContentBlock :=
  ⟨fun _ => by simp [toFields, ofFields], fun _ _ => by simp [tagged, toFields, ofFields]⟩

instance : LawfulRecord PermissionOption :=
  ⟨fun _ => by simp [toFields, ofFields], fun _ _ => by simp [tagged, toFields, ofFields]⟩

instance : LawfulRecord PlanEntrySummary :=
  ⟨fun _ => by simp [toFields, ofFields], fun _ _ => by simp [tagged, toFields, ofFields]⟩

instance : LawfulRecord AvailableCommandSummary :=
  ⟨fun _ => by simp [toFields, ofFields], fun _ _ => by simp [tagged, toFields, ofFields]⟩

instance : LawfulRecord AcpConfigChoice :=
  ⟨fun _ => by simp [toFields, ofFields], fun _ _ => by simp [tagged, toFields, ofFields]⟩

/-- The choices of a select stand in groups; an agent that has none sends one group without
id and name. -/
instance : Record AcpConfigGroup where
  toFields g := [("id", toJson g.id), ("name", toJson g.name), ("options", toJson g.options)]
  ofFields fields := do
    let id ← fields.optional "id"
    let name ← fields.optional "name"
    let options ← fields.required "options"
    pure { id, name, options }

instance : LawfulRecord AcpConfigGroup :=
  ⟨fun _ => by simp [toFields, ofFields], fun _ _ => by simp [tagged, toFields, ofFields]⟩

/-- The amount is a JSON number, kept exact here. -/
instance : Record AcpCost where
  toFields c := [("amount", toJson c.amount), ("currency", toJson c.currency)]
  ofFields fields := do
    let amount ← fields.required "amount"
    let currency ← fields.required "currency"
    pure { amount, currency }

instance : LawfulRecord AcpCost :=
  ⟨fun _ => by simp [toFields, ofFields], fun _ _ => by simp [tagged, toFields, ofFields]⟩

instance : Record ToolCallLocationPayload where
  toFields l := [("path", toJson l.path), ("line", toJson l.line)]
  ofFields fields := do
    let path ← fields.required "path"
    let line ← fields.optional "line"
    pure { path, line }

instance : LawfulRecord ToolCallLocationPayload :=
  ⟨fun _ => by simp [toFields, ofFields], fun _ _ => by simp [tagged, toFields, ofFields]⟩

/-! ### configuration options -/

namespace AcpConfigCategory

/-- The text of a category, which is not tagged: an unknown one is its own value. -/
def toText : AcpConfigCategory → String
  | mode => "mode"
  | model => "model"
  | modelConfig => "model_config"
  | thoughtLevel => "thought_level"
  | other value => value

/-- The known names first, so a category `other "mode"` cannot be read. -/
def ofText (value : String) : AcpConfigCategory :=
  if value = "mode" then mode
  else if value = "model" then model
  else if value = "model_config" then modelConfig
  else if value = "thought_level" then thoughtLevel
  else other value

/-- What a category reads back as. -/
def reread (category : AcpConfigCategory) : AcpConfigCategory := ofText category.toText

end AcpConfigCategory

/-- A category is a bare string, and every string is one. -/
instance : Serde AcpConfigCategory where
  toJson category := .str category.toText
  ofJson
    | .str value => some (.ofText value)
    | _ => none

/-- Internally tagged with `kind`. -/
instance : Record AcpConfigKind where
  toFields
    | .select currentValueId groups => [("kind", .str "select"),
        ("current_value_id", toJson currentValueId), ("groups", toJson groups)]
    | .boolean currentValue => [("kind", .str "boolean"), ("current_value", toJson currentValue)]
  ofFields fields := do
    match ← fields.tag "kind" with
    | "select" =>
        let currentValueId ← fields.required "current_value_id"
        let groups ← fields.required "groups"
        pure (.select currentValueId groups)
    | "boolean" => (fields.required "current_value").map .boolean
    | _ => none

/-- Both variants read back: the tag `kind` is read first and names the variant. -/
instance : LawfulRecord AcpConfigKind where
  ofFields_toFields k := by
    cases k <;> simp [toFields, ofFields]
  ofFields_tagged v k := by
    cases k <;> simp [tagged, toFields, ofFields]

/-- A struct with no law of its own: it reads back as `reread` says. -/
instance : Record AcpConfigOption where
  toFields o := [("id", toJson o.id), ("name", toJson o.name),
    ("description", toJson o.description), ("category", toJson o.category),
    ("kind", toJson o.kind)]
  ofFields fields := do
    let id ← fields.required "id"
    let name ← fields.required "name"
    let description ← fields.optional "description"
    let category ← fields.optional "category"
    let kind ← fields.required "kind"
    pure { id, name, description, category, kind }

/-! ### tool calls -/

/-- Internally tagged with `type`; a content block's fields stand next to it. -/
instance : Record ToolCallContentPayload where
  toFields
    | .content block => tagged "type" "content" block
    | .diff path oldText newText => [("type", .str "diff"), ("path", toJson path),
        ("old_text", toJson oldText), ("new_text", toJson newText)]
    | .terminal terminalId => [("type", .str "terminal"), ("terminal_id", toJson terminalId)]
  ofFields fields := do
    match ← fields.tag "type" with
    | "content" => (ofFields fields).map .content
    | "diff" =>
        let path ← fields.required "path"
        let oldText ← fields.optional "old_text"
        let newText ← fields.required "new_text"
        pure (.diff path oldText newText)
    | "terminal" => (fields.required "terminal_id").map .terminal
    | _ => none

/-- A content block has no field `type`, so its own fields stand untouched behind the tag. -/
instance : LawfulSerde ToolCallContentPayload where
  ofJson_toJson c := by
    rw [ofJson_toJson_record]
    cases c <;> simp [tagged, toFields, ofFields]
  toJson_ne_null _ := Json.noConfusion

/-- Empty lists and absent raw values are left out, `kind` and `detail` are not. -/
instance : Record ToolCallPayload where
  toFields p :=
    ("id", toJson p.id) :: ("title", toJson p.title) :: ("kind", toJson p.kind) ::
      ("status", toJson p.status) :: ("detail", toJson p.detail) ::
      (skipEmpty "content" p.content <| skipEmpty "locations" p.locations <|
        skipNone "raw_input" p.rawInput <| skipNone "raw_output" p.rawOutput [])
  ofFields fields := do
    let id ← fields.required "id"
    let title ← fields.required "title"
    let kind ← fields.optional "kind"
    let status ← fields.required "status"
    let detail ← fields.optional "detail"
    let content ← fields.defaulted "content" []
    let locations ← fields.defaulted "locations" []
    let rawInput ← fields.optional "raw_input"
    let rawOutput ← fields.optional "raw_output"
    pure { id, title, kind, status, detail, content, locations, rawInput, rawOutput }

/-! ## event payloads -/

/-- The payload of `session.status`. -/
instance : Record StatusPayload where
  toFields p := [("status", toJson p.status)]
  ofFields fields := do
    let status ← fields.required "status"
    pure { status }

/-- The payload of `session.message`. -/
instance : Record MessagePayload where
  toFields p := [("role", toJson p.role), ("text", toJson p.text), ("blocks", toJson p.blocks)]
  ofFields fields := do
    let role ← fields.required "role"
    let text ← fields.required "text"
    let blocks ← fields.required "blocks"
    pure { role, text, blocks }

/-- The payload of `session.permission_request`, and of a snapshot's pending permission. -/
instance : Record PermissionRequestPayload where
  toFields p := [("id", toJson p.id), ("title", toJson p.title), ("detail", toJson p.detail),
    ("tool_call_id", toJson p.toolCallId), ("options", toJson p.options)]
  ofFields fields := do
    let id ← fields.required "id"
    let title ← fields.required "title"
    let detail ← fields.optional "detail"
    let toolCallId ← fields.optional "tool_call_id"
    let options ← fields.required "options"
    pure { id, title, detail, toolCallId, options }

/-- The payload of `session.permission_resolved`. -/
instance : Record PermissionResolvedPayload where
  toFields p := [("id", toJson p.id), ("option_id", toJson p.optionId)]
  ofFields fields := do
    let id ← fields.required "id"
    let optionId ← fields.required "option_id"
    pure { id, optionId }

/-- The payload of `session.exit`; an agent that was killed has no code. -/
instance : Record ExitPayload where
  toFields p := [("code", toJson p.code), ("reason", toJson p.reason)]
  ofFields fields := do
    let code ← fields.optional "code"
    let reason ← fields.required "reason"
    pure { code, reason }

/-- The payload of `session.diagnostics`. -/
instance : Record DiagnosticsPayload where
  toFields p := [("level", toJson p.level), ("message", toJson p.message)]
  ofFields fields := do
    let level ← fields.required "level"
    let message ← fields.required "message"
    pure { level, message }

/-- The payload of `session.turn_ended`; the times are those of the turn's reasoning. -/
instance : Record TurnEndedPayload where
  toFields p := [("stop_reason", toJson p.stopReason),
    ("reasoning_started_at_ms", toJson p.reasoningStartedAtMs),
    ("reasoning_ended_at_ms", toJson p.reasoningEndedAtMs)]
  ofFields fields := do
    let stopReason ← fields.required "stop_reason"
    let reasoningStartedAtMs ← fields.optional "reasoning_started_at_ms"
    let reasoningEndedAtMs ← fields.optional "reasoning_ended_at_ms"
    pure { stopReason, reasoningStartedAtMs, reasoningEndedAtMs }

instance : Record PlanPayload where
  toFields p := [("entries", toJson p.entries)]
  ofFields fields := do
    let entries ← fields.required "entries"
    pure { entries }

instance : Record ModePayload where
  toFields p := [("current_mode_id", toJson p.currentModeId)]
  ofFields fields := do
    let currentModeId ← fields.required "current_mode_id"
    pure { currentModeId }

instance : Record CommandsPayload where
  toFields p := [("commands", toJson p.commands)]
  ofFields fields := do
    let commands ← fields.required "commands"
    pure { commands }

instance : Record ConfigOptionsPayload where
  toFields p := [("options", toJson p.options)]
  ofFields fields := do
    let options ← fields.required "options"
    pure { options }

/-- The payload of `session.info`, which names what the agent changed. -/
instance : Record SessionInfoPayload where
  toFields p := [("title", toJson p.title), ("updated_at", toJson p.updatedAt)]
  ofFields fields := do
    let title ← fields.optional "title"
    let updatedAt ← fields.optional "updated_at"
    pure { title, updatedAt }

/-- The payload of `session.usage`. -/
instance : Record UsagePayload where
  toFields p := [("used", toJson p.used), ("size", toJson p.size), ("cost", toJson p.cost)]
  ofFields fields := do
    let used ← fields.required "used"
    let size ← fields.required "size"
    let cost ← fields.optional "cost"
    pure { used, size, cost }

/-- Internally tagged with `state`. -/
instance : Record SessionRecoveryState where
  toFields
    | .live => [("state", .str "live")]
    | .recovered => [("state", .str "recovered")]
    | .stale reason => [("state", .str "stale"), ("reason", toJson reason)]
    | .unavailable reason => [("state", .str "unavailable"), ("reason", toJson reason)]
  ofFields fields := do
    match ← fields.tag "state" with
    | "live" => pure .live
    | "recovered" => pure .recovered
    | "stale" => (fields.required "reason").map .stale
    | "unavailable" => (fields.required "reason").map .unavailable
    | _ => none

instance : LawfulRecord StatusPayload :=
  ⟨fun _ => by simp [toFields, ofFields], fun _ _ => by simp [tagged, toFields, ofFields]⟩

instance : LawfulRecord MessagePayload :=
  ⟨fun _ => by simp [toFields, ofFields], fun _ _ => by simp [tagged, toFields, ofFields]⟩

instance : LawfulRecord PermissionRequestPayload :=
  ⟨fun _ => by simp [toFields, ofFields], fun _ _ => by simp [tagged, toFields, ofFields]⟩

instance : LawfulRecord PermissionResolvedPayload :=
  ⟨fun _ => by simp [toFields, ofFields], fun _ _ => by simp [tagged, toFields, ofFields]⟩

instance : LawfulRecord ExitPayload :=
  ⟨fun _ => by simp [toFields, ofFields], fun _ _ => by simp [tagged, toFields, ofFields]⟩

instance : LawfulRecord DiagnosticsPayload :=
  ⟨fun _ => by simp [toFields, ofFields], fun _ _ => by simp [tagged, toFields, ofFields]⟩

instance : LawfulRecord TurnEndedPayload :=
  ⟨fun _ => by simp [toFields, ofFields], fun _ _ => by simp [tagged, toFields, ofFields]⟩

instance : LawfulRecord PlanPayload :=
  ⟨fun _ => by simp [toFields, ofFields], fun _ _ => by simp [tagged, toFields, ofFields]⟩

instance : LawfulRecord ModePayload :=
  ⟨fun _ => by simp [toFields, ofFields], fun _ _ => by simp [tagged, toFields, ofFields]⟩

instance : LawfulRecord CommandsPayload :=
  ⟨fun _ => by simp [toFields, ofFields], fun _ _ => by simp [tagged, toFields, ofFields]⟩

instance : LawfulRecord SessionInfoPayload :=
  ⟨fun _ => by simp [toFields, ofFields], fun _ _ => by simp [tagged, toFields, ofFields]⟩

instance : LawfulRecord UsagePayload :=
  ⟨fun _ => by simp [toFields, ofFields], fun _ _ => by simp [tagged, toFields, ofFields]⟩

/-- The reason of a session that is not live stands next to the tag. -/
instance : LawfulRecord SessionRecoveryState where
  ofFields_toFields r := by cases r <;> simp [toFields, ofFields]
  ofFields_tagged v r := by cases r <;> simp [tagged, toFields, ofFields]

/-! ## summaries -/

/-- A row written before recovery and archiving existed has neither field, and is read as
live and not archived. -/
instance : Record SessionSummary where
  toFields s := [("id", toJson s.id), ("title", toJson s.title), ("agent", toJson s.agent),
    ("model", toJson s.model), ("effort", toJson s.effort),
    ("working_directory_label", toJson s.workingDirectoryLabel),
    ("git_branch", toJson s.gitBranch), ("status", toJson s.status),
    ("created_at_ms", toJson s.createdAtMs), ("last_activity_at_ms", toJson s.lastActivityAtMs),
    ("last_sequence", toJson s.lastSequence), ("recovery", toJson s.recovery),
    ("archived", toJson s.archived)]
  ofFields fields := do
    let id ← fields.required "id"
    let title ← fields.required "title"
    let agent ← fields.required "agent"
    let model ← fields.optional "model"
    let effort ← fields.optional "effort"
    let workingDirectoryLabel ← fields.required "working_directory_label"
    let gitBranch ← fields.optional "git_branch"
    let status ← fields.required "status"
    let createdAtMs ← fields.required "created_at_ms"
    let lastActivityAtMs ← fields.required "last_activity_at_ms"
    let lastSequence ← fields.required "last_sequence"
    let recovery ← fields.defaulted "recovery" .live
    let archived ← fields.defaulted "archived" false
    pure { id, title, agent, model, effort, workingDirectoryLabel, gitBranch, status, createdAtMs,
           lastActivityAtMs, lastSequence, recovery, archived }

instance : LawfulRecord SessionSummary :=
  ⟨fun _ => by simp [toFields, ofFields], fun _ _ => by simp [tagged, toFields, ofFields]⟩

/-- The payload of `session.snapshot`. -/
instance : Record SnapshotPayload where
  toFields p := [("summary", toJson p.summary),
    ("pending_permission", toJson p.pendingPermission)]
  ofFields fields := do
    let summary ← fields.required "summary"
    let pendingPermission ← fields.optional "pending_permission"
    pure { summary, pendingPermission }

instance : LawfulRecord SnapshotPayload :=
  ⟨fun _ => by simp [toFields, ofFields], fun _ _ => by simp [tagged, toFields, ofFields]⟩

/-! ## events -/

/-- Internally tagged with `type`. -/
instance : Record SessionEvent where
  toFields
    | .status payload => tagged "type" "status" payload
    | .message payload => tagged "type" "message" payload
    | .toolCall payload => tagged "type" "tool_call" payload
    | .plan payload => tagged "type" "plan" payload
    | .mode payload => tagged "type" "mode" payload
    | .commands payload => tagged "type" "commands" payload
    | .configOptions payload => tagged "type" "config_options" payload
    | .sessionInfo payload => tagged "type" "session_info" payload
    | .usage payload => tagged "type" "usage" payload
    | .turnEnded payload => tagged "type" "turn_ended" payload
    | .permissionRequest payload => tagged "type" "permission_request" payload
    | .permissionResolved payload => tagged "type" "permission_resolved" payload
    | .exit payload => tagged "type" "exit" payload
    | .diagnostics payload => tagged "type" "diagnostics" payload
    | .snapshot payload => tagged "type" "snapshot" payload
  ofFields fields := do
    match ← fields.tag "type" with
    | "status" => (ofFields fields).map .status
    | "message" => (ofFields fields).map .message
    | "tool_call" => (ofFields fields).map .toolCall
    | "plan" => (ofFields fields).map .plan
    | "mode" => (ofFields fields).map .mode
    | "commands" => (ofFields fields).map .commands
    | "config_options" => (ofFields fields).map .configOptions
    | "session_info" => (ofFields fields).map .sessionInfo
    | "usage" => (ofFields fields).map .usage
    | "turn_ended" => (ofFields fields).map .turnEnded
    | "permission_request" => (ofFields fields).map .permissionRequest
    | "permission_resolved" => (ofFields fields).map .permissionResolved
    | "exit" => (ofFields fields).map .exit
    | "diagnostics" => (ofFields fields).map .diagnostics
    | "snapshot" => (ofFields fields).map .snapshot
    | _ => none

namespace SessionEvent

/-- The payload of the event frame. -/
def payload : SessionEvent → Json
  | status payload => toJson payload
  | message payload => toJson payload
  | toolCall payload => toJson payload
  | plan payload => toJson payload
  | mode payload => toJson payload
  | commands payload => toJson payload
  | configOptions payload => toJson payload
  | sessionInfo payload => toJson payload
  | usage payload => toJson payload
  | turnEnded payload => toJson payload
  | permissionRequest payload => toJson payload
  | permissionResolved payload => toJson payload
  | exit payload => toJson payload
  | diagnostics payload => toJson payload
  | snapshot payload => toJson payload

end SessionEvent

/-- An entry of the journal, as its row holds it. -/
instance : Record SequencedEvent where
  toFields e := [("sequence", toJson e.sequence), ("timestamp_ms", toJson e.timestampMs),
    ("event", toJson e.event)]
  ofFields fields := do
    let sequence ← fields.required "sequence"
    let timestampMs ← fields.required "timestamp_ms"
    let event ← fields.required "event"
    pure { sequence, timestampMs, event }

/-! ## what reads back -/

namespace AcpConfigCategory

/-- Every category is read, if not always as itself. -/
theorem ofJson_reread (category : AcpConfigCategory) :
    ofJson (toJson category) = some category.reread := rfl

theorem toJson_ne_null (category : AcpConfigCategory) : toJson category ≠ .null :=
  Json.noConfusion

end AcpConfigCategory

/-- What a configuration option reads back as. -/
def AcpConfigOption.reread (option : AcpConfigOption) : AcpConfigOption :=
  { option with category := option.category.map .reread }

/-- An option is read back with its category reread and the rest unchanged. -/
theorem AcpConfigOption.ofJson_reread (option : AcpConfigOption) :
    ofJson (toJson option) = some option.reread := by
  have hcategory := ofJson_option_of AcpConfigCategory.ofJson_reread
    AcpConfigCategory.toJson_ne_null option.category
  rw [ofJson_toJson_record]
  simp [toFields, ofFields, Fields.optional_cons_of _ hcategory, AcpConfigOption.reread]

/-- A raw value of `null` is read as absent. -/
def rereadRaw : Option Json → Option Json
  | some .null => none
  | raw => raw

/-- A raw value is read back as `rereadRaw`, whatever fields follow: one that was skipped is
not found, one that is `null` is found and read as absent. -/
theorem optional_rereadRaw {key : String} {fields : Fields} (raw : Option Json)
    (h : (fields.optional key : Option (Option Json)) = some none) :
    (skipNone key raw fields).optional key = some (rereadRaw raw) := by
  cases raw with
  | none => exact h
  | some j => cases j <;> simp [skipNone, Fields.optional, Fields.defaulted, ofJson, toJson, rereadRaw]

/-- What a tool call reads back as. -/
def ToolCallPayload.reread (payload : ToolCallPayload) : ToolCallPayload :=
  { payload with rawInput := rereadRaw payload.rawInput, rawOutput := rereadRaw payload.rawOutput }

namespace SessionEvent

/-- What an event reads back as. -/
def reread : SessionEvent → SessionEvent
  | toolCall payload => toolCall payload.reread
  | configOptions payload => configOptions ⟨payload.options.map .reread⟩
  | event => event

/-- **Events read back**: each as itself, but for the two rereadings above. -/
theorem ofJson_reread (event : SessionEvent) : ofJson (toJson event) = some event.reread := by
  rw [ofJson_toJson_record]
  cases event with
  | toolCall payload =>
      simp [tagged, toFields, ofFields, optional_rereadRaw, reread, ToolCallPayload.reread]
  | configOptions payload =>
      simp [tagged, toFields, ofFields, reread,
        Fields.required_cons_of _ (ofJson_list_of AcpConfigOption.ofJson_reread payload.options)]
  | _ => simp [tagged, toFields, ofFields, reread]

end SessionEvent

/-- What a journal entry reads back as. -/
def SequencedEvent.reread (e : SequencedEvent) : SequencedEvent := { e with event := e.event.reread }

/-- **Journal entries read back**, under their own sequence and time. -/
theorem SequencedEvent.ofJson_reread (e : SequencedEvent) :
    ofJson (toJson e) = some e.reread := by
  have hevent := e.event.ofJson_reread
  rw [ofJson_toJson_record]
  simp [toFields, ofFields, Fields.required_cons_of _ hevent, reread]

end Slight
