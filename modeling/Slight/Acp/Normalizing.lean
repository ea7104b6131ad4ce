import Slight.Acp.Client
import Slight.Acp.Updates

/-!
# Slight.Acp.Normalizing

What the host makes of the notifications and the permission requests of an agent.

The agent's types hold variants the host does not know.  Every conversion is total: an
unknown variant has a default or makes no event.  Where a conversion copies every field,
one type stands for both.
-/

namespace Slight

namespace Acp

/-! ## the agent's types -/

/-- How much an entry of a plan matters. -/
inductive PlanEntryPriority where
  | high
  | medium
  | low
  deriving DecidableEq

/-- How far an entry of a plan has come. -/
inductive PlanEntryStatus where
  | pending
  | inProgress
  | completed
  deriving DecidableEq

/-- An entry of a plan. -/
structure PlanEntry where
  content : String
  priority : PlanEntryPriority
  status : PlanEntryStatus
  deriving DecidableEq

/-- What a slash command takes after its name. -/
inductive AvailableCommandInput where
  | unstructured (hint : String)
  | other
  deriving DecidableEq

/-- A slash command. -/
structure AvailableCommand where
  name : String
  description : String
  input : Option AvailableCommandInput := none
  deriving DecidableEq

/-- A group of a select's choices. -/
structure SessionConfigSelectGroup where
  group : String
  name : String
  options : List AcpConfigChoice
  deriving DecidableEq

/-- The choices of a select, in groups or not. -/
inductive SessionConfigSelectOptions where
  | ungrouped (options : List AcpConfigChoice)
  | grouped (groups : List SessionConfigSelectGroup)
  | other
  deriving DecidableEq

/-- What a configuration option is, with its value. -/
inductive SessionConfigKind where
  | boolean (currentValue : Bool)
  | select (currentValue : String) (options : SessionConfigSelectOptions)
  | other
  deriving DecidableEq

/-- A configuration option.  Its category is normalized already: the two types have the same
names, and an unknown one is kept by both. -/
structure SessionConfigOption where
  id : String
  name : String
  description : Option String := none
  category : Option AcpConfigCategory := none
  kind : SessionConfigKind
  deriving DecidableEq

/-- A field that may be left out, and may be `null`. -/
inductive MaybeUndefined (α : Type) where
  | undefined
  | null
  | value (value : α)
  deriving DecidableEq

/-- The updates of a `session/update`; `other` stands for those the host does not know. -/
inductive WireSessionUpdate where
  | userMessageChunk (content : WireContentBlock)
  | agentMessageChunk (content : WireContentBlock)
  | agentThoughtChunk (content : WireContentBlock)
  | toolCall (tool : WireToolCall)
  | toolCallUpdate (update : WireToolCallUpdate)
  | plan (entries : List PlanEntry)
  | availableCommandsUpdate (commands : List AvailableCommand)
  | currentModeUpdate (currentModeId : String)
  | configOptionUpdate (options : List SessionConfigOption)
  | sessionInfoUpdate (title updatedAt : MaybeUndefined String)
  | usageUpdate (usage : AcpUsage)
  | other

/-- What an option of a permission request does. -/
inductive WirePermissionOptionKind where
  | allowOnce
  | allowAlways
  | rejectOnce
  | rejectAlways
  | other
  deriving DecidableEq

/-- An answer a permission request allows. -/
structure WirePermissionOption where
  optionId : String
  name : String
  kind : WirePermissionOptionKind
  deriving DecidableEq

/-- A `session/request_permission`: a tool call and the answers it may get. -/
structure RequestPermissionRequest where
  toolCall : WireToolCallUpdate
  options : List WirePermissionOption

/-! ## conversions -/

/-- The name on the wire. -/
def PlanEntryPriority.asStr : PlanEntryPriority → String
  | high => "high"
  | medium => "medium"
  | low => "low"

/-- The name on the wire. -/
def PlanEntryStatus.asStr : PlanEntryStatus → String
  | pending => "pending"
  | inProgress => "in_progress"
  | completed => "completed"

/-- A plan keeps its entries in their order. -/
def planSummary (entries : List PlanEntry) : PlanSummary where
  entries := entries.map fun entry =>
    { content := entry.content, priority := entry.priority.asStr, status := entry.status.asStr }

/-- The hint of a command is that of its unstructured input. -/
def availableCommandSummary (command : AvailableCommand) : AvailableCommandSummary where
  name := command.name
  description := command.description
  inputHint := command.input.bind fun input =>
    match input with
    | .unstructured hint => some hint
    | .other => none

/-- Options without groups are one group without a name. -/
def configGroups : SessionConfigSelectOptions → List AcpConfigGroup
  | .ungrouped options => [{ id := none, name := none, options }]
  | .grouped groups =>
      groups.map fun group =>
        { id := some group.group, name := some group.name, options := group.options }
  | .other => []

/-- An option of an unknown kind is a switch that is off. -/
def acpConfigKind : SessionConfigKind → AcpConfigKind
  | .boolean currentValue => .boolean currentValue
  | .select currentValue options => .select currentValue (configGroups options)
  | .other => .boolean false

/-- An option keeps what names it. -/
def acpConfigOption (option : SessionConfigOption) : AcpConfigOption where
  id := option.id
  name := option.name
  description := option.description
  category := option.category
  kind := acpConfigKind option.kind

/-- The three cases are kept apart. -/
def MaybeUndefined.toOption {α : Type} : MaybeUndefined α → Option (Option α)
  | undefined => none
  | null => some none
  | value v => some (some v)

/-! ## events -/

/-- Blocks of an unknown kind make no event. -/
def contentEvent (role : MessageRole) (content : WireContentBlock) : List AgentEvent :=
  ((NormalizedContent.fromWire content).map (AgentEvent.message role)).toList

/-- A thought is its block; one of an unknown kind makes no event. -/
def thoughtEvent (content : WireContentBlock) : List AgentEvent :=
  ((NormalizedContent.fromWire content).map AgentEvent.thought).toList

/-- What the host makes of an update of a session. -/
def WireSessionUpdate.events : WireSessionUpdate → List AgentEvent
  | userMessageChunk content => contentEvent .user content
  | agentMessageChunk content => contentEvent .assistant content
  | agentThoughtChunk content => thoughtEvent content
  | toolCall tool => normalizeUpdate (.toolCall tool)
  | toolCallUpdate update => normalizeUpdate (.toolCallUpdate update)
  | plan entries => [.plan (planSummary entries)]
  | availableCommandsUpdate commands =>
      [.availableCommands (commands.map availableCommandSummary)]
  | currentModeUpdate currentModeId => [.mode currentModeId]
  | configOptionUpdate options => [.configOptions (options.map acpConfigOption)]
  | sessionInfoUpdate title updatedAt =>
      [.sessionInfo { title := title.toOption, updatedAt := updatedAt.toOption }]
  | usageUpdate usage => [.usage usage]
  | other => []

/-! ## permission requests -/

/-- The text of an id. -/
def RequestId.text : RequestId → String
  | number n => toString n
  | str text => text
  | null => "null"

def mapPermissionKind : WirePermissionOptionKind → PermissionOptionKind
  | .allowOnce => .allow
  | .allowAlways => .allowAlways
  | .rejectOnce => .deny
  | .rejectAlways => .denyAlways
  | .other => .custom

def normalizePermissionOption (option : WirePermissionOption) : PermissionOption where
  optionId := option.optionId
  label := option.name
  kind := mapPermissionKind option.kind

/-- `pretty` writes the raw input as indented JSON. -/
def normalizePermission (pretty : Json → String) (id : RequestId)
    (request : RequestPermissionRequest) : PermissionRequest where
  permissionId := id.text
  title := request.toolCall.fields.title.getD "Permission required"
  detail := request.toolCall.fields.rawInput.map pretty
  toolCallId := some request.toolCall.toolCallId
  options := request.options.map normalizePermissionOption

end Acp

end Slight
