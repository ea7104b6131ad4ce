import Slight.Acp.Types

/-!
# Slight.Acp.Updates

The tool-call notifications of an agent as they are on the wire, and how the
host normalizes them.

A `tool_call` announces a tool call with all its fields, a `tool_call_update`
carries any of them.  Both become one `ToolCallUpdate`, in which a field that
was left out has a default.  Paths are their text.
-/

namespace Slight

/-! ## content -/

/-- The contents of an embedded resource; `other` stands for contents that the host
does not know. -/
inductive EmbeddedResourceResource where
  | textResourceContents (uri text : String) (mimeType : Option String)
  | blobResourceContents (uri blob : String) (mimeType : Option String)
  | other
  deriving DecidableEq

/-- A resource the agent can read, as it is on the wire. -/
structure ResourceLink where
  name : String
  uri : String
  description : Option String := none
  mimeType : Option String := none
  size : Option Int := none
  title : Option String := none
  deriving DecidableEq

/-- A content block on the wire; `other` stands for a kind the host does not know. -/
inductive WireContentBlock where
  | text (text : String)
  | image (data mimeType : String) (uri : Option String)
  | audio (data mimeType : String)
  | resourceLink (link : ResourceLink)
  | resource (resource : EmbeddedResourceResource)
  | other
  deriving DecidableEq

/-- A piece of a tool call's output on the wire. -/
inductive WireToolCallContent where
  | content (content : WireContentBlock)
  | diff (path : String) (oldText : Option String) (newText : String)
  | terminal (terminalId : String)
  | other
  deriving DecidableEq

/-- A file location on the wire. -/
structure WireToolCallLocation where
  path : String
  line : Option UInt32 := none
  deriving DecidableEq

/-- A link keeps all of its fields. -/
def ResourceLinkSummary.fromLink (link : ResourceLink) : ResourceLinkSummary where
  uri := link.uri
  name := link.name
  mimeType := link.mimeType
  title := link.title
  description := link.description
  size := link.size

/-- Contents the host does not know are an empty text. -/
def ResourceContent.fromResource : EmbeddedResourceResource → ResourceContent
  | .textResourceContents uri contents mimeType => .text uri contents mimeType
  | .blobResourceContents uri contents mimeType => .blob uri contents mimeType
  | .other => .text "" "" none

/-- Blocks of an unknown kind are dropped. -/
def NormalizedContent.fromWire : WireContentBlock → Option NormalizedContent
  | .text t => some (.text t)
  | .image data mimeType uri => some (.image data mimeType uri)
  | .audio data mimeType => some (.audio data mimeType)
  | .resourceLink link => some (.resourceLink (.fromLink link))
  | .resource contents => some (.resource (.fromResource contents))
  | .other => none

/-- Entries of an unknown kind are dropped. -/
def NormalizedToolContent.fromWire : WireToolCallContent → Option NormalizedToolContent
  | .content block => (NormalizedContent.fromWire block).map .content
  | .diff path oldText newText => some (.diff { path, oldText, newText })
  | .terminal terminalId => some (.terminal ⟨terminalId⟩)
  | .other => none

/-- A location keeps both of its fields. -/
def ToolLocation.fromWire (location : WireToolCallLocation) : ToolLocation where
  path := location.path
  line := location.line

/-- Raw values of `null` are dropped. -/
def normalizedRaw (value : Option Json) : Option Json :=
  value.filter fun j => match j with
    | .null => false
    | _ => true

/-! ## tool calls -/

/-- The kinds of tool an agent may name. -/
inductive WireToolKind where
  | read
  | edit
  | delete
  | move
  | search
  | execute
  | think
  | fetch
  | switchMode
  | other
  deriving DecidableEq

/-- How far the agent says a tool call has come. -/
inductive WireToolCallStatus where
  | pending
  | inProgress
  | completed
  | failed
  | other
  deriving DecidableEq

/-- `tool_call`, with the defaults of the fields an agent may leave out. -/
structure WireToolCall where
  toolCallId : String
  title : String
  kind : WireToolKind := .other
  status : WireToolCallStatus := .pending
  content : List WireToolCallContent := []
  locations : List WireToolCallLocation := []
  rawInput : Option Json := none
  rawOutput : Option Json := none

/-- The fields of a `tool_call_update`, any of which may be left out. -/
structure ToolCallUpdateFields where
  kind : Option WireToolKind := none
  status : Option WireToolCallStatus := none
  title : Option String := none
  content : Option (List WireToolCallContent) := none
  locations : Option (List WireToolCallLocation) := none
  rawInput : Option Json := none
  rawOutput : Option Json := none

/-- `tool_call_update`. -/
structure WireToolCallUpdate where
  toolCallId : String
  fields : ToolCallUpdateFields

/-- The updates of a session that are about tool calls. -/
inductive SessionUpdate where
  | toolCall (tool : WireToolCall)
  | toolCallUpdate (update : WireToolCallUpdate)

/-- The tool call an update is about. -/
def SessionUpdate.toolCallId : SessionUpdate → String
  | toolCall tool => tool.toolCallId
  | toolCallUpdate update => update.toolCallId

/-- A location as a line of text. -/
def locationDetail (location : WireToolCallLocation) : String :=
  match location.line with
  | some line => location.path ++ ":" ++ toString line.toNat
  | none => location.path

/-- The name of the kind on the wire. -/
def toolKindString : WireToolKind → Option String
  | .read => some "read"
  | .edit => some "edit"
  | .delete => some "delete"
  | .move => some "move"
  | .search => some "search"
  | .execute => some "execute"
  | .think => some "think"
  | .fetch => some "fetch"
  | .switchMode => some "switch_mode"
  | .other => some "other"

/-- A status the host does not know counts as pending. -/
def mapToolStatus : WireToolCallStatus → ToolCallStatus
  | .pending => .pending
  | .inProgress => .inProgress
  | .completed => .completed
  | .failed => .failed
  | .other => .pending

/-- The entries the host knows, in their order. -/
def normalizeToolContent (content : List WireToolCallContent) : List NormalizedToolContent :=
  content.filterMap NormalizedToolContent.fromWire

/-- A tool call as announced: its first location is its detail. -/
def normalizeToolCall (tool : WireToolCall) : ToolCallUpdate where
  toolCallId := tool.toolCallId
  title := tool.title
  kind := toolKindString tool.kind
  status := mapToolStatus tool.status
  detail := tool.locations.head?.map locationDetail
  content := normalizeToolContent tool.content
  locations := tool.locations.map .fromWire
  rawInput := normalizedRaw tool.rawInput
  rawOutput := normalizedRaw tool.rawOutput

/-- An update as a tool call: what was left out is empty, pending or absent. -/
def normalizeToolCallUpdate (update : WireToolCallUpdate) : ToolCallUpdate where
  toolCallId := update.toolCallId
  title := update.fields.title.getD ""
  kind := update.fields.kind.bind toolKindString
  -- a status that was left out becomes a status
  status := (update.fields.status.map mapToolStatus).getD .pending
  detail := update.fields.locations.bind fun locations => locations.head?.map locationDetail
  content := (update.fields.content.map normalizeToolContent).getD []
  locations := (update.fields.locations.map fun locations => locations.map .fromWire).getD []
  rawInput := normalizedRaw update.fields.rawInput
  rawOutput := normalizedRaw update.fields.rawOutput

/-- What the host makes of an update. -/
def SessionUpdate.normalized : SessionUpdate → ToolCallUpdate
  | toolCall tool => normalizeToolCall tool
  | toolCallUpdate update => normalizeToolCallUpdate update

/-- Every update about a tool call is one event. -/
def normalizeUpdate (update : SessionUpdate) : List AgentEvent := [.toolCall update.normalized]

@[simp] theorem SessionUpdate.normalized_toolCallId (update : SessionUpdate) :
    update.normalized.toolCallId = update.toolCallId := by
  cases update <;> rfl

theorem normalizedRaw_ne_null (value : Option Json) : normalizedRaw value ≠ some .null := by
  intro h
  have hkept := (Option.filter_eq_some_iff.mp h).2
  cases hkept

/-- Raw values are never `null` after normalizing. -/
theorem SessionUpdate.normalized_raw_ne_null (update : SessionUpdate) :
    update.normalized.rawInput ≠ some .null ∧ update.normalized.rawOutput ≠ some .null := by
  cases update with
  | toolCall tool => exact ⟨normalizedRaw_ne_null _, normalizedRaw_ne_null _⟩
  | toolCallUpdate update => exact ⟨normalizedRaw_ne_null _, normalizedRaw_ne_null _⟩

end Slight
