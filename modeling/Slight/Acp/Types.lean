import Slight.Json

/-!
# Slight.Acp.Types

The agent-neutral vocabulary of the host's ACP boundary: agent kinds, roles,
permission requests, normalized content, tool-call updates, session metadata
and configuration options.
-/

namespace Slight

/-- A session id of the product, a UUID in text form. -/
abbrev SessionId := String

/-! ## agents -/

/-- The agents the host has adapters for, and any other under its own name. -/
inductive AgentKind where
  | claudeCode
  | codex
  | fake
  | custom (name : String)
  deriving DecidableEq

namespace AgentKind

/-- The name an agent is stored and sent under. -/
def asStr : AgentKind → String
  | claudeCode => "claude_code"
  | codex => "codex"
  | fake => "fake"
  | custom name => name

end AgentKind

/-- What the host shows of an agent. -/
structure AgentDescriptor where
  kind : AgentKind
  displayName : String
  version : Option String
  deriving DecidableEq

/-- An error of the ACP boundary; only its text is kept. -/
structure AcpError where
  message : String
  deriving DecidableEq

/-! ## messages, diagnostics, permissions -/

/-- Who a message is from. -/
inductive MessageRole where
  | user
  | assistant
  | system
  deriving DecidableEq

/-- How serious a diagnostic is. -/
inductive DiagnosticLevel where
  | debug
  | info
  | warning
  | error
  deriving DecidableEq

/-- How far a tool call has come; nothing on the host sets `cancelled`. -/
inductive ToolCallStatus where
  | pending
  | inProgress
  | completed
  | failed
  | cancelled
  deriving DecidableEq

/-- What choosing an option does. -/
inductive PermissionOptionKind where
  | allow
  | allowAlways
  | deny
  | denyAlways
  | custom
  deriving DecidableEq

/-- One of the answers a permission request allows. -/
structure PermissionOption where
  optionId : String
  label : String
  kind : PermissionOptionKind
  deriving DecidableEq

/-- A permission request; `permissionId` is the text of the JSON-RPC request
id, the identity the client answers to. -/
structure PermissionRequest where
  permissionId : String
  title : String
  detail : Option String
  toolCallId : Option String
  options : List PermissionOption
  deriving DecidableEq

/-! ## normalized content -/

/-- A resource reference the agent can read, without its contents. -/
structure ResourceLinkSummary where
  uri : String
  name : String
  mimeType : Option String
  title : Option String
  description : Option String
  size : Option Int
  deriving DecidableEq

/-- Embedded resource contents, either text or base64-encoded binary. -/
inductive ResourceContent where
  | text (uri text : String) (mimeType : Option String)
  | blob (uri dataBase64 : String) (mimeType : Option String)
  deriving DecidableEq

/-- A normalized content block of a message or a tool call. -/
inductive NormalizedContent where
  | text (text : String)
  | image (dataBase64 mimeType : String) (uri : Option String)
  | audio (dataBase64 mimeType : String)
  | resourceLink (link : ResourceLinkSummary)
  | resource (resource : ResourceContent)
  deriving DecidableEq

namespace NormalizedContent

/-- A plain-text representation for clients that only understand text. -/
def textFallback : NormalizedContent → String
  | text t => t
  | image .. | audio .. => ""
  | resourceLink link =>
      match link.title with
      | some title => title ++ " (" ++ link.uri ++ ")"
      | none => link.name ++ " (" ++ link.uri ++ ")"
  | resource (.text _ t _) => t
  | resource (.blob uri _ _) => uri

end NormalizedContent

/-- A file modification; a new file has no old text. -/
structure DiffSummary where
  path : String
  oldText : Option String
  newText : String
  deriving DecidableEq

/-- A reference to a terminal that produced output. -/
structure TerminalRef where
  terminalId : String
  deriving DecidableEq

/-- Normalized content produced by a tool call. -/
inductive NormalizedToolContent where
  | content (content : NormalizedContent)
  | diff (diff : DiffSummary)
  | terminal (terminal : TerminalRef)
  deriving DecidableEq

/-- A file location a tool touched. -/
structure ToolLocation where
  path : String
  line : Option UInt32
  deriving DecidableEq

/-- A tool call as one update of the agent reports it. -/
structure ToolCallUpdate where
  toolCallId : String
  title : String
  kind : Option String
  status : ToolCallStatus
  detail : Option String
  content : List NormalizedToolContent
  locations : List ToolLocation
  rawInput : Option Json
  rawOutput : Option Json

/-! ## session metadata -/

/-- A mode the agent can operate in. -/
structure AcpMode where
  id : String
  name : String
  description : Option String
  deriving DecidableEq

/-- The agent's modes and the one it is in. -/
structure AcpModeState where
  currentModeId : String
  availableModes : List AcpMode
  deriving DecidableEq

/-- Semantic category of a configuration option; unknown names are kept. -/
inductive AcpConfigCategory where
  | mode
  | model
  | modelConfig
  | thoughtLevel
  | other (value : String)
  deriving DecidableEq

/-- One selectable value of a configuration option. -/
structure AcpConfigChoice where
  valueId : String
  name : String
  description : Option String
  deriving DecidableEq

/-- A named group of selectable values; an ungrouped option is one group with no id or name. -/
structure AcpConfigGroup where
  id : Option String
  name : Option String
  options : List AcpConfigChoice
  deriving DecidableEq

/-- The type and current value of a configuration option. -/
inductive AcpConfigKind where
  | select (currentValueId : String) (groups : List AcpConfigGroup)
  | boolean (currentValue : Bool)
  deriving DecidableEq

/-- A configuration option the agent advertises. -/
structure AcpConfigOption where
  id : String
  name : String
  description : Option String
  category : Option AcpConfigCategory
  kind : AcpConfigKind
  deriving DecidableEq

/-- A metadata change: `none` is absent, `some none` cleared, `some (some v)` set. -/
structure AcpSessionInfoUpdate where
  title : Option (Option String)
  updatedAt : Option (Option String)
  deriving DecidableEq

/-- Cumulative cost, in a currency of ISO 4217. -/
structure AcpCost where
  amount : Rat
  currency : String
  deriving DecidableEq

/-- Context-window and cost usage of a session. -/
structure AcpUsage where
  used : Nat
  size : Nat
  cost : Option AcpCost
  deriving DecidableEq

/-- A single entry of an execution plan, its priority and status as text. -/
structure PlanEntrySummary where
  content : String
  priority : String
  status : String
  deriving DecidableEq

/-- An execution plan.  Every update replaces the whole plan. -/
structure PlanSummary where
  entries : List PlanEntrySummary
  deriving DecidableEq

/-- A slash command the agent advertises. -/
structure AvailableCommandSummary where
  name : String
  description : String
  inputHint : Option String
  deriving DecidableEq

/-- Metadata returned by `session/new`, `session/load` and `session/resume`. -/
structure SessionMetadata where
  agentSessionId : String
  modes : Option AcpModeState
  configOptions : List AcpConfigOption
  deriving DecidableEq

/-- What `session/list` returns of an existing agent-side session. -/
structure ListedSessionSummary where
  agentSessionId : String
  cwd : String
  additionalDirectories : List String
  title : Option String
  updatedAt : Option String
  deriving DecidableEq

/-- A page of listed sessions, with the cursor of the next. -/
structure ListedSessionPage where
  sessions : List ListedSessionSummary
  nextCursor : Option String
  deriving DecidableEq

/-- Why a prompt turn ended. -/
inductive StopReason where
  | endTurn
  | maxTokens
  | maxTurnRequests
  | refusal
  | cancelled
  deriving DecidableEq

/-- The capabilities of `initialize` the host consults before it calls an
optional method. -/
structure AgentCapabilities where
  loadSession : Bool
  sessionList : Bool
  sessionResume : Bool
  deriving DecidableEq

/-- What `initialize` negotiated. -/
structure InitializeSummary where
  protocolVersion : Nat
  agentName : Option String
  agentTitle : Option String
  agentVersion : Option String
  agentCapabilities : AgentCapabilities
  deriving DecidableEq

/-! ## agent events -/

/-- A normalized, agent-neutral event emitted by an ACP session. -/
inductive AgentEvent where
  | message (role : MessageRole) (content : NormalizedContent)
  | thought (content : NormalizedContent)
  | toolCall (update : ToolCallUpdate)
  | plan (plan : PlanSummary)
  | availableCommands (commands : List AvailableCommandSummary)
  | configOptions (options : List AcpConfigOption)
  | sessionInfo (update : AcpSessionInfoUpdate)
  | usage (usage : AcpUsage)
  | mode (currentModeId : String)
  | permissionRequest (request : PermissionRequest)
  | diagnostics (level : DiagnosticLevel) (message : String)
  | turnEnded (stopReason : StopReason)
  | exited (code : Option Int32) (reason : String)
  | failed (message : String)

/-- The permission request an event carries. -/
def AgentEvent.permission? : AgentEvent → Option PermissionRequest
  | permissionRequest request => some request
  | _ => none

end Slight
