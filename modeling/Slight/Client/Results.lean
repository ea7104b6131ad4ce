import Slight.Client.Mirror
import Slight.Gateway.Protocol
import Slight.Support.Lists

/-!
# Slight.Client.Results

What the client decodes of two answers of the host: the sessions an agent lists, and
the inspection of a session.

`Inspection.SessionAcpMetadata` is the metadata of an inspection with all the fields it
is serialized with, on either side.  An answer is read into an untyped value and
decoded out of it, as the payload of an event is.
-/

namespace Slight

/-! ## what the host writes -/

/-- `u16`. -/
instance : Serde UInt16 where
  toJson n := .int n.toNat
  ofJson
    | .int n => if 0 ≤ n ∧ n < 2 ^ 16 then some (UInt16.ofNat n.toNat) else none
    | _ => none

/-- The identity an agent negotiated. -/
structure AgentMetadataSummary where
  name : Option String
  title : Option String
  version : Option String
  deriving DecidableEq

instance : Record AgentMetadataSummary where
  toFields m := [("name", toJson m.name), ("title", toJson m.title),
    ("version", toJson m.version)]
  ofFields fields := do
    let name ← fields.optional "name"
    let title ← fields.optional "title"
    let version ← fields.optional "version"
    pure { name, title, version }

inductive AuthMethodKind where
  | agent
  | terminal
  deriving DecidableEq

instance : Serde AuthMethodKind where
  toJson
    | .agent => .str "agent"
    | .terminal => .str "terminal"
  ofJson := ofVariants [("agent", .agent), ("terminal", .terminal)]

structure AuthMethodSummary where
  id : String
  name : String
  description : Option String
  kind : AuthMethodKind
  deriving DecidableEq

instance : Record AuthMethodSummary where
  toFields m := [("id", toJson m.id), ("name", toJson m.name),
    ("description", toJson m.description), ("kind", toJson m.kind)]
  ofFields fields := do
    let id ← fields.required "id"
    let name ← fields.required "name"
    let description ← fields.optional "description"
    let kind ← fields.required "kind"
    pure { id, name, description, kind }

structure AgentCapabilitiesSummary where
  loadSession : Bool
  promptImage : Bool
  promptAudio : Bool
  promptEmbeddedContext : Bool
  mcpHttp : Bool
  mcpSse : Bool
  sessionList : Bool
  sessionResume : Bool
  sessionClose : Bool
  sessionDelete : Bool
  sessionAdditionalDirectories : Bool
  deriving DecidableEq

/-- No capability. -/
def AgentCapabilitiesSummary.none : AgentCapabilitiesSummary :=
  ⟨false, false, false, false, false, false, false, false, false, false, false⟩

instance : Record AgentCapabilitiesSummary where
  toFields c := [("load_session", toJson c.loadSession), ("prompt_image", toJson c.promptImage),
    ("prompt_audio", toJson c.promptAudio),
    ("prompt_embedded_context", toJson c.promptEmbeddedContext), ("mcp_http", toJson c.mcpHttp),
    ("mcp_sse", toJson c.mcpSse), ("session_list", toJson c.sessionList),
    ("session_resume", toJson c.sessionResume), ("session_close", toJson c.sessionClose),
    ("session_delete", toJson c.sessionDelete),
    ("session_additional_directories", toJson c.sessionAdditionalDirectories)]
  ofFields fields := do
    let loadSession ← fields.defaulted "load_session" false
    let promptImage ← fields.defaulted "prompt_image" false
    let promptAudio ← fields.defaulted "prompt_audio" false
    let promptEmbeddedContext ← fields.defaulted "prompt_embedded_context" false
    let mcpHttp ← fields.defaulted "mcp_http" false
    let mcpSse ← fields.defaulted "mcp_sse" false
    let sessionList ← fields.defaulted "session_list" false
    let sessionResume ← fields.defaulted "session_resume" false
    let sessionClose ← fields.defaulted "session_close" false
    let sessionDelete ← fields.defaulted "session_delete" false
    let sessionAdditionalDirectories ← fields.defaulted "session_additional_directories" false
    pure { loadSession, promptImage, promptAudio, promptEmbeddedContext, mcpHttp, mcpSse,
           sessionList, sessionResume, sessionClose, sessionDelete, sessionAdditionalDirectories }

instance : Record AcpMode where
  toFields m := [("id", toJson m.id), ("name", toJson m.name),
    ("description", toJson m.description)]
  ofFields fields := do
    let id ← fields.required "id"
    let name ← fields.required "name"
    let description ← fields.optional "description"
    pure { id, name, description }

instance : Record AcpModeState where
  toFields s := [("current_mode_id", toJson s.currentModeId),
    ("available_modes", toJson s.availableModes)]
  ofFields fields := do
    let currentModeId ← fields.required "current_mode_id"
    let availableModes ← fields.required "available_modes"
    pure { currentModeId, availableModes }

instance : Record SessionSummaryDto where
  toFields s := [("id", toJson s.id), ("title", toJson s.title), ("agent", toJson s.agent),
    ("model", toJson s.model), ("effort", toJson s.effort),
    ("working_directory_label", toJson s.workingDirectoryLabel),
    ("git_branch", toJson s.gitBranch), ("status", toJson s.status),
    ("created_at", toJson s.createdAt), ("last_activity_at", toJson s.lastActivityAt),
    ("last_sequence", toJson s.lastSequence), ("recovery", toJson s.recovery),
    ("archived", toJson s.archived)]
  ofFields fields := do
    let id ← fields.required "id"
    let title ← fields.required "title"
    let agent ← fields.required "agent"
    let model ← fields.optional "model"
    let effort ← fields.optional "effort"
    let workingDirectoryLabel ← fields.required "working_directory_label"
    let gitBranch ← fields.optional "git_branch"
    let status ← fields.required "status"
    let createdAt ← fields.optional "created_at"
    let lastActivityAt ← fields.optional "last_activity_at"
    let lastSequence ← fields.required "last_sequence"
    let recovery ← fields.defaulted "recovery" .live
    let archived ← fields.defaulted "archived" false
    pure { id, title, agent, model, effort, workingDirectoryLabel, gitBranch, status, createdAt,
           lastActivityAt, lastSequence, recovery, archived }

/-- An event among others, without the tag of a frame. -/
instance : Record GatewayEvent where
  toFields e := [("v", .int 1), ("session_id", toJson e.sessionId),
    ("sequence", toJson e.sequence), ("event", toJson e.event), ("at", toJson e.at_),
    ("payload", toJson e.payload)]
  ofFields fields := do
    let sessionId ← fields.required "session_id"
    let sequence ← fields.required "sequence"
    let event ← fields.required "event"
    let at_ ← fields.optional "at"
    let payload ← fields.optional "payload"
    pure { sessionId, sequence, event, at_, payload }

namespace Gateway

instance : Record AgentSessionSummaryDto where
  toFields s := ("agent", toJson s.agent) :: ("agent_session_id", toJson s.agentSessionId) ::
    ("cwd", toJson s.cwd) :: skipEmpty "additional_directories" s.additionalDirectories
      [("title", toJson s.title), ("updated_at", toJson s.updatedAt)]
  ofFields fields := do
    let agent ← fields.required "agent"
    let agentSessionId ← fields.required "agent_session_id"
    let cwd ← fields.required "cwd"
    let additionalDirectories ← fields.defaulted "additional_directories" []
    let title ← fields.optional "title"
    let updatedAt ← fields.optional "updated_at"
    pure { agent, agentSessionId, cwd, additionalDirectories, title, updatedAt }

structure AgentSessionsListResult where
  sessions : List AgentSessionSummaryDto
  nextCursor : Option String

instance : Record AgentSessionsListResult where
  toFields r := [("sessions", toJson r.sessions), ("next_cursor", toJson r.nextCursor)]
  ofFields fields := do
    let sessions ← fields.required "sessions"
    let nextCursor ← fields.optional "next_cursor"
    pure { sessions, nextCursor }

instance : Record AgentDescriptorDto where
  toFields d := [("kind", toJson d.kind), ("display_name", toJson d.displayName),
    ("version", toJson d.version)]
  ofFields fields := do
    let kind ← fields.required "kind"
    let displayName ← fields.required "display_name"
    let version ← fields.optional "version"
    pure { kind, displayName, version }

end Gateway

namespace Inspection

/-- What was negotiated with a session's agent, as it is serialized. -/
structure SessionAcpMetadata where
  protocolVersion : UInt16
  agent : AgentMetadataSummary
  authMethods : List AuthMethodSummary
  capabilities : AgentCapabilitiesSummary
  modes : Option AcpModeState
  configOptions : List AcpConfigOption

instance : Record SessionAcpMetadata where
  toFields m := [("protocol_version", toJson m.protocolVersion), ("agent", toJson m.agent),
    ("auth_methods", toJson m.authMethods), ("capabilities", toJson m.capabilities),
    ("modes", toJson m.modes), ("config_options", toJson m.configOptions)]
  ofFields fields := do
    let protocolVersion ← fields.defaulted "protocol_version" 0
    let agent ← fields.defaulted "agent" ⟨none, none, none⟩
    let authMethods ← fields.defaulted "auth_methods" []
    let capabilities ← fields.defaulted "capabilities" .none
    let modes ← fields.optional "modes"
    let configOptions ← fields.defaulted "config_options" []
    pure { protocolVersion, agent, authMethods, capabilities, modes, configOptions }

structure SessionInspectResult where
  session : SessionSummaryDto
  agent : Gateway.AgentDescriptorDto
  acp : SessionAcpMetadata
  running : Bool
  pendingPermission : Option PermissionRequestPayload
  recentEvents : List GatewayEvent

instance : Record SessionInspectResult where
  toFields r := [("session", toJson r.session), ("agent", toJson r.agent), ("acp", toJson r.acp),
    ("running", toJson r.running), ("pending_permission", toJson r.pendingPermission),
    ("recent_events", toJson r.recentEvents)]
  ofFields fields := do
    let session ← fields.required "session"
    let agent ← fields.required "agent"
    let acp ← fields.defaulted "acp" ⟨0, ⟨none, none, none⟩, [], .none, none, []⟩
    let running ← fields.required "running"
    let pendingPermission ← fields.optional "pending_permission"
    let recentEvents ← fields.required "recent_events"
    pure { session, agent, acp, running, pendingPermission, recentEvents }

/-- The answer to `session.inspect`, its metadata given in full. -/
def SessionInspectResult.ofDetail (sessionId : String) (detail : SessionDetail)
    (acp : SessionAcpMetadata) : SessionInspectResult where
  session := .ofSummary detail.summary
  agent := .ofDescriptor detail.agent
  acp := acp
  running := detail.running
  pendingPermission := detail.pendingPermission
  recentEvents := detail.recentEvents.map (gatewayEvent sessionId)

end Inspection

/-! ## what the client reads -/

instance : Decodable AuthMethodKind where
  decodeJSON := rawValueOr [("agent", .agent), ("terminal", .terminal)] .agent

instance : Keyed AuthMethodSummary where
  ofContainer container := do
    let id ← container.decode "id"
    let name ← container.decode "name"
    let description ← container.decodeIfPresent "description"
    let kind ← container.decode "kind"
    pure { id, name, description, kind }

instance : Keyed AgentCapabilitiesSummary where
  ofContainer container := do
    let loadSession ← container.decodeOr "loadSession" false
    let promptImage ← container.decodeOr "promptImage" false
    let promptAudio ← container.decodeOr "promptAudio" false
    let promptEmbeddedContext ← container.decodeOr "promptEmbeddedContext" false
    let mcpHttp ← container.decodeOr "mcpHttp" false
    let mcpSse ← container.decodeOr "mcpSse" false
    let sessionList ← container.decodeOr "sessionList" false
    let sessionResume ← container.decodeOr "sessionResume" false
    let sessionClose ← container.decodeOr "sessionClose" false
    let sessionDelete ← container.decodeOr "sessionDelete" false
    let sessionAdditionalDirectories ← container.decodeOr "sessionAdditionalDirectories" false
    pure { loadSession, promptImage, promptAudio, promptEmbeddedContext, mcpHttp, mcpSse,
           sessionList, sessionResume, sessionClose, sessionDelete, sessionAdditionalDirectories }

instance : Keyed AcpMode where
  ofContainer container := do
    let id ← container.decode "id"
    let name ← container.decode "name"
    let description ← container.decodeIfPresent "description"
    pure { id, name, description }

instance : Keyed AcpModeState where
  ofContainer container := do
    let currentModeId ← container.decode "currentModeId"
    let availableModes ← container.decodeOr "availableModes" []
    pure { currentModeId, availableModes }

namespace Client

structure AgentSessionSummary where
  agent : String
  agentSessionId : String
  cwd : String
  additionalDirectories : List String
  title : Option String
  updatedAt : Option Date
  deriving DecidableEq

instance : Keyed AgentSessionSummary where
  ofContainer container := do
    let agent ← container.decode "agent"
    let agentSessionId ← container.decode "agentSessionId"
    let cwd ← container.decode "cwd"
    let additionalDirectories ← container.decodeOr "additionalDirectories" []
    let title ← container.decodeIfPresent "title"
    let updatedAt ← container.decodeIfPresent "updatedAt"
    pure { agent, agentSessionId, cwd, additionalDirectories, title, updatedAt }

structure AgentSessionsListResult where
  sessions : List AgentSessionSummary
  nextCursor : Option String
  deriving DecidableEq

instance : Keyed AgentSessionsListResult where
  ofContainer container := do
    let sessions ← container.decode "sessions"
    let nextCursor ← container.decodeIfPresent "nextCursor"
    pure { sessions, nextCursor }

structure AgentDescriptor where
  kind : String
  displayName : String
  version : Option String
  deriving DecidableEq

instance : Keyed AgentDescriptor where
  ofContainer container := do
    let kind ← container.decode "kind"
    let displayName ← container.decode "displayName"
    let version ← container.decodeIfPresent "version"
    pure { kind, displayName, version }

namespace Inspection

structure SessionAcpMetadata where
  protocolVersion : Int
  agentTitle : Option String
  authMethods : List AuthMethodSummary
  capabilities : AgentCapabilitiesSummary
  modes : Option AcpModeState
  configOptions : List AcpConfigOption
  deriving DecidableEq

instance : Keyed SessionAcpMetadata where
  ofContainer container := do
    let protocolVersion ← container.decodeOr "protocolVersion" 0
    let agentTitle ← container.decodeIfPresent "agentTitle"
    let authMethods ← container.decodeOr "authMethods" []
    let capabilities ← container.decodeOr "capabilities" .none
    let modes ← container.decodeIfPresent "modes"
    let configOptions ← container.decodeOr "configOptions" []
    pure { protocolVersion, agentTitle, authMethods, capabilities, modes, configOptions }

/-- What the metadata says of the agent. -/
def SessionAcpMetadata.identity (metadata : SessionAcpMetadata) : AgentMetadataSummary where
  name := none
  title := metadata.agentTitle
  version := none

structure SessionInspectResult where
  session : SessionSummary
  agent : AgentDescriptor
  acp : Option SessionAcpMetadata
  running : Bool
  pendingPermission : Option PermissionRequestPayload
  recentEvents : List GatewayEvent

instance : Keyed SessionInspectResult where
  ofContainer container := do
    let session ← container.decode "session"
    let agent ← container.decode "agent"
    let acp ← container.decodeIfPresent "acp"
    let running ← container.decode "running"
    let pendingPermission ← container.decodeIfPresent "pendingPermission"
    let recentEvents ← container.decode "recentEvents"
    pure { session, agent, acp, running, pendingPermission, recentEvents }

end Inspection

end Client

/-! ## reading what was written -/

/-- The keys of the two answers. -/
@[simp] theorem convertFromSnakeCase_results :
    convertFromSnakeCase "acp" = "acp" ∧ convertFromSnakeCase "capabilities" = "capabilities" ∧
    convertFromSnakeCase "cwd" = "cwd" ∧ convertFromSnakeCase "modes" = "modes" ∧
    convertFromSnakeCase "running" = "running" ∧ convertFromSnakeCase "session" = "session" ∧
    convertFromSnakeCase "sessions" = "sessions" ∧ convertFromSnakeCase "version" = "version" ∧
    convertFromSnakeCase "additional_directories" = "additionalDirectories" ∧
    convertFromSnakeCase "agent_session_id" = "agentSessionId" ∧
    convertFromSnakeCase "auth_methods" = "authMethods" ∧
    convertFromSnakeCase "available_modes" = "availableModes" ∧
    convertFromSnakeCase "config_options" = "configOptions" ∧
    convertFromSnakeCase "created_at" = "createdAt" ∧
    convertFromSnakeCase "display_name" = "displayName" ∧
    convertFromSnakeCase "last_activity_at" = "lastActivityAt" ∧
    convertFromSnakeCase "next_cursor" = "nextCursor" ∧
    convertFromSnakeCase "protocol_version" = "protocolVersion" ∧
    convertFromSnakeCase "recent_events" = "recentEvents" ∧
    convertFromSnakeCase "updated_at" = "updatedAt" := by
  decide +kernel

/-- The keys of the capabilities. -/
@[simp] theorem convertFromSnakeCase_capabilities :
    convertFromSnakeCase "load_session" = "loadSession" ∧
    convertFromSnakeCase "mcp_http" = "mcpHttp" ∧ convertFromSnakeCase "mcp_sse" = "mcpSse" ∧
    convertFromSnakeCase "prompt_audio" = "promptAudio" ∧
    convertFromSnakeCase "prompt_embedded_context" = "promptEmbeddedContext" ∧
    convertFromSnakeCase "prompt_image" = "promptImage" ∧
    convertFromSnakeCase "session_additional_directories" = "sessionAdditionalDirectories" ∧
    convertFromSnakeCase "session_close" = "sessionClose" ∧
    convertFromSnakeCase "session_delete" = "sessionDelete" ∧
    convertFromSnakeCase "session_list" = "sessionList" ∧
    convertFromSnakeCase "session_resume" = "sessionResume" := by
  decide +kernel

instance : Mirrored AuthMethodKind := ⟨fun k => by cases k <;> rfl⟩

instance : LawfulSerde AuthMethodKind :=
  ⟨fun k => by cases k <;> rfl, fun k => by cases k <;> exact Json.noConfusion⟩

instance : Mirrored AuthMethodSummary where
  decode_trip m := by
    rw [decode_trip_record]
    simp [toFields, ofContainer]

instance : LawfulRecord AgentCapabilitiesSummary :=
  ⟨fun _ => by simp [toFields, ofFields], fun _ _ => by simp [tagged, toFields, ofFields]⟩

instance : Mirrored AgentCapabilitiesSummary where
  decode_trip c := by
    rw [decode_trip_record]
    simp [toFields, ofContainer]

instance : Mirrored AcpMode where
  decode_trip m := by
    rw [decode_trip_record]
    simp [toFields, ofContainer]

instance : LawfulRecord AcpMode :=
  ⟨fun _ => by simp [toFields, ofFields], fun _ _ => by simp [tagged, toFields, ofFields]⟩

instance : LawfulRecord AcpModeState :=
  ⟨fun _ => by simp [toFields, ofFields], fun _ _ => by simp [tagged, toFields, ofFields]⟩

instance : Mirrored AcpModeState where
  decode_trip s := by
    rw [decode_trip_record]
    simp [toFields, ofContainer]

/-! ## the sessions an agent lists -/

theorem decode_trip_date (text : String) :
    (decodeJSON (toJson text).trip : Option Date) = parseTimestamp text := rfl

/-- A list of options all of which are there. -/
theorem mapM_eq_some_map {α β : Type} {f : α → Option β} {g : α → β} {as : List α}
    (h : ∀ a ∈ as, f a = some (g a)) : as.mapM f = some (as.map g) := by
  induction as with
  | nil => rfl
  | cons a as ih =>
      obtain ⟨ha, has⟩ := List.forall_mem_cons.mp h
      rw [List.mapM_cons, ha, ih has]
      rfl

/-- The entry for a session that is listed: a time that is not a date is left out. -/
def Client.AgentSessionSummary.ofHost (dto : Gateway.AgentSessionSummaryDto) :
    Client.AgentSessionSummary where
  agent := dto.agent
  agentSessionId := dto.agentSessionId
  cwd := dto.cwd
  additionalDirectories := dto.additionalDirectories
  title := dto.title
  updatedAt := dto.updatedAt.bind parseTimestamp

/-- What an entry is decoded as. -/
def Gateway.AgentSessionSummaryDto.received (dto : Gateway.AgentSessionSummaryDto) :
    Option Client.AgentSessionSummary :=
  (dto.updatedAt.mapM parseTimestamp).map fun updatedAt =>
    { Client.AgentSessionSummary.ofHost dto with updatedAt }

theorem Gateway.AgentSessionSummaryDto.decode_trip_received
    (dto : Gateway.AgentSessionSummaryDto) : decodeJSON (toJson dto).trip = dto.received := by
  have hdirectories := decodeOr_skipEmpty
    [("title", toJson dto.title), ("updated_at", toJson dto.updatedAt)]
    (show convertFromSnakeCase "additional_directories" = "additionalDirectories" by simp)
    (decode_trip (α := String)) dto.additionalDirectories (by simp)
  have hupdated := Container.decodeIfPresent_cons_of []
    (show convertFromSnakeCase "updated_at" = "updatedAt" by simp) decode_trip_date
    toJson_ne_null dto.updatedAt
  have hall : dto.additionalDirectories.mapM some = some dto.additionalDirectories := by
    rw [mapM_some, List.map_id']
  rw [decode_trip_record]
  simp [toFields, ofContainer, hdirectories, hupdated, hall, received,
    Client.AgentSessionSummary.ofHost]
  cases dto.updatedAt.mapM parseTimestamp <;> rfl

/-- The time of the entry, if it has one, is a date. -/
def Gateway.AgentSessionSummaryDto.IsDated (dto : Gateway.AgentSessionSummaryDto) : Prop :=
  ∀ text ∈ dto.updatedAt, (parseTimestamp text).isSome

theorem Gateway.AgentSessionSummaryDto.received_of_isDated {dto : Gateway.AgentSessionSummaryDto}
    (h : dto.IsDated) : dto.received = some (.ofHost dto) := by
  unfold received Client.AgentSessionSummary.ofHost
  cases hupdated : dto.updatedAt with
  | none => rfl
  | some text =>
      obtain ⟨date, hdate⟩ := Option.isSome_iff_exists.mp (h text hupdated)
      have hmap : (some text).mapM parseTimestamp = some (some date) := by
        simp [hdate]
      rw [hmap, Option.bind_some, hdate]
      rfl

theorem Gateway.AgentSessionSummaryDto.isSome_received_iff
    (dto : Gateway.AgentSessionSummaryDto) : dto.received.isSome ↔ dto.IsDated := by
  constructor
  · intro hsome text htext
    have hupdated : dto.updatedAt = some text := htext
    rw [received, hupdated, Option.isSome_map] at hsome
    cases hdate : parseTimestamp text with
    | none =>
        simp [hdate] at hsome
    | some date => rfl
  · intro hdated
    rw [received_of_isDated hdated]
    rfl

/-- The answer to `agent.sessions.list` arrives: one entry for each session, with all it says
but a time that is not a date. -/
def ListingSurvives (result : Gateway.AgentSessionsListResult) : Prop :=
  payloadAs Client.AgentSessionsListResult (some (.decode (toJson result))) =
    some { sessions := result.sessions.map .ofHost, nextCursor := result.nextCursor }

theorem payloadAs_toJson {α β : Type} [Record α] [Keyed β] (a : α) :
    payloadAs β (some (.decode (toJson a))) = ofContainer (Container.trip (toFields a)) := by
  have hvalue : decodePayload β (some (.decode (toJson a))) =
      (decodeJSON (toJson a).trip : Option β).map some := rfl
  rw [payloadAs, hvalue, decode_trip_record]
  cases (ofContainer (Container.trip (toFields a)) : Option β) <;> rfl

/-- **A listing survives** just when every time in it is a date. -/
theorem listingSurvives_iff (result : Gateway.AgentSessionsListResult) :
    ListingSurvives result ↔ ∀ dto ∈ result.sessions, dto.IsDated := by
  have hsessions : (decodeJSON (toJson result.sessions).trip :
      Option (List Client.AgentSessionSummary)) =
        result.sessions.mapM Gateway.AgentSessionSummaryDto.received :=
    decode_trip_list Gateway.AgentSessionSummaryDto.decode_trip_received result.sessions
  have hresult : payloadAs Client.AgentSessionsListResult (some (.decode (toJson result))) =
      (result.sessions.mapM Gateway.AgentSessionSummaryDto.received).map fun sessions =>
        { sessions, nextCursor := result.nextCursor } := by
    rw [payloadAs_toJson]
    simp [toFields, ofContainer, hsessions]
    cases result.sessions.mapM Gateway.AgentSessionSummaryDto.received <;> rfl
  unfold ListingSurvives
  rw [hresult]
  constructor
  · intro hsurvives dto hmem
    have hsome : (result.sessions.mapM Gateway.AgentSessionSummaryDto.received).isSome := by
      rw [← Option.isSome_map, hsurvives]
      rfl
    exact dto.isSome_received_iff.mp (Support.isSome_mapM.mp hsome dto hmem)
  · intro hdated
    rw [mapM_eq_some_map fun dto hmem =>
      Gateway.AgentSessionSummaryDto.received_of_isDated (hdated dto hmem)]
    rfl

/-! ## the inspection of a session -/

theorem decode_trip_uint16 (n : UInt16) : decodeJSON (toJson n).trip = some (n.toNat : Int) := by
  have hlt := n.toNat_lt
  exact (decode_trip_int n.toNat).trans (received_of_lt (by omega))

namespace Client.Inspection

/-- The metadata the client reads: it looks for a title beside the agent's identity, where
there is none. -/
def SessionAcpMetadata.ofHost (host : Slight.Inspection.SessionAcpMetadata) :
    SessionAcpMetadata where
  protocolVersion := host.protocolVersion.toNat
  agentTitle := none
  authMethods := host.authMethods
  capabilities := host.capabilities
  modes := host.modes
  configOptions := host.configOptions.map .reread

theorem SessionAcpMetadata.decode_trip_ofHost (host : Slight.Inspection.SessionAcpMetadata) :
    decodeJSON (toJson host).trip = some (SessionAcpMetadata.ofHost host) := by
  have hversion := decodeOr_value
    [("agent", toJson host.agent), ("auth_methods", toJson host.authMethods),
      ("capabilities", toJson host.capabilities), ("modes", toJson host.modes),
      ("config_options", toJson host.configOptions)]
    (show convertFromSnakeCase "protocol_version" = "protocolVersion" by simp) decode_trip_uint16
    (fun _ => Json.noConfusion) host.protocolVersion 0
  have hmethods := decodeOr_list
    [("capabilities", toJson host.capabilities), ("modes", toJson host.modes),
      ("config_options", toJson host.configOptions)]
    (show convertFromSnakeCase "auth_methods" = "authMethods" by simp)
    (decode_trip (α := AuthMethodSummary)) host.authMethods
  have hoptions := decodeOr_list []
    (show convertFromSnakeCase "config_options" = "configOptions" by simp)
    AcpConfigOption.decode_trip_reread host.configOptions
  have hall : host.authMethods.mapM some = some host.authMethods := by
    rw [mapM_some, List.map_id']
  rw [decode_trip_record]
  simp [toFields, ofContainer, hversion, hmethods, hoptions, hall, ofHost]

end Client.Inspection

/-- The descriptor the client reads. -/
def Client.AgentDescriptor.ofHost (dto : Gateway.AgentDescriptorDto) : Client.AgentDescriptor where
  kind := dto.kind
  displayName := dto.displayName
  version := dto.version

theorem Client.AgentDescriptor.decode_trip_ofHost (dto : Gateway.AgentDescriptorDto) :
    decodeJSON (toJson dto).trip = some (Client.AgentDescriptor.ofHost dto) := by
  rw [decode_trip_record]
  simp [toFields, ofContainer, ofHost]

/-- What a summary is decoded as. -/
def SessionSummaryDto.received (dto : SessionSummaryDto) : Option Client.SessionSummary := do
  let createdAt ← dto.createdAt.mapM parseTimestamp
  let lastActivityAt ← dto.lastActivityAt.mapM parseTimestamp
  let lastSequence ← Slight.received dto.lastSequence
  some { id := dto.id, title := dto.title, agent := dto.agent, model := dto.model,
         effort := dto.effort, workingDirectoryLabel := dto.workingDirectoryLabel,
         gitBranch := dto.gitBranch, status := dto.status, createdAt, lastActivityAt, lastSequence,
         recovery := dto.recovery, archived := dto.archived }

theorem SessionSummaryDto.decode_trip_received (dto : SessionSummaryDto) :
    decodeJSON (toJson dto).trip = dto.received := by
  have hsequence := decodeOr_value
    [("recovery", toJson dto.recovery), ("archived", toJson dto.archived)]
    (show convertFromSnakeCase "last_sequence" = "lastSequence" by simp) decode_trip_nat
    toJson_ne_null dto.lastSequence 0
  have hactivity := Container.decodeIfPresent_cons_of
    [("last_sequence", toJson dto.lastSequence), ("recovery", toJson dto.recovery),
      ("archived", toJson dto.archived)]
    (show convertFromSnakeCase "last_activity_at" = "lastActivityAt" by simp) decode_trip_date
    toJson_ne_null dto.lastActivityAt
  have hcreated := Container.decodeIfPresent_cons_of
    [("last_activity_at", toJson dto.lastActivityAt), ("last_sequence", toJson dto.lastSequence),
      ("recovery", toJson dto.recovery), ("archived", toJson dto.archived)]
    (show convertFromSnakeCase "created_at" = "createdAt" by simp) decode_trip_date
    toJson_ne_null dto.createdAt
  rw [decode_trip_record]
  simp [toFields, ofContainer, hsequence, hactivity, hcreated, received]

/-- What an event among others is decoded as. -/
def GatewayEvent.received (event : GatewayEvent) : Option Client.GatewayEvent := do
  let sequence ← Slight.received event.sequence
  let at_ ← event.at_.mapM parseTimestamp
  some { protocolVersion := 1, sessionId := event.sessionId, sequence, event := event.event, at_,
         payload := receivedRaw event.payload }

theorem decodeOr_version (fields : Fields) :
    (Container.trip (("v", .int 1) :: fields)).decodeOr "v" (1 : Int) = some 1 := by
  have hone := decodeOr_value fields (show convertFromSnakeCase "v" = "v" by simp) decode_trip_int
    toJson_ne_null 1 1
  exact hone.trans (received_of_lt (by simp))

theorem GatewayEvent.decode_trip_received (event : GatewayEvent) :
    decodeJSON (toJson event).trip = event.received := by
  have hraw : (Container.trip [("payload", toJson event.payload)]).decodeIfPresent "payload" =
      some (receivedRaw event.payload) := by
    cases event.payload with
    | none => exact Container.decodeIfPresent_cons_null [] (by simp)
    | some j => exact decodeIfPresent_raw [] (by simp) (some j) (by simp)
  have hdate := Container.decodeIfPresent_cons_of [("payload", toJson event.payload)]
    (show convertFromSnakeCase "at" = "at" by simp) decode_trip_date toJson_ne_null event.at_
  have hnumber : (decodeJSON (toJson event.sequence).trip : Option Int) =
      Slight.received event.sequence := decode_trip_nat event.sequence
  rw [decode_trip_record]
  generalize hcontainer : Container.trip (toFields event) = container
  have hversion : container.decodeOr "v" 1 = some (1 : Int) := by
    rw [← hcontainer]
    exact decodeOr_version _
  have hsession : container.decode "sessionId" = some event.sessionId := by
    simp [← hcontainer, toFields]
  have hsequence : container.decode "sequence" = Slight.received event.sequence := by
    simp [← hcontainer, toFields, hnumber]
  have hname : container.decode "event" = some event.event := by
    simp [← hcontainer, toFields]
  have hat : container.decodeIfPresent "at" = event.at_.mapM parseTimestamp := by
    simp [← hcontainer, toFields, hdate]
  have hpayload : container.decodeIfPresent "payload" = some (receivedRaw event.payload) := by
    simp [← hcontainer, toFields, hraw]
  simp only [ofContainer, hversion, hsession, hsequence, hname, hat, hpayload, received]
  cases Slight.received event.sequence <;> rfl

/-- What an inspection is decoded as. -/
def Inspection.SessionInspectResult.received (host : Inspection.SessionInspectResult) :
    Option Client.Inspection.SessionInspectResult := do
  let session ← host.session.received
  let recentEvents ← host.recentEvents.mapM GatewayEvent.received
  some { session, agent := .ofHost host.agent, acp := some (.ofHost host.acp),
         running := host.running, pendingPermission := host.pendingPermission, recentEvents }

theorem Inspection.SessionInspectResult.payloadAs_received
    (host : Inspection.SessionInspectResult) :
    payloadAs Client.Inspection.SessionInspectResult (some (.decode (toJson host))) =
      host.received := by
  have hevents : (decodeJSON (toJson host.recentEvents).trip : Option (List Client.GatewayEvent)) =
      host.recentEvents.mapM GatewayEvent.received :=
    decode_trip_list GatewayEvent.decode_trip_received host.recentEvents
  have hacp := Container.decodeIfPresent_cons_value
    (α := Client.Inspection.SessionAcpMetadata)
    [("running", toJson host.running), ("pending_permission", toJson host.pendingPermission),
      ("recent_events", toJson host.recentEvents)]
    (show convertFromSnakeCase "acp" = "acp" by simp)
    (show toJson host.acp ≠ .null from Json.noConfusion)
  rw [Client.Inspection.SessionAcpMetadata.decode_trip_ofHost] at hacp
  rw [payloadAs_toJson]
  simp [toFields, ofContainer, hevents, hacp, SessionSummaryDto.decode_trip_received,
    Client.AgentDescriptor.decode_trip_ofHost, received]

/-- The inspection arrives, and says of the agent's identity, its capabilities, modes and
configuration options what the host put there; a category spelled like a known one is the
known one. -/
def InspectionSurvives (host : Inspection.SessionInspectResult) : Prop :=
  ∃ result metadata,
    payloadAs Client.Inspection.SessionInspectResult (some (.decode (toJson host))) = some result ∧
    result.acp = some metadata ∧ metadata.identity = host.acp.agent ∧
    metadata.capabilities = host.acp.capabilities ∧ metadata.modes = host.acp.modes ∧
    metadata.configOptions = host.acp.configOptions.map .reread

/-- A time that is written as a date of four-digit years. -/
def HasYear (ms : Int) : Prop := 0 ≤ yearFromMs ms ∧ yearFromMs ms ≤ 9999

/-- A number whose nearest `Double` fits 64 bits. -/
def FitsInt (n : Nat) : Prop := n < 2 ^ 63 - 512

/-- What the client can read of a session: its times have four-digit years, and its numbers
fit. -/
structure Inspectable (detail : SessionDetail) : Prop where
  created : HasYear detail.summary.createdAtMs
  active : HasYear detail.summary.lastActivityAtMs
  sequence : FitsInt detail.summary.lastSequence
  events : ∀ event ∈ detail.recentEvents, HasYear event.timestampMs ∧ FitsInt event.sequence

theorem isSome_received_nat (n : Nat) : (received n).isSome ↔ FitsInt n := by
  unfold FitsInt
  rw [← trip_lt_iff n]
  have hnonneg := trip_nonneg n
  unfold received int64?
  split <;> simp <;> omega

theorem mapM_some_value (text : String) :
    (some text).mapM parseTimestamp = (parseTimestamp text).map some := by
  simp

theorem isSome_received_summary (summary : SessionSummary) :
    (SessionSummaryDto.ofSummary summary).received.isSome ↔
      HasYear summary.createdAtMs ∧ HasYear summary.lastActivityAtMs ∧
        FitsInt summary.lastSequence := by
  have hcreated := parseTimestamp_rfc3339FromMs_isSome_iff summary.createdAtMs
  have hactive := parseTimestamp_rfc3339FromMs_isSome_iff summary.lastActivityAtMs
  unfold HasYear
  rw [← hcreated, ← hactive, ← isSome_received_nat]
  unfold SessionSummaryDto.received SessionSummaryDto.ofSummary
  dsimp only
  rw [mapM_some_value, mapM_some_value]
  cases parseTimestamp (rfc3339FromMs summary.createdAtMs) with
  | none => simp
  | some createdAt =>
      cases parseTimestamp (rfc3339FromMs summary.lastActivityAtMs) with
      | none => simp
      | some lastActivityAt =>
          cases received summary.lastSequence <;> simp

theorem isSome_received_event (sessionId : String) (sequenced : SequencedEvent) :
    (gatewayEvent sessionId sequenced).received.isSome ↔
      HasYear sequenced.timestampMs ∧ FitsInt sequenced.sequence := by
  have hat := parseTimestamp_rfc3339FromMs_isSome_iff sequenced.timestampMs
  unfold HasYear
  rw [← hat, ← isSome_received_nat]
  unfold GatewayEvent.received gatewayEvent
  dsimp only
  rw [mapM_some_value]
  cases parseTimestamp (rfc3339FromMs sequenced.timestampMs) with
  | none => cases received sequenced.sequence <;> simp
  | some at_ => cases received sequenced.sequence <;> simp

/-- An inspection is decoded just when its session is inspectable. -/
theorem isSome_received_inspection (sessionId : String) (detail : SessionDetail)
    (acp : Inspection.SessionAcpMetadata) :
    (Inspection.SessionInspectResult.ofDetail sessionId detail acp).received.isSome ↔
      Inspectable detail := by
  have hsummary := isSome_received_summary detail.summary
  have hevents : ((detail.recentEvents.map (gatewayEvent sessionId)).mapM
      GatewayEvent.received).isSome ↔
        ∀ event ∈ detail.recentEvents, HasYear event.timestampMs ∧ FitsInt event.sequence := by
    rw [Support.isSome_mapM, List.forall_mem_map]
    exact forall₂_congr fun event _ => isSome_received_event sessionId event
  have hparts : (Inspection.SessionInspectResult.ofDetail sessionId detail acp).received.isSome ↔
      (SessionSummaryDto.ofSummary detail.summary).received.isSome ∧
        ((detail.recentEvents.map (gatewayEvent sessionId)).mapM GatewayEvent.received).isSome := by
    unfold Inspection.SessionInspectResult.received Inspection.SessionInspectResult.ofDetail
    dsimp only
    cases (SessionSummaryDto.ofSummary detail.summary).received with
    | none => simp
    | some session =>
        cases (detail.recentEvents.map (gatewayEvent sessionId)).mapM GatewayEvent.received <;>
          simp
  rw [hparts, hsummary, hevents]
  exact ⟨fun h => ⟨h.1.1, h.1.2.1, h.1.2.2, h.2⟩, fun h => ⟨⟨h.created, h.active, h.sequence⟩,
    h.events⟩⟩

/-- What is decoded of an inspection says what the host put there, but for the identity. -/
theorem acp_of_received {host : Inspection.SessionInspectResult}
    {result : Client.Inspection.SessionInspectResult} (h : host.received = some result) :
    result.acp = some (.ofHost host.acp) := by
  unfold Inspection.SessionInspectResult.received at h
  simp only [Option.bind_eq_bind, Option.bind_eq_some_iff] at h
  obtain ⟨session, -, recentEvents, -, h⟩ := h
  rw [← Option.some.inj h]

/-- **An inspection survives** just when its session is inspectable and its agent gave no
identity: the client does not read the identity from where the host writes it. -/
theorem inspectionSurvives_iff (sessionId : String) (detail : SessionDetail)
    (acp : Inspection.SessionAcpMetadata) :
    InspectionSurvives (.ofDetail sessionId detail acp) ↔
      Inspectable detail ∧ acp.agent = ⟨none, none, none⟩ := by
  rw [← isSome_received_inspection sessionId detail acp]
  unfold InspectionSurvives
  rw [Inspection.SessionInspectResult.payloadAs_received]
  constructor
  · rintro ⟨result, metadata, hresult, hacp, hidentity, -⟩
    refine ⟨by rw [hresult]; rfl, ?_⟩
    rw [acp_of_received hresult] at hacp
    rw [← Option.some.inj hacp] at hidentity
    exact hidentity.symm
  · rintro ⟨hsome, hidentity⟩
    obtain ⟨result, hresult⟩ := Option.isSome_iff_exists.mp hsome
    exact ⟨result, _, hresult, acp_of_received hresult, hidentity.symm, rfl, rfl, rfl⟩

end Slight
