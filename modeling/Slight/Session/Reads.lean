import Slight.Session.Manager

/-!
# Slight.Session.Reads

What the manager answers about all its sessions, and about the sessions its
agents know of.  None of it changes more than the count of the readings
(`World.Reads`), though listing an agent's sessions launches the agent.
-/

namespace Slight

open Support Program

/-! ## what is listed -/

/-- An agent that can list sessions; whether an adapter can launch one may change
from one reading to the next. -/
class AcpDiscovery (C : Type) where
  listSessions : C → Option String → Option String → Except AcpError ListedSessionPage × C
  isAvailable : AgentAdapter C → Nat → Bool

/-- What was negotiated with a session's agent. -/
structure SessionAcpMetadata where
  initialized : Option InitializeSummary
  modes : Option AcpModeState
  configOptions : List AcpConfigOption

/-- All that the manager knows of one session. -/
structure SessionDetail where
  summary : SessionSummary
  agent : AgentDescriptor
  agentSessionId : Option String
  acp : SessionAcpMetadata
  running : Bool
  pendingPermission : Option PermissionRequestPayload
  recentEvents : List SequencedEvent

/-- Newest activity first. -/
def byActivity (summaries : List SessionSummary) : List SessionSummary :=
  summaries.insertionSort fun a b => b.lastActivityAtMs ≤ a.lastActivityAtMs

/-- Adds paths that are not there yet, until there are `limit`; whether it stopped
there. -/
def pushPaths (limit : Nat) (paths : List String) : List String → List String × Bool
  | [] => (paths, false)
  | path :: rest =>
      if path ∈ paths then pushPaths limit paths rest
      else if limit ≤ (paths ++ [path]).length then (paths ++ [path], true)
      else pushPaths limit (paths ++ [path]) rest

variable {S C : Type}

/-- The summaries of all sessions, live ones first. -/
def Inner.summaries (inner : Inner S C) : List SessionSummary :=
  inner.sessions.entries.map (·.2.summary) ++ inner.recovered.entries.map (·.2.summary)

namespace Manager

/-- Every session, live or lost with an earlier host. -/
def listSessions : Manager S C (List SessionSummary) := do
  let world ← get
  pure (byActivity world.inner.summaries)

/-- The agent sessions that are bound to a session already, an archived one too. -/
def importedAgentSessionIds (agent : AgentKind) : Manager S C (List String) := do
  let world ← get
  let live := world.inner.sessions.entries.filter fun entry => entry.2.summary.agent = agent.asStr
  let recovered := world.inner.recovered.entries.filter fun entry =>
    entry.2.summary.agent = agent.asStr
  pure (live.filterMap (·.2.agentSessionId) ++ recovered.filterMap (·.2.agentSessionId))

/-- The directories of the sessions, each once, by the latest activity in it. -/
def recentWorkingDirectories (limit : Nat) : Manager S C (List String) := do
  let world ← get
  pure (pushPaths limit []
    ((byActivity world.inner.summaries).map (·.workingDirectoryLabel))).1

/-- A session of an earlier host has no process, and nothing was negotiated for it. -/
def inspectSession (sessionId : SessionId) : Manager S C SessionDetail := do
  let world ← get
  match world.inner.sessions.lookup sessionId with
  | some session =>
      pure {
        summary := session.summary
        agent := session.descriptor
        agentSessionId := session.agentSessionId
        acp := {
          initialized := some session.initialized
          modes := session.modes
          configOptions := session.configOptions }
        running := session.running
        pendingPermission := session.pendingPermission
        recentEvents := session.journal }
  | none =>
      match world.inner.recovered.lookup sessionId with
      | some session =>
          pure {
            summary := session.summary
            agent := session.descriptor
            agentSessionId := session.agentSessionId
            acp := { initialized := none, modes := none, configOptions := [] }
            running := false
            pendingPermission := none
            recentEvents := session.journal }
      | none => throw (.unknownSession sessionId)

section

variable [AcpSession C] [AcpDiscovery C]

/-- Asks an agent launched for this alone. -/
def listAgentSessions (agent : AgentKind) (cwd cursor : Option String) :
    Manager S C ListedSessionPage := do
  let world ← get
  match world.inner.adapters.get agent with
  | none => throw (.unknownAgent agent.asStr)
  | some adapter =>
      match ← spawnSession adapter { workingDirectory := cwd, initialPrompt := none } with
      | .error error => throw (.agent error)
      | .ok connection =>
          let (initialized, connection) ← answered (AcpSession.initializeAgent connection)
          if initialized.agentCapabilities.sessionList then
            let (page, _) ← answered (AcpDiscovery.listSessions connection cwd cursor)
            pure page
          else throw (.unsupportedCapability "session/list")

/-- The agents that are installed. -/
def availableKinds : Manager S C (List AgentKind) := do
  let world ← get
  let reading ← tick
  pure ((world.inner.adapters.filter fun adapter =>
    AcpDiscovery.isAvailable adapter reading).map (·.kind))

/-- Adds the directories the agents know of; an agent that fails is left out. -/
def addAgentPaths (limit : Nat) : List AgentKind → List String → Manager S C (List String)
  | [], paths => pure paths
  | agent :: agents, paths => do
      match ← (listAgentSessions agent none none).attempt with
      | .error _ => addAgentPaths limit agents paths
      | .ok page =>
          match pushPaths limit paths (page.sessions.map (·.cwd)) with
          | (paths, true) => pure paths
          | (paths, false) => addAgentPaths limit agents paths

/-- The directories of the sessions first; the agents are asked for more of them. -/
def workspacePaths (limit : Nat) : Manager S C (List String) := do
  let paths ← recentWorkingDirectories limit
  let agents ← availableKinds
  addAgentPaths limit agents paths

end

end Manager

/-! ## reading changes nothing -/

/-- Nothing has changed but the count of the readings. -/
def World.Reads (world world' : World S C) : Prop := world' = { world with ticks := world'.ticks }

namespace World.Reads

theorem refl (world : World S C) : world.Reads world := rfl

theorem trans {world world' world'' : World S C} (h : world.Reads world')
    (h' : world'.Reads world'') : world.Reads world'' := by
  rw [World.Reads] at h h' ⊢
  rw [h', h]

/-- What only reads ends where it began, but for the readings. -/
theorem of_performs {α : Type} {m : Manager S C α} (h : m.Performs World.Reads)
    (world : World S C) : world.Reads (m.final world) :=
  h.preserves (I := fun world' => world.Reads world') (fun _ _ hstep hreads => hreads.trans hstep)
    (.refl world)

end World.Reads

namespace Manager

/-- A reading of the clock counts as nothing. -/
theorem reads_tick : (tick : Manager S C Nat).Performs World.Reads :=
  performs_of_step fun _ => rfl

/-- Neither does what an agent answers. -/
theorem reads_answered {α : Type} (answer : Except AcpError α × C) :
    (answered answer : Manager S C _).Performs World.Reads := by
  match answer with
  | (.ok _, _) => exact performs_pure _
  | (.error _, _) => exact performs_throw _

/-- An answer about one session, live or recovered. -/
theorem reads_session {α : Type} (sessionId : SessionId) (live : Session C → α)
    (recovered : RecoveredSession → α) :
    (do let world ← get
        match world.inner.sessions.lookup sessionId with
        | some session => pure (live session)
        | none =>
            match world.inner.recovered.lookup sessionId with
            | some session => pure (recovered session)
            | none => throw (.unknownSession sessionId) : Manager S C α).Performs World.Reads := by
  refine performs_bind performs_get fun world => ?_
  cases world.inner.sessions.lookup sessionId with
  | some session => exact performs_pure _
  | none =>
      cases world.inner.recovered.lookup sessionId with
      | some session => exact performs_pure _
      | none => exact performs_throw _

/-- Attaching to a session changes nothing in it. -/
theorem reads_attach (sessionId : SessionId) (afterSequence : Option Nat) :
    (attach sessionId afterSequence : Manager S C _).Performs World.Reads :=
  reads_session sessionId _ _

theorem reads_history (sessionId : SessionId) (beforeSequence : Option Nat) (limit : Nat) :
    (history sessionId beforeSequence limit : Manager S C _).Performs World.Reads :=
  reads_session sessionId _ _

theorem reads_inspectSession (sessionId : SessionId) :
    (inspectSession sessionId : Manager S C _).Performs World.Reads :=
  reads_session sessionId _ _

theorem reads_listSessions : (listSessions : Manager S C _).Performs World.Reads :=
  fun _ => .refl

theorem reads_importedAgentSessionIds (agent : AgentKind) :
    (importedAgentSessionIds agent : Manager S C _).Performs World.Reads :=
  fun _ => .refl

variable [AcpSession C] [AcpDiscovery C]

theorem reads_listAgentSessions (agent : AgentKind) (cwd cursor : Option String) :
    (listAgentSessions agent cwd cursor : Manager S C _).Performs World.Reads := by
  refine performs_bind performs_get fun world => ?_
  cases world.inner.adapters.get agent with
  | none => exact performs_throw _
  | some adapter =>
      refine performs_bind (performs_bind reads_tick fun _ => performs_pure _) fun spawned => ?_
      cases spawned with
      | error error => exact performs_throw _
      | ok connection =>
          refine performs_bind (reads_answered _) fun (initialized, connection) => ?_
          dsimp only
          split
          · exact performs_bind (reads_answered _) fun _ => performs_pure _
          · exact performs_throw _

/-- The agents are asked one after the other, by induction on those that are left. -/
theorem reads_addAgentPaths (limit : Nat) (agents : List AgentKind) (paths : List String) :
    (addAgentPaths limit agents paths : Manager S C _).Performs World.Reads := by
  induction agents generalizing paths with
  | nil => exact performs_pure _
  | cons agent agents ih =>
      refine performs_bind (performs_attempt (reads_listAgentSessions agent none none)) fun outcome => ?_
      cases outcome with
      | error error => exact ih paths
      | ok page =>
          dsimp only
          split
          · exact performs_pure _
          · exact ih _

theorem reads_workspacePaths (limit : Nat) :
    (workspacePaths limit : Manager S C _).Performs World.Reads := by
  refine performs_bind (fun _ => .refl) fun paths => ?_
  refine performs_bind ?_ fun agents => reads_addAgentPaths limit agents paths
  exact performs_bind performs_get fun _ => performs_bind reads_tick fun _ => performs_pure _

end Manager

instance : AcpDiscovery ScriptedAgent where
  listSessions agent _ _ := (.ok { sessions := [], nextCursor := none }, agent)
  isAvailable _ _ := true

end Slight
