import Slight.Session.Changes
import Slight.Support.Lists

/-!
# Slight.Session.Recovery

`SessionManager::new`: every stored session is loaded with its journal and
either rehydrated, by resuming its agent session, or kept as it is with the
reason why that failed.

`recovers_recoverStoredSession` says what becomes of one row, `recovered_new`
what becomes of all of them.
-/

namespace Slight

open Support Program

variable {S C : Type}

/-! ## the recovery of one row -/

/-- A summary for a row whose metadata could not be decoded at all. -/
def unreadableSummary (stored : StoredSession) (reason : String) : SessionSummary where
  id := stored.sessionId
  title := "Unreadable session"
  agent := "unknown"
  model := none
  effort := none
  workingDirectoryLabel := "~"
  gitBranch := none
  status := .exited
  createdAtMs := stored.createdAtMs
  lastActivityAtMs := stored.updatedAtMs
  lastSequence := stored.lastSequence
  recovery := .unavailable ("session metadata could not be read: " ++ reason)
  archived := false

/-- A native session that was resumed. -/
structure RehydratedSession (C : Type) where
  descriptor : AgentDescriptor
  initialized : InitializeSummary
  connection : C
  sessionMetadata : SessionMetadata

/-- The live session a resumed one becomes. -/
def RehydratedSession.session (rehydrated : RehydratedSession C) (record : PersistedSession)
    (journal : List SequencedEvent) (summary : SessionSummary) (now : Int) : Session C where
  summary := { summary with status := .idle, recovery := .recovered, lastActivityAtMs := now }
  descriptor := rehydrated.descriptor
  initialized := rehydrated.initialized
  connection := rehydrated.connection
  agentSessionId := some rehydrated.sessionMetadata.agentSessionId
  origin := record.origin
  resolvedWorkingDirectory := record.resolvedWorkingDirectory
  modes := rehydrated.sessionMetadata.modes
  configOptions := rehydrated.sessionMetadata.configOptions
  journal := journal
  pendingPermission := none
  running := true
  exitReported := false
  reasoningStartedAtMs := none
  reasoningEndedAtMs := none

/-- The journal a session is recovered with; events that do not decode are left
out. -/
def recoveredJournal [StoredReader] [SessionStore S] (store : S) (sessionId : SessionId)
    (journalLimit : Nat) : List SequencedEvent :=
  match SessionStore.eventsAfter store sessionId none journalLimit with
  | .ok events => events.filterMap StoredEvent.sequenced
  | .error _ => []

namespace Manager

def setRecovered (sessionId : SessionId) (session : RecoveredSession) : Manager S C Unit :=
  modify fun world =>
    { world with
      inner := { world.inner with recovered := world.inner.recovered.insert sessionId session } }

section

variable [AcpSession C]

/-- Launches the agent and resumes the native session.  Recovery never asks for
a new session, nor for one to be loaded. -/
def rehydrateSession (adapter : AgentAdapter C) (record : PersistedSession) (nativeId : String) :
    Manager S C (Except SessionRecoveryState (RehydratedSession C)) := do
  let cwd := record.resolvedWorkingDirectory
  match ← spawnSession adapter { workingDirectory := some cwd, initialPrompt := none } with
  | .error error =>
      pure (.error (.unavailable ("could not launch agent: " ++ error.message)))
  | .ok connection =>
      match AcpSession.initializeAgent connection with
      | (.error error, _) =>
          pure (.error (.unavailable ("agent handshake failed: " ++ error.message)))
      | (.ok initialized, connection) =>
          if initialized.agentCapabilities.sessionResume then
            note (.requested (.resume nativeId))
            match AcpSession.resumeSession connection nativeId cwd with
            | (.error error, _) =>
                pure (.error (.stale (record.origin.asStr ++ " session " ++ nativeId ++
                  " is no longer available: " ++ error.message)))
            | (.ok sessionMetadata, connection) =>
                pure (.ok {
                  descriptor := negotiated adapter.descriptor initialized
                  initialized
                  connection
                  sessionMetadata })
          else
            pure (.error (.unavailable
              ("agent " ++ record.summary.agent ++ " does not support session/resume")))

/-- Rehydrates the session, if its agent is registered and it has a native id. -/
def rehydration (record : PersistedSession) :
    Manager S C (Except SessionRecoveryState (RehydratedSession C)) := do
  let world ← get
  match world.inner.adapters.get (agentKindFromStr record.summary.agent),
    record.agentSessionId with
  | none, _ =>
      pure (.error (.unavailable
        ("agent " ++ record.summary.agent ++ " is not registered on this host")))
  | some _, none =>
      pure (.error (.unavailable "session has no native agent session id to resume"))
  | some adapter, some nativeId => rehydrateSession adapter record nativeId

def installRehydratedSession (record : PersistedSession) (rehydrated : RehydratedSession C)
    (journal : List SequencedEvent) (summary : SessionSummary) : Manager S C Unit := do
  let now ← nowMs
  setSession summary.id (rehydrated.session record journal summary now)

variable [SessionStore S]

/-- The descriptor of the record's adapter, if it is registered. -/
def recordDescriptor (adapters : AdapterRegistry C) (record : PersistedSession) :
    AgentDescriptor :=
  let agent := agentKindFromStr record.summary.agent
  match adapters.get agent with
  | some adapter => adapter.descriptor
  | none => { kind := agent, displayName := record.summary.agent, version := none }

/-- Loads one persisted session and either rehydrates it or records why it could
not be recovered. -/
def recoverStoredSession [StoredReader] (stored : StoredSession) : Manager S C Unit := do
  let world ← get
  let journal := recoveredJournal world.inner.store stored.sessionId world.inner.journalLimit
  match stored.record with
  | none =>
      setRecovered stored.sessionId {
        summary := unreadableSummary stored (world.env.readError stored.metadata)
        descriptor := { kind := .custom "unknown", displayName := "Unknown", version := none }
        agentSessionId := none
        journal }
  | some record =>
      let summary := { record.summary with lastSequence := stored.lastSequence }
      match ← rehydration record with
      | .ok rehydrated => installRehydratedSession record rehydrated journal summary
      | .error state =>
          setRecovered stored.sessionId {
            summary := { summary with status := .exited, recovery := state }
            descriptor := recordDescriptor world.inner.adapters record
            agentSessionId := record.agentSessionId
            journal }

end

end Manager

namespace SessionManager

/-- A manager without sessions. -/
def starting (env : Env) (ticks : Nat) (adapters : AdapterRegistry C) (store : S)
    (journalLimit : Nat) : World S C where
  env := env
  inner := {
    adapters, store, journalLimit
    sessions := ∅
    subscribers := ∅
    recovered := ∅ }
  ticks := ticks
  effects := []

section

variable {env : Env} {ticks : Nat} {adapters : AdapterRegistry C} {store : S} {journalLimit : Nat}

theorem lookup_sessions_starting_ne (id : SessionId) (session : Session C) :
    (starting env ticks adapters store journalLimit).inner.sessions.lookup id ≠ some session := by
  rw [starting, AList.lookup_empty]
  exact (Option.some_ne_none session).symm

theorem lookup_recovered_starting_ne (id : SessionId) (session : RecoveredSession) :
    (starting env ticks adapters store journalLimit : World S C).inner.recovered.lookup id ≠
      some session := by
  rw [starting, AList.lookup_empty]
  exact (Option.some_ne_none session).symm

end

/-- `SessionManager::new` recovers every stored session. -/
def new [StoredReader] [SessionStore S] [AcpSession C] (env : Env) (ticks : Nat)
    (adapters : AdapterRegistry C) (store : S) (journalLimit : Nat) : World S C :=
  let stored :=
    match SessionStore.listSessions store with
    | .ok stored => stored
    | .error _ => []
  (stored.forM Manager.recoverStoredSession).final
    (starting env ticks adapters store journalLimit)

end SessionManager

/-! ## what becomes of one row -/

/-- The states of a session whose recovery failed. -/
def SessionRecoveryState.isLost : SessionRecoveryState → Bool
  | .stale _ | .unavailable _ => true
  | .live | .recovered => false

/-- The state of a session whose metadata could not be decoded. -/
def SessionRecoveryState.BlamesMetadata : SessionRecoveryState → Prop
  | .unavailable reason => ∃ text, reason = "session metadata could not be read: " ++ text
  | _ => False

/-- Reasons that begin differently are about something else. -/
theorem SessionRecoveryState.not_blamesMetadata {beginning : String}
    (h : ∃ pair ∈ beginning.toList.zip "session metadata could not be read: ".toList,
      pair.1 ≠ pair.2) (text : String) :
    ¬ (SessionRecoveryState.unavailable (beginning ++ text)).BlamesMetadata := by
  rintro ⟨text', heq⟩
  exact append_ne_append h text text' heq

/-- The row as a live session: what it stored, resumed. -/
structure StoredSession.Rehydrates [StoredReader] [SessionStore S] (stored : StoredSession)
    (store : S) (journalLimit : Nat) (session : Session C) : Prop where
  record : ∃ record : PersistedSession, stored.record = some record ∧
    session.summary = { record.summary with
      lastSequence := stored.lastSequence
      status := .idle
      recovery := .recovered
      lastActivityAtMs := session.summary.lastActivityAtMs }
  journal : session.journal = recoveredJournal store stored.sessionId journalLimit
  running : session.running = true
  exitReported : session.exitReported = false
  pendingPermission : session.pendingPermission = none

/-- The row as a session that could not be recovered. -/
structure StoredSession.Retains [StoredReader] [SessionStore S] (stored : StoredSession)
    (store : S) (journalLimit : Nat) (session : RecoveredSession) : Prop where
  record : ∀ record : PersistedSession, stored.record = some record →
    session.summary = { record.summary with
      lastSequence := stored.lastSequence
      status := .exited
      recovery := session.summary.recovery }
  unreadable : stored.record = none →
    ∃ reason, session.summary = unreadableSummary stored reason
  status : session.summary.status = .exited
  recovery : session.summary.recovery.isLost = true
  lastSequence : session.summary.lastSequence = stored.lastSequence
  journal : session.journal = recoveredJournal store stored.sessionId journalLimit

/-- Between the two states lie only readings of the environment, resume requests
and changes of the two maps. -/
structure World.RecoversTo (world world' : World S C) : Prop where
  env : world'.env = world.env
  adapters : world'.inner.adapters = world.inner.adapters
  store : world'.inner.store = world.inner.store
  subscribers : world'.inner.subscribers = world.inner.subscribers
  journalLimit : world'.inner.journalLimit = world.inner.journalLimit
  ticks : world.ticks ≤ world'.ticks
  effects : ∃ requests, world'.effects = world.effects ++ requests ∧
    ∀ effect ∈ requests, ∃ nativeId, effect = .requested (.resume nativeId)

namespace World.RecoversTo

theorem refl (world : World S C) : world.RecoversTo world :=
  ⟨rfl, rfl, rfl, rfl, rfl, Nat.le_refl _, [], (List.append_nil _).symm, by simp⟩

theorem trans {world world' world'' : World S C} (h : world.RecoversTo world')
    (h' : world'.RecoversTo world'') : world.RecoversTo world'' := by
  obtain ⟨requests, heffects, hresume⟩ := h.effects
  obtain ⟨requests', heffects', hresume'⟩ := h'.effects
  refine ⟨h'.env.trans h.env, h'.adapters.trans h.adapters, h'.store.trans h.store,
    h'.subscribers.trans h.subscribers, h'.journalLimit.trans h.journalLimit,
    h.ticks.trans h'.ticks, requests ++ requests', ?_, ?_⟩
  · rw [heffects', heffects, List.append_assoc]
  · intro effect heffect
    exact (List.mem_append.mp heffect).elim (hresume effect) (hresume' effect)

end World.RecoversTo

namespace Manager

/-- The program returns a value with `Q`, and at most reads the environment and
asks to resume sessions. -/
def Quietly {α : Type} (m : Manager S C α) (Q : α → Prop) : Prop :=
  ∀ world, ∃ a world', m.exec world = (.ok a, world') ∧ world.RecoversTo world' ∧
    world'.inner.sessions = world.inner.sessions ∧
    world'.inner.recovered = world.inner.recovered ∧ Q a

section

variable {α β : Type} {P : α → Prop} {Q : β → Prop}

theorem quietly_pure {a : α} (h : P a) : Quietly (pure a : Manager S C α) P :=
  fun world => ⟨a, world, rfl, .refl world, rfl, rfl, h⟩

theorem quietly_get : Quietly (get : Manager S C (World S C)) fun _ => True :=
  fun world => ⟨world, world, rfl, .refl world, rfl, rfl, trivial⟩

theorem quietly_bind {m : Manager S C α} {f : α → Manager S C β} (hm : Quietly m P)
    (hf : ∀ a, P a → Quietly (f a) Q) : Quietly (m >>= f) Q := by
  intro world
  obtain ⟨a, world', hexec, hrecovers, hsessions, hrecovered, ha⟩ := hm world
  obtain ⟨b, world'', hexec', hrecovers', hsessions', hrecovered', hb⟩ := hf a ha world'
  refine ⟨b, world'', ?_, hrecovers.trans hrecovers', hsessions'.trans hsessions,
    hrecovered'.trans hrecovered, hb⟩
  rw [exec_bind, hexec]
  exact hexec'

end

theorem quietly_spawnSession (adapter : AgentAdapter C) (launch : AgentLaunchConfig) :
    Quietly (spawnSession adapter launch : Manager S C _) fun _ => True := by
  intro world
  exact ⟨_, _, rfl, ⟨rfl, rfl, rfl, rfl, rfl, Nat.le_succ _, [], (List.append_nil _).symm, by simp⟩,
    rfl, rfl, trivial⟩

theorem quietly_resume (nativeId : String) :
    Quietly (note (.requested (.resume nativeId)) : Manager S C Unit) fun _ => True := by
  intro world
  refine ⟨(), _, rfl, ⟨rfl, rfl, rfl, rfl, rfl, Nat.le_refl _, [.requested (.resume nativeId)],
    rfl, ?_⟩, rfl, rfl, trivial⟩
  intro effect heffect
  exact ⟨nativeId, List.mem_singleton.mp heffect⟩

variable [AcpSession C]

/-- A failed rehydration says why the session is lost. -/
theorem quietly_rehydrateSession (adapter : AgentAdapter C) (record : PersistedSession)
    (nativeId : String) :
    Quietly (rehydrateSession adapter record nativeId : Manager S C _)
      fun outcome => ∀ state, outcome = .error state →
        state.isLost = true ∧ ¬ state.BlamesMetadata := by
  have hlost : ∀ {state : SessionRecoveryState}, state.isLost = true → ¬ state.BlamesMetadata →
      Quietly (pure (.error state) : Manager S C (Except SessionRecoveryState (RehydratedSession C)))
        fun outcome => ∀ state, outcome = .error state →
          state.isLost = true ∧ ¬ state.BlamesMetadata := by
    intro state hstate hblames
    refine quietly_pure fun state' heq => ?_
    rw [← Except.error.inj heq]
    exact ⟨hstate, hblames⟩
  refine quietly_bind (quietly_spawnSession _ _) fun spawned _ => ?_
  cases spawned with
  | error error => exact hlost rfl (SessionRecoveryState.not_blamesMetadata (by decide) _)
  | ok connection =>
      dsimp only
      split
      · exact hlost rfl (SessionRecoveryState.not_blamesMetadata (by decide) _)
      · split
        · refine quietly_bind (quietly_resume nativeId) fun _ _ => ?_
          split
          · exact hlost rfl id
          · exact quietly_pure fun state heq => by contradiction
        · refine hlost rfl ?_
          rw [String.append_assoc]
          exact SessionRecoveryState.not_blamesMetadata (by decide) _

theorem quietly_rehydration (record : PersistedSession) :
    Quietly (rehydration record : Manager S C _)
      fun outcome => ∀ state, outcome = .error state →
        state.isLost = true ∧ ¬ state.BlamesMetadata := by
  refine quietly_bind quietly_get fun world _ => ?_
  split
  · refine quietly_pure fun state heq => ?_
    rw [← Except.error.inj heq, String.append_assoc]
    exact ⟨rfl, SessionRecoveryState.not_blamesMetadata (by decide) _⟩
  · refine quietly_pure fun state heq => ?_
    rw [← Except.error.inj heq,
      ← @String.append_empty "session has no native agent session id to resume"]
    exact ⟨rfl, SessionRecoveryState.not_blamesMetadata (by decide) _⟩
  · exact quietly_rehydrateSession _ _ _

variable [StoredReader] [SessionStore S]

/-- **One row**: it becomes a live session, or one that could not be recovered. -/
theorem final_recoverStoredSession (stored : StoredSession) (world : World S C) :
    let world' := (recoverStoredSession stored).final world
    world.RecoversTo world' ∧
    ((∃ session, stored.Rehydrates world.inner.store world.inner.journalLimit session ∧
        world'.inner.sessions = world.inner.sessions.insert session.summary.id session ∧
        world'.inner.recovered = world.inner.recovered) ∨
      ∃ session, stored.Retains world.inner.store world.inner.journalLimit session ∧
        (session.summary.recovery.BlamesMetadata ↔
          stored.record = none) ∧
        world'.inner.sessions = world.inner.sessions ∧
        world'.inner.recovered = world.inner.recovered.insert stored.sessionId session) := by
  intro world'
  have hworld' : world' = (recoverStoredSession stored).final world := rfl
  clear_value world'
  rw [recoverStoredSession, final_bind, exec_get] at hworld'
  dsimp only at hworld'
  cases hread : stored.record with
  | none =>
      rw [hread] at hworld'
      subst hworld'
      refine ⟨⟨rfl, rfl, rfl, rfl, rfl, Nat.le_refl _, [], (List.append_nil _).symm, by simp⟩,
        .inr ⟨_, ⟨fun record h => ?_, fun _ => ⟨_, rfl⟩, rfl, rfl, rfl, rfl⟩, ?_, rfl, rfl⟩⟩
      · rw [hread] at h
        contradiction
      · exact iff_of_true ⟨_, rfl⟩ rfl
  | some record =>
      rw [hread] at hworld'
      dsimp only at hworld'
      obtain ⟨outcome, between, hexec, hrecovers, hsessions, hrecovered, houtcome⟩ :=
        quietly_rehydration record world
      rw [final_bind, hexec] at hworld'
      cases outcome with
      | ok rehydrated =>
          subst hworld'
          have hread' : stored.Rehydrates world.inner.store world.inner.journalLimit
              (rehydrated.session record
                (recoveredJournal world.inner.store stored.sessionId world.inner.journalLimit)
                { record.summary with lastSequence := stored.lastSequence }
                (between.env.nowMs between.ticks)) :=
            ⟨⟨record, hread, rfl⟩, rfl, rfl, rfl, rfl⟩
          refine ⟨hrecovers.trans ⟨rfl, rfl, rfl, rfl, rfl, Nat.le_succ _, [],
            (List.append_nil _).symm, by simp⟩, .inl ⟨_, hread', ?_, ?_⟩⟩
          · rw [← hsessions]
            rfl
          · rw [← hrecovered]
            rfl
      | error state =>
          subst hworld'
          have hretains : stored.Retains world.inner.store world.inner.journalLimit
              { summary := { record.summary with
                  lastSequence := stored.lastSequence
                  status := .exited
                  recovery := state }
                descriptor := recordDescriptor world.inner.adapters record
                agentSessionId := record.agentSessionId
                journal := recoveredJournal world.inner.store stored.sessionId
                  world.inner.journalLimit } := by
            refine ⟨fun record' h => ?_, fun h => ?_, rfl, (houtcome state rfl).1, rfl, rfl⟩
            · obtain rfl : record = record' := Option.some.inj (hread.symm.trans h)
              rfl
            · rw [hread] at h
              contradiction
          refine ⟨hrecovers.trans ⟨rfl, rfl, rfl, rfl, rfl, Nat.le_refl _, [],
            (List.append_nil _).symm, by simp⟩, .inr ⟨_, hretains,
            iff_of_false (houtcome state rfl).2 (Option.some_ne_none record), ?_, ?_⟩⟩
          · rw [← hsessions]
            rfl
          · rw [← hrecovered]
            rfl

/-- Recovering a row does not fail. -/
theorem exec_recoverStoredSession (stored : StoredSession) (world : World S C) :
    ∃ world', (recoverStoredSession stored : Manager S C Unit).exec world = (.ok (), world') := by
  rw [recoverStoredSession, exec_bind, exec_get]
  dsimp only
  cases stored.record with
  | none => exact ⟨_, rfl⟩
  | some record =>
      obtain ⟨outcome, between, hexec, -⟩ := quietly_rehydration record world
      dsimp only
      rw [exec_bind, hexec]
      cases outcome <;> exact ⟨_, rfl⟩

end Manager

/-! ## what becomes of all rows -/

/-- The journal kept for a session, live or recovered. -/
def World.journal (world : World S C) (sessionId : SessionId) : Option (List SequencedEvent) :=
  match world.inner.sessions.lookup sessionId with
  | some session => some session.journal
  | none => (world.inner.recovered.lookup sessionId).map (·.journal)

section

variable [StoredReader]

/-- The row's metadata, if it reads, is about the row's session. -/
def StoredSession.WellKeyed (stored : StoredSession) : Prop :=
  ∀ record : PersistedSession, stored.record = some record →
    record.summary.id = stored.sessionId

theorem StoredSession.Rehydrates.id_eq [SessionStore S] {stored : StoredSession} {store : S}
    {journalLimit : Nat} {session : Session C} (h : stored.Rehydrates store journalLimit session)
    (hkeyed : stored.WellKeyed) : session.summary.id = stored.sessionId := by
  obtain ⟨record, hread, hsummary⟩ := h.record
  rw [hsummary]
  exact hkeyed record hread

/-- From `world` to `world'` the rows are recovered. -/
structure World.RecoversRows [SessionStore S] (rows : List StoredSession)
    (world world' : World S C) : Prop where
  recovers : world.RecoversTo world'
  live : ∀ id session, world'.inner.sessions.lookup id = some session →
    world.inner.sessions.lookup id = some session ∨
      ∃ stored ∈ rows, stored.Rehydrates world.inner.store world.inner.journalLimit session ∧
        session.summary.id = id
  lost : ∀ id session, world'.inner.recovered.lookup id = some session →
    world.inner.recovered.lookup id = some session ∨
      ∃ stored ∈ rows, stored.Retains world.inner.store world.inner.journalLimit session ∧
        stored.sessionId = id
  keepsLive : ∀ id ∈ world.inner.sessions, id ∈ world'.inner.sessions
  keepsLost : ∀ id ∈ world.inner.recovered, id ∈ world'.inner.recovered
  covers : ∀ stored ∈ rows, stored.WellKeyed →
    stored.sessionId ∈ world'.inner.sessions ∨ stored.sessionId ∈ world'.inner.recovered

theorem World.RecoversRows.nil [SessionStore S] (world : World S C) :
    World.RecoversRows [] world world where
  recovers := .refl world
  live := fun _ _ h => .inl h
  lost := fun _ _ h => .inl h
  keepsLive := fun _ h => h
  keepsLost := fun _ h => h
  covers := fun _ h => absurd h List.not_mem_nil

theorem World.RecoversRows.append [SessionStore S] {rows rows' : List StoredSession}
    {world world' world'' : World S C} (h : World.RecoversRows rows world world')
    (h' : World.RecoversRows rows' world' world'') :
    World.RecoversRows (rows ++ rows') world world'' where
  recovers := h.recovers.trans h'.recovers
  live := by
    intro id session hlookup
    rcases h'.live id session hlookup with hold | ⟨stored, hmem, hstored, hid⟩
    · rcases h.live id session hold with hold | ⟨stored, hmem, hstored⟩
      · exact .inl hold
      · exact .inr ⟨stored, List.mem_append_left _ hmem, hstored⟩
    · rw [h.recovers.store, h.recovers.journalLimit] at hstored
      exact .inr ⟨stored, List.mem_append_right _ hmem, hstored, hid⟩
  lost := by
    intro id session hlookup
    rcases h'.lost id session hlookup with hold | ⟨stored, hmem, hstored, hid⟩
    · rcases h.lost id session hold with hold | ⟨stored, hmem, hstored⟩
      · exact .inl hold
      · exact .inr ⟨stored, List.mem_append_left _ hmem, hstored⟩
    · rw [h.recovers.store, h.recovers.journalLimit] at hstored
      exact .inr ⟨stored, List.mem_append_right _ hmem, hstored, hid⟩
  keepsLive := fun id hid => h'.keepsLive id (h.keepsLive id hid)
  keepsLost := fun id hid => h'.keepsLost id (h.keepsLost id hid)
  covers := by
    intro stored hmem hkeyed
    rcases List.mem_append.mp hmem with hmem | hmem
    · rcases h.covers stored hmem hkeyed with hlive | hlost
      · exact .inl (h'.keepsLive _ hlive)
      · exact .inr (h'.keepsLost _ hlost)
    · exact h'.covers stored hmem hkeyed

section

variable [SessionStore S] [AcpSession C]

theorem recoversRows_singleton (stored : StoredSession) (world : World S C) :
    World.RecoversRows [stored] world
      ((Manager.recoverStoredSession stored : Manager S C Unit).final world) := by
  obtain ⟨hrecovers, ⟨session, hstored, hsessions, hrecovered⟩ |
    ⟨session, hstored, -, hsessions, hrecovered⟩⟩ := Manager.final_recoverStoredSession stored world
  · constructor
    · exact hrecovers
    · intro id session' hlookup
      rw [hsessions] at hlookup
      rcases lookup_insert_eq_some hlookup with ⟨hid, hsession⟩ | ⟨-, hold⟩
      · rw [hsession, hid]
        exact .inr ⟨stored, List.mem_singleton_self _, hstored, rfl⟩
      · exact .inl hold
    · intro id session' hlookup
      rw [hrecovered] at hlookup
      exact .inl hlookup
    · intro id hid
      rw [hsessions]
      exact (AList.mem_insert _).mpr (.inr hid)
    · intro id hid
      rw [hrecovered]
      exact hid
    · intro stored' hmem hkeyed
      rw [List.mem_singleton.mp hmem] at hkeyed ⊢
      rw [hsessions, ← hstored.id_eq hkeyed]
      exact .inl ((AList.mem_insert _).mpr (.inl rfl))
  · constructor
    · exact hrecovers
    · intro id session' hlookup
      rw [hsessions] at hlookup
      exact .inl hlookup
    · intro id session' hlookup
      rw [hrecovered] at hlookup
      rcases lookup_insert_eq_some hlookup with ⟨hid, hsession⟩ | ⟨-, hold⟩
      · rw [hsession, hid]
        exact .inr ⟨stored, List.mem_singleton_self _, hstored, rfl⟩
      · exact .inl hold
    · intro id hid
      rw [hsessions]
      exact hid
    · intro id hid
      rw [hrecovered]
      exact (AList.mem_insert _).mpr (.inr hid)
    · intro stored' hmem _
      rw [List.mem_singleton.mp hmem, hrecovered]
      exact .inr ((AList.mem_insert _).mpr (.inl rfl))

theorem final_forM_cons (stored : StoredSession) (rows : List StoredSession) (world : World S C) :
    ((stored :: rows).forM (Manager.recoverStoredSession (S := S) (C := C))).final world =
      (rows.forM Manager.recoverStoredSession).final
        ((Manager.recoverStoredSession stored).final world) := by
  obtain ⟨world', hexec⟩ := Manager.exec_recoverStoredSession stored world
  have hfinal : (Manager.recoverStoredSession stored).final world = world' := by
    rw [final, hexec]
  show (Manager.recoverStoredSession stored >>= fun _ =>
    rows.forM Manager.recoverStoredSession).final world = _
  rw [final_bind, hexec, hfinal]

theorem recoversRows_forM (rows : List StoredSession) (world : World S C) :
    World.RecoversRows rows world ((rows.forM Manager.recoverStoredSession).final world) := by
  induction rows generalizing world with
  | nil => exact .nil world
  | cons stored rows ih =>
      rw [final_forM_cons]
      exact (recoversRows_singleton stored world).append (ih _)

/-- The sessions that blame their metadata are those whose metadata did not decode. -/
theorem blamesMetadata_forM {rows : List StoredSession} {world : World S C} {id : SessionId}
    {session : RecoveredSession}
    (h : ((rows.forM Manager.recoverStoredSession).final world).inner.recovered.lookup id =
      some session) :
    world.inner.recovered.lookup id = some session ∨
      ∃ stored ∈ rows, stored.sessionId = id ∧ (session.summary.recovery.BlamesMetadata ↔
        stored.record = none) := by
  induction rows generalizing world with
  | nil => exact .inl h
  | cons stored rows ih =>
      rw [final_forM_cons] at h
      rcases ih h with hfirst | ⟨stored', hmem, hstored'⟩
      · obtain ⟨-, ⟨_, -, -, hrecovered⟩ | ⟨session', -, hblames, -, hrecovered⟩⟩ :=
          Manager.final_recoverStoredSession stored world
        · rw [hrecovered] at hfirst
          exact .inl hfirst
        · rw [hrecovered] at hfirst
          rcases lookup_insert_eq_some hfirst with ⟨hid, hsession⟩ | ⟨-, hold⟩
          · rw [hsession, hid]
            exact .inr ⟨stored, List.mem_cons_self, rfl, hblames⟩
          · exact .inl hold
      · exact .inr ⟨stored', List.mem_cons_of_mem _ hmem, hstored'⟩

/-- Rows of different sessions end up in one map each. -/
theorem disjoint_forM {rows : List StoredSession} {world : World S C}
    (hkeyed : ∀ stored ∈ rows, stored.WellKeyed) (hnodup : (rows.map (·.sessionId)).Nodup)
    (hnew : ∀ stored ∈ rows, stored.sessionId ∉ world.inner.sessions ∧
      stored.sessionId ∉ world.inner.recovered)
    (hdisjoint : ∀ id ∈ world.inner.sessions, id ∉ world.inner.recovered) :
    let world' := (rows.forM Manager.recoverStoredSession).final world
    ∀ id ∈ world'.inner.sessions, id ∉ world'.inner.recovered := by
  induction rows generalizing world with
  | nil => exact hdisjoint
  | cons stored rows ih =>
      rw [final_forM_cons]
      rw [List.map_cons, List.nodup_cons] at hnodup
      obtain ⟨hfirst, hrest⟩ := hnodup
      have hstored := hkeyed stored List.mem_cons_self
      obtain ⟨hnotLive, hnotLost⟩ := hnew stored List.mem_cons_self
      have hother : ∀ stored' ∈ rows, stored'.sessionId ≠ stored.sessionId := by
        intro stored' hmem heq
        exact hfirst (heq ▸ List.mem_map_of_mem hmem)
      obtain ⟨-, ⟨session, hsession, hsessions, hrecovered⟩ |
        ⟨session, hsession, -, hsessions, hrecovered⟩⟩ :=
        Manager.final_recoverStoredSession stored world
      · rw [hsession.id_eq hstored] at hsessions
        refine ih (fun stored' hmem => hkeyed stored' (List.mem_cons_of_mem _ hmem)) hrest ?_ ?_
        · intro stored' hmem
          obtain ⟨hlive, hlost⟩ := hnew stored' (List.mem_cons_of_mem _ hmem)
          rw [hsessions, hrecovered]
          refine ⟨fun h => ?_, hlost⟩
          exact ((AList.mem_insert _).mp h).elim (hother stored' hmem) hlive
        · intro id hid
          rw [hsessions] at hid
          rw [hrecovered]
          rcases (AList.mem_insert _).mp hid with rfl | hid
          · exact hnotLost
          · exact hdisjoint id hid
      · refine ih (fun stored' hmem => hkeyed stored' (List.mem_cons_of_mem _ hmem)) hrest ?_ ?_
        · intro stored' hmem
          obtain ⟨hlive, hlost⟩ := hnew stored' (List.mem_cons_of_mem _ hmem)
          rw [hsessions, hrecovered]
          refine ⟨hlive, fun h => ?_⟩
          exact ((AList.mem_insert _).mp h).elim (hother stored' hmem) hlost
        · intro id hid h
          rw [hsessions] at hid
          rw [hrecovered] at h
          rcases (AList.mem_insert _).mp h with rfl | h
          · exact hnotLive hid
          · exact hdisjoint id hid h

end

/-! ## the recovered manager -/

/-- Every row of the store is about its own session. -/
def WellKeyed [SessionStore S] [LawfulSessionStore S] (store : S) : Prop :=
  ∀ id row, (LawfulSessionStore.sessions store).lookup id = some row → row.WellKeyed

section

variable [SessionStore S] [LawfulSessionStore S] [AcpSession C]
  (env : Env) (ticks : Nat) (adapters : AdapterRegistry C) (store : S) (journalLimit : Nat)

theorem recoversRows_new :
    World.RecoversRows (byCreation (LawfulSessionStore.sessions store))
      (SessionManager.starting env ticks adapters store journalLimit : World S C)
      (SessionManager.new env ticks adapters store journalLimit) := by
  rw [SessionManager.new, LawfulSessionStore.listSessions_eq]
  exact recoversRows_forM _ _

variable {env ticks adapters store journalLimit}

omit [StoredReader] [AcpSession C] in
theorem mem_byCreation_iff {row : StoredSession} :
    row ∈ byCreation (LawfulSessionStore.sessions store) ↔
      (LawfulSessionStore.sessions store).lookup row.sessionId = some row := by
  rw [mem_byCreation]
  constructor
  · rintro ⟨id, hlookup⟩
    rw [LawfulSessionStore.keyed store id row hlookup]
    exact hlookup
  · exact fun hlookup => ⟨_, hlookup⟩

/-- A live session after a restart is a row that was rehydrated. -/
theorem lookup_sessions_new (hkeyed : WellKeyed store) {id : SessionId} {session : Session C}
    (h : (SessionManager.new env ticks adapters store journalLimit).inner.sessions.lookup id =
      some session) :
    ∃ row, (LawfulSessionStore.sessions store).lookup id = some row ∧
      row.Rehydrates store journalLimit session ∧ session.summary.id = id := by
  rcases (recoversRows_new env ticks adapters store journalLimit).live id session h with
    hnone | ⟨row, hmem, hrow, hid⟩
  · exact absurd hnone (SessionManager.lookup_sessions_starting_ne id session)
  · have hlookup := mem_byCreation_iff.mp hmem
    rw [← hrow.id_eq (hkeyed _ row hlookup), hid] at hlookup
    exact ⟨row, hlookup, hrow, hid⟩

/-- A recovered session after a restart is a row that could not be rehydrated. -/
theorem lookup_recovered_new {id : SessionId} {session : RecoveredSession}
    (h : (SessionManager.new env ticks adapters store journalLimit :
      World S C).inner.recovered.lookup id = some session) :
    ∃ row, (LawfulSessionStore.sessions store).lookup id = some row ∧
      row.Retains store journalLimit session := by
  rcases (recoversRows_new env ticks adapters store journalLimit).lost id session h with
    hnone | ⟨row, hmem, hrow, hid⟩
  · exact absurd hnone (SessionManager.lookup_recovered_starting_ne id session)
  · have hlookup := mem_byCreation_iff.mp hmem
    rw [hid] at hlookup
    exact ⟨row, hlookup, hrow⟩

/-- A recovered session blames its metadata exactly if its row does not decode. -/
theorem blamesMetadata_new {id : SessionId} {session : RecoveredSession} {row : StoredSession}
    (h : (SessionManager.new env ticks adapters store journalLimit :
      World S C).inner.recovered.lookup id = some session)
    (hrow : (LawfulSessionStore.sessions store).lookup id = some row) :
    session.summary.recovery.BlamesMetadata ↔
      row.record = none := by
  rw [SessionManager.new, LawfulSessionStore.listSessions_eq] at h
  rcases blamesMetadata_forM h with hnone | ⟨stored, hmem, hid, hblames⟩
  · exact absurd hnone (SessionManager.lookup_recovered_starting_ne id session)
  · have hlookup := mem_byCreation_iff.mp hmem
    rw [hid, hrow] at hlookup
    rw [hblames, Option.some.inj hlookup]

/-- Every stored session is found after a restart. -/
theorem mem_new (hkeyed : WellKeyed store) {id : SessionId}
    (h : id ∈ LawfulSessionStore.sessions store) :
    id ∈ (SessionManager.new env ticks adapters store journalLimit : World S C).inner.sessions ∨
      id ∈ (SessionManager.new env ticks adapters store journalLimit :
        World S C).inner.recovered := by
  obtain ⟨row, hlookup⟩ := exists_lookup_of_mem h
  have hid := LawfulSessionStore.keyed store id row hlookup
  have hmem : row ∈ byCreation (LawfulSessionStore.sessions store) := mem_byCreation.mpr ⟨id, hlookup⟩
  have hcovers := (recoversRows_new (C := C) env ticks adapters store journalLimit).covers row hmem
    (hkeyed id row hlookup)
  rwa [hid] at hcovers

/-- No session is found twice after a restart. -/
theorem disjoint_new (hkeyed : WellKeyed store) {id : SessionId}
    (h : id ∈ (SessionManager.new env ticks adapters store journalLimit :
      World S C).inner.sessions) :
    id ∉ (SessionManager.new env ticks adapters store journalLimit :
      World S C).inner.recovered := by
  rw [SessionManager.new, LawfulSessionStore.listSessions_eq] at h ⊢
  refine disjoint_forM ?_ (nodup_byCreation (LawfulSessionStore.keyed store)) ?_ ?_ id h
  · intro row hmem
    exact hkeyed _ row (mem_byCreation_iff.mp hmem)
  · intro row _
    exact ⟨AList.notMem_empty _, AList.notMem_empty _⟩
  · intro id hid
    exact absurd hid (AList.notMem_empty id)

/-- The journal of a stored session is the one recovered for it. -/
theorem journal_new (hkeyed : WellKeyed store) {id : SessionId}
    (hmem : id ∈ LawfulSessionStore.sessions store) :
    (SessionManager.new env ticks adapters store journalLimit : World S C).journal id =
      some (recoveredJournal store id journalLimit) := by
  unfold World.journal
  cases hlive : (SessionManager.new env ticks adapters store journalLimit :
      World S C).inner.sessions.lookup id with
  | some session =>
      obtain ⟨row, hrow, hrehydrates, -⟩ := lookup_sessions_new hkeyed hlive
      rw [← LawfulSessionStore.keyed store id row hrow]
      exact congrArg some hrehydrates.journal
  | none =>
      dsimp only
      have hfound : id ∈ (SessionManager.new env ticks adapters store journalLimit :
            World S C).inner.sessions ∨
          id ∈ (SessionManager.new env ticks adapters store journalLimit :
            World S C).inner.recovered := mem_new hkeyed hmem
      rcases hfound with h | h
      · exact absurd h (AList.lookup_eq_none.mp hlive)
      · obtain ⟨session, hlost⟩ := exists_lookup_of_mem h
        obtain ⟨row, hrow, hretains⟩ := lookup_recovered_new hlost
        rw [hlost, ← LawfulSessionStore.keyed store id row hrow]
        exact congrArg some hretains.journal

end

end

/-! ## the recovered journal -/

section

variable [SessionStore S] [LawfulSessionStore S]

/-- The journal is the first `journalLimit` of the stored events, as they read
back. -/
theorem recoveredJournal_eq {store : S} {id : SessionId} {events : List SequencedEvent}
    (hevents : LawfulSessionStore.events store id = events.map SequencedEvent.stored)
    (hpositive : ∀ event ∈ events, 0 < event.sequence) (journalLimit : Nat) :
    recoveredJournal store id journalLimit =
      (events.map SequencedEvent.reread).take journalLimit := by
  have hall : (events.map SequencedEvent.stored).filter (fun row => 0 < row.sequence) =
      events.map SequencedEvent.stored := by
    refine List.filter_eq_self.mpr fun row hrow => ?_
    obtain ⟨event, hevent, rfl⟩ := List.mem_map.mp hrow
    exact decide_eq_true (hpositive event hevent)
  have hread : StoredEvent.sequenced ∘ SequencedEvent.stored = fun event => some event.reread := by
    funext event
    exact SequencedEvent.ofJson_reread event
  rw [recoveredJournal, LawfulSessionStore.eventsAfter_eq, hevents]
  dsimp only [Option.getD_none]
  rw [hall, ← List.map_take, List.filterMap_map, hread, ← List.map_take, List.filterMap_eq_map']

variable [AcpSession C] {env : Env} {ticks : Nat} {adapters : AdapterRegistry C} {store : S}
  {journalLimit : Nat}

/-- After a restart the manager has the newest of the stored events: as many as
its journal takes, up to the stored last sequence, so that the next event
continues them. -/
structure KeepsNewest (world : World S C) (row : StoredSession)
    (stored : List SequencedEvent) : Prop where
  journal : world.journal row.sessionId = some (stored.rtake world.inner.journalLimit)
  ends : ∀ journal, world.journal row.sessionId = some journal →
    ∀ last ∈ journal.getLast?, last.sequence = row.lastSequence
  continues : ∀ journal, world.journal row.sessionId = some journal →
    ∀ event next, (Manager.append row.sessionId event).result world = .ok next →
      ∀ last ∈ journal.getLast?, next.sequence = last.sequence + 1

/-- The first and the last `k` of an increasing run are the same events only where
the run has no more than `k`. -/
theorem take_eq_rtake_iff {events : List SequencedEvent} {lo k : Nat} (hk : 0 < k)
    (hevents : events.map (·.sequence) = List.range' lo events.length) :
    events.take k = events.rtake k ↔ events.length ≤ k := by
  constructor
  · intro heq
    by_contra hlong
    have hfirst := congrArg (fun journal => (journal.map (·.sequence)).head?) heq
    have hlt : 0 < events.length := by omega
    simp only [List.rtake, List.map_take, List.map_drop, hevents] at hfirst
    rw [List.head?_take, if_neg (by omega), List.head?_drop, List.head?_range',
      if_neg (by omega), List.getElem?_range' (by omega)] at hfirst
    have := Option.some.inj hfirst
    omega
  · intro hle
    rw [List.take_of_length_le hle, List.rtake, Nat.sub_eq_zero_of_le hle, List.drop_zero]

/-- **Recovery keeps the newest history** exactly when the restarted host's journal
takes all that is stored. -/
theorem keepsNewest_iff (hkeyed : WellKeyed store) {row : StoredSession}
    (hrow : (LawfulSessionStore.sessions store).lookup row.sessionId = some row)
    {events : List SequencedEvent} {lo : Nat} (hlo : 0 < lo)
    (hevents : LawfulSessionStore.events store row.sessionId = events.map SequencedEvent.stored)
    (hrange : events.map (·.sequence) = List.range' lo events.length)
    (hlast : row.lastSequence + 1 = lo + events.length) (hlimit : 0 < journalLimit) :
    KeepsNewest (SessionManager.new env ticks adapters store journalLimit : World S C) row
        (events.map SequencedEvent.reread) ↔
      events.length ≤ journalLimit := by
  have hpositive : ∀ event ∈ events, 0 < event.sequence := by
    intro event hevent
    have hmem : event.sequence ∈ List.range' lo events.length :=
      hrange ▸ List.mem_map_of_mem hevent
    have := (List.mem_range'_1.mp hmem).1
    omega
  have hreread : (events.map SequencedEvent.reread).map (·.sequence) =
      List.range' lo (events.map SequencedEvent.reread).length := by
    rw [List.map_map, List.length_map]
    exact hrange
  have hlimit' : (SessionManager.new env ticks adapters store journalLimit :
      World S C).inner.journalLimit = journalLimit :=
    (recoversRows_new env ticks adapters store journalLimit).recovers.journalLimit
  have hjournal : (SessionManager.new env ticks adapters store journalLimit :
      World S C).journal row.sessionId =
        some ((events.map SequencedEvent.reread).take journalLimit) := by
    rw [← recoveredJournal_eq hevents hpositive journalLimit]
    exact journal_new hkeyed (mem_of_lookup hrow)
  have hnewest := take_eq_rtake_iff hlimit hreread
  rw [List.length_map] at hnewest
  constructor
  · intro h
    have hsame := h.journal
    rw [hjournal, hlimit'] at hsame
    exact hnewest.mp (Option.some.inj hsame)
  · intro hfits
    have htake : (events.map SequencedEvent.reread).take journalLimit =
        events.map SequencedEvent.reread :=
      List.take_of_length_le (by rw [List.length_map]; exact hfits)
    have hends : ∀ last ∈ (events.map SequencedEvent.reread).getLast?,
        last.sequence = row.lastSequence := by
      intro last hmem
      have hlength : (events.map SequencedEvent.reread).length = events.length := List.length_map _
      have hsequence := congrArg List.getLast? hreread
      rw [List.getLast?_map, Option.mem_def.mp hmem, hlength] at hsequence
      cases hcount : events.length with
      | zero =>
          rw [hcount] at hsequence
          exact absurd hsequence (by simp)
      | succ n =>
          rw [hcount, List.getLast?_range'] at hsequence
          have hlatest : last.sequence = lo + (n + 1) - 1 := by simpa using hsequence
          omega
    constructor
    · rw [hjournal, hlimit', hnewest.mpr hfits]
    · intro journal hsome last hmem
      rw [hjournal, htake] at hsome
      obtain rfl := Option.some.inj hsome
      exact hends last hmem
    · intro journal hsome event next happend last hmem
      rw [hjournal, htake] at hsome
      obtain rfl := Option.some.inj hsome
      rw [hends last hmem]
      cases hlive : (SessionManager.new env ticks adapters store journalLimit :
          World S C).inner.sessions.lookup row.sessionId with
      | none =>
          rw [result, Manager.append, exec_bind, Manager.exec_requireSession_none hlive] at happend
          contradiction
      | some session =>
          obtain ⟨row', hrow', hrehydrates, -⟩ := lookup_sessions_new hkeyed hlive
          obtain rfl : row = row' := Option.some.inj (hrow.symm.trans hrow')
          obtain ⟨record, -, hsummary⟩ := hrehydrates.record
          rw [result, Manager.exec_append hlive] at happend
          rw [← Except.ok.inj happend, World.nextEvent, hsummary]

end

/-- A row of a session with the given number of events. -/
def sampleRow (count : Nat) : StoredSession where
  sessionId := "s1"
  metadata := toJson ({
    summary := { sampleSummary with agent := "fake", lastSequence := count }
    origin := .new
    agentSessionId := some "native"
    resolvedWorkingDirectory := "/home/src" } : PersistedSession)
  lastSequence := count
  createdAtMs := 0
  updatedAtMs := 0

/-- A database with that row and its events. -/
def sampleStore (eventLimit count : Nat) : SqliteStore :=
  (sampleEvents (List.range' 1 count)).foldl
    (fun store event => (StoreWrite.appendEvent "s1" event.stored).apply store)
    ((SqliteStore.empty eventLimit).upsertSession (sampleRow count))

theorem wellKeyed_upsertSession_empty (eventLimit count : Nat) :
    ∀ id row, ((SqliteStore.empty eventLimit).upsertSession (sampleRow count)).sessions.lookup id =
      some row → row.WellKeyed := by
  intro id row hlookup record hread
  by_cases hid : id = "s1"
  · subst hid
    have hrow : sampleRow count = row := by
      rw [SqliteStore.upsertSession, sampleRow, AList.lookup_insert] at hlookup
      exact Option.some.inj hlookup
    have hmetadata := metadataId_of_ofJson hread
    rw [← hrow, sampleRow, metadataId_toJson] at hmetadata
    rw [← Option.some.inj hmetadata, ← hrow]
    rfl
  · rw [SqliteStore.upsertSession, sampleRow, AList.lookup_insert_ne hid] at hlookup
    contradiction

/-- Two stored events fit a journal of two. -/
theorem keepsNewest_iff_fits :
    KeepsNewest (SessionManager.new sampleEnv 0 [ScriptedAgent.adapter true] (sampleStore 0 2) 2 :
        World SqliteStore ScriptedAgent) (sampleRow 2)
      ((sampleEvents [1, 2]).map SequencedEvent.reread) :=
  have hkeyed : WellKeyed (sampleStore 0 2) := wellKeyed_upsertSession_empty 0 2
  (keepsNewest_iff hkeyed rfl (by decide : 0 < 1) rfl rfl rfl (by decide)).mpr (by decide)

/-- **Recovery drops the newest**: three events are stored and the journal is
restarted with room for two.  The events 1 and 2 are recovered, and the next
event is numbered 4. -/
theorem recovery_drops_newest :
    ∃ world : World SqliteStore ScriptedAgent,
      world = SessionManager.new sampleEnv 0 [ScriptedAgent.adapter true] (sampleStore 0 3) 2 ∧
      (world.journal "s1").map (fun journal => journal.map (·.sequence)) = some [1, 2] ∧
      ((Manager.append "s1" (.status ⟨.working⟩)).result world).toOption.map (·.sequence) =
        some 4 ∧
      ¬ KeepsNewest world (sampleRow 3) ((sampleEvents [1, 2, 3]).map SequencedEvent.reread) := by
  refine ⟨_, rfl, rfl, rfl, fun h => ?_⟩
  have hsequences := congrArg (Option.map fun journal => journal.map (·.sequence)) h.journal
  exact absurd hsequences (by decide)

end Slight
