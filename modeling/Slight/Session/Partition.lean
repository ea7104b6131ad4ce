import Slight.Session.Host

/-!
# Slight.Session.Partition

What a start of the host makes of a database that earlier processes wrote, in
whatever way those were killed: every stored session is live or lost, nothing is
created, and the database is left as it is.  So failed starts leave no trace.
-/

namespace Slight

open Support Program

variable {C : Type}

/-! ## the ids of rows -/

/-- The metadata of every row names the session of the row. -/
def KeyedStore (store : SqliteStore) : Prop :=
  ∀ id row, store.sessions.lookup id = some row → metadataId row.metadata = some id

/-- Moreover every live session is known under its own id. -/
structure KeyedWorld (world : World SqliteStore C) : Prop where
  store : KeyedStore world.inner.store
  live : ∀ id session, world.inner.sessions.lookup id = some session → session.summary.id = id

theorem KeyedStore.wellKeyed {store : SqliteStore} (h : KeyedStore store) : WellKeyed store := by
  intro id row hlookup record hread
  have hid : some record.summary.id = some id := by
    rw [← metadataId_of_ofJson hread]
    exact h id row hlookup
  rw [Option.some.inj hid, store.keyed id row hlookup]

theorem KeyedStore.upsertSession {store : SqliteStore} (h : KeyedStore store) {row : StoredSession}
    (hrow : metadataId row.metadata = some row.sessionId) :
    KeyedStore (store.upsertSession row) := by
  intro id row' hlookup
  rcases lookup_insert_eq_some hlookup with ⟨rfl, rfl⟩ | ⟨-, hold⟩
  · exact hrow
  · exact h id row' hold

theorem KeyedStore.appendEvent {store : SqliteStore} (h : KeyedStore store) (sessionId : SessionId)
    (event : StoredEvent) : KeyedStore ((StoreWrite.appendEvent sessionId event).apply store) := by
  unfold KeyedStore
  rw [sessions_apply_appendEvent]
  exact h

theorem metadataId_stored (session : Session C) :
    metadataId session.stored.metadata = some session.stored.sessionId :=
  metadataId_toJson _

namespace KeyedWorld

variable {world world' : World SqliteStore C}

theorem setSession (h : KeyedWorld world) {sessionId : SessionId} {session : Session C}
    (hid : session.summary.id = sessionId) : KeyedWorld (world.setSession sessionId session) where
  store := h.store
  live := by
    intro id session' hlookup
    rcases lookup_insert_eq_some hlookup with ⟨rfl, rfl⟩ | ⟨-, hold⟩
    · exact hid
    · exact h.live id session' hold

theorem wrote (h : KeyedWorld world) {row : StoredSession}
    (hrow : metadataId row.metadata = some row.sessionId) :
    KeyedWorld (world.wrote (.upsertSession row)) :=
  ⟨h.store.upsertSession hrow, h.live⟩

theorem register (h : KeyedWorld world) {build : SessionId → Session C}
    (hfresh : ∀ id, (build id).Fresh id) : KeyedWorld (world.registered build) := by
  have hticked : KeyedWorld { world with ticks := world.ticks + 1 } := ⟨h.store, h.live⟩
  exact (hticked.setSession (hfresh _).id).wrote (metadataId_stored _)

/-- No crash takes a row its name. -/
theorem append (h : KeyedWorld world) {sessionId : SessionId} {session : Session C}
    (hlookup : world.inner.sessions.lookup sessionId = some session) (event : SessionEvent) :
    let world' := world.appended sessionId session (world.nextEvent session event)
    KeyedWorld world' ∧ world.Writes (fun _ => True) (fun _ => KeyedStore) world' := by
  intro world'
  have hid := h.live sessionId session hlookup
  have hset : KeyedWorld (world.setSession sessionId
      (session.record world.inner.journalLimit (world.nextEvent session event))) :=
    h.setSession hid
  have hstore : KeyedStore world'.inner.store :=
    (h.store.appendEvent sessionId _).upsertSession (metadataId_stored _)
  refine ⟨⟨hstore, hset.live⟩, Nat.le_succ _, _, rfl, rfl, .of_forall h.store ?_⟩
  intro write hmem store hkeyed
  simp only [storeCalls, List.filterMap_cons, List.filterMap_nil, List.mem_cons, List.not_mem_nil,
    or_false] at hmem
  rcases hmem with rfl | rfl
  · exact hkeyed.appendEvent _ _
  · exact hkeyed.upsertSession (metadataId_stored _)

theorem change (h : KeyedWorld world) (hchange : Change world world') :
    KeyedWorld world' ∧ world.Writes (fun _ => True) (fun _ => KeyedStore) world' := by
  cases hchange with
  | tick =>
      exact ⟨⟨h.store, h.live⟩,
        .silent (Nat.le_succ _) (List.append_nil _).symm rfl rfl h.store⟩
  | request kind => exact ⟨⟨h.store, h.live⟩, .silent (Nat.le_refl _) rfl rfl rfl h.store⟩
  | @edit sessionId session session' hlookup hkeeps =>
      refine ⟨h.setSession ?_, .silent (Nat.le_refl _) (List.append_nil _).symm rfl rfl h.store⟩
      obtain ⟨title, archived, hsummary⟩ := hkeeps.summary
      rw [hsummary]
      exact h.live sessionId session hlookup
  | append hlookup event => exact h.append hlookup event
  | @persist sessionId session hlookup =>
      have hwrote := h.wrote (metadataId_stored session)
      exact ⟨hwrote, .single (Nat.le_refl _) rfl rfl h.store hwrote.store⟩
  | subscribe hmem =>
      rw [final, Manager.exec_subscribe hmem]
      exact ⟨⟨h.store, h.live⟩, .silent (Nat.le_refl _) rfl rfl rfl h.store⟩
  | @archive sessionId session hlookup archived =>
      rcases Manager.final_archiveRecovered world sessionId session archived with
        hfinal | ⟨stored, hstored, hfinal⟩
      · rw [hfinal]
        exact ⟨⟨h.store, h.live⟩,
          .silent (Nat.le_refl _) (List.append_nil _).symm rfl rfl h.store⟩
      · have hrow : world.inner.store.sessions.lookup sessionId = some stored :=
          Except.ok.inj hstored
        have hmetadata : metadataId (archiveMetadata stored.metadata archived) =
            some stored.sessionId := by
          rw [metadataId_archiveMetadata, h.store sessionId stored hrow,
            world.inner.store.keyed sessionId stored hrow]
        rw [hfinal]
        have hkeyed : KeyedStore (world.inner.store.upsertSession
            { stored with metadata := archiveMetadata stored.metadata archived }) :=
          h.store.upsertSession hmetadata
        exact ⟨⟨hkeyed, h.live⟩, .single (Nat.le_refl _) rfl rfl h.store hkeyed⟩
  | @enroll build hfresh =>
      rw [Manager.final_enrollSession]
      have hregister := h.register hfresh
      obtain ⟨hafter, hwrites⟩ :=
        hregister.append (AList.lookup_insert _) (.status ⟨.idle⟩)
      refine ⟨hafter, .trans (fun _ _ _ _ hstore => hstore) ?_ hwrites⟩
      exact .single (Nat.le_succ _) rfl rfl h.store hregister.store

end KeyedWorld

variable [AcpSession C]

/-- **Rows keep their names** in every life of the host. -/
theorem keyedInvariant (env : Env) :
    HostInvariant env (fun _ (_ : Boot C) => True) (fun _ => True) KeyedWorld
      fun _ => KeyedStore where
  mono _ _ _ _ h := h
  empty eventLimit id row hlookup := by
    rw [SqliteStore.empty, AList.lookup_empty] at hlookup
    contradiction
  boot ticks store boot _ h := by
    have hkeyed : KeyedStore (store.reopen boot.eventLimit) := h
    have hrecovers := (recoversRows_new (C := C) env ticks boot.adapters
      (store.reopen boot.eventLimit) boot.journalLimit).recovers
    constructor
    · rw [Boot.start, hrecovers.store]
      exact hkeyed
    · intro id session hlookup
      obtain ⟨-, -, -, hid⟩ := lookup_sessions_new hkeyed.wellKeyed hlookup
      exact hid
  agents world world' hmove h := by
    constructor
    · rw [hmove.store]
      exact h.store
    · intro id session' hlookup
      obtain ⟨session, hold, hproduct⟩ := hmove.lookup hlookup
      obtain ⟨title, archived, hsummary⟩ := (Session.keeps_of_product hproduct).summary
      rw [hsummary]
      exact h.live id session hold
  change _ _ hchange h := h.change hchange
  store _ h := h.store

theorem keyedStore_of_reachable {env : Env} {host : Host C}
    (h : (hostSystem env).Reachable host) : KeyedStore host.store := by
  have hholds := (keyedInvariant env).holds (Host.reachUnder_of_reachable h)
  cases host with
  | up world => exact hholds.store
  | down ticks store => exact hholds

/-! ## one start -/

/-- The manager has the sessions of the database, each once, and created nothing. -/
structure Partitions (store : SqliteStore) (world : World SqliteStore C) : Prop where
  covers : ∀ id, id ∈ store.sessions ↔ id ∈ world.inner.sessions ∨ id ∈ world.inner.recovered
  disjoint : ∀ id ∈ world.inner.sessions, id ∉ world.inner.recovered
  live : ∀ id session, world.inner.sessions.lookup id = some session →
    session.summary.recovery = .recovered ∧ session.summary.status = .idle
  lost : ∀ id session, world.inner.recovered.lookup id = some session →
    (∃ reason, session.summary.recovery = .stale reason ∨
      session.summary.recovery = .unavailable reason) ∧ session.summary.status = .exited
  requests : ∀ effect ∈ world.effects, ∃ nativeId, effect = .requested (.resume nativeId)
  store : world.inner.store = store

theorem SessionRecoveryState.isLost_iff {state : SessionRecoveryState} :
    state.isLost = true ↔ ∃ reason, state = .stale reason ∨ state = .unavailable reason := by
  cases state <;> simp [isLost]

variable {env : Env} {ticks : Nat} {store : SqliteStore}

theorem partitions_start (boot : Boot C) (hkeyed : KeyedStore store) :
    Partitions (store.reopen boot.eventLimit) (boot.start env ticks store) := by
  have hwell : WellKeyed (store.reopen boot.eventLimit) := KeyedStore.wellKeyed hkeyed
  have hrecovers := (recoversRows_new (C := C) env ticks boot.adapters
    (store.reopen boot.eventLimit) boot.journalLimit).recovers
  have hmem : ∀ {V : Type} {entries : AList fun _ : SessionId => V} {id : SessionId} {v : V},
      entries.lookup id = some v → id ∈ entries := by
    intro V entries id v hlookup
    exact mem_of_lookup hlookup
  constructor
  · intro id
    constructor
    · exact fun hstored => mem_new hwell hstored
    · rintro (hlive | hlost)
      · obtain ⟨session, hlookup⟩ := exists_lookup_of_mem hlive
        obtain ⟨row, hrow, -⟩ := lookup_sessions_new hwell hlookup
        exact hmem hrow
      · obtain ⟨session, hlookup⟩ := exists_lookup_of_mem hlost
        obtain ⟨row, hrow, -⟩ := lookup_recovered_new hlookup
        exact hmem hrow
  · exact fun id hlive => disjoint_new hwell hlive
  · intro id session hlookup
    obtain ⟨row, -, hrow, -⟩ := lookup_sessions_new hwell hlookup
    obtain ⟨record, -, hsummary⟩ := hrow.record
    rw [hsummary]
    exact ⟨rfl, rfl⟩
  · intro id session hlookup
    obtain ⟨row, -, hrow⟩ := lookup_recovered_new hlookup
    exact ⟨SessionRecoveryState.isLost_iff.mp hrow.recovery, hrow.status⟩
  · obtain ⟨requests, heffects, hresume⟩ := hrecovers.effects
    rw [Boot.start, heffects]
    exact hresume
  · exact hrecovers.store

/-! ## failed starts -/

/-- The summary kept for a session, live or lost. -/
def World.summary {S : Type} (world : World S C) (id : SessionId) : Option SessionSummary :=
  match world.inner.sessions.lookup id with
  | some session => some session.summary
  | none => (world.inner.recovered.lookup id).map (·.summary)

/-- What of a summary is the session's own: all but its status, its recovery and
the time of its last activity. -/
def SessionSummary.identity (summary : SessionSummary) : SessionSummary :=
  { summary with status := .idle, recovery := .live, lastActivityAtMs := 0 }

/-- What a row says of its session. -/
def StoredSession.identity (stored : StoredSession) : SessionSummary :=
  match stored.record with
  | some record => { record.summary with lastSequence := stored.lastSequence }.identity
  | none => (unreadableSummary stored "").identity

/-- The two managers have the same sessions, with the same titles, flags, sequence
numbers and journals. -/
structure SameSessions (world world' : World SqliteStore C) : Prop where
  summary : ∀ id, (world.summary id).map SessionSummary.identity =
    (world'.summary id).map SessionSummary.identity
  journal : ∀ id, world.journal id = world'.journal id

omit [AcpSession C] in
theorem StoredSession.Rehydrates.identity_eq {stored : StoredSession} {journalLimit : Nat}
    {session : Session C} (h : stored.Rehydrates store journalLimit session) :
    session.summary.identity = stored.identity := by
  obtain ⟨record, hread, hsummary⟩ := h.record
  rw [StoredSession.identity, hread, hsummary]
  rfl

theorem StoredSession.Retains.identity_eq {stored : StoredSession} {journalLimit : Nat}
    {session : RecoveredSession} (h : stored.Retains store journalLimit session) :
    session.summary.identity = stored.identity := by
  rw [StoredSession.identity]
  cases hread : stored.record with
  | some record =>
      rw [h.record record hread]
      rfl
  | none =>
      obtain ⟨reason, hsummary⟩ := h.unreadable hread
      rw [hsummary]
      rfl

/-- A start shows of every session what its row says. -/
theorem summary_start (boot : Boot C) (hkeyed : KeyedStore store) (id : SessionId) :
    ((boot.start env ticks store).summary id).map SessionSummary.identity =
      (store.sessions.lookup id).map StoredSession.identity := by
  have hwell : WellKeyed (store.reopen boot.eventLimit) := KeyedStore.wellKeyed hkeyed
  unfold World.summary
  cases hlive : (boot.start env ticks store).inner.sessions.lookup id with
  | some session =>
      obtain ⟨row, hrow, hrehydrates, -⟩ := lookup_sessions_new hwell hlive
      have hstored : store.sessions.lookup id = some row := hrow
      rw [hstored, Option.map_some, Option.map_some, hrehydrates.identity_eq]
  | none =>
      dsimp only
      cases hlost : (boot.start env ticks store).inner.recovered.lookup id with
      | some session =>
          obtain ⟨row, hrow, hretains⟩ := lookup_recovered_new hlost
          have hstored : store.sessions.lookup id = some row := hrow
          rw [hstored, Option.map_some, Option.map_some, Option.map_some, hretains.identity_eq]
      | none =>
          have hnone : store.sessions.lookup id = none := by
            by_contra hsome
            have hmem : id ∈ store.sessions :=
              AList.lookup_isSome.mp (Option.ne_none_iff_isSome.mp hsome)
            rcases ((partitions_start boot hkeyed).covers id).mp hmem with hmem | hmem
            · rw [← AList.lookup_isSome, hlive] at hmem
              contradiction
            · rw [← AList.lookup_isSome, hlost] at hmem
              contradiction
          rw [hnone]
          rfl

theorem journal_start (boot : Boot C) (hkeyed : KeyedStore store) (id : SessionId) :
    (boot.start env ticks store).journal id =
      if id ∈ store.sessions then some (recoveredJournal store id boot.journalLimit) else none := by
  have hwell : WellKeyed (store.reopen boot.eventLimit) := KeyedStore.wellKeyed hkeyed
  by_cases hmem : id ∈ store.sessions
  · rw [if_pos hmem]
    exact journal_new hwell hmem
  · have hstart : Partitions (store.reopen boot.eventLimit) (boot.start env ticks store) :=
      partitions_start boot hkeyed
    have hpartitions := hstart.covers id
    rw [if_neg hmem, World.journal]
    rw [AList.lookup_eq_none.mpr fun hlive => hmem (hpartitions.mpr (.inl hlive)),
      AList.lookup_eq_none.mpr fun hlost => hmem (hpartitions.mpr (.inr hlost))]
    rfl

/-- The database after some starts of the host in which nothing else happened. -/
def afterStarts (env : Env) (store : SqliteStore) (starts : List (Nat × Boot C)) : SqliteStore :=
  starts.foldl (fun store start => (start.2.start env start.1 store).inner.store) store

theorem afterStarts_eq (env : Env) (hkeyed : KeyedStore store) (starts : List (Nat × Boot C)) :
    ∃ eventLimit, afterStarts env store starts = store.reopen eventLimit := by
  induction starts generalizing store with
  | nil => exact ⟨store.eventLimit, rfl⟩
  | cons start starts ih =>
      have hpartitions : Partitions (store.reopen start.2.eventLimit)
          (start.2.start env start.1 store) :=
        partitions_start start.2 hkeyed
      have hstore := hpartitions.store
      have hreopened : KeyedStore (start.2.start env start.1 store).inner.store := by
        rw [hstore]
        exact hkeyed
      obtain ⟨eventLimit, hafter⟩ := ih hreopened
      refine ⟨eventLimit, ?_⟩
      rw [hstore] at hafter
      rw [afterStarts, List.foldl_cons, hstore]
      exact hafter

/-- **Recovery partitions the stored sessions and creates nothing**: so a start
after failed ones is the start there would have been without them. -/
theorem recovery_partitions {host : Host C} (hreach : (hostSystem env).Reachable host)
    (starts : List (Nat × Boot C)) (boot : Boot C) (ticks ticks' : Nat) :
    Partitions (host.store.reopen boot.eventLimit)
        (boot.start env ticks (afterStarts env host.store starts)) ∧
      ∀ adapters, SameSessions (boot.start env ticks (afterStarts env host.store starts))
        ({ boot with adapters }.start env ticks' host.store) := by
  have hkeyed := keyedStore_of_reachable hreach
  obtain ⟨eventLimit, hafter⟩ := afterStarts_eq env hkeyed starts
  have hreopened : KeyedStore (host.store.reopen eventLimit) := hkeyed
  rw [hafter]
  refine ⟨partitions_start boot hreopened, fun adapters => ⟨fun id => ?_, fun id => ?_⟩⟩
  · rw [summary_start boot hreopened, summary_start _ hkeyed]
    rfl
  · rw [journal_start boot hreopened, journal_start _ hkeyed]
    rfl

/-- A host whose agent can, or cannot, resume sessions. -/
def sampleBoot (resumes : Bool) : Boot ScriptedAgent where
  adapters := [ScriptedAgent.adapter resumes]
  journalLimit := 1
  eventLimit := 0

/-- The database of a host that has one session. -/
def sampleDatabase : SqliteStore :=
  (sampleManager.after (.createSession sampleRequest)).inner.store

/-- The session survives a start with an agent that cannot resume it. -/
theorem recovery_partitions_failed_start :
    let failed := (sampleBoot false).start sampleEnv 5 sampleDatabase
    let store := afterStarts sampleEnv sampleDatabase [(5, sampleBoot false)]
    let world := (sampleBoot true).start sampleEnv 6 store
    failed.inner.sessions.keys = [] ∧ failed.inner.recovered.keys = ["uuu"] ∧
      world.inner.sessions.keys = ["uuu"] ∧ world.inner.recovered.keys = [] ∧
      Partitions (sampleDatabase.reopen 0) world ∧
      SameSessions world ((sampleBoot true).start sampleEnv 5 sampleDatabase) := by
  intro failed store world
  have hup : (hostSystem sampleEnv).Reachable (.up sampleManager) :=
    .step (a := .boot (sampleBoot true)) (.init ⟨0, rfl⟩) trivial rfl
  have hturns : sampleManager.Turns (.operation (.createSession sampleRequest))
      (sampleManager.after (.createSession sampleRequest)) := rfl
  have hreach : (hostSystem sampleEnv).Reachable
      (.up (sampleManager.after (.createSession sampleRequest))) :=
    .step (a := .turn (.operation (.createSession sampleRequest))) hup trivial ⟨_, hturns, rfl⟩
  obtain ⟨hpartitions, hsame⟩ :=
    recovery_partitions hreach [(5, sampleBoot false)] (sampleBoot true) 6 5
  exact ⟨by decide +kernel, by decide +kernel, by decide +kernel, by decide +kernel, hpartitions,
    hsame [ScriptedAgent.adapter true]⟩

end Slight
