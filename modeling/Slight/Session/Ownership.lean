import Slight.Session.Lives

/-!
# Slight.Session.Ownership

Which agent session a product session is bound to.  The manager keeps no check that
an agent session is bound once; `one_session_per_native` says when it is: if agents
give new sessions fresh ids and no session is imported that a stored one is bound to.
-/

namespace Slight

open Support Program

variable {C : Type}

/-- The agent and its session that some metadata names. -/
def metadataOwner (metadata : Json) : Option (String × String) := do
  let fields ← metadata.asObject
  let summary ← (← fields.lookup "summary").asObject
  let agent ← summary.required "agent"
  let native ← fields.required "agent_session_id"
  pure (agent, native)

theorem metadataOwner_obj {fields summary : Fields}
    (h : fields.lookup "summary" = some (.obj summary)) :
    metadataOwner (.obj fields) = (summary.required "agent").bind fun agent =>
      (fields.required "agent_session_id").map fun native => (agent, native) := by
  simp [metadataOwner, Json.asObject, h, Option.map_eq_bind]

/-- A record that reads is bound to what its metadata names. -/
theorem metadataOwner_of_ofJson {metadata : Json} {record : PersistedSession}
    (h : ofJson metadata = some record) :
    metadataOwner metadata = record.agentSessionId.map fun native =>
      (record.summary.agent, native) := by
  obtain ⟨fields, summary, rfl, hlookup, hread, -, hagent, -⟩ := summary_of_ofJson h
  rw [metadataOwner_obj hlookup, (read_of_ofFields hread).2.1, Option.bind_some]
  have hnative : (fields.required "agent_session_id" : Option String) = record.agentSessionId := by
    unfold Fields.optional Fields.defaulted at hagent
    unfold Fields.required
    cases hfield : fields.lookup "agent_session_id" with
    | none =>
        rw [hfield] at hagent
        exact Option.some.inj hagent
    | some value =>
        rw [hfield] at hagent
        cases value with
        | null => exact Option.some.inj hagent
        | str native => exact Option.some.inj hagent
        | _ => contradiction
  rw [hnative]

/-- Archiving leaves the owner alone. -/
theorem metadataOwner_archiveMetadata (metadata : Json) (archived : Bool) :
    metadataOwner (archiveMetadata metadata archived) = metadataOwner metadata := by
  cases metadata with
  | obj fields =>
      unfold archiveMetadata
      dsimp only
      split
      · next summary hsummary =>
          have hagent : (Fields.required (Fields.insert summary "archived" (.bool archived)) "agent" :
              Option String) = Fields.required summary "agent" :=
            Fields.required_insert_ne summary (by decide) _
          have hnative : ∀ value : Json,
              (Fields.required (Fields.insert fields "summary" value) "agent_session_id" :
                Option String) = Fields.required fields "agent_session_id" :=
            Fields.required_insert_ne fields (by decide)
          rw [metadataOwner_obj hsummary, metadataOwner_obj (Fields.lookup_insert_self _ _ _), hagent,
            hnative]
      · rfl
  | _ => rfl

/-! ## owners -/

/-- What a session is bound to. -/
def Session.owner (session : Session C) : Option (String × String) :=
  session.agentSessionId.map fun native => (session.summary.agent, native)

def RecoveredSession.owner (session : RecoveredSession) : Option (String × String) :=
  session.agentSessionId.map fun native => (session.summary.agent, native)

theorem Session.Serves.owner_eq {session session' : Session C} (h : session.Serves session') :
    session'.owner = session.owner := by
  rw [Session.owner, Session.owner, h.agentSessionId, h.agent]

theorem metadataOwner_stored (session : Session C) :
    metadataOwner session.stored.metadata = session.owner :=
  metadataOwner_of_ofJson (ofJson_toJson _)

/-- What the row of a session is bound to. -/
def tableOwner (table : AList fun _ : SessionId => StoredSession) (id : SessionId) :
    Option (String × String) :=
  (table.lookup id).bind fun row => metadataOwner row.metadata

theorem tableOwner_insert_self (table : AList fun _ : SessionId => StoredSession) (id : SessionId)
    (row : StoredSession) : tableOwner (table.insert id row) id = metadataOwner row.metadata := by
  rw [tableOwner, AList.lookup_insert, Option.bind_some]

theorem tableOwner_insert_ne (table : AList fun _ : SessionId => StoredSession)
    {id other : SessionId} (h : id ≠ other) (row : StoredSession) :
    tableOwner (table.insert other row) id = tableOwner table id := by
  rw [tableOwner, AList.lookup_insert_ne h, tableOwner]

/-- No two rows are bound to the same session of an agent. -/
def OwnedTable (table : AList fun _ : SessionId => StoredSession) : Prop :=
  ∀ id id' native, tableOwner table id = some native → tableOwner table id' = some native →
    id = id'

/-- Rows that are bound as before, or not any more. -/
theorem OwnedTable.mono {table table' : AList fun _ : SessionId => StoredSession}
    (h : OwnedTable table)
    (hsame : ∀ id native, tableOwner table' id = some native → tableOwner table id = some native) :
    OwnedTable table' :=
  fun id id' native howner howner' =>
    h id id' native (hsame id native howner) (hsame id' native howner')

/-- A row that is bound to what no other is. -/
theorem OwnedTable.insert {table : AList fun _ : SessionId => StoredSession} (h : OwnedTable table)
    {id : SessionId} {row : StoredSession}
    (hunowned : ∀ other native, metadataOwner row.metadata = some native →
      tableOwner table other ≠ some native) :
    OwnedTable (table.insert id row) := by
  intro a b native ha hb
  by_cases hida : a = id
  · by_cases hidb : b = id
    · rw [hida, hidb]
    · rw [hida, tableOwner_insert_self] at ha
      rw [tableOwner_insert_ne _ hidb] at hb
      exact absurd hb (hunowned b native ha)
  · rw [tableOwner_insert_ne _ hida] at ha
    by_cases hidb : b = id
    · rw [hidb, tableOwner_insert_self] at hb
      exact absurd ha (hunowned a native hb)
    · rw [tableOwner_insert_ne _ hidb] at hb
      exact h a b native ha hb

/-- Every session is bound to what its row is bound to, and no two rows to the same. -/
structure Owned (env : Env) (world : World SqliteStore C) : Prop where
  rooted : Rooted env world
  table : OwnedTable world.inner.store.sessions
  live : ∀ id session, world.inner.sessions.lookup id = some session →
    ∀ native, session.owner = some native → tableOwner world.inner.store.sessions id = some native
  lost : ∀ id session, world.inner.recovered.lookup id = some session →
    ∀ native, session.owner = some native → tableOwner world.inner.store.sessions id = some native

namespace Owned

variable {env : Env} {world world' : World SqliteStore C}

theorem serves (h : Owned env world) (hserves : world.Serves world') : Owned env world' := by
  have hrooted := h.rooted.serves hserves
  constructor
  · exact hrooted
  · refine h.table.mono fun id native howner => ?_
    rcases hserves.rows id with hrow | ⟨session', hlookup, hrow⟩
    · rwa [tableOwner, hrow] at howner
    · obtain ⟨session, hold, hsession⟩ := hserves.live id session' hlookup
      rw [tableOwner, hrow, Option.bind_some, metadataOwner_stored, hsession.owner_eq] at howner
      exact h.live id session hold native howner
  · intro id session' hlookup native howner
    rcases hserves.rows id with hrow | ⟨session'', hlookup', hrow⟩
    · obtain ⟨session, hold, hsession⟩ := hserves.live id session' hlookup
      rw [hsession.owner_eq] at howner
      rw [tableOwner, hrow]
      exact h.live id session hold native howner
    · obtain rfl := Option.some.inj (hlookup.symm.trans hlookup')
      rw [tableOwner, hrow, Option.bind_some, metadataOwner_stored, howner]
  · intro id session hlookup native howner
    rcases hserves.rows id with hrow | ⟨session', hlookup', -⟩
    · rw [hserves.recovered] at hlookup
      rw [tableOwner, hrow]
      exact h.lost id session hlookup native howner
    · exact absurd (mem_of_lookup hlookup)
        (hrooted.disjoint id (mem_of_lookup hlookup'))

theorem register (h : Owned env world) {build : SessionId → Session C}
    (hbuild : ∀ id, (build id).summary.id = id)
    (hunowned : ∀ native, (build (world.env.uuid world.ticks)).owner = some native →
      ∀ id, tableOwner world.inner.store.sessions id ≠ some native) :
    Owned env (world.registered build) := by
  have hid := hbuild (world.env.uuid world.ticks)
  have hstore : (world.registered build).inner.store.sessions =
      world.inner.store.sessions.insert (world.env.uuid world.ticks)
        (build (world.env.uuid world.ticks)).stored := by
    show world.inner.store.sessions.insert (build _).summary.id _ = _
    rw [hid]
  have hother : ∀ id ∈ world.inner.store.sessions, id ≠ world.env.uuid world.ticks := by
    rintro id hmem rfl
    exact h.rooted.notMem hmem
  constructor
  · exact h.rooted.register hbuild
  · rw [hstore]
    refine h.table.insert fun id native howner => ?_
    rw [metadataOwner_stored] at howner
    exact hunowned native howner id
  · intro id session hlookup native howner
    rw [hstore]
    rcases lookup_insert_eq_some hlookup with ⟨rfl, rfl⟩ | ⟨hne, hold⟩
    · rw [tableOwner_insert_self, metadataOwner_stored, howner]
    · rw [tableOwner_insert_ne _ hne]
      exact h.live id session hold native howner
  · intro id session hlookup native howner
    have hmem : id ∈ world.inner.recovered := by
      refine AList.lookup_isSome.mp ?_
      rw [show world.inner.recovered.lookup id = some session from hlookup]
      rfl
    rw [hstore, tableOwner_insert_ne _ (hother id (h.rooted.lost id hmem))]
    exact h.lost id session hlookup native howner

theorem archive (h : Owned env world) (id : SessionId) (archived : Bool) :
    Owned env ((Manager.archiveSession id archived).final world) := by
  have hrooted := h.rooted.archive id archived
  by_cases hlive : id ∈ world.inner.sessions
  · obtain ⟨session, hlookup⟩ := exists_lookup_of_mem hlive
    have hid := h.rooted.keyed id session hlookup
    have howner : metadataOwner ({ session with
        summary := { session.summary with archived } }.stored).metadata = session.owner :=
      metadataOwner_stored _
    have hstore : ∀ other, other ≠ id → tableOwner (world.inner.store.sessions.insert
        session.summary.id ({ session with
          summary := { session.summary with archived } }.stored)) other =
        tableOwner world.inner.store.sessions other := by
      intro other hother
      rw [hid, tableOwner_insert_ne _ hother]
    have hself : tableOwner (world.inner.store.sessions.insert session.summary.id ({ session with
        summary := { session.summary with archived } }.stored)) id = session.owner := by
      rw [hid, tableOwner_insert_self, howner]
    rw [Manager.final_archiveSession_live hlookup] at hrooted ⊢
    constructor
    · exact hrooted
    · refine h.table.mono fun other native hother => ?_
      by_cases hsame : other = id
      · subst hsame
        exact h.live _ session hlookup native (hself.symm.trans hother)
      · exact (hstore other hsame).symm.trans hother
    · intro other session' hlookup' native howner'
      rcases lookup_insert_eq_some hlookup' with ⟨rfl, rfl⟩ | ⟨hne, hold⟩
      · exact hself.trans howner'
      · exact (hstore other hne).trans (h.live other session' hold native howner')
    · intro other session' hlookup' native howner'
      have hne : other ≠ id := by
        rintro rfl
        refine h.rooted.disjoint _ hlive (AList.lookup_isSome.mp ?_)
        exact Option.isSome_iff_exists.mpr ⟨session', hlookup'⟩
      exact (hstore other hne).trans (h.lost other session' hlookup' native howner')
  · have hnone := AList.lookup_eq_none.mpr hlive
    cases hrecovered : world.inner.recovered.lookup id with
    | none =>
        rw [Manager.final_archiveSession_none hnone hrecovered]
        exact h
    | some session =>
        have hlost : ∀ other session', (world.inner.recovered.insert id
            { session with summary := { session.summary with archived } }).lookup other =
              some session' → ∀ native, session'.owner = some native →
            tableOwner world.inner.store.sessions other = some native := by
          intro other session' hlookup' native howner
          rcases lookup_insert_eq_some hlookup' with ⟨rfl, rfl⟩ | ⟨-, hold⟩
          · exact h.lost _ session hrecovered native howner
          · exact h.lost other session' hold native howner
        rw [Manager.final_archiveSession_recovered hnone hrecovered] at hrooted ⊢
        rcases Manager.final_archiveRecovered world id session archived with
          hfinal | ⟨stored, hstored, hfinal⟩
        · rw [hfinal] at hrooted ⊢
          exact ⟨hrooted, h.table, h.live, hlost⟩
        · have hrow : world.inner.store.sessions.lookup id = some stored := Except.ok.inj hstored
          have hid := world.inner.store.keyed id stored hrow
          -- the edited row is bound to what it was bound to
          have hsame : ∀ other, tableOwner (world.inner.store.sessions.insert stored.sessionId
              { stored with metadata := archiveMetadata stored.metadata archived }) other =
              tableOwner world.inner.store.sessions other := by
            intro other
            by_cases hother : other = id
            · rw [hother, hid, tableOwner_insert_self, tableOwner, hrow]
              exact metadataOwner_archiveMetadata _ _
            · rw [hid, tableOwner_insert_ne _ hother]
          rw [hfinal] at hrooted ⊢
          exact ⟨hrooted, h.table.mono fun other native hother => (hsame other).symm.trans hother,
            fun other session' hlookup' native howner =>
              (hsame other).trans (h.live other session' hlookup' native howner),
            fun other session' hlookup' native howner =>
              (hsame other).trans (hlost other session' hlookup' native howner)⟩

end Owned

/-! ## starts -/

/-- Agents bind a connection to the session it is asked to load or to resume. -/
structure BindsRequested (C : Type) [AcpSession C] : Prop where
  load : ∀ (connection connection' : C) agentSessionId cwd metadata,
    AcpSession.loadSession connection agentSessionId cwd = (.ok metadata, connection') →
      metadata.agentSessionId = agentSessionId
  resume : ∀ (connection connection' : C) agentSessionId cwd metadata,
    AcpSession.resumeSession connection agentSessionId cwd = (.ok metadata, connection') →
      metadata.agentSessionId = agentSessionId

section

variable [AcpSession C] {S : Type}

/-- A rehydrated session is bound to what the record says. -/
theorem Manager.quietly_rehydration_binds (hbinds : BindsRequested C) (record : PersistedSession) :
    Quietly (rehydration record : Manager S C _) fun outcome => ∀ rehydrated,
      outcome = .ok rehydrated →
        some rehydrated.sessionMetadata.agentSessionId = record.agentSessionId := by
  have hlost : ∀ {agentSessionId : Option String} (state : SessionRecoveryState),
      Quietly (pure (.error state) : Manager S C (Except SessionRecoveryState (RehydratedSession C)))
        fun outcome => ∀ rehydrated, outcome = .ok rehydrated →
          some rehydrated.sessionMetadata.agentSessionId = agentSessionId :=
    fun state => quietly_pure fun rehydrated heq => by contradiction
  refine quietly_bind quietly_get fun world _ => ?_
  split
  · exact hlost _
  · exact hlost _
  · next adapter nativeId _ hnative =>
      rw [hnative]
      refine quietly_bind (quietly_spawnSession _ _) fun spawned _ => ?_
      cases spawned with
      | error error => exact hlost _
      | ok connection =>
          dsimp only
          split
          · exact hlost _
          · split
            · refine quietly_bind (quietly_resume nativeId) fun _ _ => ?_
              split
              · exact hlost _
              · next metadata connection' hresume =>
                  refine quietly_pure fun rehydrated heq => ?_
                  rw [← Except.ok.inj heq]
                  exact congrArg some (hbinds.resume _ _ _ _ _ hresume)
            · exact hlost _

/-- Every session that comes from one of the rows is bound to what the row says. -/
def World.BoundTo (world : World S C) (rows : List StoredSession) : Prop :=
  (∀ id session, world.inner.sessions.lookup id = some session → ∀ native,
    session.owner = some native → ∃ row ∈ rows, row.sessionId = id ∧
      metadataOwner row.metadata = some native) ∧
  ∀ id session, world.inner.recovered.lookup id = some session → ∀ native,
    session.owner = some native → ∃ row ∈ rows, row.sessionId = id ∧
      metadataOwner row.metadata = some native

variable [SessionStore S]

theorem World.BoundTo.recover (hbinds : BindsRequested C) {world : World S C}
    {rows : List StoredSession} (h : world.BoundTo rows) {stored : StoredSession}
    (hmem : stored ∈ rows) (hkeyed : stored.WellKeyed) :
    ((Manager.recoverStoredSession stored : Manager S C Unit).final world).BoundTo rows := by
  rw [Manager.recoverStoredSession, final_bind, exec_get]
  dsimp only
  cases hread : stored.record with
  | none =>
      refine ⟨h.1, fun id session hlookup native howner => ?_⟩
      rcases lookup_insert_eq_some hlookup with ⟨-, rfl⟩ | ⟨-, hold⟩
      · contradiction
      · exact h.2 id session hold native howner
  | some record =>
      have howns := metadataOwner_of_ofJson hread
      obtain ⟨outcome, between, hexec, -, hsessions, hrecovered, houtcome⟩ :=
        Manager.quietly_rehydration_binds hbinds record world
      have hbetween : between.BoundTo rows := by
        rw [World.BoundTo, hsessions, hrecovered]
        exact h
      dsimp only
      rw [final_bind, hexec]
      cases outcome with
      | ok rehydrated =>
          have hnative := houtcome rehydrated rfl
          refine ⟨fun id session hlookup native howner => ?_, hbetween.2⟩
          rcases lookup_insert_eq_some hlookup with ⟨hid, rfl⟩ | ⟨-, hold⟩
          · refine ⟨stored, hmem, (hkeyed record hread).symm.trans hid.symm, ?_⟩
            rw [howns, ← hnative, ← howner]
            rfl
          · exact hbetween.1 id session hold native howner
      | error state =>
          refine ⟨hbetween.1, fun id session hlookup native howner => ?_⟩
          rcases lookup_insert_eq_some hlookup with ⟨hid, rfl⟩ | ⟨-, hold⟩
          · refine ⟨stored, hmem, hid.symm, ?_⟩
            rw [howns, ← howner]
            rfl
          · exact hbetween.2 id session hold native howner

theorem World.BoundTo.recoverAll (hbinds : BindsRequested C) {world : World S C}
    {rows more : List StoredSession} (h : world.BoundTo rows) (hmore : ∀ row ∈ more, row ∈ rows)
    (hkeyed : ∀ row ∈ more, row.WellKeyed) :
    ((more.forM Manager.recoverStoredSession).final world).BoundTo rows := by
  induction more generalizing world with
  | nil => exact h
  | cons stored more ih =>
      rw [final_forM_cons]
      exact ih (h.recover hbinds (hmore stored List.mem_cons_self) (hkeyed stored List.mem_cons_self))
        (fun row hrow => hmore row (List.mem_cons_of_mem _ hrow))
        fun row hrow => hkeyed row (List.mem_cons_of_mem _ hrow)

end

/-! ## one session per agent session -/

/-- A place where the manager keeps a session. -/
inductive Held where
  | live (id : SessionId)
  | recovered (id : SessionId)

/-- What the session in that place is bound to. -/
def World.owner {S : Type} (world : World S C) : Held → Option (String × String)
  | .live id => (world.inner.sessions.lookup id).bind Session.owner
  | .recovered id => (world.inner.recovered.lookup id).bind RecoveredSession.owner

/-- No two sessions are bound to the same session of an agent. -/
def World.OwnsOnce {S : Type} (world : World S C) : Prop :=
  ∀ held held' native, world.owner held = some native → world.owner held' = some native →
    held = held'

theorem Owned.ownsOnce {env : Env} {world : World SqliteStore C} (h : Owned env world) :
    world.OwnsOnce := by
  have hlive : ∀ {id : SessionId} {native : String × String},
      world.owner (.live id) = some native →
      id ∈ world.inner.sessions ∧ tableOwner world.inner.store.sessions id = some native := by
    intro id native howner
    obtain ⟨session, hlookup, howner⟩ := Option.bind_eq_some_iff.mp howner
    exact ⟨mem_of_lookup hlookup, h.live id session hlookup native howner⟩
  have hlost : ∀ {id : SessionId} {native : String × String},
      world.owner (.recovered id) = some native →
      id ∈ world.inner.recovered ∧ tableOwner world.inner.store.sessions id = some native := by
    intro id native howner
    obtain ⟨session, hlookup, howner⟩ := Option.bind_eq_some_iff.mp howner
    exact ⟨mem_of_lookup hlookup, h.lost id session hlookup native howner⟩
  intro held held' native howner howner'
  cases held with
  | live id =>
      obtain ⟨hmem, hrow⟩ := hlive howner
      cases held' with
      | live id' => rw [h.table id id' native hrow (hlive howner').2]
      | recovered id' =>
          obtain ⟨hmem', hrow'⟩ := hlost howner'
          rw [← h.table id id' native hrow hrow'] at hmem'
          exact absurd hmem' (h.rooted.disjoint id hmem)
  | recovered id =>
      obtain ⟨hmem, hrow⟩ := hlost howner
      cases held' with
      | live id' =>
          obtain ⟨hmem', hrow'⟩ := hlive howner'
          rw [← h.table id id' native hrow hrow'] at hmem'
          exact absurd hmem (h.rooted.disjoint id hmem')
      | recovered id' => rw [h.table id id' native hrow (hlost howner').2]

section

variable [AcpSession C]

/-- No stored session is bound to the session of the agent. -/
def World.Unowned (world : World SqliteStore C) (native : String × String) : Prop :=
  ∀ id, tableOwner world.inner.store.sessions id ≠ some native

/-- The agent gives a new session an id that no session of its is known by. -/
def World.CreatesFresh (world : World SqliteStore C) (operation : Operation) : Prop :=
  ∀ start, operation.start? = some start → start.kind = .new →
    ∀ handshake ∈ world.opens start,
      world.Unowned (start.agent.asStr, handshake.metadata.agentSessionId)

/-- The agent session to be imported is not one that is imported already. -/
def World.ImportsUnowned (world : World SqliteStore C) (operation : Operation) : Prop :=
  ∀ request, operation = .importSession request →
    world.Unowned (request.agent.asStr, request.agentSessionId)

theorem Owned.boot {env : Env} (hbinds : BindsRequested C) {ticks : Nat}
    {store : SqliteStore} {boot : Boot C} {rows : List StoredSession}
    (hrows : rows.Perm (byCreation store.sessions)) (htable : RootedTable env ticks store.sessions)
    (howned : OwnedTable store.sessions) : Owned env (boot.startIn env ticks store rows) := by
  have hempty : World.BoundTo (SessionManager.starting env ticks boot.adapters
      (store.reopen boot.eventLimit) boot.journalLimit) rows :=
    ⟨fun id session hlookup =>
        absurd hlookup (SessionManager.lookup_sessions_starting_ne id session),
      fun id session hlookup =>
        absurd hlookup (SessionManager.lookup_recovered_starting_ne id session)⟩
  have hbound : (boot.startIn env ticks store rows).BoundTo rows :=
    hempty.recoverAll hbinds (fun row hrow => hrow) fun row hrow =>
      htable.1.wellKeyed ((mem_rows_iff hrows).mp hrow)
  have hstore : (boot.startIn env ticks store rows).inner.store.sessions = store.sessions := by
    rw [(recoversRows_startIn boot env ticks store rows).recovers.store]
    rfl
  have hrow : ∀ {id : SessionId} {native : String × String},
      (∃ row ∈ rows, row.sessionId = id ∧ metadataOwner row.metadata = some native) →
      tableOwner store.sessions id = some native := by
    rintro id native ⟨row, hmem, rfl, howner⟩
    rw [tableOwner, (mem_rows_iff hrows).mp hmem, Option.bind_some, howner]
  constructor
  · exact .boot hrows htable
  · rw [hstore]
    exact howned
  · intro id session hlookup native howner
    rw [hstore]
    exact hrow (hbound.1 id session hlookup native howner)
  · intro id session hlookup native howner
    rw [hstore]
    exact hrow (hbound.2 id session hlookup native howner)

/-- The answer that bound the session. -/
theorem World.bound_of_opens {world : World SqliteStore C} {start : Start}
    {handshake : Handshake C} (h : handshake ∈ world.opens start) :
    ∃ initialized connection cwd,
      bindingAnswer start.kind initialized connection cwd =
        some (handshake.metadata, handshake.connection) := by
  obtain ⟨adapter, -, h⟩ := Option.bind_eq_some_iff.mp h
  obtain ⟨connection, -, h⟩ := Option.bind_eq_some_iff.mp h
  obtain ⟨⟨initialized, connection'⟩, -, h⟩ := Option.bind_eq_some_iff.mp h
  obtain ⟨⟨metadata, connection''⟩, hanswer, h⟩ := Option.bind_eq_some_iff.mp h
  obtain rfl := Option.some.inj h
  exact ⟨initialized, connection', _, hanswer⟩

/-- A session that is loaded or resumed is the one that was asked for. -/
theorem BindsRequested.native_eq (hbinds : BindsRequested C) {kind : OpenKind}
    {agentSessionId : String} (hkind : kind = .load agentSessionId ∨ kind = .resume agentSessionId)
    {initialized : InitializeSummary} {connection connection' : C} {cwd : String}
    {metadata : SessionMetadata}
    (h : bindingAnswer kind initialized connection cwd = some (metadata, connection')) :
    metadata.agentSessionId = agentSessionId := by
  have hgranted : ∀ {answer : Except AcpError SessionMetadata × C},
      granted answer = some (metadata, connection') → answer = (.ok metadata, connection') := by
    intro answer hanswer
    match answer with
    | (.ok metadata', connection'') =>
        obtain ⟨rfl, rfl⟩ := Prod.mk.inj (Option.some.inj hanswer)
        rfl
    | (.error error, connection'') => contradiction
  rcases hkind with rfl | rfl
  · obtain ⟨-, hanswer⟩ := Option.ite_none_right_eq_some.mp h
    exact hbinds.load _ _ _ _ _ (hgranted hanswer)
  · obtain ⟨-, hanswer⟩ := Option.ite_none_right_eq_some.mp h
    exact hbinds.resume _ _ _ _ _ (hgranted hanswer)

/-- What the session that is opened is bound to, no stored session is. -/
theorem World.unowned_of_opens (hbinds : BindsRequested C) {world : World SqliteStore C}
    {operation : Operation} (hfresh : world.CreatesFresh operation)
    (himports : world.ImportsUnowned operation) {start : Start} {handshake : Handshake C}
    (hstart : operation.start? = some start) (hopens : handshake ∈ world.opens start) :
    world.Unowned (start.agent.asStr, handshake.metadata.agentSessionId) := by
  cases operation with
  | createSession request =>
      obtain rfl := Option.some.inj hstart
      exact hfresh _ rfl rfl handshake hopens
  | importSession request =>
      obtain rfl := Option.some.inj hstart
      obtain ⟨initialized, connection, cwd, hanswer⟩ := World.bound_of_opens hopens
      have hnative : handshake.metadata.agentSessionId = request.agentSessionId := by
        refine hbinds.native_eq ?_ hanswer
        cases hrecovery : request.recovery with
        | load => exact .inl rfl
        | resume => exact .inr rfl
      rw [hnative]
      exact himports request rfl
  | _ => contradiction

/-- **Owners stay distinct** in all lives whose imports are of sessions that are not
imported yet. -/
theorem lifeInvariant_owned (hbinds : BindsRequested C) (env : Env) :
    LifeInvariant (C := C) env
      (fun world operation => world.CreatesFresh operation ∧ world.ImportsUnowned operation)
      (Owned env) fun ticks table => RootedTable env ticks table ∧ OwnedTable table where
  mono _ _ _ hle h := ⟨(lifeInvariant_rooted (C := C) env).mono _ _ _ hle h.1, h.2⟩
  store _ h := ⟨h.rooted.table, h.table⟩
  keyed _ h := h.rooted.keyed
  boot _ _ _ _ hrows h := .boot hbinds hrows h.1 h.2
  serves _ _ hserves h := h.serves hserves
  register world operation start handshake between now gitBranch hok hstart hopens hwaits h := by
    have hunowned := World.unowned_of_opens hbinds hok.1 hok.2 hstart hopens
    refine h.register (fun _ => rfl) fun native howner id => ?_
    rw [← Option.some.inj howner, hwaits.inner]
    exact hunowned id
  archive _ id archived _ h := h.archive id archived

/-- **One product session per agent session**, if agents give new sessions fresh ids and
nothing is imported twice. -/
theorem one_session_per_native (hbinds : BindsRequested C) {env : Env} {ticks : Nat}
    {store : SqliteStore} (htable : RootedTable env ticks store.sessions)
    (howned : OwnedTable store.sessions) {world : World SqliteStore C}
    (hreach : (hostLife env (.down ticks store)).ReachUnder
      (Host.Obeys fun world operation =>
        world.CreatesFresh operation ∧ world.ImportsUnowned operation) (.up world)) :
    world.OwnsOnce := by
  have hholds := (lifeInvariant_owned hbinds env).holds (.down ticks store)
    ⟨htable, howned⟩ hreach
  exact Owned.ownsOnce hholds

end

/-! ## an import -/

theorem ScriptedAgent.bindsRequested : BindsRequested ScriptedAgent where
  load connection connection' agentSessionId cwd metadata h := by
    rw [← Except.ok.inj (Prod.mk.inj h).1]
    rfl
  resume connection connection' agentSessionId cwd metadata h := by
    rw [← Except.ok.inj (Prod.mk.inj h).1]
    rfl

def sampleImport : ImportSessionRequest where
  agent := .fake
  agentSessionId := "native-1"
  workingDirectoryLabel := "~/src"
  recovery := .resume
  title := none

theorem createsFresh_import (world : World SqliteStore ScriptedAgent)
    (request : ImportSessionRequest) : world.CreatesFresh (.importSession request) := by
  intro start hstart hkind
  obtain rfl := Option.some.inj hstart
  cases hrecovery : request.recovery <;> rw [hrecovery] at hkind <;> contradiction

/-- A session that is imported once. -/
theorem one_session_per_native_imported :
    (sampleManager.after (.importSession sampleImport)).OwnsOnce := by
  have hempty : ∀ id : SessionId, tableOwner (SqliteStore.empty 0).sessions id = none :=
    fun id => by rw [tableOwner, SqliteStore.empty, AList.lookup_empty, Option.bind_none]
  have htable : RootedTable sampleEnv 0 (SqliteStore.empty 0).sessions := by
    refine ⟨fun id row hlookup => ?_, fun n _ => AList.notMem_empty _⟩
    rw [SqliteStore.empty, AList.lookup_empty] at hlookup
    contradiction
  have howned : OwnedTable (SqliteStore.empty 0).sessions := by
    intro id id' native howner
    rw [hempty] at howner
    contradiction
  have hup : (hostLife sampleEnv (.down 0 (.empty 0))).ReachUnder
      (Host.Obeys fun world operation =>
        world.CreatesFresh operation ∧ world.ImportsUnowned operation) (.up sampleManager) :=
    .step (a := .boot (sampleBoot true) []) (.init rfl) trivial ⟨List.Perm.refl _, rfl⟩
  have hok : sampleManager.CreatesFresh (.importSession sampleImport) ∧
      sampleManager.ImportsUnowned (.importSession sampleImport) := by
    refine ⟨createsFresh_import _ _, fun request _ id howner => ?_⟩
    rw [show tableOwner sampleManager.inner.store.sessions id = none from hempty id] at howner
    contradiction
  have hturns : sampleManager.Turns (.operation (.importSession sampleImport))
      (sampleManager.after (.importSession sampleImport)) := rfl
  exact one_session_per_native ScriptedAgent.bindsRequested htable howned
    (.step (a := .turn (.operation (.importSession sampleImport))) hup hok ⟨_, hturns, rfl⟩)

/-- The same import twice: two sessions are bound to one. -/
theorem imported_twice :
    ∃ world : World SqliteStore ScriptedAgent,
      (hostLife sampleEnv (.down 0 (.empty 0))).ReachUnder
        (Host.Obeys fun world operation => world.CreatesFresh operation) (.up world) ∧
      world.owner (.live "uuu") = some ("fake", "native-1") ∧
      world.owner (.live "uuuuuuuu") = some ("fake", "native-1") ∧ ¬ world.OwnsOnce := by
  have hup : (hostLife sampleEnv (.down 0 (.empty 0))).ReachUnder
      (Host.Obeys fun world operation => world.CreatesFresh operation) (.up sampleManager) :=
    .step (a := .boot (sampleBoot true) []) (.init rfl) trivial ⟨List.Perm.refl _, rfl⟩
  have honce : sampleManager.Turns (.operation (.importSession sampleImport))
      (sampleManager.after (.importSession sampleImport)) := rfl
  have htwice : (sampleManager.after (.importSession sampleImport)).Turns
      (.operation (.importSession sampleImport))
      ((sampleManager.after (.importSession sampleImport)).after (.importSession sampleImport)) :=
    rfl
  have hfirst : (hostLife sampleEnv (.down 0 (.empty 0))).ReachUnder
      (Host.Obeys fun world operation => world.CreatesFresh operation)
      (.up (sampleManager.after (.importSession sampleImport))) :=
    .step (a := .turn (.operation (.importSession sampleImport))) hup (createsFresh_import _ _)
      ⟨_, honce, rfl⟩
  have howner : ((sampleManager.after (.importSession sampleImport)).after
      (.importSession sampleImport)).owner (.live "uuu") = some ("fake", "native-1") := by
    decide +kernel
  have howner' : ((sampleManager.after (.importSession sampleImport)).after
      (.importSession sampleImport)).owner (.live "uuuuuuuu") = some ("fake", "native-1") := by
    decide +kernel
  refine ⟨_, .step (a := .turn (.operation (.importSession sampleImport))) hfirst
    (createsFresh_import _ _) ⟨_, htwice, rfl⟩, howner, howner', fun honce => ?_⟩
  exact absurd (Held.live.inj (honce _ _ _ howner howner')) (by decide)

end Slight
