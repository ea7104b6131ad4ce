import Slight.Session.Lives

/-!
# Slight.Session.Archiving

How long an archiving lasts.  A live session is persisted with its new flag, and the
row of one that was not recovered is edited in place; `archive_durable_iff` says in
which cases the flag is found again after every restart.
-/

namespace Slight

open Support Program

variable {C : Type}

/-- The row of the session reads as archived or not, as `archived` says; a row that does
not read is never archived. -/
structure StoredSession.Archives (row : StoredSession) (archived : Bool) : Prop where
  readable : ∀ record : PersistedSession, row.record = some record →
    record.summary.archived = archived
  unreadable : row.record = none → archived = false

/-- The row once `archive_session` has edited its metadata. -/
def StoredSession.edited (row : StoredSession) (archived : Bool) : StoredSession :=
  { row with metadata := archiveMetadata row.metadata archived }

theorem StoredSession.archives_of_record {row : StoredSession} {record : PersistedSession}
    (h : row.record = some record) : row.Archives record.summary.archived := by
  constructor
  · intro record' hrecord
    rw [h] at hrecord
    rw [← Option.some.inj hrecord]
  · intro hnone
    rw [h] at hnone
    contradiction

/-- A persisted session is archived as it was live. -/
theorem Session.archives_stored (session : Session C) :
    session.stored.Archives session.summary.archived := by
  have hread : session.stored.record = some _ := ofJson_toJson _
  exact StoredSession.archives_of_record hread

/-- A row that reads is archived by the edit. -/
theorem StoredSession.archives_edited {row : StoredSession} {record : PersistedSession}
    (h : row.record = some record) (archived : Bool) :
    (row.edited archived).Archives archived := by
  have hread : (row.edited archived).record =
      some { record with summary := { record.summary with archived } } :=
    ofJson_archiveMetadata h archived
  exact StoredSession.archives_of_record hread

/-- The table has the flag of the session. -/
def ArchivesTable (id : SessionId) (archived : Bool)
    (table : AList fun _ : SessionId => StoredSession) : Prop :=
  ∃ row, table.lookup id = some row ∧ row.Archives archived

theorem ArchivesTable.insert {id other : SessionId} {archived : Bool}
    {table : AList fun _ : SessionId => StoredSession} (h : ArchivesTable id archived table)
    (hother : other ≠ id) (row : StoredSession) :
    ArchivesTable id archived (table.insert other row) := by
  obtain ⟨row', hlookup, hrow⟩ := h
  exact ⟨row', by rw [AList.lookup_insert_ne hother.symm, hlookup], hrow⟩

/-- The session has the flag, wherever the manager keeps it. -/
structure Archives (env : Env) (id : SessionId) (archived : Bool) (world : World SqliteStore C) :
    Prop where
  rooted : Rooted env world
  row : ArchivesTable id archived world.inner.store.sessions
  live : ∀ session, world.inner.sessions.lookup id = some session →
    session.summary.archived = archived
  lost : ∀ session, world.inner.recovered.lookup id = some session →
    session.summary.archived = archived
  listed : id ∈ world.inner.sessions ∨ id ∈ world.inner.recovered

namespace Archives

variable {env : Env} {id : SessionId} {archived : Bool} {world world' : World SqliteStore C}

/-- The session is listed with the flag. -/
theorem summary (h : Archives env id archived world) :
    ∃ summary, world.summary id = some summary ∧ summary.archived = archived := by
  unfold World.summary
  cases hlive : world.inner.sessions.lookup id with
  | some session => exact ⟨session.summary, rfl, h.live session hlive⟩
  | none =>
      rcases h.listed with hmem | hmem
      · exact absurd hmem (AList.lookup_eq_none.mp hlive)
      · obtain ⟨session, hlost⟩ := exists_lookup_of_mem hmem
        exact ⟨session.summary, by rw [hlost]; rfl, h.lost session hlost⟩

theorem serves (h : Archives env id archived world) (hserves : world.Serves world') :
    Archives env id archived world' := by
  have hlive : ∀ session', world'.inner.sessions.lookup id = some session' →
      session'.summary.archived = archived := by
    intro session' hlookup
    obtain ⟨session, hold, hsession⟩ := hserves.live id session' hlookup
    rw [hsession.archived]
    exact h.live session hold
  constructor
  · exact h.rooted.serves hserves
  · rcases hserves.rows id with hrow | ⟨session', hlookup, hrow⟩
    · obtain ⟨row, hlookup, harchives⟩ := h.row
      exact ⟨row, by rw [hrow, hlookup], harchives⟩
    · exact ⟨session'.stored, hrow, hlive session' hlookup ▸ session'.archives_stored⟩
  · exact hlive
  · intro session hlookup
    rw [hserves.recovered] at hlookup
    exact h.lost session hlookup
  · rw [hserves.recovered]
    exact h.listed.imp_left (hserves.mem id)

theorem mem_store (h : Archives env id archived world) : id ∈ world.inner.store.sessions :=
  h.listed.elim (h.rooted.live id) (h.rooted.lost id)

theorem register (h : Archives env id archived world) {build : SessionId → Session C}
    (hbuild : ∀ id, (build id).summary.id = id) :
    Archives env id archived (world.registered build) := by
  have hother : id ≠ world.env.uuid world.ticks := by
    rintro rfl
    exact h.rooted.notMem h.mem_store
  constructor
  · exact h.rooted.register hbuild
  · refine ArchivesTable.insert h.row (fun heq => hother ?_) _
    rw [← heq]
    exact hbuild _
  · intro session hlookup
    refine h.live session ?_
    rw [← hlookup]
    exact (AList.lookup_insert_ne hother).symm
  · exact h.lost
  · exact h.listed.imp_left fun hmem => (AList.mem_insert _).mpr (.inr hmem)

/-- Another session is archived. -/
theorem archive (h : Archives env id archived world) {other : SessionId} (hother : other ≠ id)
    (flag : Bool) :
    Archives env id archived ((Manager.archiveSession other flag).final world) := by
  have hrooted := h.rooted.archive other flag
  cases hlookup : world.inner.sessions.lookup other with
  | some session =>
      rw [Manager.final_archiveSession_live hlookup] at hrooted ⊢
      constructor
      · exact hrooted
      · have hid := h.rooted.keyed other session hlookup
        exact ArchivesTable.insert h.row (fun heq => hother (hid.symm.trans heq)) _
      · intro session' hlookup'
        refine h.live session' ?_
        rw [← hlookup']
        exact (AList.lookup_insert_ne hother.symm).symm
      · exact h.lost
      · exact h.listed.imp_left fun hmem => (AList.mem_insert _).mpr (.inr hmem)
  | none =>
      cases hrecovered : world.inner.recovered.lookup other with
      | none =>
          rw [Manager.final_archiveSession_none hlookup hrecovered]
          exact h
      | some session =>
          have hlost : ∀ session', (world.inner.recovered.insert other
              { session with summary := { session.summary with archived := flag } }).lookup id =
                some session' → session'.summary.archived = archived := by
            intro session' hlookup'
            rw [AList.lookup_insert_ne hother.symm] at hlookup'
            exact h.lost session' hlookup'
          have hlisted : id ∈ world.inner.sessions ∨ id ∈ world.inner.recovered.insert other
              { session with summary := { session.summary with archived := flag } } :=
            h.listed.imp_right fun hmem => (AList.mem_insert _).mpr (.inr hmem)
          rw [Manager.final_archiveSession_recovered hlookup hrecovered] at hrooted ⊢
          rcases Manager.final_archiveRecovered world other session flag with
            hfinal | ⟨stored, hstored, hfinal⟩
          · rw [hfinal] at hrooted ⊢
            exact ⟨hrooted, h.row, h.live, hlost, hlisted⟩
          · have hrow : world.inner.store.sessions.lookup other = some stored :=
              Except.ok.inj hstored
            rw [hfinal] at hrooted ⊢
            have hid := world.inner.store.keyed other stored hrow
            exact ⟨hrooted, ArchivesTable.insert h.row (fun heq => hother (hid.symm.trans heq)) _,
              h.live, hlost, hlisted⟩

theorem boot [AcpSession C] {ticks : Nat} {store : SqliteStore} {boot : Boot C}
    {rows : List StoredSession} (hrows : rows.Perm (byCreation store.sessions))
    (htable : RootedTable env ticks store.sessions)
    (h : ArchivesTable id archived store.sessions) :
    Archives env id archived (boot.startIn env ticks store rows) := by
  have hrooted : Rooted env (boot.startIn env ticks store rows) := .boot hrows htable
  obtain ⟨row, hrow, harchives⟩ := h
  constructor
  · exact hrooted
  · rw [(recoversRows_startIn boot env ticks store rows).recovers.store]
    exact ⟨row, hrow, harchives⟩
  · intro session hlookup
    obtain ⟨row', hrow', hrehydrates, -⟩ := lookup_sessions_startIn hrows htable.1 hlookup
    obtain rfl := Option.some.inj (hrow.symm.trans hrow')
    obtain ⟨record, hread, hsummary⟩ := hrehydrates.record
    rw [hsummary]
    exact harchives.readable record hread
  · intro session hlookup
    obtain ⟨row', hrow', hretains⟩ := lookup_recovered_startIn hrows hlookup
    obtain rfl := Option.some.inj (hrow.symm.trans hrow')
    cases hread : row.record with
    | some record =>
        rw [hretains.record record hread]
        exact harchives.readable record hread
    | none =>
        obtain ⟨reason, hsummary⟩ := hretains.unreadable hread
        rw [hsummary]
        exact (harchives.unreadable hread).symm
  · exact mem_startIn hrows htable.1 (mem_of_lookup hrow)

end Archives

/-- The operation does not archive the session, nor bring it back. -/
def SparesArchive (id : SessionId) (_ : World SqliteStore C) (operation : Operation) : Prop :=
  ∀ archived, operation ≠ .archiveSession id archived

/-- **The flag of a session** stays in all lives that do not archive it. -/
theorem lifeInvariant_archives [AcpSession C] (env : Env) (id : SessionId) (archived : Bool) :
    LifeInvariant (C := C) env (SparesArchive id) (Archives env id archived)
      fun ticks table => RootedTable env ticks table ∧ ArchivesTable id archived table where
  mono _ _ _ hle h := ⟨(lifeInvariant_rooted (C := C) env).mono _ _ _ hle h.1, h.2⟩
  store _ h := ⟨h.rooted.table, h.row⟩
  keyed _ h := h.rooted.keyed
  boot _ _ _ _ hrows h := .boot hrows h.1 h.2
  serves _ _ hserves h := h.serves hserves
  register _ _ _ _ _ _ _ _ _ _ _ h := h.register fun _ => rfl
  archive world other flag hspares h := by
    by_cases hother : other = id
    · exact absurd (hother ▸ rfl) (hspares flag)
    · exact h.archive hother flag

/-! ## the archiving -/

/-- Archiving is granted for sessions that are listed. -/
theorem Manager.mem_of_archiveSession {id : SessionId} {archived : Bool}
    {world : World SqliteStore C} {summary : SessionSummary}
    (h : (archiveSession id archived).result world = .ok summary) :
    id ∈ world.inner.sessions ∨ id ∈ world.inner.recovered := by
  rw [archiveSession, result, exec_bind, exec_lookupSession] at h
  cases hlookup : world.inner.sessions.lookup id with
  | some session => exact .inl (mem_of_lookup hlookup)
  | none =>
      rw [hlookup] at h
      dsimp only at h
      rw [exec_bind, exec_get] at h
      dsimp only at h
      cases hrecovered : world.inner.recovered.lookup id with
      | some session => exact .inr (mem_of_lookup hrecovered)
      | none =>
          rw [hrecovered] at h
          contradiction

/-- In every later life of the host that does not archive the session again, it is
listed with the flag. -/
def ArchivedForGood [AcpSession C] (env : Env) (id : SessionId) (archived : Bool)
    (world : World SqliteStore C) : Prop :=
  ∀ world' : World SqliteStore C,
    (hostLife env (.up world)).ReachUnder (Host.Obeys (SparesArchive id)) (.up world') →
      ∃ summary, world'.summary id = some summary ∧ summary.archived = archived

namespace Rooted

variable {env : Env} {id : SessionId} {archived : Bool} {world : World SqliteStore C}

/-- A live session is archived for good. -/
theorem archives_live (h : Rooted env world) (hlive : id ∈ world.inner.sessions) :
    Archives env id archived ((Manager.archiveSession id archived).final world) := by
  have hrooted := h.archive id archived
  obtain ⟨session, hlookup⟩ := exists_lookup_of_mem hlive
  have hid := h.keyed id session hlookup
  rw [Manager.final_archiveSession_live hlookup] at hrooted ⊢
  constructor
  · exact hrooted
  · refine ⟨_, ?_, Session.archives_stored
      { session with summary := { session.summary with archived } }⟩
    show AList.lookup id (world.inner.store.sessions.insert session.summary.id _) = _
    rw [hid, AList.lookup_insert]
  · intro session' hlookup'
    rcases lookup_insert_eq_some hlookup' with ⟨-, rfl⟩ | ⟨hne, -⟩
    · rfl
    · exact absurd rfl hne
  · intro session' hlookup'
    refine absurd (AList.lookup_isSome.mp ?_) (h.disjoint id hlive)
    exact Option.isSome_iff_exists.mpr ⟨session', hlookup'⟩
  · exact .inl ((AList.mem_insert _).mpr (.inl rfl))

/-- What archiving does to a session that was not recovered. -/
theorem archive_lost (h : Rooted env world) {session : RecoveredSession} {row : StoredSession}
    (hlookup : world.inner.recovered.lookup id = some session)
    (hrow : world.inner.store.sessions.lookup id = some row) :
    (Manager.archiveSession id archived).final world =
      ({ world with
        inner := { world.inner with
          recovered := world.inner.recovered.insert id
            { session with summary := { session.summary with archived } } } } :
        World SqliteStore C).wrote
          (.upsertSession (row.edited archived)) := by
  have hlost : id ∈ world.inner.recovered := mem_of_lookup hlookup
  have hnotLive : world.inner.sessions.lookup id = none :=
    AList.lookup_eq_none.mpr fun hlive => h.disjoint id hlive hlost
  have hget : SessionStore.getSession world.inner.store id = .ok (some row) := congrArg _ hrow
  rw [Manager.final_archiveSession_recovered hnotLive hlookup, Manager.archiveRecovered,
    final_bind, exec_get]
  dsimp only
  rw [final_bind, exec_set]
  dsimp only
  rw [hget]
  rfl

/-- So is one that was not recovered, if its edited row reads so. -/
theorem archives_lost (h : Rooted env world) {row : StoredSession}
    (hlost : id ∈ world.inner.recovered)
    (hrow : world.inner.store.sessions.lookup id = some row)
    (hreads : (row.edited archived).Archives archived) :
    Archives env id archived ((Manager.archiveSession id archived).final world) := by
  have hrooted := h.archive id archived
  obtain ⟨session, hlookup⟩ := exists_lookup_of_mem hlost
  have hid := world.inner.store.keyed id row hrow
  rw [h.archive_lost hlookup hrow] at hrooted ⊢
  constructor
  · exact hrooted
  · refine ⟨row.edited archived, ?_, hreads⟩
    show AList.lookup id (world.inner.store.sessions.insert row.sessionId _) = _
    rw [hid, AList.lookup_insert]
  · intro session' hlookup'
    refine absurd hlost (h.disjoint id (AList.lookup_isSome.mp ?_))
    exact Option.isSome_iff_exists.mpr ⟨session', hlookup'⟩
  · intro session' hlookup'
    rcases lookup_insert_eq_some hlookup' with ⟨-, rfl⟩ | ⟨hne, -⟩
    · rfl
    · exact absurd rfl hne
  · exact .inr ((AList.mem_insert _).mpr (.inl rfl))

end Rooted

section

variable [AcpSession C] {env : Env} {id : SessionId} {archived : Bool}
  {world : World SqliteStore C}

/-- An archiving that is held lasts. -/
theorem Archives.forGood (h : Archives env id archived world) :
    ArchivedForGood env id archived world := by
  intro world' hreach
  have hholds := (lifeInvariant_archives (C := C) env id archived).holds (.up world) h
    hreach
  exact Archives.summary hholds

/-- A session whose row reads is archived for good, recovered or not. -/
theorem Rooted.archivedForGood (h : Rooted env world)
    (hlisted : id ∈ world.inner.sessions ∨ id ∈ world.inner.recovered) {row : StoredSession}
    (hrow : world.inner.store.sessions.lookup id = some row) {record : PersistedSession}
    (hread : row.record = some record) :
    ArchivedForGood env id archived ((Manager.archiveSession id archived).final world) := by
  rcases hlisted with hlive | hlost
  · exact (h.archives_live hlive).forGood
  · exact (h.archives_lost hlost hrow (StoredSession.archives_edited hread archived)).forGood

/-- A start without agents. -/
def Boot.idle : Boot C where
  adapters := []
  journalLimit := 0
  eventLimit := 0

/-- After the next start a row that does not read is not archived. -/
theorem ArchivedForGood.archives (hrooted : Rooted env world)
    (h : ArchivedForGood env id archived world) {row : StoredSession}
    (hrow : world.inner.store.sessions.lookup id = some row)
    (hunreadable : row.record = none) : archived = false := by
  have hpump : SparesArchive id world .pump := fun archived => nofun
  have hdown : (hostLife env (.up world)).ReachUnder (Host.Obeys (SparesArchive id))
      (.down (Operation.pump.run.final world).ticks world.inner.store) :=
    .step (a := .kill .pump 0) (.init rfl) hpump rfl
  have hup : (hostLife env (.up world)).ReachUnder (Host.Obeys (SparesArchive id))
      (.up (Boot.idle.startIn env (Operation.pump.run.final world).ticks world.inner.store
        (byCreation world.inner.store.sessions))) :=
    .step (a := .boot Boot.idle (byCreation world.inner.store.sessions)) hdown trivial
      ⟨List.Perm.refl _, rfl⟩
  obtain ⟨summary, hsummary, harchived⟩ := h _ hup
  rw [← harchived]
  unfold World.summary at hsummary
  split at hsummary
  · next session hlookup =>
      obtain ⟨row', hrow', hrehydrates, -⟩ :=
        lookup_sessions_startIn (List.Perm.refl _) hrooted.table.1 hlookup
      obtain rfl := Option.some.inj (hrow.symm.trans hrow')
      obtain ⟨record, hread, -⟩ := hrehydrates.record
      rw [hunreadable] at hread
      contradiction
  · obtain ⟨session, hlookup, rfl⟩ := Option.map_eq_some_iff.mp hsummary
    obtain ⟨row', hrow', hretains⟩ := lookup_recovered_startIn (List.Perm.refl _) hlookup
    obtain rfl := Option.some.inj (hrow.symm.trans hrow')
    obtain ⟨reason, hsummary⟩ := hretains.unreadable hunreadable
    rw [hsummary]
    rfl

/-- **Archiving is durable** exactly where the session is live or its edited row reads
as it was archived; a row that does not read is at most brought back. -/
theorem archive_durable_iff {ticks : Nat} {store : SqliteStore}
    (htable : RootedTable env ticks store.sessions)
    (hreach : (hostLife env (.down ticks store)).Reachable (.up world)) {summary : SessionSummary}
    (hok : (Manager.archiveSession id archived).result world = .ok summary) :
    ArchivedForGood env id archived ((Manager.archiveSession id archived).final world) ↔
      id ∈ world.inner.sessions ∨ ∃ row, world.inner.store.sessions.lookup id = some row ∧
        (row.edited archived).Archives archived := by
  have hrooted : Rooted env world :=
    (lifeInvariant_rooted (C := C) env).holds (.down ticks store) htable
      (hreach.mono fun host step _ => Host.obeys_of_forall (fun _ _ => trivial) host step)
  have hlisted := Manager.mem_of_archiveSession hok
  by_cases hlive : id ∈ world.inner.sessions
  · exact iff_of_true (hrooted.archives_live hlive).forGood (.inl hlive)
  have hlost := hlisted.resolve_left hlive
  obtain ⟨row, hrow⟩ := exists_lookup_of_mem (hrooted.lost id hlost)
  constructor
  · intro hgood
    obtain ⟨session, hlookup⟩ := exists_lookup_of_mem hlost
    have hedited : ((Manager.archiveSession id archived).final
        world).inner.store.sessions.lookup id = some (row.edited archived) := by
      rw [hrooted.archive_lost hlookup hrow]
      show AList.lookup id (world.inner.store.sessions.insert row.sessionId _) = _
      rw [world.inner.store.keyed id row hrow, AList.lookup_insert]
    refine .inr ⟨row, hrow, fun record hread => archived_archiveMetadata hread, fun hnone => ?_⟩
    exact hgood.archives (hrooted.archive id archived) hedited hnone
  · rintro (hmem | ⟨row', hrow', hreads⟩)
    · exact absurd hmem hlive
    · obtain rfl := Option.some.inj (hrow.symm.trans hrow')
      exact (hrooted.archives_lost hlost hrow hreads).forGood

end

/-- A session is created, and archived in the life after the next start. -/
theorem archive_durable_iff_created :
    ∃ world : World SqliteStore ScriptedAgent,
      (hostLife sampleEnv (.down 0 (.empty 0))).Reachable (.up world) ∧
      ArchivedForGood sampleEnv "uuu" true ((Manager.archiveSession "uuu" true).final world) := by
  have hup : (hostLife sampleEnv (.down 0 (.empty 0))).Reachable (.up sampleManager) :=
    .step (a := .boot (sampleBoot true) []) (.init rfl) trivial ⟨List.Perm.refl _, rfl⟩
  have hturns : sampleManager.Turns (.operation (.createSession sampleRequest))
      (sampleManager.after (.createSession sampleRequest)) := rfl
  have hreach : (hostLife sampleEnv (.down 0 (.empty 0))).Reachable
      (.up (sampleManager.after (.createSession sampleRequest))) :=
    .step (a := .turn (.operation (.createSession sampleRequest))) hup trivial ⟨_, hturns, rfl⟩
  have htable : RootedTable sampleEnv 0 (SqliteStore.empty 0).sessions := by
    refine ⟨fun id row hlookup => ?_, fun n _ => AList.notMem_empty _⟩
    rw [SqliteStore.empty, AList.lookup_empty] at hlookup
    contradiction
  have hmem : "uuu" ∈ (sampleManager.after (.createSession sampleRequest)).inner.sessions :=
    AList.mem_keys.mpr (by decide +kernel)
  obtain ⟨summary, hok⟩ : ∃ summary, (Manager.archiveSession "uuu" true).result
      (sampleManager.after (.createSession sampleRequest)) = .ok summary := ⟨_, rfl⟩
  exact ⟨_, hreach, (archive_durable_iff htable hreach hok).mpr (.inl hmem)⟩

/-- A database with a row that does not read. -/
def unreadableStore : SqliteStore :=
  (SqliteStore.empty 0).upsertSession { sampleRow 0 with metadata := .null }

/-- The session of that row is archived, and listed as not archived after a restart. -/
theorem archived_unreadable_returns :
    let world : World SqliteStore ScriptedAgent := Boot.idle.start sampleEnv 0 unreadableStore
    let archived := (Manager.archiveSession "s1" true).final world
    (hostLife sampleEnv (.down 0 unreadableStore)).Reachable (.up world) ∧
      ((Manager.archiveSession "s1" true).result world).toOption.map (·.archived) = some true ∧
      (archived.summary "s1").map (·.archived) = some true ∧
      (((Boot.idle : Boot ScriptedAgent).start sampleEnv 0 archived.inner.store).summary "s1").map
        (·.archived) = some false ∧
      ¬ ArchivedForGood sampleEnv "s1" true archived := by
  intro world archived
  have hreach : (hostLife sampleEnv (.down 0 unreadableStore)).Reachable (.up world) :=
    .step (a := .boot Boot.idle (byCreation unreadableStore.sessions)) (.init rfl) trivial
      ⟨List.Perm.refl _, rfl⟩
  have htable : RootedTable sampleEnv 0 unreadableStore.sessions := by
    constructor
    · intro id row hlookup name hname
      rcases lookup_insert_eq_some hlookup with ⟨-, rfl⟩ | ⟨-, hold⟩
      · contradiction
      · rw [SqliteStore.empty, AList.lookup_empty] at hold
        contradiction
    · intro n _ hmem
      rcases (AList.mem_insert _).mp hmem with heq | hmem
      · -- UUIDs of the sample are made of one letter
        have hlist : List.replicate n 'u' = ['s', '1'] := by
          simpa [sampleEnv, sampleRow] using congrArg String.toList heq
        have hmem : 's' ∈ List.replicate n 'u' := by
          rw [hlist]
          exact List.mem_cons_self
        exact absurd (List.eq_of_mem_replicate hmem) (by decide)
      · exact AList.notMem_empty _ hmem
  have hrooted : Rooted sampleEnv world := .boot (List.Perm.refl _) htable
  refine ⟨hreach, by decide +kernel, by decide +kernel, by decide +kernel, fun hgood => ?_⟩
  have hrow : ∃ row, archived.inner.store.sessions.lookup "s1" = some row ∧
      row.record = none := ⟨_, rfl, rfl⟩
  obtain ⟨row, hlookup, hunreadable⟩ := hrow
  exact Bool.noConfusion
    (hgood.archives (hrooted.archive "s1" true) hlookup hunreadable)

end Slight
