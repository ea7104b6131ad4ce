import Slight.Session.Opening
import Slight.Session.Partition

/-!
# Slight.Session.Lives

The lives of a host that starts from any database, or in any state: processes that
are killed between any two store calls and started again, where a start recovers the
rows in any order.

`LifeInvariant` reduces an invariant of such lives to what a start, a deed, an
archiving and the enrolling of a session keep.
-/

namespace Slight

open Support Program

variable {C : Type}

section

variable [AcpSession C]

/-- A start that recovers the rows in the given order. -/
def Boot.startIn (boot : Boot C) (env : Env) (ticks : Nat) (store : SqliteStore)
    (rows : List StoredSession) : World SqliteStore C :=
  (rows.forM Manager.recoverStoredSession).final
    (SessionManager.starting env ticks boot.adapters (store.reopen boot.eventLimit)
      boot.journalLimit)

/-- The manager recovers the oldest session first. -/
theorem Boot.start_eq_startIn (boot : Boot C) (env : Env) (ticks : Nat) (store : SqliteStore) :
    boot.start env ticks store = boot.startIn env ticks store (byCreation store.sessions) := rfl

inductive LifeStep (C : Type) where
  | boot (boot : Boot C) (rows : List StoredSession)
  | turn (turn : Turn)
  | kill (operation : Operation) (calls : Nat)

/-- The host from the given state on. -/
def hostLife (env : Env) (start : Host C) : System (Host C) (LifeStep C) where
  init host := host = start
  step host step host' :=
    match host, step with
    | .down ticks store, .boot boot rows =>
        rows.Perm (byCreation store.sessions) ∧ host' = .up (boot.startIn env ticks store rows)
    | .up world, .turn turn => ∃ world', world.Turns turn world' ∧ host' = .up world'
    | .up world, .kill operation calls =>
        host' = .down (operation.run.final world).ticks
          (((world.callsOf operation).take calls).foldl StoreWrite.apply world.inner.store)
    | _, _ => False

/-- The operation of the step, if it has one, is one that `ok` allows. -/
def Host.Obeys (ok : World SqliteStore C → Operation → Prop) (host : Host C)
    (step : LifeStep C) : Prop :=
  match host, step with
  | .up world, .turn (.operation operation) => ok world operation
  | .up world, .kill operation _ => ok world operation
  | _, _ => True

end

theorem Host.obeys_of_forall {ok : World SqliteStore C → Operation → Prop}
    (h : ∀ world operation, ok world operation) (host : Host C) (step : LifeStep C) :
    host.Obeys ok step := by
  match host, step with
  | .up world, .turn (.operation operation) => exact h world operation
  | .up world, .kill operation _ => exact h world operation
  | .up _, .turn .agents => trivial
  | .up _, .boot _ _ => trivial
  | .down _ _, .boot _ _ => trivial
  | .down _ _, .turn _ => trivial
  | .down _ _, .kill _ _ => trivial

/-! ## serving -/

/-- The session is the same one, bound to the same agent session. -/
structure Session.Serves (session session' : Session C) : Prop where
  id : session'.summary.id = session.summary.id
  agent : session'.summary.agent = session.summary.agent
  archived : session'.summary.archived = session.summary.archived
  agentSessionId : session'.agentSessionId = session.agentSessionId

theorem Session.Serves.refl (session : Session C) : session.Serves session := ⟨rfl, rfl, rfl, rfl⟩

theorem Session.Moves.serves {session session' : Session C} (h : session.Moves session') :
    session.Serves session' := by
  obtain ⟨title, hsummary⟩ := h.summary
  exact ⟨by rw [hsummary], by rw [hsummary], by rw [hsummary], h.agentSessionId⟩

/-- From `world` to `world'` no session is opened, archived or lost, and a row that
changed is that of a live session. -/
structure World.Serves (world world' : World SqliteStore C) : Prop where
  env : world'.env = world.env
  ticks : world.ticks ≤ world'.ticks
  recovered : world'.inner.recovered = world.inner.recovered
  live : ∀ id session', world'.inner.sessions.lookup id = some session' →
    ∃ session, world.inner.sessions.lookup id = some session ∧ session.Serves session'
  mem : ∀ id ∈ world.inner.sessions, id ∈ world'.inner.sessions
  rows : ∀ id, world'.inner.store.sessions.lookup id = world.inner.store.sessions.lookup id ∨
    ∃ session, world'.inner.sessions.lookup id = some session ∧
      world'.inner.store.sessions.lookup id = some session.stored

/-- Every live session is known under its own id. -/
def World.LiveKeyed {S : Type} (world : World S C) : Prop :=
  ∀ id session, world.inner.sessions.lookup id = some session → session.summary.id = id

namespace World.Serves

variable {world world' : World SqliteStore C}

theorem of_inner (henv : world'.env = world.env) (hticks : world.ticks ≤ world'.ticks)
    (hrecovered : world'.inner.recovered = world.inner.recovered)
    (hsessions : world'.inner.sessions = world.inner.sessions)
    (hstore : world'.inner.store = world.inner.store) : world.Serves world' where
  env := henv
  ticks := hticks
  recovered := hrecovered
  live id session' hlookup := ⟨session', hsessions ▸ hlookup, .refl _⟩
  mem id hmem := by rw [hsessions]; exact hmem
  rows id := .inl (by rw [hstore])

theorem waits (h : world.Waits world') : world.Serves world' :=
  .of_inner h.env h.ticks (by rw [h.inner]) (by rw [h.inner]) (by rw [h.inner])

theorem agents (h : world.AgentsMove world') : world.Serves world' where
  env := h.env
  ticks := Nat.le_of_eq h.ticks.symm
  recovered := h.recovered
  live id session' hlookup := by
    obtain ⟨session, hold, hproduct⟩ := h.lookup hlookup
    have hsummary : session.summary = session'.summary :=
      congrArg (fun session => session.summary) hproduct
    have hagent : session'.agentSessionId = session.agentSessionId :=
      congrArg (fun session => session.agentSessionId) hproduct.symm
    exact ⟨session, hold, by rw [hsummary], by rw [hsummary], by rw [hsummary], hagent⟩
  mem id hmem := (h.mem_iff id).mpr hmem
  rows id := .inl (by rw [h.store])

/-- The session at one id changes, and its row follows it or stays. -/
theorem insert {id : SessionId} {session session' : Session C}
    (hlookup : world.inner.sessions.lookup id = some session) (hserves : session.Serves session')
    (henv : world'.env = world.env) (hticks : world.ticks ≤ world'.ticks)
    (hrecovered : world'.inner.recovered = world.inner.recovered)
    (hsessions : world'.inner.sessions = world.inner.sessions.insert id session')
    (hstore : world'.inner.store.sessions = world.inner.store.sessions ∨
      world'.inner.store.sessions = world.inner.store.sessions.insert id session'.stored) :
    world.Serves world' where
  env := henv
  ticks := hticks
  recovered := hrecovered
  live other session'' hother := by
    rw [hsessions] at hother
    rcases lookup_insert_eq_some hother with ⟨rfl, rfl⟩ | ⟨-, hold⟩
    · exact ⟨session, hlookup, hserves⟩
    · exact ⟨session'', hold, .refl _⟩
  mem other hmem := by
    rw [hsessions]
    exact (AList.mem_insert _).mpr (.inr hmem)
  rows other := by
    rcases hstore with hstore | hstore
    · exact .inl (by rw [hstore])
    · by_cases hother : other = id
      · subst hother
        right
        refine ⟨session', ?_, ?_⟩
        · rw [hsessions, AList.lookup_insert]
        · rw [hstore, AList.lookup_insert]
      · left
        rw [hstore, AList.lookup_insert_ne hother]

/-- **A deed** serves the sessions that are there. -/
theorem deed (h : Deed world world') (hkeyed : world.LiveKeyed) : world.Serves world' := by
  cases h with
  | tick => exact .of_inner rfl (Nat.le_succ _) rfl rfl rfl
  | request kind => exact .of_inner rfl (Nat.le_refl _) rfl rfl rfl
  | edit hlookup hmoves =>
      exact insert hlookup hmoves.serves rfl (Nat.le_refl _) rfl rfl (.inl rfl)
  | @append id session hlookup event =>
      have hserves : session.Serves
          (session.record world.inner.journalLimit (world.nextEvent session event)) :=
        ⟨rfl, rfl, rfl, rfl⟩
      refine insert hlookup hserves rfl (Nat.le_succ _) rfl rfl (.inr ?_)
      have hid := hkeyed id session hlookup
      show ((StoreWrite.appendEvent id _).apply world.inner.store).sessions.insert
        session.summary.id _ = _
      rw [sessions_apply_appendEvent, hid]
  | subscribe hmem =>
      rw [final, Manager.exec_subscribe hmem]
      exact .of_inner rfl (Nat.le_refl _) rfl rfl rfl

end World.Serves

namespace Manager

variable {S : Type} [SessionStore S] {world : World S C} {id : SessionId}

/-- Archiving a live session edits and persists it. -/
theorem final_archiveSession_live {session : Session C}
    (hlookup : world.inner.sessions.lookup id = some session) (archived : Bool) :
    let session' := { session with summary := { session.summary with archived } }
    (archiveSession id archived).final world =
      (world.setSession id session').wrote (.upsertSession session'.stored) := by
  intro session'
  have hset : (world.setSession id session').inner.sessions.lookup id = some session' :=
    AList.lookup_insert _
  rw [archiveSession, final_bind, exec_lookupSession]
  dsimp only
  rw [hlookup]
  dsimp only
  rw [final_bind, exec_setSession]
  dsimp only
  rw [final_bind_pure, final, exec_persistSession hset]

theorem final_archiveSession_recovered {session : RecoveredSession}
    (hlookup : world.inner.sessions.lookup id = none)
    (hrecovered : world.inner.recovered.lookup id = some session) (archived : Bool) :
    (archiveSession id archived : Manager S C _).final world =
      (archiveRecovered id session archived).final world := by
  rw [archiveSession, final_bind, exec_lookupSession]
  dsimp only
  rw [hlookup]
  dsimp only
  rw [final_bind, exec_get]
  dsimp only
  rw [hrecovered]

theorem final_archiveSession_none (hlookup : world.inner.sessions.lookup id = none)
    (hrecovered : world.inner.recovered.lookup id = none) (archived : Bool) :
    (archiveSession id archived : Manager S C _).final world = world := by
  rw [archiveSession, final_bind, exec_lookupSession]
  dsimp only
  rw [hlookup]
  dsimp only
  rw [final_bind, exec_get]
  dsimp only
  rw [hrecovered]
  rfl

end Manager

/-! ## invariants of lives -/

/-- The table of sessions, at some reading of the environment. -/
abbrev TableInvariant := Nat → (AList fun _ : SessionId => StoredSession) → Prop

/-- From `world` on, `I` is kept, and `J` of the table in every crash. -/
structure World.Kept (I : World SqliteStore C → Prop) (J : TableInvariant)
    (world world' : World SqliteStore C) : Prop where
  holds : I world'
  writes : world.Writes (fun _ => True) (fun ticks store => J ticks store.sessions) world'

/-- What makes `I` an invariant of the processes and `J` one of the tables they
leave, if the operations are those that `ok` allows. -/
structure LifeInvariant [AcpSession C] (env : Env)
    (ok : World SqliteStore C → Operation → Prop) (I : World SqliteStore C → Prop)
    (J : TableInvariant) : Prop where
  mono : ∀ t t' table, t ≤ t' → J t table → J t' table
  store : ∀ world, I world → J world.ticks world.inner.store.sessions
  keyed : ∀ world, I world → world.LiveKeyed
  boot : ∀ ticks store (boot : Boot C) rows, rows.Perm (byCreation store.sessions) →
    J ticks store.sessions → I (boot.startIn env ticks store rows)
  serves : ∀ world world', world.Serves world' → I world → I world'
  register : ∀ world operation start handshake between now gitBranch, ok world operation →
    operation.start? = some start → handshake ∈ world.opens start → world.Waits between →
    I between → I (between.registered (handshake.session start world.env.home now gitBranch))
  archive : ∀ world id archived, ok world (.archiveSession id archived) → I world →
    I ((Manager.archiveSession id archived).final world)

namespace LifeInvariant

variable [AcpSession C] {env : Env} {ok : World SqliteStore C → Operation → Prop}
  {I : World SqliteStore C → Prop} {J : TableInvariant}

/-- No store call. -/
theorem kept_silent (h : LifeInvariant env ok I J) {world world' : World SqliteStore C}
    (hI : I world) (hI' : I world') (hticks : world.ticks ≤ world'.ticks) {more : List Effect}
    (heffects : world'.effects = world.effects ++ more) (hmore : storeCalls more = [])
    (hstore : world'.inner.store = world.inner.store) : world.Kept I J world' :=
  ⟨hI', .silent hticks heffects hmore hstore (h.mono _ _ _ hticks (h.store world hI))⟩

theorem kept_refl (h : LifeInvariant env ok I J) {world : World SqliteStore C} (hI : I world) :
    world.Kept I J world :=
  h.kept_silent hI hI (Nat.le_refl _) (List.append_nil _).symm rfl rfl

theorem kept_trans (h : LifeInvariant env ok I J) {world world' world'' : World SqliteStore C}
    (hkept : world.Kept I J world') (hkept' : world'.Kept I J world'') :
    world.Kept I J world'' :=
  ⟨hkept'.holds, hkept.writes.trans (fun t t' _ => h.mono t t' _) hkept'.writes⟩

theorem kept_waits (h : LifeInvariant env ok I J) {world world' : World SqliteStore C}
    (hI : I world) (hwaits : world.Waits world') : world.Kept I J world' := by
  obtain ⟨more, heffects, hmore⟩ := hwaits.effects
  have hcalls : storeCalls more = [] := by
    refine List.filterMap_eq_nil_iff.mpr fun effect hmem => ?_
    obtain ⟨kind, rfl⟩ := hmore effect hmem
    rfl
  exact h.kept_silent hI (h.serves _ _ (.waits hwaits) hI) hwaits.ticks heffects hcalls
    (by rw [hwaits.inner])

theorem kept_deed (h : LifeInvariant env ok I J) {world world' : World SqliteStore C}
    (hI : I world) (hdeed : Deed world world') : world.Kept I J world' := by
  have hserves := World.Serves.deed hdeed (h.keyed world hI)
  have hI' := h.serves _ _ hserves hI
  cases hdeed with
  | tick => exact h.kept_silent hI hI' hserves.ticks (List.append_nil _).symm rfl rfl
  | request kind => exact h.kept_silent hI hI' hserves.ticks rfl rfl rfl
  | edit hlookup hmoves =>
      exact h.kept_silent hI hI' hserves.ticks (List.append_nil _).symm rfl rfl
  | @append id session hlookup event =>
      have hJ := h.mono _ _ _ hserves.ticks (h.store world hI)
      -- the row follows the event, which leaves the table of sessions alone
      have hevent : CrashSafe StoreWrite.apply (fun _ => True)
          (fun store => J (world.ticks + 1) store.sessions) world.inner.store
          [.appendEvent id (world.nextEvent session event).stored] := by
        refine .singleton hJ ?_
        rw [sessions_apply_appendEvent]
        exact hJ
      refine ⟨hI', hserves.ticks, _, rfl, rfl, hevent.append (.singleton ?_ (h.store _ hI'))⟩
      rw [List.foldl_cons, List.foldl_nil, sessions_apply_appendEvent]
      exact hJ
  | subscribe hmem =>
      rw [final, Manager.exec_subscribe hmem] at hserves hI' ⊢
      exact h.kept_silent hI hI' hserves.ticks rfl rfl rfl

theorem kept_deeds (h : LifeInvariant env ok I J) {α : Type} {m : Manager SqliteStore C α}
    (hm : m.Performs Deed) {world : World SqliteStore C} (hI : I world) :
    world.Kept I J (m.final world) := by
  refine hm.preserves (I := fun world' => world.Kept I J world') ?_ (h.kept_refl hI)
  exact fun between world' hdeed hbetween =>
    h.kept_trans hbetween (h.kept_deed hbetween.holds hdeed)

/-- A session is opened, or the attempt ends before it is. -/
theorem kept_startSession (h : LifeInvariant env ok I J) {operation : Operation} {start : Start}
    (hstart : operation.start? = some start) {world : World SqliteStore C} (hI : I world)
    (hok : ok world operation) : world.Kept I J ((Manager.startSession start).final world) := by
  have hcases := Manager.startSession_cases (S := SqliteStore) start world
  cases hopens : world.opens start with
  | none =>
      rw [hopens] at hcases
      obtain ⟨world', hwaits, hyields⟩ := hcases
      rw [hyields.final_eq]
      exact h.kept_waits hI hwaits
  | some handshake =>
      rw [hopens] at hcases
      obtain ⟨between, now, gitBranch, hwaits, hexec⟩ := hcases
      have hbetween := h.kept_waits hI hwaits
      have hregistered := h.register world operation start handshake between now gitBranch hok
        hstart hopens hwaits hbetween.holds
      have hregister : between.Kept I J _ := ⟨hregistered, .single (Nat.le_succ _) rfl rfl
        (h.mono _ _ _ (Nat.le_succ _) (h.store _ hbetween.holds)) (h.store _ hregistered)⟩
      have henroll : between.Kept I J
          ((Manager.enrollSession (handshake.session start world.env.home now gitBranch)).final
            between) := by
        rw [Manager.final_enrollSession]
        exact h.kept_trans hregister
          (h.kept_deed hregistered (.append (AList.lookup_insert _) (.status ⟨.idle⟩)))
      rw [final, hexec, Manager.opened, exec_bind, Manager.exec_enrollSession]
      exact h.kept_trans hbetween (h.kept_trans henroll
        (h.kept_deeds (Manager.performs_afterEnroll _ _ _) henroll.holds))

/-- Archiving calls the store at most once. -/
theorem kept_archive (h : LifeInvariant env ok I J) {world : World SqliteStore C} (hI : I world)
    {id : SessionId} {archived : Bool} (hok : ok world (.archiveSession id archived)) :
    world.Kept I J ((Manager.archiveSession id archived).final world) := by
  have hI' := h.archive world id archived hok hI
  have hJ := h.store world hI
  have hJ' := h.store _ hI'
  cases hlookup : world.inner.sessions.lookup id with
  | some session =>
      rw [Manager.final_archiveSession_live hlookup] at hI' hJ' ⊢
      exact ⟨hI', .single (Nat.le_refl _) rfl rfl hJ hJ'⟩
  | none =>
      cases hrecovered : world.inner.recovered.lookup id with
      | none =>
          rw [Manager.final_archiveSession_none hlookup hrecovered]
          exact h.kept_refl hI
      | some session =>
          rw [Manager.final_archiveSession_recovered hlookup hrecovered] at hI' hJ' ⊢
          rcases Manager.final_archiveRecovered world id session archived with
            hfinal | ⟨stored, -, hfinal⟩
          · rw [hfinal] at hI' ⊢
            exact h.kept_silent hI hI' (Nat.le_refl _) (List.append_nil _).symm rfl rfl
          · rw [hfinal] at hI' hJ' ⊢
            exact ⟨hI', .single (Nat.le_refl _) rfl rfl hJ hJ'⟩

/-- An operation keeps the invariant, and in every crash its store calls do. -/
theorem run (h : LifeInvariant env ok I J) {world : World SqliteStore C} (hI : I world)
    {operation : Operation} (hok : ok world operation) :
    world.Kept I J (operation.run.final world) := by
  by_cases hdeed : operation.isDeed = true
  · exact h.kept_deeds (operation.performs_deeds hdeed) hI
  · cases hstart : operation.start? with
    | none =>
        cases operation with
        | archiveSession id archived =>
            rw [Operation.run, final_discard]
            exact h.kept_archive hI hok
        | createSession request => contradiction
        | importSession request => contradiction
        | _ => exact absurd rfl hdeed
    | some start =>
        obtain ⟨f, -, hf, hrun⟩ := Operation.run_eq_startSession (S := SqliteStore) (C := C) hstart
        have hstarted := h.kept_startSession hstart hI hok
        rw [hrun, final_bind]
        rw [final] at hstarted
        rcases hexec : (Manager.startSession start : Manager SqliteStore C _).exec world with
          ⟨outcome, world'⟩
        rw [hexec] at hstarted
        cases outcome with
        | ok summary => exact h.kept_trans hstarted (h.kept_deeds (hf summary) hstarted.holds)
        | error error => exact hstarted

/-- **The invariant of the lives of a host**: it holds in every process, and of every
table left behind. -/
theorem holds (h : LifeInvariant env ok I J) (start : Host C) {host : Host C}
    (hstart : start.Satisfies I fun ticks store => J ticks store.sessions)
    (hreach : (hostLife env start).ReachUnder (Host.Obeys ok) host) :
    host.Satisfies I fun ticks store => J ticks store.sessions := by
  refine System.invariant_of_step (fun host hinit => ?_)
    (fun host step host' hhost hok hstep => ?_) hreach
  · rw [show host = start from hinit]
    exact hstart
  · match host, step with
    | .down ticks store, .boot boot rows =>
        obtain ⟨hrows, rfl⟩ := hstep
        exact h.boot ticks store boot rows hrows hhost
    | .up world, .turn (.operation operation) =>
        obtain ⟨world', hturns, rfl⟩ := hstep
        rw [show world' = operation.run.final world from hturns]
        exact (h.run hhost hok).holds
    | .up world, .turn .agents =>
        obtain ⟨world', hturns, rfl⟩ := hstep
        exact h.serves world world' (.agents hturns) hhost
    | .up world, .kill operation calls =>
        obtain ⟨more, heffects, -, hcrash⟩ := (h.run hhost hok).writes.effects
        have hcalls : world.callsOf operation = storeCalls more := by
          rw [World.callsOf, heffects, List.drop_left]
        rw [show host' = .down _ _ from hstep, hcalls]
        exact hcrash calls fun _ _ => trivial

end LifeInvariant

/-! ## starts -/

/-- Metadata that names a session is in the row of that session. -/
def NamedTable (table : AList fun _ : SessionId => StoredSession) : Prop :=
  ∀ id row, table.lookup id = some row → ∀ name ∈ metadataId row.metadata, name = id

theorem NamedTable.insert {table : AList fun _ : SessionId => StoredSession} (h : NamedTable table)
    {id : SessionId} {row : StoredSession} (hrow : ∀ name ∈ metadataId row.metadata, name = id) :
    NamedTable (table.insert id row) := by
  intro other row' hlookup
  rcases lookup_insert_eq_some hlookup with ⟨rfl, rfl⟩ | ⟨-, hold⟩
  · exact hrow
  · exact h other row' hold

theorem NamedTable.wellKeyed {store : SqliteStore} (h : NamedTable store.sessions) {id : SessionId}
    {row : StoredSession} (hrow : store.sessions.lookup id = some row) : row.WellKeyed := by
  intro record hread
  rw [store.keyed id row hrow]
  exact h id row hrow _ (metadataId_of_ofJson hread)

section

variable [AcpSession C] {env : Env} {ticks : Nat} {store : SqliteStore} {boot : Boot C}
  {rows : List StoredSession}

theorem mem_rows_iff (hrows : rows.Perm (byCreation store.sessions)) {row : StoredSession} :
    row ∈ rows ↔ store.sessions.lookup row.sessionId = some row :=
  hrows.mem_iff.trans (mem_byCreation_iff (S := SqliteStore))

theorem recoversRows_startIn (boot : Boot C) (env : Env) (ticks : Nat) (store : SqliteStore)
    (rows : List StoredSession) :
    World.RecoversRows rows
      (SessionManager.starting env ticks boot.adapters (store.reopen boot.eventLimit)
        boot.journalLimit)
      (boot.startIn env ticks store rows) :=
  recoversRows_forM _ _

theorem lookup_sessions_startIn (hrows : rows.Perm (byCreation store.sessions))
    (hnamed : NamedTable store.sessions) {id : SessionId} {session : Session C}
    (h : (boot.startIn env ticks store rows).inner.sessions.lookup id = some session) :
    ∃ row, store.sessions.lookup id = some row ∧
      row.Rehydrates (store.reopen boot.eventLimit) boot.journalLimit session ∧
      session.summary.id = id := by
  rcases (recoversRows_startIn boot env ticks store rows).live id session h with
    hnone | ⟨row, hmem, hrow, hid⟩
  · exact absurd hnone (SessionManager.lookup_sessions_starting_ne id session)
  · have hlookup := (mem_rows_iff hrows).mp hmem
    rw [← hrow.id_eq (hnamed.wellKeyed hlookup), hid] at hlookup
    exact ⟨row, hlookup, hrow, hid⟩

theorem lookup_recovered_startIn (hrows : rows.Perm (byCreation store.sessions)) {id : SessionId}
    {session : RecoveredSession}
    (h : (boot.startIn env ticks store rows).inner.recovered.lookup id = some session) :
    ∃ row, store.sessions.lookup id = some row ∧
      row.Retains (store.reopen boot.eventLimit) boot.journalLimit session := by
  rcases (recoversRows_startIn boot env ticks store rows).lost id session h with
    hnone | ⟨row, hmem, hrow, hid⟩
  · exact absurd hnone (SessionManager.lookup_recovered_starting_ne id session)
  · have hlookup := (mem_rows_iff hrows).mp hmem
    rw [hid] at hlookup
    exact ⟨row, hlookup, hrow⟩

/-- Every stored session is found after a start. -/
theorem mem_startIn (hrows : rows.Perm (byCreation store.sessions))
    (hnamed : NamedTable store.sessions) {id : SessionId} (h : id ∈ store.sessions) :
    id ∈ (boot.startIn env ticks store rows).inner.sessions ∨
      id ∈ (boot.startIn env ticks store rows).inner.recovered := by
  obtain ⟨row, hlookup⟩ := exists_lookup_of_mem h
  have hid := store.keyed id row hlookup
  have hmem : row ∈ rows := (mem_rows_iff hrows).mpr (by rw [hid, hlookup])
  have hcovers := (recoversRows_startIn boot env ticks store rows).covers row hmem
    (hnamed.wellKeyed hlookup)
  rwa [hid] at hcovers

/-- No session is found twice after a start. -/
theorem disjoint_startIn (hrows : rows.Perm (byCreation store.sessions))
    (hnamed : NamedTable store.sessions) {id : SessionId}
    (h : id ∈ (boot.startIn env ticks store rows).inner.sessions) :
    id ∉ (boot.startIn env ticks store rows).inner.recovered := by
  refine disjoint_forM ?_ ?_ ?_ ?_ id h
  · exact fun row hmem => hnamed.wellKeyed ((mem_rows_iff hrows).mp hmem)
  · exact (hrows.map _).nodup_iff.mpr (nodup_byCreation store.keyed)
  · exact fun row _ => ⟨AList.notMem_empty _, AList.notMem_empty _⟩
  · exact fun id hid => absurd hid (AList.notMem_empty id)

end

/-! ## rooted managers -/

/-- What every table of a host satisfies: its rows name their sessions, and none has
an id that is drawn later. -/
def RootedTable (env : Env) : TableInvariant := fun ticks table =>
  NamedTable table ∧ ∀ n ≥ ticks, env.uuid n ∉ table

/-- What every manager of a host satisfies: every session is there once, under its own
id, and has a row. -/
structure Rooted (env : Env) (world : World SqliteStore C) : Prop where
  table : RootedTable env world.ticks world.inner.store.sessions
  keyed : world.LiveKeyed
  live : ∀ id ∈ world.inner.sessions, id ∈ world.inner.store.sessions
  lost : ∀ id ∈ world.inner.recovered, id ∈ world.inner.store.sessions
  disjoint : ∀ id ∈ world.inner.sessions, id ∉ world.inner.recovered
  env : world.env = env

namespace Rooted

variable {env : Env} {world world' : World SqliteStore C}

theorem serves (h : Rooted env world) (hserves : world.Serves world') : Rooted env world' := by
  have hkeyed : world'.LiveKeyed := by
    intro id session' hlookup
    obtain ⟨session, hold, hsession⟩ := hserves.live id session' hlookup
    rw [hsession.id]
    exact h.keyed id session hold
  have hlive : ∀ id ∈ world'.inner.sessions, id ∈ world.inner.sessions := by
    intro id hid
    obtain ⟨session', hlookup⟩ := exists_lookup_of_mem hid
    obtain ⟨session, hold, -⟩ := hserves.live id session' hlookup
    exact mem_of_lookup hold
  have hmem : ∀ id, id ∈ world'.inner.store.sessions ↔ id ∈ world.inner.store.sessions := by
    intro id
    rcases hserves.rows id with hrow | ⟨session', hlookup, hrow⟩
    · rw [← AList.lookup_isSome, ← AList.lookup_isSome, hrow]
    · obtain ⟨session, hold, -⟩ := hserves.live id session' hlookup
      refine iff_of_true (mem_of_lookup hrow) (h.live id ?_)
      exact mem_of_lookup hold
  constructor
  · constructor
    · intro id row hlookup name hname
      rcases hserves.rows id with hrow | ⟨session', hlive, hrow⟩
      · exact h.table.1 id row (hrow ▸ hlookup) name hname
      · rw [Option.some.inj (hlookup.symm.trans hrow), metadataId_stored] at hname
        rw [← Option.some.inj hname]
        exact hkeyed id session' hlive
    · intro n hn
      rw [hmem]
      exact h.table.2 n (hserves.ticks.trans hn)
  · exact hkeyed
  · exact fun id hid => (hmem id).mpr (h.live id (hlive id hid))
  · intro id hid
    rw [hserves.recovered] at hid
    exact (hmem id).mpr (h.lost id hid)
  · intro id hid
    rw [hserves.recovered]
    exact h.disjoint id (hlive id hid)
  · exact hserves.env.trans h.env

/-- The new session is not one of the others. -/
theorem notMem (h : Rooted env world) : world.env.uuid world.ticks ∉ world.inner.store.sessions := by
  rw [h.env]
  exact h.table.2 _ (Nat.le_refl _)

/-- A session is put in the map and persisted. -/
theorem insert (h : Rooted env world) (session : Session C)
    (hticks : world.ticks ≤ world'.ticks)
    (hunused : ∀ n ≥ world'.ticks, env.uuid n ≠ session.summary.id)
    (hnotLost : session.summary.id ∉ world.inner.recovered)
    (hsessions : world'.inner.sessions = world.inner.sessions.insert session.summary.id session)
    (hrecovered : world'.inner.recovered = world.inner.recovered)
    (hstore : world'.inner.store.sessions =
      world.inner.store.sessions.insert session.summary.id session.stored)
    (henv : world'.env = world.env) : Rooted env world' := by
  have hmem : ∀ id ∈ world.inner.store.sessions, id ∈ world'.inner.store.sessions := by
    intro id hid
    rw [hstore]
    exact (AList.mem_insert _).mpr (.inr hid)
  constructor
  · constructor
    · rw [hstore]
      refine h.table.1.insert fun name hname => ?_
      rw [metadataId_stored] at hname
      exact (Option.some.inj hname).symm
    · intro n hn hid
      rw [hstore] at hid
      rcases (AList.mem_insert _).mp hid with heq | hid
      · exact hunused n hn heq
      · exact h.table.2 n (hticks.trans hn) hid
  · intro id session' hlookup
    rw [hsessions] at hlookup
    rcases lookup_insert_eq_some hlookup with ⟨rfl, rfl⟩ | ⟨-, hold⟩
    · rfl
    · exact h.keyed id session' hold
  · intro id hid
    rw [hsessions] at hid
    rcases (AList.mem_insert _).mp hid with heq | hid
    · rw [hstore]
      exact (AList.mem_insert _).mpr (.inl heq)
    · exact hmem id (h.live id hid)
  · intro id hid
    rw [hrecovered] at hid
    exact hmem id (h.lost id hid)
  · intro id hid
    rw [hsessions] at hid
    rw [hrecovered]
    rcases (AList.mem_insert _).mp hid with rfl | hid
    · exact hnotLost
    · exact h.disjoint id hid
  · exact henv.trans h.env

theorem register (h : Rooted env world) {build : SessionId → Session C}
    (hbuild : ∀ id, (build id).summary.id = id) : Rooted env (world.registered build) := by
  have hid := hbuild (world.env.uuid world.ticks)
  refine h.insert (build (world.env.uuid world.ticks)) (Nat.le_succ _) ?_ ?_ ?_ rfl rfl
    rfl
  · intro n hn heq
    rw [hid, h.env] at heq
    have hle : world.ticks + 1 ≤ n := hn
    have := env.uuid_injective heq
    omega
  · rw [hid]
    exact fun hlost => h.notMem (h.lost _ hlost)
  · rw [hid]
    rfl

theorem archive (h : Rooted env world) (id : SessionId) (archived : Bool) :
    Rooted env ((Manager.archiveSession id archived).final world) := by
  have hunused : ∀ id ∈ world.inner.store.sessions, ∀ n ≥ world.ticks, env.uuid n ≠ id := by
    rintro id hid n hn rfl
    exact h.table.2 n hn hid
  cases hlookup : world.inner.sessions.lookup id with
  | some session =>
      have hmem : id ∈ world.inner.sessions := mem_of_lookup hlookup
      have hid := h.keyed id session hlookup
      rw [Manager.final_archiveSession_live hlookup]
      refine h.insert { session with summary := { session.summary with archived } }
        (Nat.le_refl _) ?_ ?_ ?_ rfl rfl rfl
      · rw [show session.summary.id = id from hid]
        exact hunused id (h.live id hmem)
      · rw [show session.summary.id = id from hid]
        exact h.disjoint id hmem
      · rw [show session.summary.id = id from hid]
        rfl
  | none =>
      cases hrecovered : world.inner.recovered.lookup id with
      | none =>
          rw [Manager.final_archiveSession_none hlookup hrecovered]
          exact h
      | some session =>
          have hmem : id ∈ world.inner.recovered :=
            mem_of_lookup hrecovered
          have hlost : ∀ other ∈ world.inner.recovered.insert id
              { session with summary := { session.summary with archived } },
              other ∈ world.inner.store.sessions := by
            intro other hother
            rcases (AList.mem_insert _).mp hother with rfl | hother
            · exact h.lost _ hmem
            · exact h.lost _ hother
          have hdisjoint : ∀ other ∈ world.inner.sessions, other ∉ world.inner.recovered.insert id
              { session with summary := { session.summary with archived } } := by
            intro other hother hinsert
            rcases (AList.mem_insert _).mp hinsert with rfl | hold
            · exact AList.lookup_eq_none.mp hlookup hother
            · exact h.disjoint other hother hold
          rw [Manager.final_archiveSession_recovered hlookup hrecovered]
          rcases Manager.final_archiveRecovered world id session archived with
            hfinal | ⟨stored, hstored, hfinal⟩
          · rw [hfinal]
            exact ⟨h.table, h.keyed, h.live, hlost, hdisjoint, h.env⟩
          · have hrow : world.inner.store.sessions.lookup id = some stored :=
              Except.ok.inj hstored
            have hid := world.inner.store.keyed id stored hrow
            rw [hfinal]
            constructor
            · constructor
              · refine h.table.1.insert fun name hname => ?_
                rw [metadataId_archiveMetadata] at hname
                exact (h.table.1 id stored hrow name hname).trans hid.symm
              · intro n hn hmem'
                rcases (AList.mem_insert _).mp hmem' with heq | hmem'
                · rw [show stored.sessionId = id from hid] at heq
                  exact hunused id (h.lost id hmem) n hn heq
                · exact h.table.2 n hn hmem'
            · exact h.keyed
            · exact fun other hother => (AList.mem_insert _).mpr (.inr (h.live other hother))
            · exact fun other hother => (AList.mem_insert _).mpr (.inr (hlost other hother))
            · exact hdisjoint
            · exact h.env

theorem boot [AcpSession C] {ticks : Nat} {store : SqliteStore} {boot : Boot C}
    {rows : List StoredSession} (hrows : rows.Perm (byCreation store.sessions))
    (h : RootedTable env ticks store.sessions) :
    Rooted env (boot.startIn env ticks store rows) := by
  have hrecovers := (recoversRows_startIn boot env ticks store rows).recovers
  have hmem : ∀ {V : Type} {entries : AList fun _ : SessionId => V} {id : SessionId},
      id ∈ entries → ∃ v, entries.lookup id = some v := fun hid =>
    exists_lookup_of_mem hid
  have hstored : ∀ {id : SessionId} {row : StoredSession}, store.sessions.lookup id = some row →
      id ∈ (boot.startIn env ticks store rows).inner.store.sessions := by
    intro id row hrow
    rw [hrecovers.store]
    have hsome : (store.sessions.lookup id).isSome = true := by rw [hrow]; rfl
    exact AList.lookup_isSome.mp hsome
  constructor
  · constructor
    · rw [hrecovers.store]
      exact h.1
    · intro n hn
      rw [hrecovers.store]
      exact h.2 n (hrecovers.ticks.trans hn)
  · intro id session hlookup
    obtain ⟨-, -, -, hid⟩ := lookup_sessions_startIn hrows h.1 hlookup
    exact hid
  · intro id hid
    obtain ⟨session, hlookup⟩ := hmem hid
    obtain ⟨row, hrow, -⟩ := lookup_sessions_startIn hrows h.1 hlookup
    exact hstored hrow
  · intro id hid
    obtain ⟨session, hlookup⟩ := hmem hid
    obtain ⟨row, hrow, -⟩ := lookup_recovered_startIn hrows hlookup
    exact hstored hrow
  · exact fun id hid => disjoint_startIn hrows h.1 hid
  · exact hrecovers.env

end Rooted

/-- **Every manager of a host is rooted.** -/
theorem lifeInvariant_rooted [AcpSession C] (env : Env) :
    LifeInvariant (C := C) env (fun _ _ => True) (Rooted env) (RootedTable env) where
  mono _ _ _ hle h := ⟨h.1, fun n hn => h.2 n (hle.trans hn)⟩
  store _ h := h.table
  keyed _ h := h.keyed
  boot _ _ _ _ hrows h := Rooted.boot hrows h
  serves _ _ hserves h := h.serves hserves
  register _ _ _ _ _ _ _ _ _ _ _ h := h.register fun _ => rfl
  archive _ id archived _ h := h.archive id archived

end Slight
