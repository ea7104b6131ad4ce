import Slight.Session.Journal
import Slight.Support.Crash

/-!
# Slight.Session.Host

A host over its whole life: processes that run a manager over one database, are
killed between any two store calls, and are started again with any adapters and
limits.

`HostInvariant` reduces an invariant of the host to what a boot, a change and a
move of the agents keep.
-/

namespace Slight

open Support Program

variable {C : Type}

/-! ## store calls -/

/-- The calls of the store among some effects, in order. -/
def storeCalls (effects : List Effect) : List StoreWrite :=
  effects.filterMap fun
    | .wrote write => some write
    | _ => none

@[simp] theorem storeCalls_append (effects effects' : List Effect) :
    storeCalls (effects ++ effects') = storeCalls effects ++ storeCalls effects' :=
  List.filterMap_append

theorem apply_of_appendEvent {store store' : SqliteStore} {sessionId : SessionId}
    {event : StoredEvent} (h : store.appendEvent sessionId event = .ok store') :
    (StoreWrite.appendEvent sessionId event).apply store = store' := by
  have houtcome : SessionStore.appendEvent store sessionId event = .ok store' := h
  simp only [StoreWrite.apply, houtcome]

/-- The database accepts an event, or stays as it is. -/
theorem apply_appendEvent (store : SqliteStore) (sessionId : SessionId) (event : StoredEvent) :
    (StoreWrite.appendEvent sessionId event).apply store = store ∨
      store.appendEvent sessionId event =
        .ok ((StoreWrite.appendEvent sessionId event).apply store) := by
  cases houtcome : store.appendEvent sessionId event with
  | error error =>
      have herror : SessionStore.appendEvent store sessionId event = .error error := houtcome
      left
      simp only [StoreWrite.apply, herror]
  | ok store' =>
      right
      rw [apply_of_appendEvent houtcome]

/-- A stored event leaves the rows of `sessions` and the limit alone. -/
theorem SqliteStore.appendEvent_frame {store store' : SqliteStore} {sessionId : SessionId}
    {event : StoredEvent} (h : store.appendEvent sessionId event = .ok store') :
    store'.sessions = store.sessions ∧ store'.eventLimit = store.eventLimit := by
  unfold SqliteStore.appendEvent at h
  split at h
  · contradiction
  · split at h
    · rw [← Except.ok.inj h]
      exact ⟨rfl, rfl⟩
    · contradiction

theorem sessions_apply_appendEvent (store : SqliteStore) (sessionId : SessionId)
    (event : StoredEvent) :
    ((StoreWrite.appendEvent sessionId event).apply store).sessions = store.sessions := by
  rcases apply_appendEvent store sessionId event with hsame | happend
  · rw [hsame]
  · exact (SqliteStore.appendEvent_frame happend).1

theorem eventLimit_apply_appendEvent (store : SqliteStore) (sessionId : SessionId)
    (event : StoredEvent) :
    ((StoreWrite.appendEvent sessionId event).apply store).eventLimit = store.eventLimit := by
  rcases apply_appendEvent store sessionId event with hsame | happend
  · rw [hsame]
  · exact (SqliteStore.appendEvent_frame happend).2

/-- From `world` to `world'` the store changes by the calls recorded, and after a
crash between them it satisfies `J` of the readings made so far. -/
structure World.Writes (ok : StoreWrite → Prop) (J : Nat → SqliteStore → Prop)
    (world world' : World SqliteStore C) : Prop where
  ticks : world.ticks ≤ world'.ticks
  effects : ∃ more, world'.effects = world.effects ++ more ∧
    world'.inner.store = (storeCalls more).foldl StoreWrite.apply world.inner.store ∧
    CrashSafe StoreWrite.apply ok (J world'.ticks) world.inner.store (storeCalls more)

namespace World.Writes

variable {ok : StoreWrite → Prop} {J : Nat → SqliteStore → Prop}
  {world world' world'' : World SqliteStore C}

/-- No store call. -/
theorem silent {more : List Effect} (hticks : world.ticks ≤ world'.ticks)
    (heffects : world'.effects = world.effects ++ more) (hmore : storeCalls more = [])
    (hstore : world'.inner.store = world.inner.store) (h : J world'.ticks world.inner.store) :
    world.Writes ok J world' := by
  refine ⟨hticks, more, heffects, ?_, ?_⟩
  · rw [hmore, hstore]
    rfl
  · rw [hmore]
    exact .nil h

/-- One store call. -/
theorem single {write : StoreWrite} (hticks : world.ticks ≤ world'.ticks)
    (heffects : world'.effects = world.effects ++ [.wrote write])
    (hstore : world'.inner.store = write.apply world.inner.store)
    (h : J world'.ticks world.inner.store) (h' : J world'.ticks world'.inner.store) :
    world.Writes ok J world' := by
  refine ⟨hticks, _, heffects, hstore, .singleton h ?_⟩
  rw [← hstore]
  exact h'

theorem trans (hmono : ∀ t t' store, t ≤ t' → J t store → J t' store)
    (h : world.Writes ok J world') (h' : world'.Writes ok J world'') :
    world.Writes ok J world'' := by
  obtain ⟨more, heffects, hstore, hcrash⟩ := h.effects
  obtain ⟨more', heffects', hstore', hcrash'⟩ := h'.effects
  refine ⟨h.ticks.trans h'.ticks, more ++ more', ?_, ?_, ?_⟩
  · rw [heffects', heffects, List.append_assoc]
  · rw [storeCalls_append, List.foldl_append, ← hstore, hstore']
  · rw [storeCalls_append]
    refine CrashSafe.append (fun k hlast => hmono _ _ _ h'.ticks (hcrash k hlast)) ?_
    rw [← hstore]
    exact hcrash'

end World.Writes

/-! ## the host -/

/-- A process that runs, or the database that the last one left behind. -/
inductive Host (C : Type) where
  | up (world : World SqliteStore C)
  | down (ticks : Nat) (store : SqliteStore)

def Host.store : Host C → SqliteStore
  | up world => world.inner.store
  | down _ store => store

/-- `I` holds of the process, or `J` of the database. -/
def Host.Satisfies (I : World SqliteStore C → Prop) (J : Nat → SqliteStore → Prop) :
    Host C → Prop
  | up world => I world
  | down ticks store => J ticks store

/-- A start of the host: what it is configured with. -/
structure Boot (C : Type) where
  adapters : AdapterRegistry C
  journalLimit : Nat
  eventLimit : Nat

section

variable [AcpSession C]

/-- The manager that a start makes of the database. -/
def Boot.start (boot : Boot C) (env : Env) (ticks : Nat) (store : SqliteStore) :
    World SqliteStore C :=
  SessionManager.new env ticks boot.adapters (store.reopen boot.eventLimit) boot.journalLimit

/-- The store calls of an operation. -/
def World.callsOf (world : World SqliteStore C) (operation : Operation) : List StoreWrite :=
  storeCalls ((operation.run.final world).effects.drop world.effects.length)

/-- The host is killed when the operation has done `calls` of its store calls. -/
inductive HostStep (C : Type) where
  | boot (boot : Boot C)
  | turn (turn : Turn)
  | kill (operation : Operation) (calls : Nat)

/-- The host, from an empty database on. -/
def hostSystem (env : Env) : System (Host C) (HostStep C) where
  init host := ∃ eventLimit, host = .down 0 (.empty eventLimit)
  step host step host' :=
    match host, step with
    | .down ticks store, .boot boot => host' = .up (boot.start env ticks store)
    | .up world, .turn turn => ∃ world', world.Turns turn world' ∧ host' = .up world'
    | .up world, .kill operation calls =>
        host' = .down (operation.run.final world).ticks
          (((world.callsOf operation).take calls).foldl StoreWrite.apply world.inner.store)
    | _, _ => False

/-- The step starts the host only as `bootOk` allows, and kills it only after a
store call that `ok` allows to be the last. -/
def Host.Meets (bootOk : SqliteStore → Boot C → Prop) (ok : StoreWrite → Prop)
    (host : Host C) (step : HostStep C) : Prop :=
  match host, step with
  | .down _ store, .boot boot => bootOk store boot
  | .up world, .kill operation calls =>
      ∀ call ∈ ((world.callsOf operation).take calls).getLast?, ok call
  | _, _ => True

/-- Every run of the host is one that meets the guards that allow everything. -/
theorem Host.reachUnder_of_reachable {env : Env} {host : Host C}
    (h : (hostSystem env).Reachable host) :
    (hostSystem env).ReachUnder (Host.Meets (fun _ (_ : Boot C) => True) fun _ => True) host := by
  refine h.mono fun host step _ => ?_
  match host, step with
  | .down _ _, .boot _ => trivial
  | .up _, .kill _ _ => exact fun _ _ => trivial
  | .up _, .turn _ => trivial
  | .up _, .boot _ => trivial
  | .down _ _, .turn _ => trivial
  | .down _ _, .kill _ _ => trivial

/-- What makes `I` an invariant of the processes and `J` one of the databases
they leave. -/
structure HostInvariant (env : Env) (bootOk : SqliteStore → Boot C → Prop)
    (ok : StoreWrite → Prop) (I : World SqliteStore C → Prop) (J : Nat → SqliteStore → Prop) :
    Prop where
  mono : ∀ t t' store, t ≤ t' → J t store → J t' store
  empty : ∀ eventLimit, J 0 (.empty eventLimit)
  boot : ∀ ticks store boot, bootOk store boot → J ticks store → I (boot.start env ticks store)
  agents : ∀ world world', world.AgentsMove world' → I world → I world'
  change : ∀ world world', Change world world' → I world → I world' ∧ world.Writes ok J world'
  store : ∀ world, I world → J world.ticks world.inner.store

namespace HostInvariant

variable {env : Env} {bootOk : SqliteStore → Boot C → Prop} {ok : StoreWrite → Prop}
  {I : World SqliteStore C → Prop} {J : Nat → SqliteStore → Prop}

/-- An operation keeps the invariant, and in every crash its store calls do. -/
theorem run (h : HostInvariant env bootOk ok I J) {world : World SqliteStore C} (hI : I world)
    (operation : Operation) :
    I (operation.run.final world) ∧ world.Writes ok J (operation.run.final world) := by
  have hrefl : world.Writes ok J world :=
    .silent (Nat.le_refl _) (List.append_nil _).symm rfl rfl (h.store world hI)
  refine operation.performs_run.preserves (I := fun world' => I world' ∧ world.Writes ok J world')
    ?_ ⟨hI, hrefl⟩
  intro between world' hchange hbetween
  obtain ⟨hI', hwrites⟩ := h.change between world' hchange hbetween.1
  exact ⟨hI', hbetween.2.trans h.mono hwrites⟩

/-- **The invariant of the host**: it holds in every process, and of every database
left behind. -/
theorem holds (h : HostInvariant env bootOk ok I J) {host : Host C}
    (hreach : (hostSystem env).ReachUnder (Host.Meets bootOk ok) host) : host.Satisfies I J := by
  refine System.invariant_of_step (fun host hinit => ?_) (fun host step host' hhost hmeets hstep => ?_)
    hreach
  · obtain ⟨eventLimit, rfl⟩ := hinit
    exact h.empty eventLimit
  · match host, step with
    | .down ticks store, .boot boot =>
        rw [show host' = .up (boot.start env ticks store) from hstep]
        exact h.boot ticks store boot hmeets hhost
    | .up world, .turn (.operation operation) =>
        obtain ⟨world', hturns, rfl⟩ := hstep
        rw [show world' = operation.run.final world from hturns]
        exact (h.run hhost operation).1
    | .up world, .turn .agents =>
        obtain ⟨world', hturns, rfl⟩ := hstep
        exact h.agents world world' hturns hhost
    | .up world, .kill operation calls =>
        obtain ⟨more, heffects, -, hcrash⟩ := (h.run hhost operation).2.effects
        have hcalls : world.callsOf operation = storeCalls more := by
          rw [World.callsOf, heffects, List.drop_left]
        have hmeets' : ∀ call ∈ ((world.callsOf operation).take calls).getLast?, ok call := hmeets
        rw [hcalls] at hmeets'
        rw [show host' = .down _ _ from hstep, hcalls]
        exact hcrash calls hmeets'

end HostInvariant

end

end Slight
