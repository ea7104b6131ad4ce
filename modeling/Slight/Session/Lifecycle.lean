import Slight.Session.Vitals

/-!
# Slight.Session.Lifecycle

A session from its start to its exit.  `calls` is the process at the granularity
of calls, and every run of `process` is one of its runs.  What every beat keeps
holds of every session a run reaches (`pulse_of_calls`).

* `pending_of_events`: what a client folds out of the events is the manager's
  pending permission, in runs without a cancelled, overtaken or orphaned request;
* `exited_terminal`: after an exit nothing changes the status, in runs in which
  nothing but an exit happens to a session whose agent has stopped.
-/

namespace Slight

open Support Program

variable {S C : Type}

/-! ## runs of calls -/

/-- A step of the process: one call, or a move of the agents. -/
inductive Move (C : Type) where
  | call (call : Call C)
  | agents

theorem World.AgentsMove.pulse {world world' : World S C} (h : world.AgentsMove world')
    (id : SessionId) : world'.pulse id = world.pulse id := by
  have hvitals : ∀ {session session' : Session C}, session.product = session'.product →
      session.vitals = session'.vitals := by
    intro session session' hproduct
    have hpulse := congrArg Session.vitals hproduct
    exact hpulse
  have hsessions := h.sessions id
  rw [World.pulse, World.pulse, h.effects]
  cases hlookup : world.inner.sessions.lookup id with
  | none =>
      rw [hlookup, Option.map_none, Option.map_eq_none_iff] at hsessions
      rw [hsessions]
  | some session =>
      rw [hlookup, Option.map_some] at hsessions
      obtain ⟨session', hlookup', hproduct⟩ := Option.map_eq_some_iff.mp hsessions
      rw [hlookup', Option.map_some, Option.map_some, hvitals hproduct]

theorem World.has_eq_true {world : World S C} {id : SessionId} {p : Session C → Bool}
    (h : world.has id p = true) :
    ∃ session, world.inner.sessions.lookup id = some session ∧ p session = true :=
  (Option.any_eq_true _ _).mp h

section

variable [AcpSession C]

/-- The beat of a call, if it has one, meets the condition. -/
def Guarded (ok : Vitals → Beat → Prop) (world : World S C) : Move C → Prop
  | .call call => ∀ felt ∈ world.beat? call,
      ∀ vitals ∈ (world.inner.sessions.lookup felt.1).map Session.vitals, ok vitals felt.2
  | .agents => True

/-- A beat that a session with these vitals can have. -/
def Beat.enabled (vitals : Vitals) : Beat → Prop
  | prompted => vitals.running = true
  | answered => vitals.pending ≠ none
  | vanished => vitals.exitReported = false
  | _ => True

/-- The beat of a call is one the session can have. -/
theorem World.beat?_enabled {world : World S C} {call : Call C} {id : SessionId} {beat : Beat}
    (h : world.beat? call = some (id, beat)) :
    ∃ session, world.inner.sessions.lookup id = some session ∧ beat.enabled session.vitals := by
  have hif : ∀ {p : Session C → Bool} {id' : SessionId} {beat' : Beat},
      (if world.has id' p then some (id', beat') else none) = some (id, beat) →
      ∃ session, world.inner.sessions.lookup id = some session ∧ p session = true ∧
        beat' = beat := by
    intro p id' beat' hsome
    by_cases hhas : world.has id' p = true
    · rw [if_pos hhas, Option.some.injEq, Prod.mk.injEq] at hsome
      obtain ⟨rfl, rfl⟩ := hsome
      obtain ⟨session, hlookup, hp⟩ := World.has_eq_true hhas
      exact ⟨session, hlookup, hp, rfl⟩
    · rw [if_neg hhas] at hsome
      contradiction
  cases call with
  | sendPrompt id' text =>
      obtain ⟨session, hlookup, hp, rfl⟩ := hif h
      exact ⟨session, hlookup, (Bool.and_eq_true_iff.mp hp).1⟩
  | respondPermission id' permissionId optionId =>
      obtain ⟨session, hlookup, hp, rfl⟩ := hif h
      refine ⟨session, hlookup, ?_⟩
      obtain ⟨pending, hpending, -⟩ := (Option.any_eq_true _ _).mp (Bool.and_eq_true_iff.mp hp).1
      simp [Beat.enabled, Session.vitals, hpending]
  | cancel id' =>
      obtain ⟨session, hlookup, -, rfl⟩ := hif h
      exact ⟨session, hlookup, trivial⟩
  | apply id' event =>
      rw [World.beat?] at h
      by_cases hhas : world.has id' (fun _ => true) = true
      · rw [if_pos hhas] at h
        obtain ⟨beat', hbeat, heq⟩ := Option.map_eq_some_iff.mp h
        obtain ⟨rfl, rfl⟩ := Prod.mk.inj heq
        obtain ⟨session, hlookup, -⟩ := World.has_eq_true hhas
        refine ⟨session, hlookup, ?_⟩
        cases event <;> simp only [AgentEvent.beat?, Option.some.injEq, reduceCtorEq] at hbeat <;>
          rw [← hbeat] <;> trivial
      · rw [if_neg hhas] at h
        contradiction
  | ensureExited id' =>
      obtain ⟨session, hlookup, hp, rfl⟩ := hif h
      exact ⟨session, hlookup, by simpa [Beat.enabled, Session.vitals] using hp⟩
  | _ => contradiction

variable [SessionStore S]

/-- What a move makes of the state. -/
def World.Takes (world : World S C) (move : Move C) (world' : World S C) : Prop :=
  match move with
  | .call call => world' = (call.run : Manager S C Unit).final world
  | .agents => world.AgentsMove world'

/-- A process that runs a manager, call by call. -/
def calls (start : World S C) : System (World S C) (Move C) where
  init world := world = start
  step world move world' := world.Takes move world'

/-- **Operations are runs of calls.** -/
theorem calls_of_process {start world : World S C} (h : (process start).Reachable world) :
    (calls start).Reachable world := by
  induction h with
  | init hinit => exact .init hinit
  | @step world world' turn _ _ hturn ih =>
      cases turn with
      | operation operation =>
          rw [show world' = (operation.run : Manager S C Unit).final world from hturn]
          refine operation.performs_calls.preserves (fun _ _ hcall hbefore => ?_) ih
          obtain ⟨call, rfl⟩ := hcall
          exact .step (a := .call call) hbefore trivial rfl
      | agents => exact .step (a := .agents) ih trivial hturn

theorem Journaled.call {restored : SessionId → Prop} {journalLimit : Nat} {world : World S C}
    (h : Journaled restored journalLimit world) (call : Call C) :
    Journaled restored journalLimit ((call.run : Manager S C Unit).final world) :=
  call.performs_run.preserves (fun _ _ hchange hbefore => hbefore.change hchange) h

theorem Journaled.move {restored : SessionId → Prop} {journalLimit : Nat} {world world' : World S C}
    {move : Move C} (h : Journaled restored journalLimit world) (hmove : world.Takes move world') :
    Journaled restored journalLimit world' := by
  cases move with
  | call call =>
      rw [show world' = (call.run : Manager S C Unit).final world from hmove]
      exact h.call call
  | agents => exact h.agentsMove hmove

variable [LawfulSessionStore S] {env : Env} {ticks : Nat} {adapters : AdapterRegistry C}
  {store : S} {journalLimit : Nat}

/-- A restored session starts like a new one, without a history. -/
theorem pulse_new {id : SessionId} {pulse : Pulse}
    (h : (SessionManager.new env ticks adapters store journalLimit : World S C).pulse id =
      some pulse) : pulse = (.newborn, []) := by
  have hrows := recoversRows_new (C := C) env ticks adapters store journalLimit
  obtain ⟨session, hlookup, rfl⟩ := Option.map_eq_some_iff.mp h
  rcases hrows.live id session hlookup with hnone | ⟨row, -, hrow, -⟩
  · exact absurd hnone (SessionManager.lookup_sessions_starting_ne id session)
  · have hvitals : session.vitals = .newborn := by
      obtain ⟨record, -, hsummary⟩ := hrow.record
      rw [Session.vitals, hrow.running, hrow.exitReported, hrow.pendingPermission, hsummary]
      rfl
    obtain ⟨requests, heffects, hresume⟩ := hrows.recovers.effects
    have hquiet : ∀ effect ∈ requests, effect.isQuiet = true := by
      intro effect hmem
      obtain ⟨nativeId, rfl⟩ := hresume effect hmem
      rfl
    rw [hvitals, heffects, appendedTo_append, appendedTo_quiet hquiet]
    rfl

theorem journaled_of_calls
    (hfresh : ∀ n ≥ (SessionManager.new env ticks adapters store journalLimit : World S C).ticks,
      env.uuid n ∉ (SessionManager.new env ticks adapters store journalLimit :
        World S C).inner.sessions)
    {world : World S C}
    (hworld : (calls (SessionManager.new env ticks adapters store journalLimit)).Reachable world) :
    Journaled (· ∈ (SessionManager.new env ticks adapters store journalLimit :
      World S C).inner.sessions) journalLimit world := by
  refine System.invariant_of_step (fun _ hinit => ?_) (fun _ _ _ h _ hstep => h.move hstep) hworld
  rw [show _ = _ from hinit]
  exact journaled_new hfresh

/-- **The rule of beats**: what holds of a session at its start, and what every
beat that meets the condition keeps, holds of every session that a run reaches
whose beats meet the condition. -/
theorem pulse_of_calls {ok : Vitals → Beat → Prop} {I : Pulse → Prop} (hrestored : I (.newborn, []))
    (hborn : I (.newborn, [.status .idle]))
    (hbeat : ∀ pulse beat, I pulse → ok pulse.1 beat → beat.enabled pulse.1 → I (beat.step pulse))
    (hfresh : ∀ n ≥ (SessionManager.new env ticks adapters store journalLimit : World S C).ticks,
      env.uuid n ∉ (SessionManager.new env ticks adapters store journalLimit :
        World S C).inner.sessions)
    {world : World S C}
    (hworld : (calls (SessionManager.new env ticks adapters store journalLimit)).ReachUnder
      (Guarded ok) world)
    {id : SessionId} {pulse : Pulse} (hpulse : world.pulse id = some pulse) : I pulse := by
  refine (System.invariant_of_step (I := fun world =>
      Journaled (· ∈ (SessionManager.new env ticks adapters store journalLimit :
        World S C).inner.sessions) journalLimit world ∧
      ∀ id pulse, world.pulse id = some pulse → I pulse)
    (fun start hinit => ?_) (fun world move world' h hok hstep => ?_) hworld).2 id pulse hpulse
  · rw [show start = _ from hinit]
    refine ⟨journaled_new hfresh, fun id pulse hpulse => ?_⟩
    rw [pulse_new hpulse]
    exact hrestored
  · obtain ⟨hjournaled, hall⟩ := h
    refine ⟨hjournaled.move hstep, fun id pulse hpulse => ?_⟩
    cases move with
    | agents =>
        rw [World.AgentsMove.pulse hstep] at hpulse
        exact hall id pulse hpulse
    | call call =>
        have hfeels : world.Feels call world' := by
          rw [show world' = (call.run : Manager S C Unit).final world from hstep]
          exact pulse_call world call
        cases hfeels with
        | still hnone hstill => exact hall id pulse (hstill id ▸ hpulse)
        | @beat id' beat hsome hpulses =>
            by_cases hid : id = id'
            · subst hid
              rw [hpulses.self] at hpulse
              obtain ⟨before, hbefore, rfl⟩ := Option.map_eq_some_iff.mp hpulse
              obtain ⟨session, hlookup, henabled⟩ := World.beat?_enabled hsome
              have hvitals : session.vitals = before.1 := by
                rw [World.pulse, hlookup, Option.map_some, Option.some.injEq] at hbefore
                rw [← hbefore]
              have hmeets : ok before.1 beat := by
                refine hok (id, beat) hsome before.1 ?_
                rw [hlookup, Option.map_some, hvitals]
                rfl
              rw [hvitals] at henabled
              exact hbeat before beat (hall id before hbefore) hmeets henabled
            · exact hall id pulse (hpulses.others id hid ▸ hpulse)
        | @born id' hnew hself hothers =>
            by_cases hid : id = id'
            · subst hid
              have hunborn : id ∉ world.inner.sessions := by
                rw [hnew]
                exact hjournaled.fresh _ (Nat.le_refl _)
              rw [hself, hjournaled.unborn id hunborn, Option.some.injEq] at hpulse
              rw [← hpulse]
              exact hborn
            · exact hall id pulse (hothers id hid ▸ hpulse)

end

/-! ## sample runs -/

/-- The agent of a session sends events. -/
def World.heard (world : World S ScriptedAgent) (id : SessionId) (events : List AgentEvent) :
    World S ScriptedAgent :=
  match world.inner.sessions.lookup id with
  | none => world
  | some session =>
      world.setSession id { session with connection := { session.connection with events } }

theorem World.agentsMove_heard (world : World S ScriptedAgent) (id : SessionId)
    (events : List AgentEvent) : world.AgentsMove (world.heard id events) := by
  unfold World.heard
  cases hlookup : world.inner.sessions.lookup id with
  | none => exact ⟨rfl, rfl, rfl, rfl, rfl, rfl, rfl, rfl, fun _ => rfl⟩
  | some session =>
      refine ⟨rfl, rfl, rfl, rfl, rfl, rfl, rfl, rfl, fun other => ?_⟩
      dsimp only [World.setSession]
      by_cases hother : other = id
      · rw [hother, AList.lookup_insert, hlookup]
        rfl
      · rw [AList.lookup_insert_ne hother]

/-- The agent sends an event, and the manager pumps and cancels the turn. -/
def sampleCancelled (event : AgentEvent) : World SqliteStore ScriptedAgent :=
  ((((sampleManager.after (.createSession sampleRequest)).heard "uuu" [event]).after .pump).after
    (.cancel "uuu"))

theorem reachable_sampleCancelled (event : AgentEvent) :
    (process sampleManager).Reachable (sampleCancelled event) := by
  have hcreated : (process sampleManager).Reachable
      (sampleManager.after (.createSession sampleRequest)) :=
    .step (a := .operation (.createSession sampleRequest)) (.init rfl) trivial rfl
  have hheard : (process sampleManager).Reachable
      ((sampleManager.after (.createSession sampleRequest)).heard "uuu" [event]) :=
    .step (a := .agents) hcreated trivial (World.agentsMove_heard _ _ _)
  have hpumped : (process sampleManager).Reachable
      (((sampleManager.after (.createSession sampleRequest)).heard "uuu" [event]).after .pump) :=
    .step (a := .operation .pump) hheard trivial rfl
  exact .step (a := .operation (.cancel "uuu")) hpumped trivial rfl

/-- A session as `enroll` makes it. -/
def sampleSession (id : SessionId) : Session ScriptedAgent where
  summary := {
    id
    title := "New session"
    agent := "fake"
    model := none
    effort := none
    workingDirectoryLabel := "~"
    gitBranch := none
    status := .idle
    createdAtMs := 0
    lastActivityAtMs := 0
    lastSequence := 0
    recovery := .live
    archived := false }
  descriptor := { kind := .fake, displayName := "Fake", version := none }
  initialized := {
    protocolVersion := 1
    agentName := none
    agentTitle := none
    agentVersion := none
    agentCapabilities := { loadSession := false, sessionList := false, sessionResume := true } }
  connection := {
    capabilities := { loadSession := false, sessionList := false, sessionResume := true }
    events := [] }
  agentSessionId := some "native"
  origin := .new
  resolvedWorkingDirectory := "/home"
  modes := none
  configOptions := []
  journal := []
  pendingPermission := none
  running := true
  exitReported := false
  reasoningStartedAtMs := none
  reasoningEndedAtMs := none

def sampleEnroll : Call ScriptedAgent :=
  .enroll sampleSession fun _ => ⟨rfl, rfl, rfl, rfl, rfl, rfl, rfl, rfl⟩

/-- A session is enrolled and its agent's event is applied. -/
def sampleApplied (event : AgentEvent) : World SqliteStore ScriptedAgent :=
  (Call.apply "" event).run.final (sampleEnroll.run.final sampleManager)

theorem reachUnder_sampleApplied {ok : Vitals → Beat → Prop} {event : AgentEvent}
    (h : ∀ beat ∈ event.beat?, ok .newborn beat) :
    (calls sampleManager).ReachUnder (Guarded ok) (sampleApplied event) := by
  have hborn : (calls sampleManager).ReachUnder (Guarded ok)
      (sampleEnroll.run.final sampleManager) :=
    .step (a := .call sampleEnroll) (.init rfl) nofun rfl
  have hvitals : ((sampleEnroll.run.final sampleManager).inner.sessions.lookup "").map
      Session.vitals = some .newborn := by decide +kernel
  have hhas : (sampleEnroll.run.final sampleManager).has "" (fun _ => true) = true := by
    decide +kernel
  refine .step (a := .call (.apply "" event)) hborn (fun felt hfelt vitals hmem => ?_) rfl
  rw [World.beat?, if_pos hhas] at hfelt
  obtain ⟨beat, hbeat, rfl⟩ := Option.map_eq_some_iff.mp hfelt
  rw [hvitals] at hmem
  rw [← Option.some.inj hmem]
  exact h beat hbeat

def sampleExit : AgentEvent := .exited (some 0) "done"

def samplePermission : AgentEvent := .permissionRequest {
  permissionId := "p"
  title := "Run"
  detail := none
  toolCallId := none
  options := [] }

/-! ## the pending permission -/

/-- What a client makes of the permissions it shows when an event arrives. -/
def clientPending (pending : List String) (event : SequencedEvent) : List String :=
  match event.event with
  | .permissionRequest payload =>
      if payload.id ∈ pending then pending else pending ++ [payload.id]
  | .permissionResolved payload => pending.filter fun id => id ≠ payload.id
  | _ => pending

def Signal.pending (pending : List String) : Signal → List String
  | requested id => if id ∈ pending then pending else pending ++ [id]
  | resolved id => pending.filter fun shown => shown ≠ id
  | _ => pending

theorem foldl_clientPending (history : List SequencedEvent) (pending : List String) :
    history.foldl clientPending pending = (signals history).foldl Signal.pending pending := by
  induction history generalizing pending with
  | nil => rfl
  | cons event history ih =>
      rw [List.foldl_cons, ih, clientPending, signals, signals, List.filterMap_cons]
      cases event.event <;> rfl

/-- Client and manager agree on what is pending, and nothing is pending once the
agent has exited. -/
structure Faithful (pulse : Pulse) : Prop where
  shown : pulse.2.foldl Signal.pending [] = pulse.1.pending.toList
  exited : pulse.1.running = false → pulse.1.pending = none

/-- A request is not cancelled, not overtaken by another, not made by an agent
that has exited and not left behind by one. -/
def keepsPending (vitals : Vitals) : Beat → Prop
  | .cancelled | .exited | .vanished => vitals.pending = none
  | .requested id => vitals.running = true ∧ (vitals.pending = none ∨ vitals.pending = some id)
  | _ => True

instance (vitals : Vitals) (beat : Beat) : Decidable (keepsPending vitals beat) := by
  cases beat <;> unfold keepsPending <;> infer_instance

/-- **A beat keeps client and manager in agreement exactly if** it loses no
request. -/
theorem faithful_step_iff {pulse : Pulse} {beat : Beat} (h : Faithful pulse)
    (henabled : beat.enabled pulse.1) :
    Faithful (beat.step pulse) ↔ keepsPending pulse.1 beat := by
  obtain ⟨vitals, sent⟩ := pulse
  obtain ⟨running, exitReported, pending, status⟩ := vitals
  obtain ⟨hshown, hexited⟩ := h
  dsimp only at hshown hexited
  have hfaithful : ∀ (pending' : Option String) (running' : Bool) (exitReported' status' more),
      Faithful (⟨running', exitReported', pending', status'⟩, sent ++ more) ↔
        more.foldl Signal.pending pending.toList = pending'.toList ∧
          (running' = false → pending' = none) := by
    intro pending' running' exitReported' status' more
    rw [← hshown, ← List.foldl_append]
    exact ⟨fun h => ⟨h.shown, h.exited⟩, fun h => ⟨h.1, h.2⟩⟩
  cases beat with
  | prompted => exact (hfaithful ..).trans (iff_true_intro ⟨rfl, hexited⟩)
  | turnEnded => exact (hfaithful ..).trans (iff_true_intro ⟨rfl, hexited⟩)
  | failed => exact (hfaithful ..).trans (iff_true_intro ⟨rfl, hexited⟩)
  | answered =>
      obtain ⟨id, rfl⟩ := Option.ne_none_iff_exists'.mp henabled
      rw [Beat.step, List.append_assoc]
      refine (hfaithful ..).trans (iff_true_intro ⟨?_, fun _ => rfl⟩)
      simp [Signal.pending]
  | cancelled =>
      refine (hfaithful ..).trans ?_
      show pending.toList = [] ∧ _ ↔ pending = none
      simp
  | requested id =>
      refine (hfaithful ..).trans ?_
      cases pending with
      | none => simp [Signal.pending, keepsPending]
      | some shown =>
          by_cases hid : id = shown
          · simp [Signal.pending, keepsPending, hid]
          · simp [Signal.pending, keepsPending, hid, Ne.symm hid]
  | exited =>
      refine (hfaithful ..).trans ?_
      simp [Signal.pending, keepsPending]
  | vanished =>
      refine (hfaithful ..).trans ?_
      simp [Signal.pending, keepsPending]

section

variable [SessionStore S] [LawfulSessionStore S] [AcpSession C] {env : Env} {ticks : Nat}
  {adapters : AdapterRegistry C} {store : S} {journalLimit : Nat}

/-- **Events determine the pending permission**, in every run that loses no
request. -/
theorem pending_of_events
    (hfresh : ∀ n ≥ (SessionManager.new env ticks adapters store journalLimit : World S C).ticks,
      env.uuid n ∉ (SessionManager.new env ticks adapters store journalLimit :
        World S C).inner.sessions)
    {world : World S C}
    (hworld : (calls (SessionManager.new env ticks adapters store journalLimit)).ReachUnder
      (Guarded keepsPending) world)
    {id : SessionId} {session : Session C}
    (hlookup : world.inner.sessions.lookup id = some session) :
    (appendedTo id world.effects).foldl clientPending [] =
        (session.pendingPermission.map (·.id)).toList ∧
      (session.running = false → session.pendingPermission = none) := by
  have hpulse : world.pulse id = some (session.vitals, signals (appendedTo id world.effects)) := by
    rw [World.pulse, hlookup, Option.map_some]
  have hfaithful : Faithful (session.vitals, signals (appendedTo id world.effects)) := by
    refine pulse_of_calls ⟨rfl, fun _ => rfl⟩ ⟨rfl, fun _ => rfl⟩
      (fun pulse beat h hok henabled => ?_) hfresh hworld hpulse
    exact (faithful_step_iff h henabled).mpr hok
  rw [foldl_clientPending]
  exact ⟨hfaithful.shown, fun hexited => Option.map_eq_none_iff.mp (hfaithful.exited hexited)⟩

/-- A request is shown while it is pending. -/
theorem pending_of_events_requested :
    ∃ session, (sampleApplied samplePermission).inner.sessions.lookup "" = some session ∧
      session.pendingPermission.map (·.id) = some "p" ∧
      (appendedTo "" (sampleApplied samplePermission).effects).foldl clientPending [] =
        (session.pendingPermission.map (·.id)).toList ∧
      (session.running = false → session.pendingPermission = none) := by
  have hpending : ((sampleApplied samplePermission).inner.sessions.lookup "").map
      (fun session => session.pendingPermission.map (·.id)) = some (some "p") := by decide +kernel
  obtain ⟨session, hlookup, hsession⟩ := Option.map_eq_some_iff.mp hpending
  have hreach : (calls sampleManager).ReachUnder (Guarded keepsPending)
      (sampleApplied samplePermission) := reachUnder_sampleApplied (by decide)
  exact ⟨session, hlookup, hsession,
    pending_of_events (fun _ _ => AList.notMem_empty _) hreach hlookup⟩

/-- A client still shows a request that was cancelled with its turn. -/
theorem cancelled_request_shown :
    (process sampleManager).Reachable (sampleCancelled samplePermission) ∧
      ((sampleCancelled samplePermission).inner.sessions.lookup "uuu").map
        (·.pendingPermission) = some none ∧
      (appendedTo "uuu" (sampleCancelled samplePermission).effects).foldl clientPending [] =
        ["p"] := by
  refine ⟨reachable_sampleCancelled _, ?_, ?_⟩
  · decide +kernel
  · decide +kernel

end

/-! ## the exit -/

/-- Whether an event reports the agent's exit. -/
def SessionEvent.isExit : SessionEvent → Bool
  | exit _ => true
  | _ => false

/-- After an exit the agent does not run and every status is that of an exited
session. -/
structure Terminal (pulse : Pulse) : Prop where
  stopped : pulse.1.running = false ↔ .exit ∈ pulse.2
  status : pulse.1.running = false → pulse.1.status = .exited
  later : pulse.2.Pairwise fun earlier later =>
    earlier = .exit → ∀ status, later = .status status → status = .exited

/-- Nothing but an exit happens to a session whose agent has stopped. -/
def keepsExited (vitals : Vitals) : Beat → Prop
  | .answered | .cancelled | .requested _ | .turnEnded | .failed => vitals.running = true
  | _ => True

instance (vitals : Vitals) (beat : Beat) : Decidable (keepsExited vitals beat) := by
  cases beat <;> unfold keepsExited <;> infer_instance

/-- **A beat leaves an exited session exited exactly if** it is an exit. -/
theorem terminal_step_iff {pulse : Pulse} {beat : Beat} (h : Terminal pulse)
    (henabled : beat.enabled pulse.1) :
    Terminal (beat.step pulse) ↔ keepsExited pulse.1 beat := by
  obtain ⟨vitals, sent⟩ := pulse
  obtain ⟨running, exitReported, pending, status⟩ := vitals
  obtain ⟨hstopped, hstatus, hlater⟩ := h
  dsimp only at hstopped hstatus hlater
  -- a status other than exited is fit for a running session only
  have hrunning : ∀ (pending' status') (more : List Signal), .exit ∉ more → status' ≠ .exited →
      (Terminal (⟨running, exitReported, pending', status'⟩, sent ++ more) ↔ running = true) := by
    intro pending' status' more hmore hne
    constructor
    · intro h
      by_contra hnot
      exact hne (h.status (Bool.eq_false_of_not_eq_true hnot))
    · intro htrue
      have hsent : .exit ∉ sent ++ more := by
        rw [List.mem_append, ← hstopped, htrue]
        simpa using hmore
      refine ⟨?_, fun hfalse => ?_, List.pairwise_of_forall_mem_list fun earlier hmem _ _ heq => ?_⟩
      · simp only [htrue, hsent, reduceCtorEq]
      · rw [htrue] at hfalse
        contradiction
      · exact absurd (heq ▸ hmem) hsent
  -- an exit is fit for every session
  have hexit : Terminal (⟨false, true, pending, .exited⟩, sent ++ [.exit, .status .exited]) := by
    refine ⟨by simp, fun _ => rfl, List.pairwise_append.mpr ⟨hlater, by simp, ?_⟩⟩
    intro earlier _ later hmem _ status heq
    simp only [List.mem_cons, List.not_mem_nil, or_false] at hmem
    rcases hmem with rfl | rfl
    · contradiction
    · exact (Signal.status.inj heq).symm
  cases beat with
  | prompted =>
      exact (hrunning _ _ _ (by simp) (by simp)).trans (iff_true_intro henabled)
  | turnEnded => exact hrunning _ _ _ (by simp) (by simp)
  | failed => exact hrunning _ _ _ (by simp) (by simp)
  | answered =>
      rw [Beat.step, List.append_assoc]
      exact hrunning _ _ _ (by cases pending <;> simp) (by simp)
  | cancelled => exact hrunning _ _ _ (by simp) (by simp)
  | requested id => exact hrunning _ _ _ (by simp) (by simp)
  | exited => exact iff_true_intro hexit
  | vanished => exact iff_true_intro hexit

section

variable [SessionStore S] [LawfulSessionStore S] [AcpSession C] {env : Env} {ticks : Nat}
  {adapters : AdapterRegistry C} {store : S} {journalLimit : Nat}

/-- **Exited is terminal**, in every run in which nothing but an exit happens to a
session whose agent has stopped. -/
theorem exited_terminal
    (hfresh : ∀ n ≥ (SessionManager.new env ticks adapters store journalLimit : World S C).ticks,
      env.uuid n ∉ (SessionManager.new env ticks adapters store journalLimit :
        World S C).inner.sessions)
    {world : World S C}
    (hworld : (calls (SessionManager.new env ticks adapters store journalLimit)).ReachUnder
      (Guarded keepsExited) world)
    {id : SessionId} {session : Session C}
    (hlookup : world.inner.sessions.lookup id = some session) :
    ((∃ event ∈ appendedTo id world.effects, event.event.isExit = true) →
        session.running = false ∧ session.summary.status = .exited) ∧
      (appendedTo id world.effects).Pairwise fun earlier later =>
        earlier.event.isExit = true → ∀ status, later.event.status? = some status →
          status = .exited := by
  have hpulse : world.pulse id = some (session.vitals, signals (appendedTo id world.effects)) := by
    rw [World.pulse, hlookup, Option.map_some]
  have hterminal : Terminal (session.vitals, signals (appendedTo id world.effects)) := by
    refine pulse_of_calls ⟨by decide, fun h => absurd h.symm Bool.false_ne_true, .nil⟩
      ⟨by decide, fun h => absurd h.symm Bool.false_ne_true, by simp⟩
      (fun pulse beat h hok henabled => ?_) hfresh hworld hpulse
    exact (terminal_step_iff h henabled).mpr hok
  have hexit : ∀ event : SequencedEvent, event.event.isExit = true →
      event.event.signal? = some .exit := by
    intro event h
    cases hevent : event.event <;> rw [hevent] at h <;> first | rfl | contradiction
  have hstatus : ∀ (event : SequencedEvent) status, event.event.status? = some status →
      event.event.signal? = some (.status status) := by
    intro event status h
    cases hevent : event.event with
    | status payload =>
        rw [hevent] at h
        rw [← Option.some.inj h]
        rfl
    | _ => rw [hevent] at h; contradiction
  constructor
  · rintro ⟨event, hmem, hevent⟩
    have hstopped : session.vitals.running = false :=
      hterminal.stopped.mpr (List.mem_filterMap.mpr ⟨event, hmem, hexit event hevent⟩)
    exact ⟨hstopped, hterminal.status hstopped⟩
  · refine (List.pairwise_filterMap.mp hterminal.later).imp fun h hevent status hlater => ?_
    exact h _ (hexit _ hevent) _ (hstatus _ status hlater) rfl status rfl

/-- An exit that nothing follows. -/
theorem exited_terminal_exit :
    ∃ session, (sampleApplied sampleExit).inner.sessions.lookup "" = some session ∧
      (∃ event ∈ appendedTo "" (sampleApplied sampleExit).effects, event.event.isExit = true) ∧
      ((∃ event ∈ appendedTo "" (sampleApplied sampleExit).effects, event.event.isExit = true) →
        session.running = false ∧ session.summary.status = .exited) ∧
      (appendedTo "" (sampleApplied sampleExit).effects).Pairwise fun earlier later =>
        earlier.event.isExit = true → ∀ status, later.event.status? = some status →
          status = .exited := by
  have hmem : "" ∈ (sampleApplied sampleExit).inner.sessions :=
    AList.mem_keys.mpr (by decide +kernel : "" ∈ (sampleApplied sampleExit).inner.sessions.keys)
  obtain ⟨session, hlookup⟩ := exists_lookup_of_mem hmem
  have hreach : (calls sampleManager).ReachUnder (Guarded keepsExited)
      (sampleApplied sampleExit) := reachUnder_sampleApplied (by decide)
  have hexit : ∃ event ∈ appendedTo "" (sampleApplied sampleExit).effects,
      event.event.isExit = true := by decide +kernel
  exact ⟨session, hlookup, hexit,
    exited_terminal (fun _ _ => AList.notMem_empty _) hreach hlookup⟩

/-- Cancelling the turn of a session that has exited makes it idle. -/
theorem cancel_after_exit :
    (process sampleManager).Reachable (sampleCancelled sampleExit) ∧
      ((sampleCancelled sampleExit).inner.sessions.lookup "uuu").map
        (fun session => (session.running, session.summary.status)) = some (false, .idle) ∧
      (appendedTo "uuu" (sampleCancelled sampleExit).effects).filterMap (·.event.signal?) =
        [.status .idle, .exit, .status .exited, .status .idle] := by
  refine ⟨reachable_sampleCancelled _, ?_, ?_⟩
  · decide +kernel
  · decide +kernel

end

end Slight
