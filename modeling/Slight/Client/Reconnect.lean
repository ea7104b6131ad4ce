import Slight.Client.State

/-!
# Slight.Client.Reconnect

When the state machine of a connection reconnects, and when it does not.

* `stays_ended_iff` — which late events a connection that was closed, or has used up
  its retries, does not stand;
* `loop_connecting` — one series of failing attempts, from any attempt on.
-/

namespace Slight

namespace ConnectionStateMachine

/-- The effects of a sequence of events, each with the machine after it. -/
def trace (machine : ConnectionStateMachine) :
    List Event → List (Effect × ConnectionStateMachine)
  | [] => []
  | event :: events =>
      machine.handle event :: (machine.handle event).2.trace events

/-! ## late events -/

/-- The machine was closed, or has used up its retries. -/
inductive Ended : ConnectionStateMachine → Prop
  | closed (machine : ConnectionStateMachine) : Ended machine.markClosed
  | exhausted {machine machine' : ConnectionStateMachine} {event : Event} :
      machine.handle event = (.giveUp, machine') → Ended machine'

/-- Events other than a new request for a connection. -/
def Event.isLate : Event → Bool
  | .connectRequested | .reset => false
  | _ => true

/-- Effects that make a connection. -/
def Effect.connects : Effect → Bool
  | .openTransport | .startHandshake | .scheduleReconnect _ => true
  | _ => false

end ConnectionStateMachine

/-- Both are closed, or both have failed. -/
def GatewayConnectionState.EndsAs : GatewayConnectionState → GatewayConnectionState → Prop
  | .closed, .closed => True
  | .failed _, .failed _ => True
  | _, _ => False

namespace ConnectionStateMachine

/-- Throughout the events the machine stays closed, or failed, and makes no connection. -/
def StaysEnded (machine : ConnectionStateMachine) (events : List Event) : Prop :=
  ∀ step ∈ machine.trace events, machine.state.EndsAs step.2.state ∧ ¬ step.1.connects

/-- The events that are handled whatever the state is. -/
def Revives (machine : ConnectionStateMachine) : Event → Prop
  | .handshakeSucceeded _ | .resyncRequired _ => True
  | .handshakeFailed _ => machine.state = .closed
  | _ => False

/-- What is left of the retries of an ended machine. -/
inductive Rests (machine : ConnectionStateMachine) : Prop
  | closed (hstate : machine.state = .closed)
  | failed (failure : GatewayConnectionFailure) (hstate : machine.state = .failed failure)
      (hspent : machine.policy.shouldRetry (machine.attempt + 1) = false)

theorem handleDisconnect_of_spent {machine : ConnectionStateMachine}
    (hspent : machine.policy.shouldRetry (machine.attempt + 1) = false)
    (reason : Option String) :
    ∃ failure, machine.handleDisconnect reason =
      (.giveUp, { machine with state := .failed failure }) := by
  unfold handleDisconnect
  dsimp only
  rw [hspent]
  exact ⟨_, rfl⟩

theorem handleDisconnect_of_retry {machine : ConnectionStateMachine}
    (hretry : machine.policy.shouldRetry (machine.attempt + 1) = true)
    (reason : Option String) :
    machine.handleDisconnect reason =
      (.scheduleReconnect (machine.policy.delay machine.attempt),
        { machine with
          attempt := machine.attempt + 1
          state := .reconnecting (machine.attempt + 1)
            (millisecondsInt (machine.policy.delay machine.attempt)) }) := by
  unfold handleDisconnect
  dsimp only
  rw [hretry]
  rfl

/-- Only a disconnect uses retries up. -/
theorem handle_cases (machine : ConnectionStateMachine) (event : Event) :
    (∃ reason, machine.handle event = machine.handleDisconnect reason) ∨
      (machine.handle event).1 ≠ .giveUp ∧ (machine.handle event).2.policy = machine.policy := by
  unfold handle
  split
  · split <;> exact .inr ⟨nofun, rfl⟩
  · split <;> exact .inr ⟨nofun, rfl⟩
  · exact .inr ⟨nofun, rfl⟩
  · exact .inl ⟨_, rfl⟩
  · split
    · exact .inl ⟨_, rfl⟩
    · exact .inr ⟨nofun, rfl⟩
  · split <;> exact .inr ⟨nofun, rfl⟩
  · exact .inr ⟨nofun, rfl⟩
  · exact .inr ⟨nofun, rfl⟩

theorem rests_of_giveUp {machine machine' : ConnectionStateMachine} {event : Event}
    (h : machine.handle event = (.giveUp, machine')) : machine'.Rests := by
  rcases machine.handle_cases event with ⟨reason, hdisconnect⟩ | ⟨hkept, -⟩
  · rw [hdisconnect] at h
    cases hretry : machine.policy.shouldRetry (machine.attempt + 1) with
    | true =>
        rw [handleDisconnect_of_retry hretry] at h
        cases (Prod.mk.inj h).1
    | false =>
        obtain ⟨failure, hfailed⟩ := handleDisconnect_of_spent hretry reason
        rw [hfailed] at h
        rw [← (Prod.mk.inj h).2]
        exact .failed failure rfl hretry
  · rw [h] at hkept
    exact absurd rfl hkept

theorem Ended.rests {machine : ConnectionStateMachine} (h : machine.Ended) : machine.Rests := by
  cases h with
  | closed machine => exact .closed rfl
  | exhausted hgiveUp => exact rests_of_giveUp hgiveUp

/-- A late event that does not revive the machine leaves it ended. -/
theorem Rests.handle {machine : ConnectionStateMachine} (h : machine.Rests) {event : Event}
    (hlate : event.isLate) (hrevives : ¬ machine.Revives event) :
    (machine.handle event).2.Rests ∧ machine.state.EndsAs (machine.handle event).2.state ∧
      ¬ (machine.handle event).1.connects := by
  have hsame : machine.state.EndsAs machine.state := by
    cases h with
    | closed hstate => rw [hstate]; trivial
    | failed failure hstate => rw [hstate]; trivial
  have hstays : machine.handle event = (.none, machine) →
      (machine.handle event).2.Rests ∧ machine.state.EndsAs (machine.handle event).2.state ∧
        ¬ (machine.handle event).1.connects := by
    intro hnone
    rw [hnone]
    exact ⟨h, hsame, nofun⟩
  cases event with
  | connectRequested => exact absurd hlate Bool.false_ne_true
  | reset => exact absurd hlate Bool.false_ne_true
  | handshakeSucceeded welcome => exact absurd trivial hrevives
  | resyncRequired reason => exact absurd trivial hrevives
  | transportOpened =>
      refine hstays ?_
      cases h with
      | closed hstate => simp only [ConnectionStateMachine.handle, hstate]
      | failed failure hstate => simp only [ConnectionStateMachine.handle, hstate]
  | reconnectDelayElapsed =>
      refine hstays ?_
      cases h with
      | closed hstate => simp only [ConnectionStateMachine.handle, hstate]
      | failed failure hstate => simp only [ConnectionStateMachine.handle, hstate]
  | disconnected reason =>
      refine hstays ?_
      cases h with
      | closed hstate =>
          simp [ConnectionStateMachine.handle, hstate, GatewayConnectionState.isActive]
      | failed failure hstate =>
          simp [ConnectionStateMachine.handle, hstate, GatewayConnectionState.isActive]
  | handshakeFailed reason =>
      cases h with
      | closed hstate => exact absurd hstate hrevives
      | failed failure hstate hspent =>
          obtain ⟨failure', hfailed⟩ := handleDisconnect_of_spent hspent (some reason)
          simp only [ConnectionStateMachine.handle, hfailed, hstate]
          exact ⟨.failed failure' rfl hspent, trivial, nofun⟩

/-- An event that revives the machine does not leave it ended. -/
theorem not_endsAs_of_revives {machine : ConnectionStateMachine} {event : Event}
    (hrevives : machine.Revives event) :
    ¬ machine.state.EndsAs (machine.handle event).2.state := by
  cases event with
  | connectRequested | transportOpened | disconnected | reconnectDelayElapsed | reset =>
      exact hrevives.elim
  | handshakeSucceeded | resyncRequired =>
      intro hends
      unfold GatewayConnectionState.EndsAs at hends
      split at hends
      · next hstate => cases hstate
      · next hstate => cases hstate
      · exact hends
  | handshakeFailed reason =>
      have hstate : machine.state = .closed := hrevives
      rw [hstate]
      simp only [ConnectionStateMachine.handle]
      cases hretry : machine.policy.shouldRetry (machine.attempt + 1) with
      | true =>
          rw [handleDisconnect_of_retry hretry]
          exact id
      | false =>
          obtain ⟨failure, hfailed⟩ := handleDisconnect_of_spent hretry (some reason)
          rw [hfailed]
          exact id

/-- What revives a machine depends on how it ended. -/
theorem revives_iff_of_endsAs {machine machine' : ConnectionStateMachine}
    (h : machine.state.EndsAs machine'.state) (event : Event) :
    machine'.Revives event ↔ machine.Revives event := by
  cases event with
  | connectRequested | transportOpened | disconnected | reconnectDelayElapsed | reset =>
      exact Iff.rfl
  | handshakeSucceeded | resyncRequired => exact Iff.rfl
  | handshakeFailed reason =>
      unfold GatewayConnectionState.EndsAs at h
      split at h
      · next hclosed hclosed' => exact iff_of_true hclosed' hclosed
      · next hfailed hfailed' => simp [Revives, hfailed, hfailed']
      · exact h.elim

end ConnectionStateMachine

theorem GatewayConnectionState.endsAs_congr {s t : GatewayConnectionState} (h : s.EndsAs t)
    (u : GatewayConnectionState) : s.EndsAs u ↔ t.EndsAs u := by
  unfold EndsAs at h
  split at h
  · exact Iff.rfl
  · cases u <;> exact Iff.rfl
  · exact h.elim

namespace ConnectionStateMachine

theorem stays_cons_iff {machine : ConnectionStateMachine} {event : Event} {events : List Event}
    (hends : machine.state.EndsAs (machine.handle event).2.state)
    (hconnects : ¬ (machine.handle event).1.connects) :
    machine.StaysEnded (event :: events) ↔ (machine.handle event).2.StaysEnded events := by
  unfold StaysEnded
  rw [trace, List.forall_mem_cons]
  have hcongr := fun state => GatewayConnectionState.endsAs_congr hends state
  constructor
  · rintro ⟨-, hrest⟩ step hstep
    exact ⟨(hcongr _).mp (hrest step hstep).1, (hrest step hstep).2⟩
  · intro hrest
    refine ⟨⟨hends, hconnects⟩, fun step hstep => ?_⟩
    exact ⟨(hcongr _).mpr (hrest step hstep).1, (hrest step hstep).2⟩

theorem Rests.stays_iff {machine : ConnectionStateMachine} (h : machine.Rests)
    {events : List Event} (hlate : ∀ event ∈ events, event.isLate) :
    machine.StaysEnded events ↔ ∀ event ∈ events, ¬ machine.Revives event := by
  induction events generalizing machine with
  | nil =>
      unfold StaysEnded
      rw [trace]
      exact iff_of_true (fun _ h => absurd h List.not_mem_nil) fun _ h => absurd h List.not_mem_nil
  | cons event events ih =>
      obtain ⟨hfirst, hrest⟩ := List.forall_mem_cons.mp hlate
      rw [List.forall_mem_cons]
      by_cases hrevives : machine.Revives event
      · refine iff_of_false (fun hstays => ?_) fun hnone => hnone.1 hrevives
        exact not_endsAs_of_revives hrevives (hstays _ List.mem_cons_self).1
      · obtain ⟨hrests, hends, hconnects⟩ := h.handle hfirst hrevives
        rw [stays_cons_iff hends hconnects, ih hrests hrest]
        constructor
        · intro hnone
          exact ⟨hrevives, fun other hmem =>
            (revives_iff_of_endsAs hends other).not.mp (hnone other hmem)⟩
        · intro hnone other hmem
          exact (revives_iff_of_endsAs hends other).not.mpr (hnone.2 other hmem)

/-- **An ended connection stays ended** through late events just when none of them reports a
handshake that succeeded or a resync, and, if it was closed, none a handshake that failed. -/
theorem stays_ended_iff {machine : ConnectionStateMachine} (h : machine.Ended)
    {events : List Event} (hlate : ∀ event ∈ events, event.isLate) :
    machine.StaysEnded events ↔ ∀ event ∈ events, ¬ machine.Revives event :=
  h.rests.stays_iff hlate

/-- A closed machine that hears of a disconnect stays closed. -/
theorem stays_ended_iff_disconnected :
    (markClosed {}).StaysEnded [.disconnected none, .transportOpened] := by
  refine (stays_ended_iff (.closed {}) (by decide)).mpr fun event hmem => ?_
  rcases List.mem_cons.mp hmem with rfl | hmem
  · exact id
  · rw [List.mem_singleton.mp hmem]
    exact id

/-- A resync frame handled after the shutdown revives the machine, and the disconnect that
follows has it reconnect. -/
theorem closed_reconnects :
    ¬ ∀ machine : ConnectionStateMachine, machine.Ended → ∀ events : List Event,
      (∀ event ∈ events, event.isLate) → machine.StaysEnded events := by
  intro hstays
  have hfalse := hstays (markClosed {}) (.closed {})
    [.resyncRequired (some "journal_evicted"), .disconnected none] (by decide)
  exact (hfalse _ (List.mem_cons_of_mem _ List.mem_cons_self)).2 rfl

/-! ## the retry budget -/

/-- An attempt that fails before a handshake succeeds. -/
inductive FailedAttempt where
  | unopened (reason : Option String)
  | dropped (reason : Option String)
  | refused (reason : String)

/-- What the loop of the connection feeds the machine in a failing attempt. -/
def FailedAttempt.events : FailedAttempt → List Event
  | unopened reason => [.connectRequested, .disconnected reason]
  | dropped reason => [.connectRequested, .transportOpened, .disconnected reason]
  | refused reason => [.connectRequested, .transportOpened, .handshakeFailed reason]

def after (machine : ConnectionStateMachine) (events : List Event) : ConnectionStateMachine :=
  events.foldl (fun machine event => (machine.handle event).2) machine

def effects (machine : ConnectionStateMachine) (events : List Event) : List Effect :=
  (machine.trace events).map Prod.fst

/-- The loop of the connection, given the events of its rounds: it goes on after a delay while
one is scheduled. -/
def loop (machine : ConnectionStateMachine) :
    List (List Event) → List Effect × ConnectionStateMachine
  | [] => ([], machine)
  | events :: rounds =>
      match (machine.effects events).getLast? with
      | some (.scheduleReconnect _) =>
          let (elapsed, machine') := (machine.after events).handle .reconnectDelayElapsed
          let (rest, last) := machine'.loop rounds
          (machine.effects events ++ elapsed :: rest, last)
      | _ => (machine.effects events, machine.after events)

/-- The delays scheduled, in order. -/
def delays (effects : List Effect) : List Rat :=
  effects.filterMap fun
    | .scheduleReconnect delay => some delay
    | _ => none

/-- The connection was opened `opens` times, then given up. -/
structure Exhausts (opens : Nat) (run : List Effect × ConnectionStateMachine) : Prop where
  gaveUp : ∃ before, run.1 = before ++ [.giveUp] ∧ .giveUp ∉ before ∧
    before.count .openTransport = opens
  failed : ∃ failure, run.2.state = .failed failure

/-- Effects that neither open nor schedule anything, and do not give up. -/
def Effect.isQuiet : Effect → Bool
  | .none | .startHandshake => true
  | _ => false

theorem count_of_quiet {quiet : List Effect} (h : ∀ effect ∈ quiet, effect.isQuiet) :
    quiet.count .openTransport = 0 := by
  refine List.count_eq_zero_of_not_mem fun hmem => ?_
  exact Bool.false_ne_true (h _ hmem)

theorem delays_of_quiet {quiet : List Effect} (h : ∀ effect ∈ quiet, effect.isQuiet) :
    delays quiet = [] := by
  refine List.filterMap_eq_nil_iff.mpr fun effect hmem => ?_
  have hquiet := h effect hmem
  cases effect with
  | none | openTransport | startHandshake | fail | giveUp => rfl
  | scheduleReconnect => exact absurd hquiet Bool.false_ne_true

/-- A failing attempt of a machine that is connecting comes to the disconnect at its end. -/
theorem failedAttempt_spec {machine : ConnectionStateMachine} {number : Nat}
    (hstate : machine.state = .connecting number) (attempt : FailedAttempt) :
    ∃ quiet reason, (∀ effect ∈ quiet, effect.isQuiet) ∧
      machine.effects attempt.events = quiet ++ [(machine.handleDisconnect reason).1] ∧
      machine.after attempt.events = (machine.handleDisconnect reason).2 := by
  have hactive : machine.state.isActive := by rw [hstate]; rfl
  have hrequested : machine.handle .connectRequested = (.none, machine) := by
    simp only [handle, hactive, if_true]
  have hopened : machine.handle .transportOpened =
      (.startHandshake, { machine with state := .handshaking }) := by
    simp only [handle, hstate]
  have hdisconnected : ∀ reason, machine.handle (.disconnected reason) =
      machine.handleDisconnect reason := by
    intro reason
    simp only [handle, hactive, Bool.true_or, if_true]
  cases attempt with
  | unopened reason =>
      refine ⟨[.none], reason, by decide, ?_, ?_⟩
      · simp only [effects, FailedAttempt.events, trace, hrequested, hdisconnected]
        rfl
      · simp only [after, FailedAttempt.events, List.foldl_cons, List.foldl_nil, hrequested,
          hdisconnected]
  | dropped reason =>
      refine ⟨[.none, .startHandshake], reason, by decide, ?_, ?_⟩
      · simp only [effects, FailedAttempt.events, trace, hrequested, hopened]
        rfl
      · simp only [after, FailedAttempt.events, List.foldl_cons, List.foldl_nil, hrequested,
          hopened]
        rfl
  | refused reason =>
      refine ⟨[.none, .startHandshake], some reason, by decide, ?_, ?_⟩
      · simp only [effects, FailedAttempt.events, trace, hrequested, hopened]
        rfl
      · simp only [after, FailedAttempt.events, List.foldl_cons, List.foldl_nil, hrequested,
          hopened]
        rfl

/-- A round at whose end a reconnect is scheduled. -/
theorem loop_of_retry {machine : ConnectionStateMachine} {events : List Event}
    {quiet : List Effect} {reason : Option String}
    (heffects : machine.effects events = quiet ++ [(machine.handleDisconnect reason).1])
    (hafter : machine.after events = (machine.handleDisconnect reason).2)
    (hretry : machine.policy.shouldRetry (machine.attempt + 1) = true)
    (rounds : List (List Event)) :
    let next : ConnectionStateMachine :=
      { machine with
        attempt := machine.attempt + 1
        state := .connecting (machine.attempt + 1) }
    machine.loop (events :: rounds) =
      (quiet ++ .scheduleReconnect (machine.policy.delay machine.attempt) :: .openTransport ::
        (next.loop rounds).1, (next.loop rounds).2) := by
  intro next
  rw [handleDisconnect_of_retry hretry] at heffects hafter
  rw [loop, heffects, hafter, List.getLast?_concat]
  simp only [handle, List.append_assoc, List.singleton_append]
  rfl

/-- A round at whose end the retries are used up. -/
theorem loop_of_spent {machine : ConnectionStateMachine} {events : List Event}
    {quiet : List Effect} {reason : Option String}
    (heffects : machine.effects events = quiet ++ [(machine.handleDisconnect reason).1])
    (hafter : machine.after events = (machine.handleDisconnect reason).2)
    (hspent : machine.policy.shouldRetry (machine.attempt + 1) = false)
    (rounds : List (List Event)) :
    ∃ failure, machine.loop (events :: rounds) =
      (quiet ++ [.giveUp], { machine with state := .failed failure }) := by
  obtain ⟨failure, hfailed⟩ := handleDisconnect_of_spent hspent reason
  rw [hfailed] at heffects hafter
  refine ⟨failure, ?_⟩
  rw [loop, heffects, hafter, List.getLast?_concat]

theorem shouldRetry_eq {policy : ReconnectPolicy} {n : Nat} (h : policy.maxAttempts = some n)
    (attempt : Nat) : policy.shouldRetry attempt = decide (attempt ≤ n) := by
  simp only [ReconnectPolicy.shouldRetry, h]

/-- What is added in front of a series of attempts. -/
theorem Exhausts.cons {opens : Nat} {run : List Effect × ConnectionStateMachine}
    (h : Exhausts opens run) (effect : Effect) (heffect : effect ≠ .giveUp) :
    Exhausts (opens + if effect = .openTransport then 1 else 0) (effect :: run.1, run.2) := by
  obtain ⟨before, hrun, hkept, hcount⟩ := h.gaveUp
  refine ⟨⟨effect :: before, by rw [hrun, List.cons_append], ?_, ?_⟩, h.failed⟩
  · exact fun hmem => (List.mem_cons.mp hmem).elim (fun heq => heffect heq.symm) hkept
  · rw [List.count_cons, hcount]
    simp only [beq_iff_eq]

theorem Exhausts.append {opens : Nat} {run : List Effect × ConnectionStateMachine}
    (h : Exhausts opens run) {quiet : List Effect} (hquiet : ∀ effect ∈ quiet, effect.isQuiet) :
    Exhausts opens (quiet ++ run.1, run.2) := by
  obtain ⟨before, hrun, hkept, hcount⟩ := h.gaveUp
  refine ⟨⟨quiet ++ before, by rw [hrun, List.append_assoc], ?_, ?_⟩, h.failed⟩
  · intro hmem
    rcases List.mem_append.mp hmem with hmem | hmem
    · exact Bool.false_ne_true (hquiet _ hmem)
    · exact hkept hmem
  · rw [List.count_append, count_of_quiet hquiet, hcount, Nat.zero_add]

/-- **A series of failing attempts**, from any of them on: as many more are made as are left,
after the delays of the policy. -/
theorem loop_connecting {machine : ConnectionStateMachine} {n number : Nat}
    (hstate : machine.state = .connecting number) (hmax : machine.policy.maxAttempts = some n)
    (hattempt : machine.attempt ≤ n) {attempts : List FailedAttempt}
    (hlength : n - machine.attempt < attempts.length) :
    Exhausts (n - machine.attempt) (machine.loop (attempts.map FailedAttempt.events)) ∧
      delays (machine.loop (attempts.map FailedAttempt.events)).1 =
        (List.range' machine.attempt (n - machine.attempt)).map machine.policy.delay := by
  induction attempts generalizing machine number with
  | nil => exact absurd hlength (Nat.not_lt_zero _)
  | cons attempt attempts ih =>
      obtain ⟨quiet, reason, hquiet, heffects, hafter⟩ := failedAttempt_spec hstate attempt
      by_cases hleft : machine.attempt + 1 ≤ n
      · have hretry : machine.policy.shouldRetry (machine.attempt + 1) = true := by
          rw [shouldRetry_eq hmax, decide_eq_true hleft]
        let next : ConnectionStateMachine :=
          { machine with
            attempt := machine.attempt + 1
            state := .connecting (machine.attempt + 1) }
        have hmore : n - next.attempt < attempts.length := by
          rw [List.length_cons] at hlength
          show n - (machine.attempt + 1) < attempts.length
          omega
        obtain ⟨hrest, hdelays⟩ :
            Exhausts (n - next.attempt) (next.loop (attempts.map FailedAttempt.events)) ∧
              delays (next.loop (attempts.map FailedAttempt.events)).1 =
                (List.range' next.attempt (n - next.attempt)).map next.policy.delay :=
          ih rfl hmax hleft hmore
        have hcount : n - machine.attempt = n - (machine.attempt + 1) + 1 := by omega
        rw [List.map_cons, loop_of_retry heffects hafter hretry]
        constructor
        · rw [hcount]
          have hopened := hrest.cons .openTransport nofun
          have hscheduled :=
            hopened.cons (.scheduleReconnect (machine.policy.delay machine.attempt)) nofun
          exact hscheduled.append hquiet
        · rw [delays, List.filterMap_append, ← delays, delays_of_quiet hquiet, hcount,
            List.range'_succ, List.map_cons, ← hdelays]
          rfl
      · have hspent : machine.policy.shouldRetry (machine.attempt + 1) = false := by
          rw [shouldRetry_eq hmax, decide_eq_false hleft]
        obtain ⟨failure, hloop⟩ := loop_of_spent heffects hafter hspent
          (attempts.map FailedAttempt.events)
        have hnone : n - machine.attempt = 0 := by omega
        rw [List.map_cons, hloop, hnone]
        constructor
        · have hspent : Exhausts 0 ([.giveUp], { machine with state := .failed failure }) :=
            ⟨⟨[], rfl, nofun, rfl⟩, failure, rfl⟩
          exact hspent.append hquiet
        · rw [delays, List.filterMap_append, ← delays, delays_of_quiet hquiet]
          rfl

/-- From idle, the first attempt is opened on request; the rest is as for a machine that is
connecting. -/
theorem loop_idle (policy : ReconnectPolicy) (attempt : FailedAttempt)
    (rounds : List (List Event)) :
    let connecting : ConnectionStateMachine := { state := .connecting 1, attempt := 1, policy }
    ∃ rest last,
      loop { policy } (attempt.events :: rounds) = (.openTransport :: rest, last) ∧
      connecting.loop (attempt.events :: rounds) = (.none :: rest, last) := by
  intro connecting
  obtain ⟨events, hevents, hsome⟩ :
      ∃ events, attempt.events = .connectRequested :: events ∧ events ≠ [] := by
    cases attempt <;> exact ⟨_, rfl, List.cons_ne_nil _ _⟩
  have heffects : effects { policy } attempt.events =
      .openTransport :: connecting.effects events := by
    rw [hevents]
    rfl
  have heffects' : connecting.effects attempt.events = .none :: connecting.effects events := by
    rw [hevents]
    rfl
  have hafter : after { policy } attempt.events = connecting.after attempt.events := by
    rw [hevents]
    rfl
  obtain ⟨effect, more, hmore⟩ : ∃ effect more, connecting.effects events = effect :: more := by
    obtain ⟨event, events', rfl⟩ := List.exists_cons_of_ne_nil hsome
    exact ⟨_, _, rfl⟩
  rw [loop, loop, heffects, heffects', hafter, hmore, List.getLast?_cons_cons,
    List.getLast?_cons_cons]
  split
  · exact ⟨_, _, rfl, rfl⟩
  · exact ⟨_, _, rfl, rfl⟩

/-- What the connection feeds the machine while it is up. -/
def Event.isUp : Event → Bool
  | .handshakeSucceeded _ | .resyncRequired _ => true
  | _ => false

/-- While the connection is up, no retry is used. -/
theorem after_up {machine : ConnectionStateMachine} (hattempt : machine.attempt = 0)
    (hactive : machine.state.isActive) {between : List Event}
    (hup : ∀ event ∈ between, event.isUp) :
    (machine.after between).attempt = 0 ∧ (machine.after between).state.isActive ∧
      (machine.after between).policy = machine.policy := by
  induction between generalizing machine with
  | nil => exact ⟨hattempt, hactive, rfl⟩
  | cons event between ih =>
      obtain ⟨hfirst, hrest⟩ := List.forall_mem_cons.mp hup
      cases event with
      | handshakeSucceeded welcome => exact ih rfl rfl hrest
      | resyncRequired reason => exact ih hattempt rfl hrest
      | connectRequested | transportOpened | handshakeFailed | disconnected
      | reconnectDelayElapsed | reset => exact absurd hfirst Bool.false_ne_true

/-- A machine without limit does not give up. -/
theorem giveUp_notMem_effects {machine : ConnectionStateMachine}
    (hmax : machine.policy.maxAttempts = none) (events : List Event) :
    .giveUp ∉ machine.effects events := by
  induction events generalizing machine with
  | nil => exact List.not_mem_nil
  | cons event events ih =>
      have hstep : (machine.handle event).1 ≠ .giveUp ∧
          (machine.handle event).2.policy = machine.policy := by
        rcases machine.handle_cases event with ⟨reason, hdisconnect⟩ | hkept
        · have hretry : machine.policy.shouldRetry (machine.attempt + 1) = true := by
            simp only [ReconnectPolicy.shouldRetry, hmax]
          rw [hdisconnect, handleDisconnect_of_retry hretry]
          exact ⟨nofun, rfl⟩
        · exact hkept
      have hrest : .giveUp ∉ (machine.handle event).2.effects events :=
        ih (by rw [hstep.2, hmax])
      intro hmem
      rcases List.mem_cons.mp hmem with heq | hmem
      · exact hstep.1 heq.symm
      · exact hrest hmem

/-! ## delays -/

end ConnectionStateMachine

namespace ReconnectPolicy

variable {policy : ReconnectPolicy}

theorem delay_le (hmax : policy.initialDelay ≤ policy.maxDelay) (attempt : Nat) :
    policy.delay attempt ≤ policy.maxDelay := by
  unfold delay
  split
  · exact min_le_right _ _
  · exact hmax

/-- Delays that start at zero or above do not shrink. -/
theorem delay_mono (hpos : 0 ≤ policy.initialDelay) (hmax : policy.initialDelay ≤ policy.maxDelay)
    (hmultiplier : 1 ≤ policy.multiplier) {attempt attempt' : Nat} (h : attempt ≤ attempt') :
    policy.delay attempt ≤ policy.delay attempt' := by
  have hgrows : ∀ {j k : Nat}, j ≤ k →
      policy.initialDelay * policy.multiplier ^ j ≤ policy.initialDelay * policy.multiplier ^ k := by
    intro j k hjk
    have hpow : policy.multiplier ^ j ≤ policy.multiplier ^ k := pow_le_pow_right₀ hmultiplier hjk
    exact mul_le_mul_of_nonneg_left hpow hpos
  unfold delay
  by_cases hfirst : 1 < attempt
  · have hsecond : 1 < attempt' := Nat.lt_of_lt_of_le hfirst h
    rw [if_pos hfirst, if_pos hsecond]
    exact min_le_min_right _ (hgrows (by omega))
  · rw [if_neg hfirst]
    split
    · refine le_min ?_ hmax
      have hstart := hgrows (Nat.zero_le (attempt' - 1))
      rwa [pow_zero, mul_one] at hstart
    · exact le_refl _

/-- The delays of a series of attempts. -/
theorem delays_bounded (hmax : policy.initialDelay ≤ policy.maxDelay)
    (hmultiplier : 1 ≤ policy.multiplier) (first count : Nat) :
    (∀ delay ∈ (List.range' first count).map policy.delay, delay ≤ policy.maxDelay) ∧
      (0 ≤ policy.initialDelay →
        ((List.range' first count).map policy.delay).Pairwise (· ≤ ·)) := by
  constructor
  · intro delay hmem
    obtain ⟨attempt, -, rfl⟩ := List.mem_map.mp hmem
    exact delay_le hmax attempt
  · intro hpos
    have hincreasing : (List.range' first count).Pairwise (· < ·) := List.pairwise_lt_range'
    refine List.pairwise_map.mpr (hincreasing.imp fun hlt => ?_)
    exact delay_mono hpos hmax hmultiplier (Nat.le_of_lt hlt)

end ReconnectPolicy

namespace ConnectionStateMachine

/-- A series of attempts starts from idle. -/
theorem loop_from_idle {policy : ReconnectPolicy} {n : Nat} (hmax : policy.maxAttempts = some n)
    (hn : 1 ≤ n) {attempts : List FailedAttempt} (hlength : n ≤ attempts.length) :
    Exhausts n (loop { policy } (attempts.map FailedAttempt.events)) ∧
      delays (loop { policy } (attempts.map FailedAttempt.events)).1 =
        (List.range' 1 (n - 1)).map policy.delay := by
  cases attempts with
  | nil => exact absurd hlength (by rw [List.length_nil]; omega)
  | cons attempt attempts =>
      let connecting : ConnectionStateMachine := { state := .connecting 1, attempt := 1, policy }
      obtain ⟨rest, last, hloop, hloop'⟩ :=
        loop_idle policy attempt (attempts.map FailedAttempt.events)
      have hleft : n - connecting.attempt < (attempt :: attempts).length := by
        show n - 1 < (attempt :: attempts).length
        omega
      have hseries : Exhausts (n - 1)
            (connecting.loop ((attempt :: attempts).map FailedAttempt.events)) ∧
          delays (connecting.loop ((attempt :: attempts).map FailedAttempt.events)).1 =
            (List.range' 1 (n - 1)).map policy.delay :=
        loop_connecting rfl hmax hn hleft
      rw [List.map_cons, hloop'] at hseries
      rw [List.map_cons, hloop]
      obtain ⟨⟨⟨before, hrun, hkept, hcount⟩, hfailed⟩, hdelays⟩ := hseries
      cases before with
      | nil => cases (List.cons.inj hrun).1
      | cons effect before =>
          obtain ⟨rfl, rfl⟩ := List.cons.inj hrun
          refine ⟨⟨⟨.openTransport :: before, rfl, ?_, ?_⟩, hfailed⟩, hdelays⟩
          · intro hmem
            rcases List.mem_cons.mp hmem with heq | hmem
            · cases heq
            · exact hkept (List.mem_cons_of_mem _ hmem)
          · have hnone : Effect.none ≠ .openTransport := nofun
            rw [List.count_cons_of_ne hnone] at hcount
            rw [List.count_cons_self, hcount]
            omega

/-- A series of attempts starts when a connection that was up is lost. -/
theorem loop_from_up {machine : ConnectionStateMachine} {n : Nat}
    (hmax : machine.policy.maxAttempts = some n) (hn : 1 ≤ n) (hattempt : machine.attempt = 0)
    (hactive : machine.state.isActive) (reason : Option String) {attempts : List FailedAttempt}
    (hlength : n ≤ attempts.length) :
    Exhausts n (machine.loop ([.disconnected reason] :: attempts.map FailedAttempt.events)) ∧
      delays (machine.loop ([.disconnected reason] :: attempts.map FailedAttempt.events)).1 =
        (List.range' 0 n).map machine.policy.delay := by
  have hdisconnected : machine.handle (.disconnected reason) =
      machine.handleDisconnect reason := by
    simp only [handle, hactive, Bool.true_or, if_true]
  have hretry : machine.policy.shouldRetry (machine.attempt + 1) = true := by
    rw [shouldRetry_eq hmax, hattempt, decide_eq_true hn]
  have heffects : machine.effects [.disconnected reason] =
      [] ++ [(machine.handleDisconnect reason).1] := by
    simp only [effects, trace, hdisconnected]
    rfl
  have hafter : machine.after [.disconnected reason] = (machine.handleDisconnect reason).2 := by
    simp only [after, List.foldl_cons, List.foldl_nil, hdisconnected]
  let next : ConnectionStateMachine :=
    { machine with
      attempt := machine.attempt + 1
      state := .connecting (machine.attempt + 1) }
  have hstate : next.state = .connecting (machine.attempt + 1) := rfl
  have hfirst : next.attempt = 1 := by
    show machine.attempt + 1 = 1
    rw [hattempt]
  obtain ⟨hseries, hdelays⟩ :
      Exhausts (n - next.attempt) (next.loop (attempts.map FailedAttempt.events)) ∧
        delays (next.loop (attempts.map FailedAttempt.events)).1 =
          (List.range' next.attempt (n - next.attempt)).map next.policy.delay :=
    loop_connecting hstate hmax (by rw [hfirst]; exact hn) (by rw [hfirst]; omega)
  rw [hfirst] at hseries hdelays
  rw [loop_of_retry heffects hafter hretry]
  constructor
  · have hopened := hseries.cons .openTransport nofun
    have hscheduled :=
      hopened.cons (.scheduleReconnect (machine.policy.delay machine.attempt)) nofun
    have hcount : n - 1 + 1 = n := by omega
    exact hcount ▸ hscheduled
  · have hcount : n = n - 1 + 1 := by omega
    rw [hcount, List.range'_succ, List.map_cons, ← hattempt]
    exact congrArg (machine.policy.delay machine.attempt :: ·)
      (hdelays.trans (by rw [hattempt]))

/-- **The retry budget** is exact: from idle, and once a connection that was up is lost, the
transport is opened as often as the policy allows before the connection is given up.  No delay
is above the longest, and none is shorter than the one before if the first is not negative.
Without a limit no run gives up. -/
theorem retry_budget (policy : ReconnectPolicy) :
    (∀ n, policy.maxAttempts = some n → 1 ≤ n → policy.initialDelay ≤ policy.maxDelay →
      1 ≤ policy.multiplier → ∀ attempts : List FailedAttempt, n ≤ attempts.length →
        let fromIdle := loop { policy } (attempts.map FailedAttempt.events)
        (Exhausts n fromIdle ∧ (∀ delay ∈ delays fromIdle.1, delay ≤ policy.maxDelay) ∧
          (0 ≤ policy.initialDelay → (delays fromIdle.1).Pairwise (· ≤ ·))) ∧
        ∀ (machine : ConnectionStateMachine) (welcome : Client.ServerWelcome) (between : List Event)
          (reason : Option String), machine.policy = policy →
          (∀ event ∈ between, event.isUp) →
          let up := (machine.handle (.handshakeSucceeded welcome)).2.after between
          let fromUp := up.loop ([.disconnected reason] :: attempts.map FailedAttempt.events)
          Exhausts n fromUp ∧ (∀ delay ∈ delays fromUp.1, delay ≤ policy.maxDelay) ∧
            (0 ≤ policy.initialDelay → (delays fromUp.1).Pairwise (· ≤ ·))) ∧
    (policy.maxAttempts = none → ∀ machine : ConnectionStateMachine, machine.policy = policy →
      ∀ events, .giveUp ∉ machine.effects events) := by
  refine ⟨fun n hmax hn hdelay hmultiplier attempts hlength => ?_, fun hmax machine hpolicy =>
    giveUp_notMem_effects (hpolicy ▸ hmax)⟩
  intro fromIdle
  have hbounded := fun first count =>
    ReconnectPolicy.delays_bounded hdelay hmultiplier first count
  obtain ⟨hidle, hidleDelays⟩ := loop_from_idle hmax hn hlength
  refine ⟨⟨hidle, ?_, ?_⟩, fun machine welcome between reason hpolicy hup => ?_⟩
  · rw [hidleDelays]
    exact (hbounded 1 (n - 1)).1
  · rw [hidleDelays]
    exact (hbounded 1 (n - 1)).2
  · intro up fromUp
    obtain ⟨hattempt, hactive, hkept⟩ :
        up.attempt = 0 ∧ up.state.isActive ∧ up.policy = machine.policy := after_up rfl rfl hup
    have hsame : up.policy = policy := hkept.trans hpolicy
    obtain ⟨hexhausts, hupDelays⟩ :=
      loop_from_up (hsame ▸ hmax) hn hattempt hactive reason hlength
    refine ⟨hexhausts, ?_, ?_⟩
    · rw [hupDelays, hsame]
      exact (hbounded 0 n).1
    · rw [hupDelays, hsame]
      exact (hbounded 0 n).2

/-- Three attempts, and then no more. -/
theorem retry_budget_three :
    Exhausts 3 (loop { policy := { maxAttempts := some 3 } }
      ([.unopened none, .refused "no", .dropped (some "gone"), .unopened none].map
        FailedAttempt.events)) :=
  ((retry_budget { maxAttempts := some 3 }).1 3 rfl (by decide) (by decide +kernel)
    (by decide +kernel) _ (by decide)).1.1

/-- A policy whose first delay is negative: the delays shrink. -/
theorem negative_delays_shrink :
    ¬ ∀ (policy : ReconnectPolicy) (n : Nat), policy.maxAttempts = some n → 1 ≤ n →
      policy.initialDelay ≤ policy.maxDelay → 1 ≤ policy.multiplier →
      ∀ attempts : List FailedAttempt, n ≤ attempts.length →
        (delays (loop { policy } (attempts.map FailedAttempt.events)).1).Pairwise (· ≤ ·) := by
  intro hmono
  have hfalse := hmono { initialDelay := -1, maxAttempts := some 3 } 3 rfl (by decide)
    (by decide +kernel) (by decide +kernel) [.unopened none, .unopened none, .unopened none]
    (by decide)
  revert hfalse
  decide +kernel

end ConnectionStateMachine

end Slight
