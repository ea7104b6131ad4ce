import Slight.Session.Lifecycle

/-!
# Slight.Session.Exit

The exit of one agent, between the worker of its `ClientSession` and the pump.
The worker puts the `Exited` event into the event channel and then clears the
running flag; a pump drains the channel, then reads the flag, then applies what
it drained and reports an exit of its own if the flag is down.

Worker and pump take turns in any order; while the pump holds the manager's lock
only its own work on other sessions goes on.  The journal is that of the real
manager.

* `exits_at_most_once`: at most one exit is journaled in runs in which no pump
  finds the flag down while the `Exited` event is still in the channel;
* `exit_reported_twice`: otherwise it is journaled twice.
-/

namespace Slight

open Support Program

variable {S C : Type}

/-- Whether the agent reports its exit. -/
def AgentEvent.isExited : AgentEvent → Bool
  | exited _ _ => true
  | _ => false

/-- Whether a call is part of a pump. -/
def Call.pumps : Call C → Bool
  | drain _ | apply _ _ | ensureExited _ => true
  | _ => false

/-- The session a call is about, where it is part of a pump. -/
def Call.pumped? : Call C → Option SessionId
  | drain sessionId | apply sessionId _ | ensureExited sessionId => some sessionId
  | _ => none

namespace Watch

inductive Worker where
  | working
  /-- The `Exited` event is sent, the flag is cleared next. -/
  | exiting
  | stopped
  deriving DecidableEq

inductive Pump where
  | idle
  /-- The channel is drained, the flag is read next. -/
  | drained (events : List AgentEvent)
  /-- The drained events are applied next. -/
  | read (events : List AgentEvent) (running : Bool)

/-- The drained events that are not applied yet. -/
def Pump.inFlight : Pump → List AgentEvent
  | idle => []
  | drained events | read events _ => events

/-- A pump that is under way holds the manager's lock. -/
def Pump.admits (pump : Pump) (call : Call C) : Bool :=
  match pump with
  | idle => true
  | drained _ | read _ _ => call.pumps

/-- The manager, and one session's channel and flag. -/
structure State (S C : Type) where
  world : World S C
  events : List AgentEvent
  running : Bool
  worker : Worker
  pump : Pump

inductive Step (C : Type) where
  /-- The worker sends an event of the agent. -/
  | send (event : AgentEvent)
  /-- The agent's stream ended: the worker sends the exit. -/
  | exit
  /-- The worker clears the flag. -/
  | clear
  /-- The worker stops without an event. -/
  | stop
  | drain
  | read
  | apply
  /-- Something else the manager does. -/
  | call (call : Call C)

/-- The exits journaled for the session. -/
def exits (id : SessionId) (world : World S C) : Nat :=
  (appendedTo id world.effects).countP fun event => event.event.isExit

section

variable [SessionStore S] [AcpSession C]

/-- A step, if it is enabled. -/
def next (id : SessionId) (state : State S C) : Step C → Option (State S C)
  | .send event =>
      if state.worker = .working ∧ event.isExited = false then
        some { state with events := state.events ++ [event] }
      else none
  | .exit =>
      if state.worker = .working then
        some { state with
          events := state.events ++ [.exited none "agent connection closed"]
          worker := .exiting }
      else none
  | .clear =>
      if state.worker = .exiting then some { state with running := false, worker := .stopped }
      else none
  | .stop =>
      if state.worker = .working then some { state with running := false, worker := .stopped }
      else none
  | .drain =>
      match state.pump with
      | .idle => some { state with events := [], pump := .drained state.events }
      | _ => none
  | .read =>
      match state.pump with
      | .drained events => some { state with pump := .read events state.running }
      | _ => none
  | .apply =>
      match state.pump with
      | .read events running =>
          some { state with
            world :=
              if events.isEmpty && running then state.world
              else (Manager.applyDrained (id, events, running)).final state.world
            pump := .idle }
      | _ => none
  | .call call =>
      if state.pump.admits call = true ∧ call.pumped? ≠ some id then
        some { state with world := (call.run : Manager S C Unit).final state.world }
      else none

/-- The session is there and no exit of its agent is known. -/
def Starts (start : World S C) (id : SessionId) (state : State S C) : Prop :=
  (calls start).Reachable state.world ∧
    (∃ session, state.world.inner.sessions.lookup id = some session ∧
      session.exitReported = false) ∧
    exits id state.world = 0 ∧ (∀ event ∈ state.events, event.isExited = false) ∧
    state.running = true ∧ state.worker = .working ∧ state.pump = .idle

/-- The session's worker and the pump. -/
def system (start : World S C) (id : SessionId) : System (State S C) (Step C) :=
  System.ofNext (Starts start id) (next id)

/-- The flag is not read as down while the exit is in the channel. -/
def seesExit (state : State S C) : Step C → Prop
  | .read => state.running = false → ∀ event ∈ state.events, event.isExited = false
  | _ => True

end

instance [SessionStore S] [AcpSession C] (state : State S C) (step : Step C) :
    Decidable (seesExit state step) := by
  cases step <;> unfold seesExit <;> infer_instance

/-! ## exits of pulses -/

/-- Whether a beat reports an exit. -/
def isExit : Beat → Bool
  | .exited | .vanished => true
  | _ => false

/-- An event leaves its mark on the pulse. -/
def react (pulse : Pulse) (event : AgentEvent) : Pulse :=
  event.beat?.elim pulse fun beat => beat.step pulse

/-- What drained events and the flag make of a pulse. -/
def reactAll (events : List AgentEvent) (running : Bool) (pulse : Pulse) : Pulse :=
  let pulse := events.foldl react pulse
  if running then pulse
  else if pulse.1.exitReported then pulse
  else Beat.vanished.step pulse

/-- The manager knows of the exits it has journaled. -/
def Reported (pulse : Pulse) : Prop :=
  pulse.1.exitReported = true ↔ 0 < pulse.2.count .exit

theorem count_step (beat : Beat) (pulse : Pulse) :
    (beat.step pulse).2.count .exit = pulse.2.count .exit + if isExit beat then 1 else 0 := by
  obtain ⟨vitals, sent⟩ := pulse
  cases beat with
  | answered => cases hpending : vitals.pending <;> simp [Beat.step, isExit, hpending]
  | _ => simp [Beat.step, isExit]

theorem exitReported_step (beat : Beat) (pulse : Pulse) :
    (beat.step pulse).1.exitReported = (pulse.1.exitReported || isExit beat) := by
  obtain ⟨vitals, sent⟩ := pulse
  cases beat <;> simp [Beat.step, isExit]

theorem reported_step {pulse : Pulse} (h : Reported pulse) (beat : Beat) :
    Reported (beat.step pulse) := by
  rw [Reported] at h
  rw [Reported, count_step, exitReported_step, Bool.or_eq_true, h]
  cases isExit beat <;> simp

theorem isExit_of_beat? {event : AgentEvent} {beat : Beat} (h : event.beat? = some beat) :
    isExit beat = event.isExited := by
  cases event <;> simp only [AgentEvent.beat?, Option.some.injEq, reduceCtorEq] at h <;>
    rw [← h] <;> rfl

theorem isExited_of_silent {event : AgentEvent} (h : event.beat? = none) :
    event.isExited = false := by
  cases event <;> first | rfl | contradiction

/-- Every event is one exit or none. -/
theorem count_react (pulse : Pulse) (event : AgentEvent) :
    (react pulse event).2.count .exit = pulse.2.count .exit + if event.isExited then 1 else 0 := by
  unfold react
  cases hbeat : event.beat? with
  | none => rw [isExited_of_silent hbeat]; rfl
  | some beat => rw [← isExit_of_beat? hbeat]; exact count_step beat pulse

theorem reported_react {pulse : Pulse} (h : Reported pulse) (event : AgentEvent) :
    Reported (react pulse event) := by
  unfold react
  cases event.beat? with
  | none => exact h
  | some beat => exact reported_step h beat

theorem foldl_react {pulse : Pulse} (h : Reported pulse) (events : List AgentEvent) :
    Reported (events.foldl react pulse) ∧
      (events.foldl react pulse).2.count .exit =
        pulse.2.count .exit + events.countP AgentEvent.isExited := by
  induction events generalizing pulse with
  | nil => exact ⟨h, rfl⟩
  | cons event events ih =>
      obtain ⟨hreported, hcount⟩ := ih (reported_react h event)
      refine ⟨hreported, ?_⟩
      rw [List.foldl_cons, hcount, count_react, List.countP_cons]
      omega

/-- **A pump** adds the exits it drained, and one of its own if it finds none. -/
theorem reactAll_exits {pulse : Pulse} (h : Reported pulse) (events : List AgentEvent)
    (running : Bool) :
    Reported (reactAll events running pulse) ∧
      (reactAll events running pulse).2.count .exit =
        max (pulse.2.count .exit + events.countP AgentEvent.isExited)
          (if running then 0 else 1) := by
  obtain ⟨hreported, hcount⟩ := foldl_react h events
  unfold reactAll
  cases running with
  | true => exact ⟨hreported, by simp [hcount]⟩
  | false =>
      dsimp only
      by_cases hexit : (events.foldl react pulse).1.exitReported = true
      · have hpos := hreported.mp hexit
        rw [if_neg Bool.false_ne_true, if_pos hexit]
        refine ⟨hreported, ?_⟩
        rw [if_neg Bool.false_ne_true]
        omega
      · have hzero : ¬ 0 < (events.foldl react pulse).2.count .exit := fun hpos =>
          hexit (hreported.mpr hpos)
        rw [if_neg Bool.false_ne_true, if_neg hexit]
        refine ⟨reported_step hreported _, ?_⟩
        rw [count_step, if_neg Bool.false_ne_true]
        have hvanished : isExit .vanished = true := rfl
        rw [if_pos hvanished]
        omega

section

variable [SessionStore S]

/-- The pulse of a session after a pump has applied what it drained. -/
theorem pulses_applyDrained (id : SessionId) (events : List AgentEvent) (running : Bool) :
    Manager.Pulses id (reactAll events running)
      (Manager.applyDrained (id, events, running) : Manager S C Nat) := by
  have hevents : Manager.Pulses id (fun pulse => events.foldl react pulse)
      (events.mapM fun event => (Manager.applyAgentEvent id event).attempt : Manager S C _) :=
    Manager.pulses_foldl fun event => Manager.pulses_attempt (Manager.pulses_applyAgentEvent event)
  cases running with
  | true => exact Manager.pulses_bind hevents fun _ => Manager.pulses_pure _
  | false =>
      exact Manager.pulses_bind hevents fun _ =>
        Manager.pulses_bind (Manager.pulses_attempt Manager.pulses_ensureExited) fun _ =>
          Manager.pulses_pure _

end

/-! ## the invariant -/

/-- Exits that are journaled, drained or in the channel. -/
def total (id : SessionId) (state : State S C) : Nat :=
  exits id state.world + state.pump.inFlight.countP AgentEvent.isExited +
    state.events.countP AgentEvent.isExited

structure Once (restored : SessionId → Prop) (journalLimit : Nat) (id : SessionId)
    (state : State S C) : Prop where
  journaled : Journaled restored journalLimit state.world
  reported : ∃ pulse, state.world.pulse id = some pulse ∧ Reported pulse
  once : total id state ≤ 1
  working : state.worker = .working → total id state = 0
  running : state.worker ≠ .stopped → state.running = true
  /-- A pump that saw the flag down has seen every exit. -/
  sawDown : ∀ events, state.pump = .read events false →
    state.worker = .stopped ∧ state.events.countP AgentEvent.isExited = 0

theorem exits_eq {world : World S C} {id : SessionId} {pulse : Pulse}
    (h : world.pulse id = some pulse) : exits id world = pulse.2.count .exit := by
  obtain ⟨session, -, rfl⟩ := Option.map_eq_some_iff.mp h
  rw [exits, signals, List.count_filterMap]
  refine List.countP_congr fun event _ => ?_
  cases event.event <;> simp [SessionEvent.isExit, SessionEvent.signal?]

section

variable [SessionStore S] [AcpSession C]

omit [SessionStore S] in
/-- Exits come from pumps. -/
theorem isExit_call {world : World S C} {id : SessionId} {call : Call C} {beat : Beat}
    (hcall : call.pumped? ≠ some id) (h : world.beat? call = some (id, beat)) :
    isExit beat = false := by
  have hif : ∀ {c : Prop} [Decidable c] {id' : SessionId} {beat' : Beat}, isExit beat' = false →
      (if c then some (id', beat') else none) = some (id, beat) → isExit beat = false := by
    intro c _ id' beat' hexit hsome
    split at hsome
    · obtain ⟨-, rfl⟩ := Prod.mk.inj (Option.some.inj hsome)
      exact hexit
    · contradiction
  cases call with
  | sendPrompt id' text => exact hif rfl h
  | respondPermission id' permissionId optionId => exact hif rfl h
  | cancel id' => exact hif rfl h
  | apply id' event =>
      rw [World.beat?] at h
      split at h
      · obtain ⟨beat', -, heq⟩ := Option.map_eq_some_iff.mp h
        exact absurd (congrArg some (Prod.mk.inj heq).1) hcall
      · contradiction
  | ensureExited id' =>
      rw [World.beat?] at h
      split at h
      · exact absurd (congrArg some (Prod.mk.inj (Option.some.inj h)).1) hcall
      · contradiction
  | _ => contradiction

/-- **The pulse of a live session** after a call is what it was, or the call's beat has
stepped it. -/
theorem pulse_of_live {restored : SessionId → Prop} {journalLimit : Nat} {world : World S C}
    {id : SessionId} {pulse : Pulse} (call : Call C)
    (hjournaled : Journaled restored journalLimit world) (hpulse : world.pulse id = some pulse) :
    ((call.run : Manager S C Unit).final world).pulse id = some pulse ∨
      ∃ beat, world.beat? call = some (id, beat) ∧
        ((call.run : Manager S C Unit).final world).pulse id = some (beat.step pulse) := by
  cases pulse_call world call with
  | still _ hstill => exact .inl ((hstill id).trans hpulse)
  | born hnew _ hothers =>
      refine .inl ((hothers id fun heq => ?_).trans hpulse)
      refine hjournaled.fresh _ (Nat.le_refl _) (?_ : _ ∈ _)
      obtain ⟨session, hlookup, -⟩ := Option.map_eq_some_iff.mp hpulse
      rw [← hnew, ← heq]
      exact mem_of_lookup hlookup
  | @beat id' beat hbeat hpulses =>
      by_cases hid : id = id'
      · subst hid
        have hself := hpulses.self
        rw [hpulse, Option.map_some] at hself
        exact .inr ⟨beat, hbeat, hself⟩
      · exact .inl ((hpulses.others id hid).trans hpulse)

/-- A call that is not part of a pump of the session journals no exit of it. -/
theorem reported_call {restored : SessionId → Prop} {journalLimit : Nat} {world : World S C}
    {id : SessionId} {call : Call C} (hjournaled : Journaled restored journalLimit world)
    (hcall : call.pumped? ≠ some id)
    (h : ∃ pulse, world.pulse id = some pulse ∧ Reported pulse) :
    (∃ pulse, ((call.run : Manager S C Unit).final world).pulse id = some pulse ∧
      Reported pulse) ∧
      exits id ((call.run : Manager S C Unit).final world) = exits id world := by
  obtain ⟨pulse, hpulse, hreported⟩ := h
  rcases pulse_of_live call hjournaled hpulse with hsame | ⟨beat, hbeat, hpulse'⟩
  · exact ⟨⟨pulse, hsame, hreported⟩, by rw [exits_eq hsame, exits_eq hpulse]⟩
  · have hexit : isExit beat = false := isExit_call hcall hbeat
    refine ⟨⟨_, hpulse', reported_step hreported beat⟩, ?_⟩
    rw [exits_eq hpulse', exits_eq hpulse, count_step, hexit]
    rfl

omit [AcpSession C] in
/-- What applying drained events makes of the state. -/
theorem applied {restored : SessionId → Prop} {journalLimit : Nat} {world : World S C}
    {id : SessionId} {pulse : Pulse} (hjournaled : Journaled restored journalLimit world)
    (hpulse : world.pulse id = some pulse) (events : List AgentEvent) (running : Bool) :
    let world' := if events.isEmpty && running then world
      else (Manager.applyDrained (id, events, running)).final world
    Journaled restored journalLimit world' ∧
      world'.pulse id = some (reactAll events running pulse) := by
  intro world'
  by_cases hnothing : (events.isEmpty && running) = true
  · have hworld' : world' = world := if_pos hnothing
    obtain ⟨hempty, hrunning⟩ := Bool.and_eq_true_iff.mp hnothing
    rw [hworld', List.isEmpty_iff.mp hempty, hrunning]
    exact ⟨hjournaled, hpulse⟩
  · have hworld' : world' = (Manager.applyDrained (id, events, running)).final world :=
      if_neg hnothing
    rw [hworld']
    constructor
    · refine (Manager.performs_applyDrained_of Manager.performs_applyAgentEvent
        Manager.performs_ensureExited (id, events, running)).preserves ?_ hjournaled
      exact fun _ _ hdeed hbefore => hbefore.change hdeed.change
    · rw [(pulses_applyDrained id events running world).1.self, hpulse, Option.map_some]

/-- **Every step keeps the invariant**, if no pump misses the exit. -/
theorem Once.step {restored : SessionId → Prop} {journalLimit : Nat} {id : SessionId}
    {state state' : State S C} {step : Step C} (h : Once restored journalLimit id state)
    (hok : seesExit state step) (hstep : next id state step = some state') :
    Once restored journalLimit id state' := by
  have htotal := h.once
  cases step with
  | send event =>
      rw [next] at hstep
      split at hstep
      · next henabled =>
          obtain ⟨hworker, hevent⟩ := henabled
          obtain rfl := Option.some.inj hstep
          have hsame : total id { state with events := state.events ++ [event] } =
              total id state := by
            simp [total, hevent]
          refine ⟨h.journaled, h.reported, hsame ▸ htotal, fun hw => hsame ▸ h.working hw,
            h.running, fun events hread => ?_⟩
          rw [(h.sawDown events hread).1] at hworker
          contradiction
      · contradiction
  | exit =>
      rw [next] at hstep
      split at hstep
      · next hworker =>
          obtain rfl := Option.some.inj hstep
          have hzero := h.working hworker
          refine ⟨h.journaled, h.reported, ?_, nofun, fun _ => h.running (by rw [hworker]; nofun),
            fun events hread => ?_⟩
          · simp only [total, List.countP_append] at hzero ⊢
            have hone : [AgentEvent.exited none "agent connection closed"].countP
                AgentEvent.isExited = 1 := rfl
            omega
          · rw [(h.sawDown events hread).1] at hworker
            contradiction
      · contradiction
  | clear =>
      rw [next] at hstep
      split at hstep
      · next hworker =>
          obtain rfl := Option.some.inj hstep
          refine ⟨h.journaled, h.reported, htotal, nofun, fun hne => absurd rfl hne,
            fun events hread => ?_⟩
          exact ⟨rfl, (h.sawDown events hread).2⟩
      · contradiction
  | stop =>
      rw [next] at hstep
      split at hstep
      · next hworker =>
          obtain rfl := Option.some.inj hstep
          refine ⟨h.journaled, h.reported, htotal, nofun, fun hne => absurd rfl hne,
            fun events hread => ?_⟩
          exact ⟨rfl, (h.sawDown events hread).2⟩
      · contradiction
  | drain =>
      rw [next] at hstep
      split at hstep
      · next hpump =>
          obtain rfl := Option.some.inj hstep
          have hsame : total id { state with events := [], pump := .drained state.events } =
              total id state := by
            simp [total, hpump, Pump.inFlight]
          exact ⟨h.journaled, h.reported, hsame ▸ htotal, fun hw => hsame ▸ h.working hw,
            h.running, nofun⟩
      · contradiction
  | read =>
      rw [next] at hstep
      split at hstep
      · next events hpump =>
          obtain rfl := Option.some.inj hstep
          have hsame : total id { state with pump := .read events state.running } =
              total id state := by
            simp [total, hpump, Pump.inFlight]
          refine ⟨h.journaled, h.reported, hsame ▸ htotal, fun hw => hsame ▸ h.working hw,
            h.running, fun events' hread => ?_⟩
          have hdown : state.running = false := (Pump.read.inj hread).2
          refine ⟨?_, List.countP_eq_zero.mpr fun event hmem => ?_⟩
          · by_contra hworker
            rw [h.running hworker] at hdown
            contradiction
          · rw [hok hdown event hmem]
            exact Bool.false_ne_true
      · contradiction
  | apply =>
      rw [next] at hstep
      split at hstep
      · next events running hpump =>
          obtain rfl := Option.some.inj hstep
          obtain ⟨pulse, hpulse, hreported⟩ := h.reported
          obtain ⟨hjournaled, hpulse'⟩ := applied h.journaled hpulse events running
          obtain ⟨hreported', hcount⟩ := reactAll_exits hreported events running
          rw [total, hpump, Pump.inFlight, exits_eq hpulse] at htotal
          have hworking := h.working
          rw [total, hpump, Pump.inFlight, exits_eq hpulse] at hworking
          refine ⟨hjournaled, ⟨_, hpulse', hreported'⟩, ?_, fun hw => ?_, h.running, nofun⟩
          · rw [total, exits_eq hpulse', hcount, Pump.inFlight, List.countP_nil]
            cases running with
            | true =>
                rw [if_pos rfl]
                dsimp only
                omega
            | false =>
                have hchannel := (h.sawDown events hpump).2
                rw [if_neg Bool.false_ne_true]
                dsimp only
                omega
          · rw [total, exits_eq hpulse', hcount, Pump.inFlight, List.countP_nil]
            cases running with
            | true =>
                have hzero := hworking hw
                rw [if_pos rfl]
                dsimp only at hzero ⊢
                omega
            | false =>
                have hstopped := (h.sawDown events hpump).1
                rw [show state.worker = .working from hw] at hstopped
                contradiction
      · contradiction
  | call call =>
      rw [next] at hstep
      split at hstep
      · next henabled =>
          obtain rfl := Option.some.inj hstep
          obtain ⟨hreported, hexits⟩ := reported_call h.journaled henabled.2 h.reported
          have hsame : total id { state with
              world := (call.run : Manager S C Unit).final state.world } = total id state := by
            rw [total, hexits]
            rfl
          exact ⟨h.journaled.call call, hreported, hsame ▸ htotal,
            fun hw => hsame ▸ h.working hw, h.running, h.sawDown⟩
      · contradiction

variable [LawfulSessionStore S] {env : Env} {ticks : Nat} {adapters : AdapterRegistry C}
  {store : S} {journalLimit : Nat}

/-- **A session exits at most once**, in every run in which no pump reads the flag
as down while the exit is in the channel. -/
theorem exits_at_most_once
    (hfresh : ∀ n ≥ (SessionManager.new env ticks adapters store journalLimit : World S C).ticks,
      env.uuid n ∉ (SessionManager.new env ticks adapters store journalLimit :
        World S C).inner.sessions)
    {id : SessionId} {state : State S C}
    (hstate : (system (SessionManager.new env ticks adapters store journalLimit) id).ReachUnder
      seesExit state) :
    exits id state.world ≤ 1 := by
  have honce : Once (· ∈ (SessionManager.new env ticks adapters store journalLimit :
      World S C).inner.sessions) journalLimit id state := by
    refine System.invariant_of_step (fun start hstart => ?_)
      (fun _ _ _ h hok hstep => h.step hok hstep) hstate
    obtain ⟨hworld, ⟨session, hlookup, hreported⟩, hexits, hevents, hrunning, hworker, hpump⟩ :=
      hstart
    have hpulse : start.world.pulse id =
        some (session.vitals, signals (appendedTo id start.world.effects)) := by
      rw [World.pulse, hlookup, Option.map_some]
    have hcount : start.events.countP AgentEvent.isExited = 0 :=
      List.countP_eq_zero.mpr fun event hmem => by rw [hevents event hmem]; exact Bool.false_ne_true
    have htotal : total id start = 0 := by
      rw [total, hexits, hpump, hcount]
      rfl
    refine ⟨journaled_of_calls hfresh hworld, ⟨_, hpulse, ?_⟩, by omega, fun _ => htotal,
      fun _ => hrunning, fun events hread => ?_⟩
    · rw [Reported, ← exits_eq hpulse, hexits, Session.vitals, hreported]
      simp
    · rw [hpump] at hread
      contradiction
  have htotal := honce.once
  rw [total] at htotal
  omega

end

/-! ## sample runs -/

/-- A session whose agent has not exited. -/
def sampleStart : State SqliteStore ScriptedAgent where
  world := sampleEnroll.run.final sampleManager
  events := []
  running := true
  worker := .working
  pump := .idle

theorem starts_sampleStart : Starts sampleManager "" sampleStart := by
  have hworld : (calls sampleManager).Reachable (sampleEnroll.run.final sampleManager) :=
    .step (a := .call sampleEnroll) (.init rfl) trivial rfl
  have hsession : (sampleStart.world.inner.sessions.lookup "").map (·.exitReported) =
      some false := by decide +kernel
  exact ⟨hworld, Option.map_eq_some_iff.mp hsession, by decide +kernel, nofun, rfl, rfl, rfl⟩

/-- The worker exits before the pump, which finds the exit in the channel. -/
theorem exits_at_most_once_seen :
    ∃ state, System.runs (next "") sampleStart
        [.exit, .clear, .drain, .read, .apply, .drain, .read, .apply] = some state ∧
      exits "" state.world = 1 ∧ exits "" state.world ≤ 1 := by
  have hexits : (System.runs (next "") sampleStart
      [.exit, .clear, .drain, .read, .apply, .drain, .read, .apply]).map
        (fun state => exits "" state.world) = some 1 := by decide +kernel
  have hsees : System.runsUnder (next "") seesExit sampleStart
      [.exit, .clear, .drain, .read, .apply, .drain, .read, .apply] := by decide +kernel
  obtain ⟨state, hruns, hone⟩ := Option.map_eq_some_iff.mp hexits
  exact ⟨state, hruns, hone, exits_at_most_once (fun _ _ => AList.notMem_empty _)
    (System.reachUnder_of_runs _ starts_sampleStart hsees hruns)⟩

/-- The worker exits between the two readings of a pump: that pump and the next
both journal an exit. -/
theorem exit_reported_twice :
    ∃ state, (system sampleManager "").Reachable state ∧ exits "" state.world = 2 := by
  have hexits : (System.runs (next "") sampleStart
      [.drain, .exit, .clear, .read, .apply, .drain, .read, .apply]).map
        (fun state => exits "" state.world) = some 2 := by decide +kernel
  obtain ⟨state, hruns, htwo⟩ := Option.map_eq_some_iff.mp hexits
  exact ⟨state, System.reachable_of_runs _ starts_sampleStart hruns, htwo⟩

end Watch

end Slight
