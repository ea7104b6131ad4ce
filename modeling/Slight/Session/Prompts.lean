import Slight.Session.Exit
import Slight.Session.Growth

/-!
# Slight.Session.Prompts

A session's status against the prompts that were sent to its agent.  The manager
sets `Working` when it queues a prompt and `Idle` when it applies the end of a
turn, whichever prompt that turn answered; the worker answers the queued prompts
one by one.

The system is one session's worker, its command queue and event channel, and a
pump that drains the channel, reads the running flag and applies what it
drained; the journal is that of the real manager.  `prompts` and `ends` are
history variables: where the user message of each accepted prompt stands in the
history, and where the event that ended a prompt does.

* `idle_settled`: an idle session owes no answer, in runs in which no pump ends
  with the end of a turn while another prompt is queued, in progress or ended
  after the drain;
* `idle_unsettled`: otherwise it can be idle with a prompt unanswered.
-/

namespace Slight

open Support Program

variable {S C : Type}

/-! ## what is appended -/

def SessionEvent.isUserMessage : SessionEvent → Bool
  | message payload => payload.role = .user
  | _ => false

/-- The end of a turn, a failure, or the agent's exit. -/
def SessionEvent.endsPrompt : SessionEvent → Bool
  | turnEnded _ | exit _ => true
  | diagnostics payload => payload.level = .error
  | _ => false

theorem SessionEvent.endsPrompt_of_isExit {event : SessionEvent} (h : event.isExit = true) :
    event.endsPrompt = true := by
  cases event <;> first | contradiction | rfl

/-- The events the worker sends when a prompt call returns. -/
def AgentEvent.endsPrompt : AgentEvent → Bool
  | turnEnded _ | exited _ _ | failed _ => true
  | _ => false

/-- Which of the events appended for it says that the prompt ended: an ended turn
sets the status first. -/
def AgentEvent.endOffset : AgentEvent → Nat
  | turnEnded _ => 1
  | _ => 0

namespace World

/-- Every event appended to a session. -/
def history (world : World S C) (id : SessionId) : List SessionEvent :=
  (appendedTo id world.effects).map (·.event)

/-- From `world` to `world'` the events are appended to a live session. -/
structure Tells (id : SessionId) (events : List SessionEvent) (world world' : World S C) :
    Prop where
  live : id ∈ world'.inner.sessions
  history : world'.history id = world.history id ++ events

theorem Tells.trans {id : SessionId} {events events' : List SessionEvent}
    {world world' world'' : World S C} (h : Tells id events world world')
    (h' : Tells id events' world' world'') : Tells id (events ++ events') world world'' :=
  ⟨h'.live, by rw [h'.history, h.history, List.append_assoc]⟩

end World

namespace Manager

/-- Run on a live session, the program appends events as `P` says and does not
fail. -/
def Tells {α : Type} (id : SessionId) (P : List SessionEvent → Prop) (m : Manager S C α) : Prop :=
  ∀ world, id ∈ world.inner.sessions →
    (∃ events, P events ∧ World.Tells id events world (m.final world)) ∧
      ∃ a, m.result world = .ok a

section

variable {α β : Type} {id : SessionId} {P Q : List SessionEvent → Prop}

theorem tells_bind {m : Manager S C α} {k : α → Manager S C β} (hm : Tells id P m)
    (hk : ∀ a events, P events → Tells id (fun rest => Q (events ++ rest)) (k a)) :
    Tells id Q (m >>= k) := by
  intro world hlive
  obtain ⟨⟨events, hevents, htells⟩, a, ha⟩ := hm world hlive
  obtain ⟨⟨rest, hrest, htells'⟩, hok⟩ := hk a events hevents (m.final world) htells.live
  have hexec : m.exec world = (.ok a, m.final world) := by
    rw [← ha]
    rfl
  rw [final_bind, result, exec_bind, hexec]
  exact ⟨⟨_, hrest, htells.trans htells'⟩, hok⟩

/-- First something that appends nothing. -/
theorem tells_silent_bind {m : Manager S C α} {k : α → Manager S C β}
    (hm : Tells id (· = []) m) (hk : ∀ a, Tells id P (k a)) : Tells id P (m >>= k) := by
  refine tells_bind hm fun a events hevents => ?_
  rw [hevents]
  exact hk a

theorem tells_pure {a : α} (h : P []) : Tells id P (pure a : Manager S C α) :=
  fun _ hlive => ⟨⟨[], h, hlive, (List.append_nil _).symm⟩, a, rfl⟩

theorem tells_contentBlock (content : NormalizedContent) :
    Tells id (· = []) (contentBlock content : Manager S C _) :=
  fun _ hlive => ⟨⟨[], rfl, hlive, (List.append_nil _).symm⟩, _, rfl⟩

theorem tells_modifySession (change : Session C → Session C) :
    Tells id (· = []) (modifySession id change : Manager S C Unit) := by
  intro world hlive
  obtain ⟨session, hlookup⟩ := exists_lookup_of_mem hlive
  have hexec : (modifySession id change : Manager S C Unit).exec world =
      (.ok (), world.setSession id (change session)) := by
    rw [modifySession, exec_bind, exec_lookupSession]
    dsimp only
    rw [hlookup]
    rfl
  rw [final, result, hexec]
  exact ⟨⟨[], rfl, AList.mem_insert _ |>.mpr (.inl rfl), (List.append_nil _).symm⟩, _, rfl⟩

/-- A request the agent refuses changes nothing the manager believes. -/
theorem call_bind_spec {g : Pulse → Pulse} {world : World S C} {session : Session C}
    (hlookup : world.inner.sessions.lookup id = some session)
    (request : C → Except AcpError α × C) {k : α → Manager S C Unit}
    (hpulses : ∀ a, Pulses id g (k a)) (htells : ∀ a, Tells id P (k a)) :
    ((call id request >>= k).result world = .ok () ∧
      ((call id request >>= k).final world).pulse id = (world.pulse id).map g ∧
      ∃ events, P events ∧
        ((call id request >>= k).final world).history id = world.history id ++ events) ∨
    ((∃ error, (call id request >>= k).result world = .error error) ∧
      ((call id request >>= k).final world).pulse id = world.pulse id) := by
  have hself := (pulses_call_bind hlookup request hpulses).self
  rw [result, final, exec_bind, exec_call hlookup]
  rw [final, exec_bind, exec_call hlookup] at hself
  have hlive : id ∈ (world.setSession id
      { session with connection := (request session.connection).2 }).inner.sessions :=
    AList.mem_insert _ |>.mpr (.inl rfl)
  cases hanswer : (request session.connection).1 with
  | ok a =>
      obtain ⟨⟨events, hevents, htold⟩, ⟨⟩, hok⟩ := htells a _ hlive
      rw [hanswer] at hself
      exact .inl ⟨hok, hself, events, hevents, htold.history⟩
  | error error =>
      rw [hanswer] at hself
      exact .inr ⟨⟨_, rfl⟩, hself.trans Option.map_id'⟩

variable [SessionStore S]

theorem tells_append_bind {event : SessionEvent} {k : SequencedEvent → Manager S C β}
    (hk : ∀ a, Tells id (fun rest => P (event :: rest)) (k a)) :
    Tells id P (append id event >>= k) := by
  have happend : Tells id (· = [event]) (append id event : Manager S C SequencedEvent) := by
    intro world hlive
    obtain ⟨session, hlookup⟩ := exists_lookup_of_mem hlive
    rw [final, result, exec_append hlookup]
    refine ⟨⟨_, rfl, AList.mem_insert _ |>.mpr (.inl rfl), ?_⟩, _, rfl⟩
    rw [World.history, World.appended, appendedTo_append, appendedTo_appended, if_pos rfl,
      List.map_append]
    rfl
  refine tells_bind happend fun a events hevents => ?_
  rw [hevents]
  exact hk a

/-- **The end of a prompt is appended** where it is expected. -/
theorem told_end {world : World S C} {event : AgentEvent} (hlive : id ∈ world.inner.sessions)
    (hends : event.endsPrompt = true) :
    ∃ more, ((applyAgentEvent id event).final world).history id = world.history id ++ more ∧
      ∃ ended, more[event.endOffset]? = some ended ∧ ended.endsPrompt = true := by
  have htells : ∀ {m : Manager S C Unit}, Tells id
      (fun more => ∃ ended, more[event.endOffset]? = some ended ∧ ended.endsPrompt = true) m →
      ∃ more, (m.final world).history id = world.history id ++ more ∧
        ∃ ended, more[event.endOffset]? = some ended ∧ ended.endsPrompt = true := by
    intro m hm
    obtain ⟨⟨more, hended, htold⟩, -⟩ := hm world hlive
    exact ⟨more, htold.history, hended⟩
  cases event with
  | turnEnded stopReason =>
      rw [applyAgentEvent, final_bind, exec_lookupSession]
      refine htells (tells_silent_bind (tells_modifySession _) fun _ => tells_append_bind fun _ =>
        tells_append_bind fun _ => ?_)
      split
      · exact tells_append_bind fun _ => tells_pure ⟨_, rfl, rfl⟩
      · exact tells_pure ⟨_, rfl, rfl⟩
  | exited code reason =>
      exact htells (tells_silent_bind (tells_modifySession _) fun _ => tells_append_bind fun _ =>
        tells_append_bind fun _ => tells_pure ⟨_, rfl, rfl⟩)
  | failed message =>
      exact htells (tells_append_bind fun _ => tells_append_bind fun _ => tells_pure ⟨_, rfl, rfl⟩)
  | _ => contradiction

/-- **A prompt** is refused, or its user message is the next event of the
session. -/
theorem sendPrompt_spec [AcpSession C] {world : World S C} {session : Session C}
    (hlookup : world.inner.sessions.lookup id = some session) (text : String) :
    ((sendPrompt id text : Manager S C Unit).result world = .ok () ∧ session.running = true ∧
      ((sendPrompt id text : Manager S C Unit).final world).pulse id =
        (world.pulse id).map Beat.prompted.step ∧
      ∃ events, (∃ message, events[0]? = some message ∧ message.isUserMessage = true) ∧
        ((sendPrompt id text : Manager S C Unit).final world).history id =
          world.history id ++ events) ∨
    ((∃ error, (sendPrompt id text : Manager S C Unit).result world = .error error) ∧
      ((sendPrompt id text : Manager S C Unit).final world).pulse id = world.pulse id) := by
  by_cases hrunning : session.running = true
  · have hmodify : Pulses id (fun pulse => pulse) (modifySession id fun session =>
        { session with reasoningStartedAtMs := none, reasoningEndedAtMs := none } :
          Manager S C Unit) :=
      pulses_modifySession (fun vitals => vitals) fun session => rfl
    have hspec := call_bind_spec (g := Beat.prompted.step) (P := fun events =>
        ∃ message, events[0]? = some message ∧ message.isUserMessage = true)
      (k := fun _ => do
        modifySession id fun session =>
          { session with reasoningStartedAtMs := none, reasoningEndedAtMs := none }
        let block ← contentBlock (.text text)
        let _ ← append id (.message { role := .user, text, blocks := [block] })
        let _ ← append id (.status ⟨.working⟩)) hlookup (AcpSession.prompt · text)
      (fun _ => pulses_still_bind hmodify fun _ => pulses_still_bind (pulses_contentBlock _)
        fun _ => Pulses.congr (pulses_append_append _ _) fun _ => rfl)
      (fun _ => tells_silent_bind (tells_modifySession _) fun _ => tells_silent_bind
        (tells_contentBlock _) fun _ => tells_append_bind fun _ => tells_append_bind fun _ =>
          tells_pure ⟨_, rfl, rfl⟩)
    rw [result, final, sendPrompt, exec_bind, exec_requireSession hlookup]
    dsimp only
    rw [if_pos hrunning]
    rcases hspec with ⟨hok, hpulse, htold⟩ | hfailed
    · exact .inl ⟨hok, hrunning, hpulse, htold⟩
    · exact .inr hfailed
  · have hrefused : (sendPrompt id text : Manager S C Unit).exec world =
        (.error (.notRunning id), world) := by
      rw [sendPrompt, exec_bind, exec_requireSession hlookup]
      dsimp only
      rw [if_neg hrunning]
      rfl
    rw [result, final, hrefused]
    exact .inr ⟨⟨_, rfl⟩, rfl⟩

end

end Manager

/-! ## the system -/

namespace Prompts

inductive Worker where
  | idle
  /-- In the prompt call of a prompt. -/
  | calling (prompt : Nat)
  /-- The `Exited` event is sent, the flag is cleared next. -/
  | exiting
  | stopped
  deriving DecidableEq

/-- An event the worker sent, with the prompt whose call it ends. -/
structure Sent where
  event : AgentEvent
  prompt? : Option Nat

inductive Pump where
  | idle
  /-- The channel is drained, the flag is read next. -/
  | drained (events : List Sent)
  /-- The drained events are applied next. -/
  | read (events : List Sent) (running : Bool)

/-- The drained events that are not applied yet. -/
def Pump.inFlight : Pump → List Sent
  | idle => []
  | drained events | read events _ => events

/-- A pump that is under way holds the manager's lock. -/
def Pump.admits (pump : Pump) (call : Call C) : Bool :=
  match pump with
  | idle => true
  | drained _ | read _ _ => call.pumps

/-- The manager, and one session's worker with its queue, channel and flag.
Prompts are numbered in the order they were accepted. -/
structure State (S C : Type) where
  world : World S C
  commands : List Nat
  worker : Worker
  events : List Sent
  running : Bool
  pump : Pump
  /-- Where the user message of each accepted prompt stands in the history. -/
  prompts : List Nat
  /-- The prompts that ended, with the place of the event that says so. -/
  ends : List (Nat × Nat)

inductive Step (C : Type) where
  | send (text : String)
  /-- The worker takes the next prompt from its queue and sends it to the agent. -/
  | take
  /-- The worker forwards an event of the agent. -/
  | emit (event : AgentEvent)
  /-- The agent answers the prompt. -/
  | answer (stopReason : StopReason)
  /-- The prompt call fails. -/
  | fail (message : String)
  /-- The agent's stream ends during the prompt call. -/
  | close
  /-- The worker clears the flag and drops its queue. -/
  | clear
  | drain
  | read
  | apply
  /-- Something else the manager does. -/
  | call (call : Call C)

/-- Requests to the session's agent that the other steps stand for, and `cancel`. -/
def excluded (id : SessionId) : Call C → Bool
  | .sendPrompt sessionId _ | .cancel sessionId | .drain sessionId | .apply sessionId _
  | .ensureExited sessionId => sessionId = id
  | _ => false

section

variable [SessionStore S]

/-- Where the events that end prompts come to stand as the drained events are
applied. -/
def endings (id : SessionId) (world : World S C) : List Sent → List (Nat × Nat)
  | [] => []
  | sent :: rest =>
      (sent.prompt?.map fun prompt =>
          (prompt, (world.history id).length + sent.event.endOffset)).toList ++
        endings id ((Manager.applyAgentEvent id sent.event).final world) rest

variable [AcpSession C]

/-- The prompt is queued if the agent's worker is there to take it. -/
def State.send (id : SessionId) (text : String) (state : State S C) : Option (State S C) :=
  match (Manager.sendPrompt id text : Manager S C Unit).exec state.world with
  | (.error _, world) => some { state with world }
  | (.ok _, world) =>
      if state.worker = .stopped then none
      else some { state with
        world
        commands := state.commands ++ [state.prompts.length]
        prompts := state.prompts ++ [(state.world.history id).length] }

/-- The prompt call returns, with the event that says how. -/
def State.returns (event : AgentEvent) (worker : Worker) (state : State S C) :
    Option (State S C) :=
  match state.worker with
  | .calling prompt =>
      some { state with worker, events := state.events ++ [⟨event, some prompt⟩] }
  | _ => none

/-- A step, if it is enabled. -/
def next (id : SessionId) (state : State S C) : Step C → Option (State S C)
  | .send text =>
      match state.pump with
      | .idle => state.send id text
      | _ => none
  | .take =>
      match state.worker, state.commands with
      | .idle, prompt :: rest => some { state with worker := .calling prompt, commands := rest }
      | _, _ => none
  | .emit event =>
      if state.worker ≠ .exiting ∧ state.worker ≠ .stopped ∧ event.endsPrompt = false then
        some { state with events := state.events ++ [⟨event, none⟩] }
      else none
  | .answer stopReason => state.returns (.turnEnded stopReason) .idle
  | .fail message => state.returns (.failed message) .idle
  | .close => state.returns (.exited none "agent connection closed") .exiting
  | .clear =>
      if state.worker = .exiting then
        some { state with running := false, worker := .stopped, commands := [] }
      else none
  | .drain =>
      match state.pump with
      | .idle => some { state with events := [], pump := .drained state.events }
      | _ => none
  | .read =>
      match state.pump with
      | .drained events => some { state with pump := .read events state.running }
      | _ => none
  | .apply =>
      match state.pump with
      | .read events running =>
          some { state with
            world :=
              if events.isEmpty && running then state.world
              else (Manager.applyDrained (id, events.map (·.event), running)).final state.world
            pump := .idle
            ends := state.ends ++ endings id state.world events }
      | _ => none
  | .call call =>
      if state.pump.admits call = true ∧ excluded id call = false then
        some { state with world := (call.run : Manager S C Unit).final state.world }
      else none

/-- The session is there, its agent runs and no prompt was sent yet. -/
def Starts (start : World S C) (id : SessionId) (state : State S C) : Prop :=
  (calls start).Reachable state.world ∧
    (∃ session, state.world.inner.sessions.lookup id = some session ∧
      session.running = true) ∧
    state.commands = [] ∧ state.worker = .idle ∧
    (∀ sent ∈ state.events, sent.event.endsPrompt = false ∧ sent.prompt? = none) ∧
    state.running = true ∧ state.pump = .idle ∧ state.prompts = [] ∧ state.ends = []

/-- The session's worker and the manager. -/
def system (start : World S C) (id : SessionId) : System (State S C) (Step C) :=
  System.ofNext (Starts start id) (next id)

/-- The last event of a pump that touches the status ends a turn. -/
def endsIdle (events : List Sent) : Bool :=
  (events.filterMap fun sent => sent.event.beat?).getLast? = some .turnEnded

/-- No prompt is queued or in progress, and none has ended since the drain. -/
def State.Clear (state : State S C) : Prop :=
  state.commands = [] ∧ state.worker = .idle ∧ ∀ sent ∈ state.events, sent.prompt? = none

instance (state : State S C) : Decidable state.Clear := inferInstanceAs (Decidable (_ ∧ _ ∧ _))

/-- A pump that ends with the end of a turn leaves nothing behind, or the exit of
the agent is known. -/
def Keeps (id : SessionId) (state : State S C) : Step C → Prop
  | .apply =>
      match state.pump with
      | .read events true => endsIdle events = true →
          (state.world.inner.sessions.lookup id).any (·.exitReported) = true ∨ state.Clear
      | _ => True
  | _ => True

instance (id : SessionId) (state : State S C) (step : Step C) :
    Decidable (Keeps id state step) := by
  unfold Keeps
  split
  · split <;> infer_instance
  · infer_instance

end

/-! ## pulses -/

/-- The agent runs until its exit is reported. -/
structure Consistent (pulse : Pulse) : Prop where
  reported : Watch.Reported pulse
  running : pulse.1.running = !pulse.1.exitReported

theorem Consistent.step {pulse : Pulse} (h : Consistent pulse) (beat : Beat) :
    Consistent (beat.step pulse) := by
  refine ⟨Watch.reported_step h.reported beat, ?_⟩
  have hrunning := h.running
  obtain ⟨vitals, sent⟩ := pulse
  cases beat <;> first | exact hrunning | rfl

theorem Consistent.foldl_react {pulse : Pulse} (h : Consistent pulse) (events : List AgentEvent) :
    Consistent (events.foldl Watch.react pulse) := by
  induction events generalizing pulse with
  | nil => exact h
  | cons event events ih =>
      refine ih ?_
      unfold Watch.react
      cases event.beat? with
      | none => exact h
      | some beat => exact h.step beat

theorem Consistent.reactAll {pulse : Pulse} (h : Consistent pulse) (events : List AgentEvent)
    (running : Bool) : Consistent (Watch.reactAll events running pulse) := by
  unfold Watch.reactAll
  dsimp only
  split
  · exact h.foldl_react events
  · split
    · exact h.foldl_react events
    · exact (h.foldl_react events).step _

/-- Only the end of a turn makes a session idle. -/
theorem idle_foldl_react {pulse : Pulse} (events : List AgentEvent)
    (h : (events.foldl Watch.react pulse).1.status = .idle) :
    (events.filterMap AgentEvent.beat?).getLast? = some .turnEnded ∨
      pulse.1.status = .idle := by
  induction events using List.reverseRecOn with
  | nil => exact .inr h
  | append_singleton events event ih =>
      rw [List.foldl_append, List.foldl_cons, List.foldl_nil] at h
      rw [List.filterMap_append]
      unfold Watch.react at h
      cases hbeat : event.beat? with
      | none =>
          rw [hbeat] at h
          have hnone : [event].filterMap AgentEvent.beat? = [] := by
            rw [List.filterMap_cons, hbeat]
            rfl
          rw [hnone, List.append_nil]
          exact ih h
      | some beat =>
          rw [hbeat] at h
          have hsome : [event].filterMap AgentEvent.beat? = [beat] := by
            rw [List.filterMap_cons, hbeat]
            rfl
          rw [hsome, List.getLast?_concat]
          cases event <;> simp only [AgentEvent.beat?, reduceCtorEq, Option.some.injEq] at hbeat
          all_goals subst hbeat
          all_goals first
            | exact .inl rfl
            | exact absurd h (by simp [Beat.step])

/-- A pump leaves the session idle only if it ends with the end of a turn, or if
it found it idle; a flag that is down ends in an exit. -/
theorem idle_reactAll {pulse : Pulse} {events : List AgentEvent} {running : Bool}
    (h : (Watch.reactAll events running pulse).1.status = .idle)
    (hreported : (Watch.reactAll events running pulse).1.exitReported = false) :
    running = true ∧ ((events.filterMap AgentEvent.beat?).getLast? = some .turnEnded ∨
      pulse.1.status = .idle) := by
  unfold Watch.reactAll at h hreported
  dsimp only at h hreported
  split at h
  · next hrunning => exact ⟨hrunning, idle_foldl_react events h⟩
  · next hrunning =>
      rw [if_neg hrunning] at hreported
      split at h
      · next hexit =>
          rw [if_pos hexit, hexit] at hreported
          contradiction
      · contradiction

section

variable [SessionStore S] [AcpSession C]

omit [SessionStore S] in
/-- What else the manager does to the session is the answer to a permission. -/
theorem answered_of_beat? {world : World S C} {id : SessionId} {call : Call C} {beat : Beat}
    (hcall : excluded id call = false) (h : world.beat? call = some (id, beat)) :
    beat = .answered := by
  have hother : ∀ {sessionId : SessionId} {beat' : Beat}, decide (sessionId = id) = false →
      (sessionId, beat') ≠ (id, beat) := by
    intro sessionId beat' hne heq
    exact of_decide_eq_false hne (Prod.mk.inj heq).1
  cases call with
  | sendPrompt sessionId text =>
      rw [World.beat?] at h
      split at h
      · exact absurd (Option.some.inj h) (hother hcall)
      · contradiction
  | cancel sessionId =>
      rw [World.beat?] at h
      split at h
      · exact absurd (Option.some.inj h) (hother hcall)
      · contradiction
  | apply sessionId event =>
      rw [World.beat?] at h
      split at h
      · obtain ⟨beat', -, heq⟩ := Option.map_eq_some_iff.mp h
        exact absurd heq (hother hcall)
      · contradiction
  | ensureExited sessionId =>
      rw [World.beat?] at h
      split at h
      · exact absurd (Option.some.inj h) (hother hcall)
      · contradiction
  | respondPermission sessionId permissionId optionId =>
      rw [World.beat?] at h
      split at h
      · exact (Prod.mk.inj (Option.some.inj h)).2.symm
      · contradiction
  | _ => contradiction

/-- A call the system does not exclude reports no exit and makes no session idle. -/
theorem pulse_of_call {restored : SessionId → Prop} {journalLimit : Nat} {world : World S C}
    {id : SessionId} {call : Call C} {pulse : Pulse}
    (hjournaled : Journaled restored journalLimit world) (hcall : excluded id call = false)
    (hpulse : world.pulse id = some pulse) (h : Consistent pulse) :
    ∃ pulse', ((call.run : Manager S C Unit).final world).pulse id = some pulse' ∧
      Consistent pulse' ∧ pulse'.1.exitReported = pulse.1.exitReported ∧
      (pulse'.1.status = .idle → pulse.1.status = .idle) := by
  rcases Watch.pulse_of_live call hjournaled hpulse with hsame | ⟨beat, hbeat, hself⟩
  · exact ⟨pulse, hsame, h, rfl, fun hidle => hidle⟩
  · obtain rfl := answered_of_beat? hcall hbeat
    exact ⟨_, hself, h.step _, rfl, nofun⟩

end

/-! ## what a pump appends -/

theorem history_of_grows {id : SessionId} {world world' : World S C}
    (h : World.Grows id world world') :
    ∃ more, world'.history id = world.history id ++ more := by
  obtain ⟨more, heffects, -⟩ := h
  refine ⟨(appendedTo id more).map (·.event), ?_⟩
  rw [World.history, heffects, appendedTo_append, List.map_append]
  rfl

theorem getElem?_append_of_some {α : Type} {xs : List α} {i : Nat} {x : α} (h : xs[i]? = some x)
    (ys : List α) : (xs ++ ys)[i]? = some x := by
  obtain ⟨hlt, -⟩ := List.getElem?_eq_some_iff.mp h
  rw [List.getElem?_append_left hlt, h]

section

variable [SessionStore S]

theorem grows_call [AcpSession C] {restored : SessionId → Prop} {journalLimit : Nat}
    {world : World S C} (id : SessionId) (hjournaled : Journaled restored journalLimit world)
    (call : Call C) :
    Journaled restored journalLimit ((call.run : Manager S C Unit).final world) ∧
      World.Grows id world ((call.run : Manager S C Unit).final world) :=
  World.Grows.of_performs call.performs_run hjournaled

/-- The state a list of events leads to. -/
def applied (id : SessionId) (events : List AgentEvent) (world : World S C) : World S C :=
  events.foldl (fun world event => (Manager.applyAgentEvent id event).final world) world

theorem final_applyDrained (id : SessionId) (events : List AgentEvent) (running : Bool)
    (world : World S C) :
    (Manager.applyDrained (id, events, running) : Manager S C Nat).final world =
      if running then applied id events world
      else (Manager.ensureExited id : Manager S C Unit).final (applied id events world) := by
  have hevents : ∀ world : World S C, ∃ outcomes,
      (events.mapM fun event => (Manager.applyAgentEvent id event).attempt :
        Manager S C _).exec world = (.ok outcomes, applied id events world) := by
    induction events with
    | nil => exact fun world => ⟨[], rfl⟩
    | cons event events ih =>
        intro world
        obtain ⟨outcomes, hrest⟩ := ih ((Manager.applyAgentEvent id event).final world)
        refine ⟨(Manager.applyAgentEvent id event).result world :: outcomes, ?_⟩
        rw [List.mapM_cons, exec_bind, exec_attempt]
        dsimp only
        rw [exec_bind, hrest]
        rfl
  obtain ⟨outcomes, houtcomes⟩ := hevents world
  rw [Manager.applyDrained, final_bind]
  dsimp only
  rw [houtcomes]
  cases running <;> rfl

/-- **The endings are where they are said to be**: in the history after the pump,
past what was there before it. -/
theorem endings_spec {restored : SessionId → Prop} {journalLimit : Nat} {id : SessionId}
    {world : World S C} {events : List Sent} (hjournaled : Journaled restored journalLimit world)
    (hlive : id ∈ world.inner.sessions)
    (htagged : ∀ sent ∈ events, sent.prompt?.isSome = true → sent.event.endsPrompt = true) :
    World.Grows id world (applied id (events.map (·.event)) world) ∧
      Journaled restored journalLimit (applied id (events.map (·.event)) world) ∧
      ∀ ending ∈ endings id world events, (world.history id).length ≤ ending.2 ∧
        ∃ ended, ((applied id (events.map (·.event)) world).history id)[ending.2]? = some ended ∧
          ended.endsPrompt = true := by
  induction events generalizing world with
  | nil => exact ⟨.refl id world, hjournaled, nofun⟩
  | cons sent rest ih =>
      obtain ⟨hjournaled', hgrows⟩ : Journaled restored journalLimit
          ((Manager.applyAgentEvent id sent.event).final world) ∧
          World.Grows id world ((Manager.applyAgentEvent id sent.event).final world) :=
        World.Grows.of_performs ((Manager.performs_applyAgentEvent id sent.event).mono
          fun _ _ hdeed => hdeed.change) hjournaled
      obtain ⟨hgrows', hjournaled'', hrest⟩ := ih hjournaled' (hgrows.mem hlive)
        fun sent' hmem => htagged sent' (List.mem_cons_of_mem _ hmem)
      refine ⟨hgrows.trans hgrows', hjournaled'', fun ending hending => ?_⟩
      rcases List.mem_append.mp hending with hhead | hmem
      · obtain ⟨prompt, hprompt, rfl⟩ := Option.map_eq_some_iff.mp (Option.mem_toList.mp hhead)
        have hends := htagged sent List.mem_cons_self (by rw [hprompt]; rfl)
        obtain ⟨more, hhistory, ended, hended, hsays⟩ := Manager.told_end hlive hends
        obtain ⟨later, hlater⟩ := history_of_grows hgrows'
        refine ⟨Nat.le_add_right _ _, ended, ?_, hsays⟩
        show ((applied id (rest.map (·.event)) _).history id)[_]? = _
        rw [hlater]
        refine getElem?_append_of_some ?_ _
        rw [hhistory, List.getElem?_append_right (Nat.le_add_right _ _), Nat.add_sub_cancel_left]
        exact hended
      · obtain ⟨hle, hended⟩ := hrest ending hmem
        obtain ⟨more, hhistory⟩ := history_of_grows hgrows
        rw [hhistory, List.length_append] at hle
        exact ⟨Nat.le_of_add_right_le hle, hended⟩

/-- Every prompt whose end was drained has an ending. -/
theorem mem_endings {id : SessionId} {world : World S C} {events : List Sent} {sent : Sent}
    {prompt : Nat} (hmem : sent ∈ events) (hprompt : sent.prompt? = some prompt) :
    ∃ place, (prompt, place) ∈ endings id world events := by
  induction events generalizing world with
  | nil => contradiction
  | cons head rest ih =>
      rcases List.mem_cons.mp hmem with rfl | hrest
      · refine ⟨(world.history id).length + sent.event.endOffset, List.mem_append_left _ ?_⟩
        rw [hprompt]
        exact List.mem_singleton_self _
      · obtain ⟨place, hplace⟩ := ih hrest
        exact ⟨place, List.mem_append_right _ hplace⟩

/-- After its events a pump appends an exit, if at all. -/
theorem pumped {restored : SessionId → Prop} {journalLimit : Nat} {id : SessionId}
    {world : World S C} {pulse : Pulse} {events : List AgentEvent} (running : Bool)
    (hjournaled : Journaled restored journalLimit world) (hpulse : world.pulse id = some pulse)
    (happlied : Journaled restored journalLimit (applied id events world)) :
    let world' := if events.isEmpty && running then world
      else (Manager.applyDrained (id, events, running)).final world
    Journaled restored journalLimit world' ∧ World.Grows id (applied id events world) world' ∧
      world'.pulse id = some (Watch.reactAll events running pulse) := by
  intro world'
  obtain ⟨hjournaled', hpulse'⟩ := Watch.applied hjournaled hpulse events running
  refine ⟨hjournaled', ?_, hpulse'⟩
  show World.Grows id _ (if _ then _ else _)
  split
  · next hnothing =>
      rw [List.isEmpty_iff.mp (Bool.and_eq_true_iff.mp hnothing).1]
      exact .refl id world
  · rw [final_applyDrained]
    cases running with
    | true => exact .refl id _
    | false =>
        exact (World.Grows.of_performs ((Manager.performs_ensureExited id).mono
          fun _ _ hdeed => hdeed.change) happlied).2

end

/-! ## the invariant -/

/-- The prompt's end, or the agent's exit, was appended after its user message. -/
def Settled (id : SessionId) (state : State S C) (prompt place : Nat) : Prop :=
  ∃ q ended, place < q ∧ (state.world.history id)[q]? = some ended ∧ ended.endsPrompt = true ∧
    (ended.isExit = true ∨ (prompt, q) ∈ state.ends)

/-- Every accepted prompt is settled. -/
def State.AllSettled (id : SessionId) (state : State S C) : Prop :=
  ∀ prompt place, state.prompts[prompt]? = some place → Settled id state prompt place

/-- The prompt is queued, in progress, or has ended and is not journaled yet; or
the worker is gone. -/
def State.Waits (state : State S C) (prompt : Nat) : Prop :=
  prompt ∈ state.commands ∨ state.worker = .calling prompt ∨
    (∃ sent ∈ state.events ++ state.pump.inFlight, sent.prompt? = some prompt) ∨
    state.worker = .exiting ∨ state.worker = .stopped

/-- What the manager believes of the session fits its prompts. -/
structure Believed (id : SessionId) (state : State S C) (pulse : Pulse) : Prop where
  consistent : Consistent pulse
  exited : pulse.1.exitReported = true → state.AllSettled id
  idle : pulse.1.status = .idle → state.AllSettled id

structure Sound (restored : SessionId → Prop) (journalLimit : Nat) (id : SessionId)
    (state : State S C) : Prop where
  journaled : Journaled restored journalLimit state.world
  believed : ∃ pulse, state.world.pulse id = some pulse ∧ Believed id state pulse
  asked : ∀ place ∈ state.prompts, ∃ message, (state.world.history id)[place]? = some message ∧
    message.isUserMessage = true
  tagged : ∀ sent ∈ state.events ++ state.pump.inFlight, sent.prompt?.isSome = true →
    sent.event.endsPrompt = true
  accounted : ∀ prompt place, state.prompts[prompt]? = some place →
    Settled id state prompt place ∨ state.Waits prompt

theorem Settled.grow {id : SessionId} {state state' : State S C} {prompt place : Nat}
    (h : Settled id state prompt place)
    (hhistory : ∃ more, state'.world.history id = state.world.history id ++ more)
    (hends : ∀ ending ∈ state.ends, ending ∈ state'.ends) : Settled id state' prompt place := by
  obtain ⟨q, ended, hlt, hget, hsays, hwhich⟩ := h
  obtain ⟨more, hmore⟩ := hhistory
  refine ⟨q, ended, hlt, ?_, hsays, hwhich.imp_right (hends _)⟩
  rw [hmore]
  exact getElem?_append_of_some hget _

theorem userMessage_grow {id : SessionId} {world world' : World S C} {place : Nat}
    (h : ∃ message, (world.history id)[place]? = some message ∧ message.isUserMessage = true)
    (hhistory : ∃ more, world'.history id = world.history id ++ more) :
    ∃ message, (world'.history id)[place]? = some message ∧ message.isUserMessage = true := by
  obtain ⟨message, hget, huser⟩ := h
  obtain ⟨more, hmore⟩ := hhistory
  refine ⟨message, ?_, huser⟩
  rw [hmore]
  exact getElem?_append_of_some hget _

/-- What waits while nothing is left behind has been drained. -/
theorem State.Clear.drained {state : State S C} (h : state.Clear) {prompt : Nat}
    (hwaits : state.Waits prompt) :
    ∃ sent ∈ state.pump.inFlight, sent.prompt? = some prompt := by
  obtain ⟨hcommands, hworker, hchannel⟩ := h
  rw [State.Waits, hcommands, hworker] at hwaits
  rcases hwaits with hqueued | hcall | ⟨sent, hmem, hprompt⟩ | hgone | hgone
  · contradiction
  · contradiction
  · rcases List.mem_append.mp hmem with hmem | hmem
    · rw [hchannel sent hmem] at hprompt
      contradiction
    · exact ⟨sent, hmem, hprompt⟩
  · contradiction
  · contradiction

/-- The state after a pump. -/
def State.pumped (state : State S C) (world : World S C) (ends : List (Nat × Nat)) : State S C :=
  { state with world, pump := .idle, ends := state.ends ++ ends }

/-- What waits after a pump waited before it and was not drained. -/
theorem State.Waits.pumped {state : State S C} {prompt : Nat} (h : state.Waits prompt)
    (world : World S C) (ends : List (Nat × Nat)) :
    (∃ sent ∈ state.pump.inFlight, sent.prompt? = some prompt) ∨
      (state.pumped world ends).Waits prompt := by
  rcases h with hqueued | hcall | ⟨sent, hmem, hprompt⟩ | hgone
  · exact .inr (.inl hqueued)
  · exact .inr (.inr (.inl hcall))
  · rcases List.mem_append.mp hmem with hmem | hmem
    · exact .inr (.inr (.inr (.inl ⟨sent, List.mem_append_left _ hmem, hprompt⟩)))
    · exact .inl ⟨sent, hmem, hprompt⟩
  · exact .inr (.inr (.inr (.inr hgone)))

namespace Sound

variable {restored : SessionId → Prop} {journalLimit : Nat} {id : SessionId}
  {state state' : State S C}

/-- The worker and the pump's readings do not touch the journal. -/
theorem move (h : Sound restored journalLimit id state) (hworld : state'.world = state.world)
    (hprompts : state'.prompts = state.prompts) (hends : state'.ends = state.ends)
    (htagged : ∀ sent ∈ state'.events ++ state'.pump.inFlight, sent.prompt?.isSome = true →
      sent.event.endsPrompt = true)
    (hwaits : ∀ prompt, state.Waits prompt → state'.Waits prompt) :
    Sound restored journalLimit id state' := by
  have hsettled : ∀ prompt place, Settled id state prompt place →
      Settled id state' prompt place := by
    intro prompt place hp
    refine hp.grow ⟨[], ?_⟩ ?_
    · rw [hworld, List.append_nil]
    · rw [hends]
      exact fun _ hmem => hmem
  have hall : state.AllSettled id → state'.AllSettled id := by
    intro hall prompt place hplace
    rw [hprompts] at hplace
    exact hsettled prompt place (hall prompt place hplace)
  obtain ⟨pulse, hpulse, hbelieved⟩ := h.believed
  refine ⟨hworld ▸ h.journaled, ⟨pulse, hworld ▸ hpulse, hbelieved.consistent,
    fun hexit => hall (hbelieved.exited hexit), fun hidle => hall (hbelieved.idle hidle)⟩,
    ?_, htagged, ?_⟩
  · rw [hprompts, hworld]
    exact h.asked
  · intro prompt place hplace
    rw [hprompts] at hplace
    exact (h.accounted prompt place hplace).imp (hsettled prompt place) (hwaits prompt)

/-- The places of the user messages are in the history. -/
theorem place_lt (h : Sound restored journalLimit id state) {prompt place : Nat}
    (hplace : state.prompts[prompt]? = some place) : place < (state.world.history id).length := by
  obtain ⟨message, hget, -⟩ := h.asked place (List.mem_of_getElem? hplace)
  exact (List.getElem?_eq_some_iff.mp hget).1

/-- The manager does something that reports no exit and makes no session idle. -/
theorem regrow (h : Sound restored journalLimit id state) {world : World S C}
    (hjournaled : Journaled restored journalLimit world) (hgrows : World.Grows id state.world world)
    (hpulse : ∀ pulse, state.world.pulse id = some pulse → Consistent pulse →
      ∃ pulse', world.pulse id = some pulse' ∧ Consistent pulse' ∧
        pulse'.1.exitReported = pulse.1.exitReported ∧
        (pulse'.1.status = .idle → pulse.1.status = .idle)) :
    Sound restored journalLimit id { state with world } := by
  have hhistory := history_of_grows hgrows
  have hall : state.AllSettled id → State.AllSettled id { state with world } :=
    fun hall prompt place hplace =>
      (hall prompt place hplace).grow hhistory fun _ hmem => hmem
  obtain ⟨pulse, hbefore, hbelieved⟩ := h.believed
  obtain ⟨pulse', hafter, hconsistent, hreported, hidle⟩ :=
    hpulse pulse hbefore hbelieved.consistent
  refine ⟨hjournaled, ⟨pulse', hafter, hconsistent, fun hexit => ?_, fun hnow => ?_⟩, ?_,
    h.tagged, ?_⟩
  · exact hall (hbelieved.exited (hreported ▸ hexit))
  · exact hall (hbelieved.idle (hidle hnow))
  · exact fun place hplace => userMessage_grow (h.asked place hplace) hhistory
  · intro prompt place hplace
    exact (h.accounted prompt place hplace).imp_left
      fun hsettled => hsettled.grow hhistory fun _ hmem => hmem

/-- An exit that is reported from now on comes after every user message. -/
theorem settled_of_exit (h : Sound restored journalLimit id state) {world : World S C}
    {pulse pulse' : Pulse} (hgrows : World.Grows id state.world world)
    (hpulse : state.world.pulse id = some pulse) (hpulse' : world.pulse id = some pulse')
    (hconsistent : Consistent pulse) (hconsistent' : Consistent pulse')
    (hbefore : pulse.1.exitReported = false) (hafter : pulse'.1.exitReported = true)
    {prompt place : Nat} (hplace : state.prompts[prompt]? = some place) :
    ∃ q ended, place < q ∧ (world.history id)[q]? = some ended ∧ ended.isExit = true := by
  have hlt := h.place_lt hplace
  obtain ⟨more, heffects, -⟩ := hgrows
  have hnone : Watch.exits id state.world = 0 := by
    rw [Watch.exits_eq hpulse]
    have hcount : ¬ 0 < pulse.2.count .exit := fun hpos => by
      rw [hconsistent.reported.mpr hpos] at hbefore
      contradiction
    omega
  have hsome : 0 < Watch.exits id world := by
    rw [Watch.exits_eq hpulse']
    exact hconsistent'.reported.mp hafter
  rw [Watch.exits, heffects, appendedTo_append, List.countP_append] at hsome
  rw [Watch.exits] at hnone
  rw [hnone, Nat.zero_add] at hsome
  obtain ⟨event, hmem, hexit⟩ := List.countP_pos_iff.mp hsome
  obtain ⟨i, hi⟩ := List.getElem?_of_mem hmem
  refine ⟨(state.world.history id).length + i, event.event, by omega, ?_, hexit⟩
  rw [World.history, heffects, appendedTo_append, List.map_append]
  show ((state.world.history id) ++ _)[_]? = _
  rw [List.getElem?_append_right (Nat.le_add_right _ _), Nat.add_sub_cancel_left,
    List.getElem?_map, hi]
  rfl

/-- The prompt call returns with the event that ends it. -/
theorem returns (h : Sound restored journalLimit id state) {event : AgentEvent} {worker : Worker}
    (hends : event.endsPrompt = true) (hstep : state.returns event worker = some state') :
    Sound restored journalLimit id state' := by
  rw [State.returns] at hstep
  split at hstep
  · next prompt hworker =>
      obtain rfl := Option.some.inj hstep
      refine h.move rfl rfl rfl (fun sent hmem hprompt => ?_) fun waiting hwaits => ?_
      · rcases List.mem_append.mp hmem with hmem | hmem
        · rcases List.mem_append.mp hmem with hold | hnew
          · exact h.tagged sent (List.mem_append_left _ hold) hprompt
          · rw [List.mem_singleton.mp hnew]
            exact hends
        · exact h.tagged sent (List.mem_append_right _ hmem) hprompt
      · rw [State.Waits, hworker] at hwaits
        rcases hwaits with hqueued | hcall | ⟨sent, hmem, hprompt⟩ | hgone | hgone
        · exact .inl hqueued
        · refine .inr (.inr (.inl ⟨⟨event, some prompt⟩, ?_, ?_⟩))
          · exact List.mem_append_left _ (List.mem_append_right _ (List.mem_singleton_self _))
          · exact congrArg some (Worker.calling.inj hcall)
        · refine .inr (.inr (.inl ⟨sent, ?_, hprompt⟩))
          rcases List.mem_append.mp hmem with hmem | hmem
          · exact List.mem_append_left _ (List.mem_append_left _ hmem)
          · exact List.mem_append_right _ hmem
        · contradiction
        · contradiction
  · contradiction

section

variable [SessionStore S] [AcpSession C]

/-- **A prompt that is accepted** is queued, and the session is not idle. -/
theorem send (h : Sound restored journalLimit id state) {text : String}
    (hstep : state.send id text = some state') : Sound restored journalLimit id state' := by
  obtain ⟨pulse, hpulse, hbelieved⟩ := h.believed
  obtain ⟨session, hlookup, hvitals⟩ := Option.map_eq_some_iff.mp hpulse
  obtain ⟨hjournaled, hgrows⟩ := grows_call id h.journaled (.sendPrompt id text : Call C)
  have hexec : (Manager.sendPrompt id text : Manager S C Unit).exec state.world =
      ((Manager.sendPrompt id text : Manager S C Unit).result state.world,
        (Manager.sendPrompt id text : Manager S C Unit).final state.world) := rfl
  rw [State.send, hexec] at hstep
  rcases Manager.sendPrompt_spec hlookup text with
    ⟨hok, hrunning, hprompted, events, ⟨message, hmessage, huser⟩, hhistory⟩ |
    ⟨⟨error, herror⟩, hsame⟩
  · rw [hok] at hstep
    dsimp only at hstep
    split at hstep
    · contradiction
    · obtain rfl := Option.some.inj hstep
      rw [hpulse, Option.map_some] at hprompted
      have hexit : pulse.1.exitReported = false := by
        have hconsistent := hbelieved.consistent.running
        rw [← hvitals] at hconsistent ⊢
        rw [show session.vitals.running = true from hrunning] at hconsistent
        simpa using hconsistent.symm
      refine ⟨hjournaled, ⟨_, hprompted, hbelieved.consistent.step _, fun hreported => ?_, nofun⟩,
        ?_, h.tagged, ?_⟩
      · rw [show (Beat.prompted.step pulse).1.exitReported = pulse.1.exitReported from rfl,
          hexit] at hreported
        contradiction
      · intro place hplace
        show ∃ message, (World.history _ id)[place]? = some message ∧ _
        rw [hhistory]
        rcases List.mem_append.mp hplace with hold | hnew
        · obtain ⟨message', hget, huser'⟩ := h.asked place hold
          exact ⟨message', getElem?_append_of_some hget _, huser'⟩
        · rw [List.mem_singleton] at hnew
          refine ⟨message, ?_, huser⟩
          rw [hnew, List.getElem?_append_right (Nat.le_refl _), Nat.sub_self]
          exact hmessage
      · intro prompt place hplace
        by_cases hlt : prompt < state.prompts.length
        · have hplace : (state.prompts ++ [(state.world.history id).length])[prompt]? =
              some place := hplace
          rw [List.getElem?_append_left hlt] at hplace
          rcases h.accounted prompt place hplace with hsettled | hwaits
          · exact .inl (hsettled.grow ⟨events, hhistory⟩ fun _ hmem => hmem)
          · exact .inr (hwaits.imp_left fun hmem => List.mem_append_left _ hmem)
        · have hle := (List.getElem?_eq_some_iff.mp hplace).1
          rw [List.length_append, List.length_singleton] at hle
          have heq : prompt = state.prompts.length := by omega
          rw [heq]
          exact .inr (.inl (List.mem_append_right _ (List.mem_singleton_self _)))
  · rw [herror] at hstep
    obtain rfl := Option.some.inj hstep
    refine h.regrow hjournaled hgrows fun pulse' hpulse' hconsistent => ?_
    exact ⟨pulse', hsame.trans hpulse', hconsistent, rfl, fun hidle => hidle⟩

/-- **A pump** settles what it drained. -/
theorem apply (h : Sound restored journalLimit id state) (hok : Keeps id state (.apply : Step C))
    (hstep : next id state .apply = some state') : Sound restored journalLimit id state' := by
  rw [next] at hstep
  split at hstep
  case h_2 => contradiction
  next events running hpump =>
    obtain rfl := Option.some.inj hstep
    obtain ⟨pulse, hpulse, hbelieved⟩ := h.believed
    have hlive : id ∈ state.world.inner.sessions := by
      obtain ⟨session, hlookup, -⟩ := Option.map_eq_some_iff.mp hpulse
      exact mem_of_lookup hlookup
    obtain ⟨hgrows, happlied, hendings⟩ :=
      endings_spec h.journaled hlive fun sent (hmem : sent ∈ events) =>
        h.tagged sent (List.mem_append_right _ (by rw [hpump]; exact hmem))
    have hempty : events.isEmpty = (events.map (·.event)).isEmpty := List.isEmpty_map.symm
    rw [hempty]
    obtain ⟨hjournaled', hgrows', hpulse'⟩ := pumped running h.journaled hpulse happlied
    generalize (if (events.map (·.event)).isEmpty && running then state.world
      else (Manager.applyDrained (id, events.map (·.event), running)).final state.world) = world'
      at hjournaled' hgrows' hpulse'
    have hhistory := history_of_grows (hgrows.trans hgrows')
    have hconsistent' := hbelieved.consistent.reactAll (events.map (·.event)) running
    show Sound restored journalLimit id (state.pumped world' (endings id state.world events))
    have hkeep : ∀ prompt place, Settled id state prompt place →
        Settled id (state.pumped world' (endings id state.world events)) prompt place :=
      fun prompt place hsettled =>
        hsettled.grow hhistory fun _ hmem => List.mem_append_left _ hmem
    have hdrained : ∀ prompt place, state.prompts[prompt]? = some place →
        (∃ sent ∈ state.pump.inFlight, sent.prompt? = some prompt) →
        Settled id (state.pumped world' (endings id state.world events)) prompt place := by
      rintro prompt place hplace ⟨sent, hmem, hprompt⟩
      rw [hpump] at hmem
      obtain ⟨q, hq⟩ : ∃ q, (prompt, q) ∈ endings id state.world events :=
        mem_endings hmem hprompt
      obtain ⟨hle, ended, hended, hsays⟩ := hendings _ hq
      obtain ⟨later, hlater⟩ := history_of_grows hgrows'
      refine ⟨q, ended, Nat.lt_of_lt_of_le (h.place_lt hplace) hle, ?_, hsays,
        .inr (List.mem_append_right _ hq)⟩
      show (world'.history id)[q]? = _
      rw [hlater]
      exact getElem?_append_of_some hended _
    have hexited : (Watch.reactAll (events.map (·.event)) running pulse).1.exitReported = true →
        (state.pumped world' (endings id state.world events)).AllSettled id := by
      intro hafter prompt place hplace
      cases hbefore : pulse.1.exitReported with
      | true => exact hkeep prompt place (hbelieved.exited hbefore prompt place hplace)
      | false =>
          obtain ⟨q, ended, hlt, hget, hexit⟩ := h.settled_of_exit (hgrows.trans hgrows') hpulse
            hpulse' hbelieved.consistent hconsistent' hbefore hafter hplace
          exact ⟨q, ended, hlt, hget, SessionEvent.endsPrompt_of_isExit hexit, .inl hexit⟩
    refine ⟨hjournaled', ⟨_, hpulse', hconsistent', hexited, fun hidle => ?_⟩, ?_, ?_, ?_⟩
    · by_cases hreported :
          (Watch.reactAll (events.map (·.event)) running pulse).1.exitReported = true
      · exact hexited hreported
      · obtain ⟨rfl, hlast⟩ := idle_reactAll hidle (Bool.eq_false_of_not_eq_true hreported)
        intro prompt place hplace
        rcases hlast with hlast | hbefore
        · have hends : endsIdle events = true := by
            rw [List.filterMap_map] at hlast
            exact decide_eq_true hlast
          rw [Keeps, hpump] at hok
          rcases hok hends with hexit | hclear
          · refine hkeep prompt place (hbelieved.exited ?_ prompt place hplace)
            obtain ⟨session, hlookup, hvitals⟩ := Option.map_eq_some_iff.mp hpulse
            rw [hlookup] at hexit
            rw [← hvitals]
            exact hexit
          · rcases h.accounted prompt place hplace with hsettled | hwaits
            · exact hkeep prompt place hsettled
            · exact hdrained prompt place hplace (hclear.drained hwaits)
        · exact hkeep prompt place (hbelieved.idle hbefore prompt place hplace)
    · exact fun place hplace => userMessage_grow (h.asked place hplace) hhistory
    · intro sent hmem
      rw [State.pumped, Pump.inFlight, List.append_nil] at hmem
      exact h.tagged sent (List.mem_append_left _ hmem)
    · intro prompt place hplace
      rcases h.accounted prompt place hplace with hsettled | hwaits
      · exact .inl (hkeep prompt place hsettled)
      · exact (hwaits.pumped world' _).imp_left (hdrained prompt place hplace)

/-- **Every step keeps the invariant**, if no pump leaves a prompt behind. -/
theorem step {step : Step C} (h : Sound restored journalLimit id state) (hok : Keeps id state step)
    (hstep : next id state step = some state') : Sound restored journalLimit id state' := by
  cases step with
  | send text =>
      rw [next] at hstep
      split at hstep
      · exact h.send hstep
      · contradiction
  | take =>
      rw [next] at hstep
      split at hstep
      · next prompt rest hworker hcommands =>
          obtain rfl := Option.some.inj hstep
          refine h.move rfl rfl rfl h.tagged fun waiting hwaits => ?_
          rw [State.Waits, hworker, hcommands] at hwaits
          rcases hwaits with hqueued | hcall | hsent | hgone | hgone
          · rcases List.mem_cons.mp hqueued with rfl | hrest
            · exact .inr (.inl rfl)
            · exact .inl hrest
          · contradiction
          · exact .inr (.inr (.inl hsent))
          · contradiction
          · contradiction
      · contradiction
  | emit event =>
      rw [next] at hstep
      split at hstep
      · obtain rfl := Option.some.inj hstep
        refine h.move rfl rfl rfl (fun sent hmem hprompt => ?_) fun waiting hwaits => ?_
        · rcases List.mem_append.mp hmem with hmem | hmem
          · rcases List.mem_append.mp hmem with hold | hnew
            · exact h.tagged sent (List.mem_append_left _ hold) hprompt
            · rw [List.mem_singleton.mp hnew] at hprompt
              contradiction
          · exact h.tagged sent (List.mem_append_right _ hmem) hprompt
        · refine hwaits.imp_right fun hwaits => hwaits.imp_right fun hwaits =>
            hwaits.imp_left ?_
          rintro ⟨sent, hmem, hprompt⟩
          refine ⟨sent, ?_, hprompt⟩
          rcases List.mem_append.mp hmem with hmem | hmem
          · exact List.mem_append_left _ (List.mem_append_left _ hmem)
          · exact List.mem_append_right _ hmem
      · contradiction
  | answer stopReason => exact h.returns rfl hstep
  | fail message => exact h.returns rfl hstep
  | close => exact h.returns rfl hstep
  | clear =>
      rw [next] at hstep
      split at hstep
      · obtain rfl := Option.some.inj hstep
        exact h.move rfl rfl rfl h.tagged fun _ _ => .inr (.inr (.inr (.inr rfl)))
      · contradiction
  | drain =>
      rw [next] at hstep
      split at hstep
      · next hpump =>
          obtain rfl := Option.some.inj hstep
          have hsame : ∀ sent, sent ∈ [] ++ state.events →
              sent ∈ state.events ++ state.pump.inFlight := fun sent hmem =>
            List.mem_append_left _ hmem
          refine h.move rfl rfl rfl (fun sent hmem => h.tagged sent (hsame sent hmem)) ?_
          intro waiting hwaits
          rw [State.Waits, hpump, Pump.inFlight, List.append_nil] at hwaits
          exact hwaits
      · contradiction
  | read =>
      rw [next] at hstep
      split at hstep
      · next events hpump =>
          obtain rfl := Option.some.inj hstep
          have htagged := h.tagged
          rw [hpump] at htagged
          refine h.move rfl rfl rfl htagged fun waiting hwaits => ?_
          rw [State.Waits, hpump] at hwaits
          exact hwaits
      · contradiction
  | apply => exact h.apply hok hstep
  | call call =>
      rw [next] at hstep
      split at hstep
      · next henabled =>
          obtain rfl := Option.some.inj hstep
          obtain ⟨hjournaled, hgrows⟩ := grows_call id h.journaled call
          exact h.regrow hjournaled hgrows fun pulse hpulse hconsistent =>
            pulse_of_call h.journaled henabled.2 hpulse hconsistent
      · contradiction

end

end Sound

section

variable [SessionStore S] [LawfulSessionStore S] [AcpSession C] {env : Env} {ticks : Nat}
  {adapters : AdapterRegistry C} {store : S} {journalLimit : Nat}

theorem sound_of_starts
    (hfresh : ∀ n ≥ (SessionManager.new env ticks adapters store journalLimit : World S C).ticks,
      env.uuid n ∉ (SessionManager.new env ticks adapters store journalLimit :
        World S C).inner.sessions)
    {id : SessionId} {state : State S C}
    (hstarts : Starts (SessionManager.new env ticks adapters store journalLimit) id state) :
    Sound (· ∈ (SessionManager.new env ticks adapters store journalLimit :
      World S C).inner.sessions) journalLimit id state := by
  obtain ⟨hworld, ⟨session, hlookup, hrunning⟩, -, -, hevents, -, hpump, hprompts, -⟩ := hstarts
  have hpulse : state.world.pulse id =
      some (session.vitals, signals (appendedTo id state.world.effects)) := by
    rw [World.pulse, hlookup, Option.map_some]
  have hguarded : (calls (SessionManager.new env ticks adapters store journalLimit)).ReachUnder
      (Guarded fun _ _ => True) state.world := by
    refine hworld.mono fun _ move _ => ?_
    cases move with
    | call call => exact fun _ _ _ _ => trivial
    | agents => trivial
  have hconsistent : Consistent (session.vitals, signals (appendedTo id state.world.effects)) :=
    pulse_of_calls ⟨by simp [Watch.Reported, Vitals.newborn], rfl⟩
      ⟨by simp [Watch.Reported, Vitals.newborn], rfl⟩ (fun _ beat h _ _ => h.step beat) hfresh
      hguarded hpulse
  have hnone : state.AllSettled id := by
    intro prompt place hplace
    rw [hprompts] at hplace
    contradiction
  refine ⟨journaled_of_calls hfresh hworld,
    ⟨_, hpulse, hconsistent, fun _ => hnone, fun _ => hnone⟩, ?_, ?_, ?_⟩
  · intro place hmem
    rw [hprompts] at hmem
    contradiction
  · rw [hpump, Pump.inFlight, List.append_nil]
    intro sent hmem hprompt
    rw [(hevents sent hmem).2] at hprompt
    contradiction
  · intro prompt place hplace
    exact .inl (hnone prompt place hplace)

/-- **Idle means nothing is outstanding**, in every run in which no pump ends with
the end of a turn while another prompt is queued, in progress or ended after the
drain: the user message of every accepted prompt is followed by the event that
ended the prompt, or by the agent's exit. -/
theorem idle_settled
    (hfresh : ∀ n ≥ (SessionManager.new env ticks adapters store journalLimit : World S C).ticks,
      env.uuid n ∉ (SessionManager.new env ticks adapters store journalLimit :
        World S C).inner.sessions)
    {id : SessionId} {state : State S C}
    (hstate : (system (SessionManager.new env ticks adapters store journalLimit) id).ReachUnder
      (Keeps id) state)
    {session : Session C} (hlookup : state.world.inner.sessions.lookup id = some session)
    (hidle : session.summary.status = .idle) {prompt place : Nat}
    (hplace : state.prompts[prompt]? = some place) :
    (∃ message, (state.world.history id)[place]? = some message ∧
        message.isUserMessage = true) ∧
      ∃ q ended, place < q ∧ (state.world.history id)[q]? = some ended ∧
        ended.endsPrompt = true ∧ (ended.isExit = true ∨ (prompt, q) ∈ state.ends) := by
  have hsound : Sound (· ∈ (SessionManager.new env ticks adapters store journalLimit :
      World S C).inner.sessions) journalLimit id state := by
    refine System.invariant_of_step (fun start hstarts => ?_)
      (fun _ _ _ h hok hstep => h.step hok hstep) hstate
    exact sound_of_starts hfresh hstarts
  obtain ⟨pulse, hpulse, hbelieved⟩ := hsound.believed
  rw [World.pulse, hlookup, Option.map_some, Option.some.injEq] at hpulse
  refine ⟨hsound.asked place (List.mem_of_getElem? hplace), ?_⟩
  exact hbelieved.idle (hpulse ▸ hidle) prompt place hplace

end

/-! ## sample runs -/

/-- A session that was just opened. -/
def sampleStart : State SqliteStore ScriptedAgent where
  world := sampleEnroll.run.final sampleManager
  commands := []
  worker := .idle
  events := []
  running := true
  pump := .idle
  prompts := []
  ends := []

theorem starts_sampleStart : Starts sampleManager "" sampleStart := by
  have hworld : (calls sampleManager).Reachable (sampleEnroll.run.final sampleManager) :=
    .step (a := .call sampleEnroll) (.init rfl) trivial rfl
  have hsession : (sampleStart.world.inner.sessions.lookup "").map (·.running) = some true := by
    decide +kernel
  exact ⟨hworld, Option.map_eq_some_iff.mp hsession, rfl, rfl, nofun, rfl, rfl, rfl, rfl⟩

/-- Two prompts, both answered before the pump. -/
def sampleAnswered : List (Step ScriptedAgent) :=
  [.send "a", .send "b", .take, .answer .endTurn, .take, .answer .endTurn, .drain, .read, .apply]

theorem idle_settled_answered :
    ∃ state session, System.runs (next "") sampleStart sampleAnswered = some state ∧
      state.world.inner.sessions.lookup "" = some session ∧ session.summary.status = .idle ∧
      state.prompts = [1, 3] ∧ state.ends = [(0, 6), (1, 8)] ∧
      (∃ message, (state.world.history "")[3]? = some message ∧ message.isUserMessage = true) ∧
      ∃ q ended, 3 < q ∧ (state.world.history "")[q]? = some ended ∧ ended.endsPrompt = true ∧
        (ended.isExit = true ∨ (1, q) ∈ state.ends) := by
  have hstate : (System.runs (next "") sampleStart sampleAnswered).map (fun state =>
      ((state.world.inner.sessions.lookup "").map (·.summary.status), state.prompts,
        state.ends)) = some (some .idle, [1, 3], [(0, 6), (1, 8)]) := by decide +kernel
  have hkeeps : System.runsUnder (next "") (Keeps "") sampleStart sampleAnswered := by
    decide +kernel
  obtain ⟨state, hruns, hsays⟩ := Option.map_eq_some_iff.mp hstate
  obtain ⟨hstatus, hrest⟩ := Prod.mk.inj hsays
  obtain ⟨hprompts, hends⟩ := Prod.mk.inj hrest
  obtain ⟨session, hlookup, hidle⟩ := Option.map_eq_some_iff.mp hstatus
  have hplace : state.prompts[1]? = some 3 := by rw [hprompts]; rfl
  exact ⟨state, session, hruns, hlookup, hidle, hprompts, hends,
    idle_settled (fun _ _ => AList.notMem_empty _)
      (System.reachUnder_of_runs _ starts_sampleStart hkeeps hruns) hlookup hidle hplace⟩

/-- Two prompts, the second still queued at the pump. -/
def sampleQueued : List (Step ScriptedAgent) :=
  [.send "a", .send "b", .take, .answer .endTurn, .drain, .read, .apply]

/-- **A session can be idle with a prompt outstanding**: the end of the first turn
is applied while the second prompt waits in the worker's queue. -/
theorem idle_unsettled :
    ¬ ∀ state : State SqliteStore ScriptedAgent, (system sampleManager "").Reachable state →
      ∀ session, state.world.inner.sessions.lookup "" = some session →
        session.summary.status = .idle → ∀ prompt place, state.prompts[prompt]? = some place →
          ∃ q ended, place < q ∧ (state.world.history "")[q]? = some ended ∧
            ended.endsPrompt = true ∧ (ended.isExit = true ∨ (prompt, q) ∈ state.ends) := by
  intro hclaim
  have hstate : (System.runs (next "") sampleStart sampleQueued).map (fun state =>
      ((state.world.inner.sessions.lookup "").map (·.summary.status), state.prompts, state.ends,
        (state.world.history "").any (·.isExit))) =
        some (some .idle, [1, 3], [(0, 6)], false) := by decide +kernel
  obtain ⟨state, hruns, hsays⟩ := Option.map_eq_some_iff.mp hstate
  obtain ⟨hstatus, hrest⟩ := Prod.mk.inj hsays
  obtain ⟨hprompts, hrest⟩ := Prod.mk.inj hrest
  obtain ⟨hends, hexits⟩ := Prod.mk.inj hrest
  obtain ⟨session, hlookup, hidle⟩ := Option.map_eq_some_iff.mp hstatus
  obtain ⟨q, ended, -, hget, -, hexit | hmem⟩ := hclaim state
    (System.reachable_of_runs _ starts_sampleStart hruns) session hlookup hidle 1 3
    (by rw [hprompts]; rfl)
  · have hany : (state.world.history "").any (·.isExit) = true :=
      List.any_eq_true.mpr ⟨ended, List.mem_of_getElem? hget, hexit⟩
    rw [hexits] at hany
    exact Bool.false_ne_true hany
  · rw [hends] at hmem
    simp at hmem

end Prompts

end Slight
