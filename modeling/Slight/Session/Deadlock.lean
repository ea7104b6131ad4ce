import Slight.Session.Worker

/-!
# Slight.Session.Deadlock

`set_mode` and `set_config_option` wait for the worker's reply while they hold
the manager lock, and only `respond_permission` and `cancel`, which need that
lock, release a worker blocked in `gate.wait`.  A permission request that is
unanswered when such an operation starts, or that arrives while it waits, blocks
both sides for good.

`NoUnanswered` excludes exactly these two steps.  `deadlock_free` shows that
nothing else leads to a deadlock, `deadlock_of_unanswered` that each of the two
does.
-/

namespace Slight

namespace Worker

/-! ## the states in question -/

namespace State

/-- The worker is handling a permission request that nothing has answered. -/
def Unanswered (s : State) : Prop :=
  PermissionGate.poll s.gate = none ∧
    (s.worker.stage? = some .received ∨ s.worker.stage? = some .begun ∨
      s.worker.stage? = some .waiting)

instance (s : State) : Decidable s.Unanswered := inferInstanceAs (Decidable (_ ∧ _))

/-- An operation holds the lock and waits for the worker, which is blocked in
`gate.wait`. -/
def Deadlocked (s : State) : Prop :=
  s.manager.waits ∧ s.worker.stage? = some .waiting ∧ s.gate.pending = true ∧
    PermissionGate.poll s.gate = none

/-- An operation that holds the lock and waits does not wait for an unanswered
request. -/
def Safe (s : State) : Prop := s.manager.waits → ¬ s.Unanswered

theorem Deadlocked.unanswered {s : State} (h : s.Deadlocked) : s.Unanswered :=
  ⟨h.2.2.2, .inr (.inr h.2.1)⟩

end State

/-- `set_mode` and `set_config_option`. -/
def Act.waits : Act → Bool
  | .setMode _ | .setConfigOption .. => true
  | _ => false

/-- The agent asks for a permission. -/
def Act.asks : Act → Bool
  | .readPermission _ => true
  | _ => false

/-- `set_mode` and `set_config_option` do not start while a permission request is
unanswered, and no permission request arrives while they wait. -/
def NoUnanswered (s : State) (a : Act) : Prop :=
  (a.waits → ¬ s.Unanswered) ∧ (a.asks → ¬ s.manager.waits)

instance (s : State) (a : Act) : Decidable (NoUnanswered s a) :=
  inferInstanceAs (Decidable (_ ∧ _))

namespace State

/-! ## one step -/

/-- A worker outside the handler has nothing unanswered. -/
theorem not_unanswered {s : State} (h : s.worker.stage? = none) : ¬ s.Unanswered := by
  rintro ⟨-, hw | hw | hw⟩ <;> rw [h] at hw <;> contradiction

/-- A worker that left `gate.wait` has nothing unanswered. -/
theorem not_unanswered_of_decided {s : State} {stage : Handling}
    (hw : s.worker.stage? = some stage)
    (hstage : stage ≠ .received ∧ stage ≠ .begun ∧ stage ≠ .waiting) : ¬ s.Unanswered := by
  rintro ⟨-, hu | hu | hu⟩ <;> rw [hw, Option.some.injEq] at hu <;> simp [hu] at hstage

/-- Steps that leave the lock holder, the gate's decision and the handler where
they are. -/
theorem Safe.frame {s t : State} (h : s.Safe) (hworker : t.worker = s.worker)
    (hgate : t.gate = s.gate) (hmanager : t.manager.waits → s.manager.waits) : t.Safe := by
  intro hm hu
  refine h (hmanager hm) ?_
  rwa [Unanswered, hworker, hgate] at hu

/-- `gate.begin` decides nothing. -/
theorem poll_begin (gate : PermissionGateState) :
    PermissionGate.poll (PermissionGate.begin gate) = none ↔ PermissionGate.poll gate = none := by
  rw [PermissionGate.poll_eq_none_iff, PermissionGate.poll_eq_none_iff]
  rfl

theorem Safe.begin {s t : State} (h : s.Safe) (ht : s.begin = some t) : t.Safe := by
  unfold State.begin at ht
  split at ht
  · next command request hw =>
      cases ht
      intro hm hu
      exact h hm ⟨(poll_begin s.gate).mp hu.1, .inl (by rw [hw]; rfl)⟩
  · contradiction

theorem Safe.queueEvent {s t : State} (h : s.Safe) (ht : s.queueEvent = some t) : t.Safe := by
  unfold State.queueEvent at ht
  split at ht
  · next command request hw =>
      cases ht
      intro hm hu
      exact h hm ⟨hu.1, .inr (.inl (by rw [hw]; rfl))⟩
  · contradiction

/-- A step after which the worker has nothing unanswered is safe. -/
theorem Safe.of_not_unanswered {t : State} (h : ¬ t.Unanswered) : t.Safe :=
  fun _ => h

theorem Safe.wait {s t : State} (ht : s.wait = some t) : t.Safe := by
  unfold State.wait at ht
  split at ht
  · next command request hw =>
      obtain ⟨⟨outcome, gate⟩, -, rfl⟩ := Option.map_eq_some_iff.mp ht
      exact .of_not_unanswered (not_unanswered_of_decided rfl (by simp))
  · contradiction

theorem Safe.finish {s t : State} (ht : s.finish = some t) : t.Safe := by
  unfold State.finish at ht
  split at ht
  · next command request outcome cause hw =>
      cases ht
      exact .of_not_unanswered (not_unanswered_of_decided rfl (by simp))
  · contradiction

theorem Safe.take {s t : State} (ht : s.take = some t) : t.Safe := by
  unfold State.take at ht
  split at ht
  · cases ht
    exact .of_not_unanswered (not_unanswered rfl)
  · contradiction

theorem Safe.writeReply {s t : State} {written : Bool} (ht : s.writeReply written = some t) :
    t.Safe := by
  unfold State.writeReply at ht
  split at ht
  · split at ht
    · cases ht
      exact .of_not_unanswered (not_unanswered rfl)
    · split at ht <;> cases ht <;> exact .of_not_unanswered (not_unanswered rfl)
  · contradiction

theorem Safe.callReturns {s t : State} {outcome : CallOutcome}
    (ht : s.callReturns outcome = some t) : t.Safe := by
  unfold State.callReturns at ht
  split at ht
  case h_4 => contradiction
  all_goals
    split at ht <;> first | contradiction | cases ht
    all_goals exact .of_not_unanswered (not_unanswered rfl)

theorem Safe.stop {s t : State} (ht : s.stop = some t) : t.Safe := by
  unfold State.stop at ht
  split at ht
  · cases ht
    exact .of_not_unanswered (not_unanswered rfl)
  · contradiction

theorem Safe.readOther {s t : State} {events : List AgentEvent} (h : s.Safe)
    (ht : s.readOther events = some t) : t.Safe := by
  unfold State.readOther at ht
  split at ht
  · split at ht
    · cases ht
      exact h.frame rfl rfl fun hm => hm
    · contradiction
  · contradiction

theorem Safe.readPermission {s t : State} {request : PermissionRequest}
    (hok : NoUnanswered s (.readPermission request)) (ht : s.readPermission request = some t) :
    t.Safe := by
  unfold State.readPermission at ht
  split at ht
  · split at ht
    · contradiction
    · cases ht
      intro hm
      exact absurd hm (hok.2 rfl)
  · contradiction

/-! ### the manager -/

theorem Safe.callSync {s t : State} {command : WorkerCommand} (h : s.Safe)
    (hok : ¬ s.Unanswered) (ht : s.callSync command = some t) : t.Safe := by
  unfold State.callSync at ht
  split at ht
  · split at ht
    · cases ht
      exact h
    · cases ht
      exact .of_not_unanswered hok
  · contradiction

/-- After these operations the lock holder is about to pump, or nobody. -/
theorem Safe.of_manager {t : State} (h : t.manager.waits = false) : t.Safe := by
  intro hm
  rw [h] at hm
  contradiction

theorem Safe.pump {s t : State} (ht : s.pump = some t) : t.Safe := by
  unfold State.pump at ht
  split at ht
  · cases ht
    exact .of_manager rfl
  · contradiction

theorem Safe.sendInput {s t : State} {text : String} (h : s.Safe)
    (ht : s.sendInput text = some t) : t.Safe := by
  unfold State.sendInput at ht
  split at ht
  · split at ht
    · cases ht
      exact h
    · cases ht
      exact .of_manager rfl
  · contradiction

theorem Safe.cancel {s t : State} {written : Bool} (h : s.Safe)
    (ht : s.cancel written = some t) : t.Safe := by
  unfold State.cancel at ht
  split at ht
  · split at ht
    · cases ht
      exact .of_manager rfl
    · cases ht
      exact h
  · contradiction

theorem Safe.respondPermission {s t : State} {permissionId optionId : String} (h : s.Safe)
    (ht : s.respondPermission permissionId optionId = some t) : t.Safe := by
  unfold State.respondPermission at ht
  split at ht
  case h_2 => contradiction
  split at ht
  · cases ht
    exact h
  · split at ht
    · cases ht
      exact h
    · split at ht <;> cases ht
      · exact h
      · exact .of_manager rfl

theorem Safe.receiveReply {s t : State} (ht : s.receiveReply = some t) : t.Safe := by
  unfold State.receiveReply at ht
  split at ht
  · split at ht
    · cases ht
      exact .of_manager rfl
    · contradiction
  · contradiction

theorem Safe.drain {s t : State} (ht : s.drain = some t) : t.Safe := by
  unfold State.drain at ht
  split at ht
  · cases ht
    exact .of_manager rfl
  · contradiction

theorem Safe.isRunning {s t : State} (ht : s.isRunning = some t) : t.Safe := by
  unfold State.isRunning at ht
  split at ht
  · cases ht
    exact .of_manager rfl
  · contradiction

theorem Safe.release {s t : State} (ht : s.release = some t) : t.Safe := by
  unfold State.release at ht
  split at ht
  · cases ht
    exact .of_manager rfl
  · contradiction

/-- **Step lemma**: every step but the two excluded ones keeps a waiting
operation away from an unanswered request. -/
theorem Safe.step {s t : State} {a : Act} (h : s.Safe) (hok : NoUnanswered s a)
    (ht : next s a = some t) : t.Safe := by
  cases a with
  | take => exact .take ht
  | readPermission request => exact .readPermission hok ht
  | readOther events => exact h.readOther ht
  | begin => exact h.begin ht
  | queueEvent => exact h.queueEvent ht
  | wait => exact .wait ht
  | finish => exact .finish ht
  | writeReply written => exact .writeReply ht
  | callReturns outcome => exact .callReturns ht
  | stop => exact .stop ht
  | pump => exact .pump ht
  | sendInput text => exact h.sendInput ht
  | cancel written => exact h.cancel ht
  | respondPermission permissionId optionId => exact h.respondPermission ht
  | setMode modeId => exact h.callSync (hok.1 rfl) ht
  | setConfigOption configId valueId => exact h.callSync (hok.1 rfl) ht
  | receiveReply => exact .receiveReply ht
  | drain => exact .drain ht
  | isRunning => exact .isRunning ht
  | release => exact .release ht

end State

/-! ## runs -/

/-- **No deadlock**: in every run in which `set_mode` and `set_config_option`
meet no unanswered permission request, no state has the lock holder waiting for
a worker that is blocked in `gate.wait`. -/
theorem deadlock_free {s : State} (h : system.ReachUnder NoUnanswered s) : ¬ s.Deadlocked := by
  have hsafe : s.Safe :=
    Support.System.invariant_of_step
      (fun s hinit => hinit ▸ .of_not_unanswered (State.not_unanswered rfl))
      (fun _ _ _ hs hok ht => hs.step hok ht) h
  exact fun hdead => hsafe hdead.1 hdead.unanswered

/-- `set_mode` finds nothing to wait for: its command is queued behind a prompt
turn whose permission request has been answered. -/
def modeAfterAnswer : List Act :=
  [.sendInput "build", .drain, .isRunning, .release, .take, .readPermission (ask "r1"), .begin,
    .queueEvent, .pump, .drain, .isRunning, .release, .respondPermission "r1" "allow", .wait,
    .finish, .drain, .isRunning, .release, .setMode "plan", .writeReply true]

theorem deadlock_free_modeAfterAnswer :
    ∃ s, Support.System.runs next initial modeAfterAnswer = some s ∧
      s.manager.waits ∧ ¬ s.Deadlocked := by
  have hok : Support.System.runsUnder next NoUnanswered initial modeAfterAnswer := by decide
  exact ⟨_, rfl, rfl, deadlock_free (Support.System.reachUnder_of_runs _ rfl hok rfl)⟩

/-! ## the two excluded steps -/

/-- The program points between `gate.begin` and `gate.finish`. -/
def WorkerPc.gated : WorkerPc → Bool
  | .permission _ _ .begun | .permission _ _ .waiting | .permission _ _ (.released ..) => true
  | _ => false

/-- The gate is pending exactly between `begin` and `finish`, and clear
otherwise. -/
structure State.GateKept (s : State) : Prop where
  closed : s.gate.closed = false
  pending : s.gate.pending = s.worker.gated
  clear : s.worker.gated = false → s.gate = {}

namespace State.GateKept

theorem frame {s t : State} (h : s.GateKept) (hgate : t.gate = s.gate)
    (hworker : t.worker.gated = s.worker.gated) : t.GateKept := by
  refine ⟨?_, ?_, ?_⟩
  · rw [hgate]
    exact h.closed
  · rw [hgate, hworker]
    exact h.pending
  · rw [hgate, hworker]
    exact h.clear

theorem begin {s t : State} (h : s.GateKept) (ht : s.begin = some t) : t.GateKept := by
  unfold State.begin at ht
  split at ht
  · next hw =>
      cases ht
      have hgate := h.clear (by rw [hw]; rfl)
      exact ⟨by simp [PermissionGate.begin, hgate], rfl, by simp [WorkerPc.gated]⟩
  · contradiction

theorem wait {s t : State} (h : s.GateKept) (ht : s.wait = some t) : t.GateKept := by
  unfold State.wait at ht
  split at ht
  · next hw =>
      obtain ⟨⟨outcome, gate⟩, hpoll, rfl⟩ := Option.map_eq_some_iff.mp ht
      have hkeep : gate.closed = s.gate.closed ∧ gate.pending = s.gate.pending := by
        unfold PermissionGate.poll at hpoll
        split at hpoll
        · cases hpoll
          exact ⟨rfl, rfl⟩
        · split at hpoll
          · cases hpoll
            exact ⟨rfl, rfl⟩
          · contradiction
      have hpending := h.pending
      rw [hw] at hpending
      exact ⟨hkeep.1.trans h.closed, hkeep.2.trans hpending, by simp [WorkerPc.gated]⟩
  · contradiction

theorem finish {s t : State} (h : s.GateKept) (ht : s.finish = some t) : t.GateKept := by
  unfold State.finish at ht
  split at ht
  · cases ht
    exact ⟨h.closed, rfl, fun _ => by simp [PermissionGate.finish, h.closed]⟩
  · contradiction

theorem cancel {s t : State} {written : Bool} (h : s.GateKept)
    (ht : s.cancel written = some t) : t.GateKept := by
  unfold State.cancel at ht
  split at ht
  case h_2 => contradiction
  split at ht
  · cases ht
    unfold PermissionGate.cancel
    cases hp : s.gate.pending with
    | false => exact h.frame (by simp) rfl
    | true =>
        have hgated : s.worker.gated = true := h.pending ▸ hp
        exact ⟨by simp [h.closed], by simp [hgated], by simp [hgated]⟩
  · cases ht
    exact h

theorem respondPermission {s t : State} {permissionId optionId : String} (h : s.GateKept)
    (ht : s.respondPermission permissionId optionId = some t) : t.GateKept := by
  unfold State.respondPermission at ht
  split at ht
  case h_2 => contradiction
  split at ht
  · cases ht
    exact h
  · split at ht
    · cases ht
      exact h
    · split at ht
      · cases ht
        exact h
      · next gate hdecide =>
          cases ht
          obtain ⟨hp, rfl⟩ := PermissionGate.decide_ok_iff.mp hdecide
          have hgated : s.worker.gated = true := h.pending ▸ hp
          exact ⟨h.closed, h.pending, by simp [hgated]⟩

theorem callReturns {s t : State} {outcome : CallOutcome} (h : s.GateKept)
    (ht : s.callReturns outcome = some t) : t.GateKept := by
  unfold State.callReturns at ht
  split at ht
  case h_4 => contradiction
  all_goals
    next hw =>
      split at ht <;> first | contradiction | cases ht
      all_goals exact h.frame rfl (by simp [WorkerPc.gated, hw])

/-- **Step lemma**: the other steps leave the gate alone. -/
theorem step {s t : State} {a : Act} (h : s.GateKept) (ht : next s a = some t) : t.GateKept := by
  cases a with
  | begin => exact h.begin ht
  | wait => exact h.wait ht
  | finish => exact h.finish ht
  | cancel written => exact h.cancel ht
  | respondPermission permissionId optionId => exact h.respondPermission ht
  | callReturns outcome => exact h.callReturns ht
  | release =>
      simp only [next, State.release] at ht
      split at ht
      · next events running hm =>
          cases ht
          obtain ⟨hworker, hgate, -⟩ := State.foldl_applyEvent_worker events s
          exact h.frame hgate (congrArg WorkerPc.gated hworker)
      · contradiction
  | _ =>
      simp only [next, State.take, State.readPermission, State.readOther, State.queueEvent,
        State.writeReply, State.stop, State.pump, State.sendInput,
        State.setMode, State.setConfigOption, State.callSync, State.receiveReply, State.drain,
        State.isRunning] at ht
      repeat' split at ht
      all_goals first
        | contradiction
        | (cases ht; exact h)
        | (cases ht; exact h.frame rfl (by simp [WorkerPc.gated, *]))

end State.GateKept

theorem gateKept_of_reachable {s : State} (h : system.Reachable s) : s.GateKept :=
  Support.System.invariant_of_step (fun _ hinit => hinit ▸ ⟨rfl, rfl, fun _ => rfl⟩)
    (fun _ _ _ hs _ ht => hs.step ht) h

/-- A lock holder that waits while a request is unanswered is deadlocked as soon
as the worker reaches `gate.wait`, which nothing keeps it from. -/
theorem deadlock_of_waits {s : State} (h : s.GateKept) (hm : s.manager.waits)
    (hu : s.Unanswered) :
    ∃ as t, Support.System.runs next s as = some t ∧ t.Deadlocked := by
  obtain ⟨hpoll, hw⟩ := hu
  cases hworker : s.worker with
  | permission command request stage =>
      simp only [hworker, WorkerPc.stage?, Option.some.injEq] at hw
      have hpending := h.pending
      rw [hworker] at hpending
      rcases hw with rfl | rfl | rfl
      · have hbegin : next s .begin = some { s with
            worker := .permission command request .begun
            gate := PermissionGate.begin s.gate } := by simp only [next, State.begin, hworker]
        refine ⟨[.begin, .queueEvent], _, (Support.System.runs_cons hbegin _).trans rfl,
          hm, rfl, rfl, (State.poll_begin s.gate).mpr hpoll⟩
      · have hqueue : next s .queueEvent = some { s with
            worker := .permission command request .waiting
            events := s.events ++ [.permissionRequest request] } := by
          simp only [next, State.queueEvent, hworker]
        exact ⟨[.queueEvent], _, Support.System.runs_cons hqueue _, hm, rfl, hpending, hpoll⟩
      · exact ⟨[], s, rfl, hm, by rw [hworker]; rfl, hpending, hpoll⟩
  | _ => simp [hworker, WorkerPc.stage?] at hw

/-- An unanswered request keeps the worker from stopping, so a synchronous
operation started then waits. -/
theorem State.Unanswered.of_callSync {s t : State} {command : WorkerCommand} (hu : s.Unanswered)
    (ht : s.callSync command = some t) : t.manager.waits ∧ t.Unanswered := by
  have hworker : s.worker ≠ .stopped := by
    intro hw
    rw [State.Unanswered, hw] at hu
    simp [WorkerPc.stage?] at hu
  unfold State.callSync at ht
  split at ht
  · rw [if_neg hworker] at ht
    cases ht
    exact ⟨rfl, hu⟩
  · contradiction

/-- A request that has just been read is unanswered: the gate is clear outside
a request. -/
theorem State.Unanswered.of_readPermission {s t : State} {request : PermissionRequest}
    (h : s.GateKept) (ht : s.readPermission request = some t) :
    t.manager = s.manager ∧ t.Unanswered := by
  unfold State.readPermission at ht
  split at ht
  · next hw =>
      split at ht
      · contradiction
      · cases ht
        refine ⟨rfl, ?_, .inl rfl⟩
        rw [h.clear (by rw [hw]; rfl)]
        rfl
  · contradiction

/-- **The condition is exact**: each of the two excluded steps leads to a
deadlock. -/
theorem deadlock_of_unanswered {s t : State} {a : Act} (hs : system.Reachable s)
    (ht : next s a = some t) (hbad : ¬ NoUnanswered s a) :
    ∃ as u, Support.System.runs next t as = some u ∧ u.Deadlocked := by
  have hkept := gateKept_of_reachable hs
  simp only [NoUnanswered, not_and_or, Classical.not_imp, not_not] at hbad
  have hwaits : t.manager.waits ∧ t.Unanswered := by
    rcases hbad with ⟨hstart, hu⟩ | ⟨hasks, hm⟩
    · cases a with
      | setMode modeId => exact hu.of_callSync ht
      | setConfigOption configId valueId => exact hu.of_callSync ht
      | _ => contradiction
    · cases a with
      | readPermission request =>
          obtain ⟨hmanager, hu⟩ := State.Unanswered.of_readPermission hkept ht
          exact ⟨hmanager ▸ hm, hu⟩
      | _ => contradiction
  exact deadlock_of_waits (hkept.step ht) hwaits.1 hwaits.2

/-- `set_mode` while the user has not answered `r1` yet. -/
def modeBeforeAnswer : List Act :=
  [.sendInput "build", .drain, .isRunning, .release, .take, .readPermission (ask "r1"), .begin,
    .queueEvent, .pump, .drain, .isRunning, .release, .setMode "plan"]

/-- **The host can freeze**: `set_mode` holds the manager lock and waits for a
worker that waits for an answer only the lock lets through. -/
theorem deadlock_reachable : ¬ ∀ s, system.Reachable s → ¬ s.Deadlocked := by
  intro hclaim
  refine hclaim _ (Support.System.reachable_of_runs modeBeforeAnswer rfl rfl) ?_
  exact ⟨rfl, rfl, rfl, rfl⟩

end Worker

end Slight
