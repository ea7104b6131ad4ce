import Slight.Session.Worker

/-!
# Slight.Session.Permission

Which permission request an answer reaches.  The gate holds no request id, and
the id `respond_permission` checks is a copy that only a pump refreshes, so the
call reaches the right request only as long as that copy names the request the
worker is waiting on.

A `cancel` breaks this when it runs between `gate.begin` and the pump that
drains the request's event: the worker leaves the request, the event is still
queued, and a later pump shows a request that nobody waits on.  While no
`cancel` falls in that window (`CancelSeen`), the invariant `Faithful` holds:

* what the manager shows, or is about to show, is the request the worker is
  waiting on, and its gate is undecided;
* the gate is clear outside a request;
* every answer decided so far carries the option of the call that caused it,
  and every call that returned `Ok` has its answer.
-/

namespace Slight

namespace Worker

/-! ## what the two sides know -/

/-- Ids of the permission requests in a list of events. -/
def permissionIds (events : List AgentEvent) : List String :=
  events.filterMap fun event => event.permission?.map (·.permissionId)

namespace State

/-- Ids of the permission requests the manager shows or is about to show. -/
def announced (s : State) : List String :=
  (s.pendingPermission.map (·.id)).toList ++
    (permissionIds s.manager.inFlight ++ permissionIds s.events)

/-- The answer that is decided but not written yet. -/
def inHand (s : State) : List Answer :=
  match s.worker with
  | .permission _ request .waiting =>
      match s.gate.decision with
      | some outcome => [⟨request.permissionId, outcome, s.decidedBy, true⟩]
      | none => []
  | .permission _ request (.released outcome cause)
  | .permission _ request (.finished outcome cause) =>
      [⟨request.permissionId, outcome, cause, true⟩]
  | _ => []

/-- Every answer decided so far. -/
def decided (s : State) : List Answer := s.answers ++ s.inHand

/-- The gate as the worker's program point determines it. -/
def GateFits (s : State) : Prop :=
  match s.worker with
  | .permission _ _ .begun => s.gate = { pending := true }
  | .permission _ _ .waiting => s.gate.pending = true ∧ s.gate.closed = false
  | .permission _ _ (.released ..) =>
      s.gate.pending = true ∧ s.gate.closed = false ∧ s.gate.decision = none
  | _ => s.gate = {}

/-- The worker waits on the request `id` and nothing has been decided. -/
def Waits (s : State) (id : String) : Prop :=
  ∃ command request, s.worker = .permission command request .waiting ∧
    request.permissionId = id ∧ s.gate.decision = none ∧ s.gate.cancelled = false

/-- The answers a call caused carry its option and its request, and every call
has an answer. -/
structure Ledger (granted : List (String × String)) (decided : List Answer) : Prop where
  caused : ∀ answer ∈ decided, ∀ i, answer.cause = some i →
    ∃ optionId, answer.outcome = .selected optionId ∧ granted[i]? = some (answer.id, optionId)
  answered : ∀ i permissionId optionId, granted[i]? = some (permissionId, optionId) →
    ∃ answer ∈ decided, answer.cause = some i ∧ answer.id = permissionId

/-- The invariant of runs whose cancellations are all seen. -/
structure Faithful (s : State) : Prop where
  gate : s.GateFits
  waits : ∀ id ∈ s.announced, s.Waits id
  single : s.announced.length ≤ 1
  ledger : Ledger s.granted s.decided
  fresh : (s.answers.map (·.id) ++ s.worker.current).Nodup
  requested : ∀ id ∈ s.answers.map (·.id) ++ s.worker.current, id ∈ s.requested

end State

/-- A `cancel` that reaches the agent. -/
def Act.cancels : Act → Bool
  | .cancel written => written
  | _ => false

/-- A `cancel` that reaches the agent does not fall between `gate.begin` and the
pump that drains the request's event. -/
def CancelSeen (s : State) (a : Act) : Prop :=
  a.cancels → s.worker.stage? ≠ some .begun ∧ permissionIds s.events = []

instance (s : State) (a : Act) : Decidable (CancelSeen s a) :=
  inferInstanceAs (Decidable (_ → _))

/-! ## bookkeeping -/

@[simp] theorem permissionIds_nil : permissionIds [] = [] := rfl

@[simp] theorem permissionIds_append (xs ys : List AgentEvent) :
    permissionIds (xs ++ ys) = permissionIds xs ++ permissionIds ys :=
  List.filterMap_append

theorem permissionIds_eq_nil {events : List AgentEvent}
    (h : events.all fun event => event.permission?.isNone) : permissionIds events = [] := by
  simp only [permissionIds, List.filterMap_eq_nil_iff, Option.map_eq_none_iff]
  intro event hmem
  exact Option.isNone_iff_eq_none.mp (List.all_eq_true.mp h event hmem)

/-- What applying drained events shows is the last request among them, or what
was shown before. -/
theorem pending_foldl_applyEvent (events : List AgentEvent) (s : State) :
    (((events.foldl State.applyEvent s).pendingPermission.map (·.id)).toList).Sublist
      ((s.pendingPermission.map (·.id)).toList ++ permissionIds events) := by
  induction events generalizing s with
  | nil => simp
  | cons event events ih =>
      refine (ih (s.applyEvent event)).trans ?_
      cases event with
      | permissionRequest request =>
          simp only [State.applyEvent, permissionIds, List.filterMap_cons, AgentEvent.permission?,
            Option.map_some, Option.toList_some, List.singleton_append]
          exact List.sublist_append_right _ _
      | _ => simp [State.applyEvent, permissionIds, AgentEvent.permission?]

namespace State.Ledger

/-- The ledger does not record whether the reply could be written. -/
theorem write {granted : List (String × String)} {answers : List Answer} {id : String}
    {outcome : RequestPermissionOutcome} {cause : Option Nat}
    (h : Ledger granted (answers ++ [⟨id, outcome, cause, true⟩])) (written : Bool) :
    Ledger granted (answers ++ [⟨id, outcome, cause, written⟩]) := by
  refine ⟨fun answer hmem i hi => ?_, fun i permissionId optionId hi => ?_⟩
  · rcases List.mem_append.mp hmem with hold | hnew
    · exact h.caused answer (List.mem_append_left _ hold) i hi
    · rw [List.mem_singleton] at hnew
      subst hnew
      exact h.caused _ (List.mem_append_right _ (List.mem_singleton_self _)) i hi
  · obtain ⟨answer, hmem, hcause, hid⟩ := h.answered i permissionId optionId hi
    rcases List.mem_append.mp hmem with hold | hnew
    · exact ⟨answer, List.mem_append_left _ hold, hcause, hid⟩
    · rw [List.mem_singleton] at hnew
      subst hnew
      exact ⟨_, List.mem_append_right _ (List.mem_singleton_self _), hcause, hid⟩

/-- A new call whose answer is decided with it. -/
theorem grant {granted : List (String × String)} {answers : List Answer}
    {permissionId optionId : String} (h : Ledger granted answers) :
    Ledger (granted ++ [(permissionId, optionId)])
      (answers ++ [⟨permissionId, .selected optionId, some granted.length, true⟩]) := by
  refine ⟨fun answer hmem i hi => ?_, fun i permissionId' optionId' hi => ?_⟩
  · rcases List.mem_append.mp hmem with hold | hnew
    · obtain ⟨option, houtcome, hget⟩ := h.caused answer hold i hi
      have hlt := (List.getElem?_eq_some_iff.mp hget).1
      exact ⟨option, houtcome, by rwa [List.getElem?_append_left hlt]⟩
    · rw [List.mem_singleton] at hnew
      subst hnew
      cases hi
      exact ⟨optionId, rfl, List.getElem?_concat_length⟩
  · by_cases hlt : i < granted.length
    · rw [List.getElem?_append_left hlt] at hi
      obtain ⟨answer, hmem, hrest⟩ := h.answered i permissionId' optionId' hi
      exact ⟨answer, List.mem_append_left _ hmem, hrest⟩
    · have hi' : i = granted.length := by
        have := (List.getElem?_eq_some_iff.mp hi).1
        rw [List.length_append, List.length_singleton] at this
        omega
      subst hi'
      rw [List.getElem?_concat_length] at hi
      cases hi
      exact ⟨_, List.mem_append_right _ (List.mem_singleton_self _), rfl, rfl⟩

end State.Ledger

namespace State.Faithful

/-! ## one step -/

/-- Outside the handler nothing is announced: whatever is announced is waited
on. -/
theorem announced_eq_nil {s : State} (h : s.Faithful)
    (hw : ∀ command request, s.worker ≠ .permission command request .waiting) :
    s.announced = [] := by
  by_contra hne
  obtain ⟨id, hid⟩ := List.exists_mem_of_ne_nil _ hne
  obtain ⟨command, request, hworker, -⟩ := h.waits id hid
  exact hw command request hworker

/-- The pending permission is announced. -/
theorem waits_pending {s : State} (h : s.Faithful) {pending : PermissionRequestPayload}
    (hp : s.pendingPermission = some pending) : s.Waits pending.id :=
  h.waits _ (by simp [announced, hp])

/-- Steps that leave the gate, the calls and the answers alone, announce nothing
new and keep the worker where it is, or outside the handler. -/
theorem frame {s t : State} (h : s.Faithful) (hgate : t.gate = s.gate)
    (hgranted : t.granted = s.granted) (hby : t.decidedBy = s.decidedBy)
    (hanswers : t.answers = s.answers) (hreq : t.requested = s.requested)
    (hworker : t.worker = s.worker ∨ s.worker.current = [] ∧ t.worker.current = [])
    (hann : t.announced.Sublist s.announced) : t.Faithful := by
  have hcurrent : t.worker.current = s.worker.current := by
    rcases hworker with hw | ⟨hs, ht⟩
    · rw [hw]
    · rw [hs, ht]
  have hhand : t.inHand = s.inHand := by
    rcases hworker with hw | ⟨hs, ht⟩
    · simp only [inHand, hw, hgate, hby]
    · unfold inHand
      cases hsw : s.worker <;> cases htw : t.worker <;>
        simp_all [WorkerPc.current]
  have hdecided : t.decided = s.decided := by rw [decided, decided, hanswers, hhand]
  refine ⟨?_, fun id hid => ?_, hann.length_le.trans h.single, ?_, ?_, ?_⟩
  · rcases hworker with hw | ⟨hs, ht⟩
    · simpa only [GateFits, hw, hgate] using h.gate
    · have hg := h.gate
      unfold GateFits at hg ⊢
      cases hsw : s.worker <;> cases htw : t.worker <;>
        simp_all [WorkerPc.current]
  · obtain ⟨command, request, hw, hrest⟩ := h.waits id (hann.subset hid)
    rcases hworker with hw' | ⟨hs, -⟩
    · exact ⟨command, request, hw'.trans hw, by rwa [hgate]⟩
    · rw [hw] at hs
      exact absurd hs (by simp [WorkerPc.current])
  · rw [hdecided, hgranted]
    exact h.ledger
  · rw [hanswers, hcurrent]
    exact h.fresh
  · rw [hanswers, hcurrent, hreq]
    exact h.requested

/-- With nothing announced, only the gate and the answers are left to check. -/
theorem of_silent {t : State} (hann : t.announced = []) (hgate : t.GateFits)
    (hledger : Ledger t.granted t.decided)
    (hfresh : (t.answers.map (·.id) ++ t.worker.current).Nodup)
    (hreq : ∀ id ∈ t.answers.map (·.id) ++ t.worker.current, id ∈ t.requested) : t.Faithful := by
  refine ⟨hgate, fun id hid => ?_, ?_, hledger, hfresh, hreq⟩
  · rw [hann] at hid
    contradiction
  · rw [hann]
    exact Nat.zero_le 1

theorem initial : Worker.initial.Faithful where
  gate := rfl
  waits := by simp [announced, Worker.initial, ManagerPc.inFlight]
  single := by simp [announced, Worker.initial, ManagerPc.inFlight]
  ledger := ⟨by simp [decided, inHand, Worker.initial], by simp [Worker.initial]⟩
  fresh := by simp [Worker.initial, WorkerPc.current]
  requested := by simp [Worker.initial, WorkerPc.current]

/-! ### the worker -/

theorem take {s t : State} (h : s.Faithful) (ht : s.take = some t) : t.Faithful := by
  unfold State.take at ht
  split at ht
  · next command rest hw hc =>
      cases ht
      exact h.frame rfl rfl rfl rfl rfl (.inr ⟨by simp [hw, WorkerPc.current], rfl⟩) (.refl _)
  · contradiction

theorem readOther {s t : State} {events : List AgentEvent} (h : s.Faithful)
    (ht : s.readOther events = some t) : t.Faithful := by
  unfold State.readOther at ht
  split at ht
  · next command hw =>
      split at ht
      · next hall =>
          cases ht
          refine h.frame rfl rfl rfl rfl rfl (.inl rfl) ?_
          simp [announced, permissionIds_eq_nil hall]
      · contradiction
  · contradiction

theorem callReturns {s t : State} {outcome : CallOutcome} (h : s.Faithful)
    (ht : s.callReturns outcome = some t) : t.Faithful := by
  unfold State.callReturns at ht
  split at ht
  case h_4 => contradiction
  all_goals
    next hw =>
      split at ht <;> first | contradiction | cases ht
      all_goals
        refine h.frame rfl rfl rfl rfl rfl (.inr ⟨by simp [hw, WorkerPc.current], rfl⟩) ?_
        simp [announced, permissionIds, AgentEvent.permission?]

theorem stop {s t : State} (h : s.Faithful) (ht : s.stop = some t) : t.Faithful := by
  unfold State.stop at ht
  split at ht
  · next hw =>
      cases ht
      exact h.frame rfl rfl rfl rfl rfl (.inr ⟨by simp [hw, WorkerPc.current], rfl⟩) (.refl _)
  · contradiction

theorem readPermission {s t : State} {request : PermissionRequest} (h : s.Faithful)
    (ht : s.readPermission request = some t) : t.Faithful := by
  unfold State.readPermission at ht
  split at ht
  · next command hw =>
      split at ht
      · contradiction
      · next hnew =>
          cases ht
          have hann := h.announced_eq_nil (by simp [hw])
          obtain ⟨hgate, -, -, hledger, hfresh, hreq⟩ := h
          simp only [GateFits, decided, inHand, hw, WorkerPc.current, List.append_nil]
            at hgate hledger hfresh hreq
          refine of_silent hann hgate (by simpa [decided, inHand] using hledger) ?_ ?_
          · refine List.Nodup.append hfresh (List.nodup_singleton _) ?_
            rw [WorkerPc.current, List.disjoint_singleton]
            exact fun hmem => hnew (hreq _ hmem)
          · intro id hid
            simp only [WorkerPc.current, List.mem_append, List.mem_singleton] at hid ⊢
            exact hid.imp_left (hreq id)
  · contradiction

theorem begin {s t : State} (h : s.Faithful) (ht : s.begin = some t) : t.Faithful := by
  unfold State.begin at ht
  split at ht
  · next command request hw =>
      cases ht
      have hann := h.announced_eq_nil (by simp [hw])
      obtain ⟨hgate, -, -, hledger, hfresh, hreq⟩ := h
      simp only [GateFits, decided, inHand, hw, WorkerPc.current] at hgate hledger hfresh hreq
      exact of_silent hann (by simp [GateFits, PermissionGate.begin, hgate]) hledger hfresh hreq
  · contradiction

theorem queueEvent {s t : State} (h : s.Faithful) (ht : s.queueEvent = some t) : t.Faithful := by
  unfold State.queueEvent at ht
  split at ht
  · next command request hw =>
      cases ht
      have hann := h.announced_eq_nil (by simp [hw])
      obtain ⟨hgate, -, -, hledger, hfresh, hreq⟩ := h
      simp only [GateFits, decided, inHand, hw, WorkerPc.current] at hgate hledger hfresh hreq
      -- the new event is the only one that names a request
      have hids : State.announced
          { s with worker := .permission command request .waiting
                   events := s.events ++ [.permissionRequest request] } =
          [request.permissionId] := by
        simp only [announced, List.append_eq_nil_iff] at hann
        simp only [announced, hann, permissionIds_append, List.nil_append]
        rfl
      refine ⟨by simp [GateFits, hgate], fun id hid => ?_, by rw [hids]; rfl,
        by simpa [decided, inHand, hgate] using hledger, hfresh, hreq⟩
      rw [hids, List.mem_singleton] at hid
      exact ⟨command, request, rfl, hid.symm, by simp [hgate], by simp [hgate]⟩
  · contradiction

/-- A worker that leaves `gate.wait` has nothing announced any more: an announced
request is undecided, and the loop would go back to sleep. -/
theorem announced_eq_nil_of_poll {s : State} (h : s.Faithful) {command : WorkerCommand}
    {request : PermissionRequest} (hw : s.worker = .permission command request .waiting)
    (hpoll : PermissionGate.poll s.gate ≠ none) : s.announced = [] := by
  by_contra hne
  obtain ⟨id, hid⟩ := List.exists_mem_of_ne_nil _ hne
  obtain ⟨-, -, -, -, hdecision, hcancelled⟩ := h.waits id hid
  have hgate := h.gate
  simp only [GateFits, hw] at hgate
  exact hpoll ((PermissionGate.poll_eq_none_iff s.gate).mpr ⟨hdecision, hcancelled, hgate.2⟩)

theorem wait {s t : State} (h : s.Faithful) (ht : s.wait = some t) : t.Faithful := by
  unfold State.wait at ht
  split at ht
  · next command request hw =>
      obtain ⟨⟨outcome, gate⟩, hpoll, rfl⟩ := Option.map_eq_some_iff.mp ht
      have hann := h.announced_eq_nil_of_poll hw (by simp [hpoll])
      obtain ⟨hgate, -, -, hledger, hfresh, hreq⟩ := h
      simp only [GateFits, decided, inHand, hw, WorkerPc.current] at hgate hledger hfresh hreq
      unfold PermissionGate.poll at hpoll
      cases hd : s.gate.decision with
      | some decision =>
          -- the decision moves from the gate into the worker's hand
          simp only [hd, Option.some.injEq, Prod.mk.injEq] at hpoll hledger
          obtain ⟨rfl, rfl⟩ := hpoll
          exact of_silent hann (by simp [GateFits, hgate]) (by simpa [decided, inHand] using hledger)
            hfresh hreq
      | none =>
          -- a cancellation has no cause
          simp only [hd, List.append_nil] at hpoll hledger
          split at hpoll
          case isFalse => contradiction
          cases hpoll
          refine of_silent hann (by simp [GateFits, hgate, hd]) ⟨?_, ?_⟩ hfresh hreq
          · intro answer hmem i hi
            simp only [decided, inHand, Option.isSome_none, Bool.false_eq_true, if_false,
              List.mem_append, List.mem_singleton] at hmem
            rcases hmem with hmem | rfl
            · exact hledger.caused answer hmem i hi
            · contradiction
          · intro i permissionId optionId hi
            obtain ⟨answer, hmem, hrest⟩ := hledger.answered i permissionId optionId hi
            exact ⟨answer, List.mem_append_left _ hmem, hrest⟩
  · contradiction

theorem finish {s t : State} (h : s.Faithful) (ht : s.finish = some t) : t.Faithful := by
  unfold State.finish at ht
  split at ht
  · next command request outcome cause hw =>
      cases ht
      have hann := h.announced_eq_nil (by simp [hw])
      obtain ⟨hgate, -, -, hledger, hfresh, hreq⟩ := h
      simp only [GateFits, decided, inHand, hw, WorkerPc.current] at hgate hledger hfresh hreq
      exact of_silent hann (by simp [GateFits, PermissionGate.finish, hgate]) hledger hfresh hreq
  · contradiction

theorem writeReply {s t : State} {written : Bool} (h : s.Faithful)
    (ht : s.writeReply written = some t) : t.Faithful := by
  unfold State.writeReply at ht
  split at ht
  case h_2 => contradiction
  next command request outcome cause hw =>
    have hann := h.announced_eq_nil (by simp [hw])
    obtain ⟨hgate, -, -, hledger, hfresh, hreq⟩ := h
    simp only [GateFits, decided, inHand, hw, WorkerPc.current] at hgate hledger hfresh hreq
    have hwritten := hledger.write written
    have hids : (s.answers ++ [Answer.mk request.permissionId outcome cause written]).map
        Answer.id = s.answers.map Answer.id ++ [request.permissionId] := by
      rw [List.map_append]
      rfl
    -- wherever the worker goes next, it is outside the handler
    have hleave : ∀ u : State, u.worker.current = [] → u.inHand = [] → u.gate = s.gate →
        (u.gate = {} → u.GateFits) → u.announced = s.announced → u.granted = s.granted →
        u.requested = s.requested →
        u.answers = s.answers ++ [⟨request.permissionId, outcome, cause, written⟩] →
        u.Faithful := by
      intro u hcurrent hhand hg hfits ha hgr hr hans
      refine of_silent (ha.trans hann) (hfits (hg.trans hgate)) ?_ ?_ ?_
      · rw [decided, hhand, hans, hgr, List.append_nil]
        exact hwritten
      · rw [hans, hids, hcurrent, List.append_nil]
        exact hfresh
      · rw [hans, hids, hcurrent, List.append_nil, hr]
        exact hreq
    split at ht
    · cases ht
      exact hleave _ rfl rfl rfl (fun hg => hg) rfl rfl rfl rfl
    · split at ht <;> cases ht
      · refine hleave _ rfl rfl rfl (fun hg => hg) ?_ rfl rfl rfl
        simp [announced, permissionIds, AgentEvent.permission?]
      · exact hleave _ rfl rfl rfl (fun hg => hg) rfl rfl rfl rfl
      · exact hleave _ rfl rfl rfl (fun hg => hg) rfl rfl rfl rfl

/-! ### the manager -/

theorem pump {s t : State} (h : s.Faithful) (ht : s.pump = some t) : t.Faithful := by
  unfold State.pump at ht
  split at ht
  · next hm =>
      cases ht
      refine h.frame rfl rfl rfl rfl rfl (.inl rfl) ?_
      simp [announced, hm, ManagerPc.inFlight]
  · contradiction

theorem sendInput {s t : State} {text : String} (h : s.Faithful)
    (ht : s.sendInput text = some t) : t.Faithful := by
  unfold State.sendInput at ht
  split at ht
  · next hm =>
      split at ht
      · cases ht
        exact h
      · cases ht
        refine h.frame rfl rfl rfl rfl rfl (.inl rfl) ?_
        simp [announced, hm, ManagerPc.inFlight]
  · contradiction

theorem callSync {s t : State} {command : WorkerCommand} (h : s.Faithful)
    (ht : s.callSync command = some t) : t.Faithful := by
  unfold State.callSync at ht
  split at ht
  · next hm =>
      split at ht
      · cases ht
        exact h
      · cases ht
        refine h.frame rfl rfl rfl rfl rfl (.inl rfl) ?_
        simp [announced, hm, ManagerPc.inFlight]
  · contradiction

theorem receiveReply {s t : State} (h : s.Faithful) (ht : s.receiveReply = some t) :
    t.Faithful := by
  unfold State.receiveReply at ht
  split at ht
  · next hm =>
      split at ht
      · cases ht
        refine h.frame rfl rfl rfl rfl rfl (.inl rfl) ?_
        simp [announced, hm, ManagerPc.inFlight]
      · contradiction
  · contradiction

theorem drain {s t : State} (h : s.Faithful) (ht : s.drain = some t) : t.Faithful := by
  unfold State.drain at ht
  split at ht
  · next hm =>
      cases ht
      refine h.frame rfl rfl rfl rfl rfl (.inl rfl) ?_
      simp [announced, hm, ManagerPc.inFlight]
  · contradiction

theorem isRunning {s t : State} (h : s.Faithful) (ht : s.isRunning = some t) : t.Faithful := by
  unfold State.isRunning at ht
  split at ht
  · next hm =>
      cases ht
      refine h.frame rfl rfl rfl rfl rfl (.inl rfl) ?_
      simp [announced, hm, ManagerPc.inFlight]
  · contradiction

theorem release {s t : State} (h : s.Faithful) (ht : s.release = some t) : t.Faithful := by
  unfold State.release at ht
  split at ht
  · next events running hm =>
      cases ht
      obtain ⟨hworker, hgate, hgranted, hby, hanswers, hreq, hevents⟩ :=
        State.foldl_applyEvent_worker events s
      refine h.frame hgate hgranted hby hanswers hreq (.inl hworker) ?_
      simp only [announced, hm, ManagerPc.inFlight, permissionIds_nil, List.nil_append, hevents]
      rw [← List.append_assoc]
      exact (pending_foldl_applyEvent events s).append (.refl _)
  · contradiction

theorem cancel {s t : State} {written : Bool} (h : s.Faithful) (hseen : CancelSeen s (.cancel written))
    (ht : s.cancel written = some t) : t.Faithful := by
  unfold State.cancel at ht
  split at ht
  case h_2 => contradiction
  next hm =>
    cases written with
    | false =>
        cases ht
        exact h
    | true =>
        cases ht
        obtain ⟨hbegun, hevents⟩ := hseen rfl
        obtain ⟨hgate, -, -, hledger, hfresh, hreq⟩ := h
        refine of_silent ?_ ?_ ?_ hfresh hreq
        · simp [announced, ManagerPc.inFlight, hevents]
        · -- only a request that has begun feels the cancellation
          unfold GateFits at hgate ⊢
          dsimp only at hgate ⊢
          split at hgate
          case h_1 hw => exact absurd (by rw [hw]; rfl) hbegun
          case h_2 => simp [PermissionGate.cancel, hgate]
          case h_3 => simp [PermissionGate.cancel, hgate]
          case h_4 => simp [PermissionGate.cancel, hgate]
        · have hdecision : (PermissionGate.cancel s.gate).decision = s.gate.decision := by
            unfold PermissionGate.cancel
            split <;> rfl
          simpa only [decided, inHand, hdecision] using hledger

theorem respondPermission {s t : State} {permissionId optionId : String} (h : s.Faithful)
    (ht : s.respondPermission permissionId optionId = some t) : t.Faithful := by
  unfold State.respondPermission at ht
  split at ht
  case h_2 => contradiction
  next hm =>
    split at ht
    · cases ht
      exact h
    · next pending hp =>
        split at ht
        · cases ht
          exact h
        · next hid =>
            rw [ne_eq, not_not] at hid
            split at ht
            · cases ht
              exact h
            · next gate hdecide =>
                cases ht
                obtain ⟨-, rfl⟩ := PermissionGate.decide_ok_iff.mp hdecide
                obtain ⟨command, request, hw, hr, hdecision, -⟩ := h.waits_pending hp
                obtain ⟨hgate, -, hsingle, hledger, hfresh, hreq⟩ := h
                simp only [GateFits, decided, inHand, hw, hdecision, List.append_nil]
                  at hgate hledger
                refine of_silent ?_ ?_ ?_ hfresh hreq
                · -- the request that was shown was the only one
                  simp only [announced, hp, hm, ManagerPc.inFlight, Option.map_some,
                    Option.toList_some, List.length_append, List.length_singleton] at hsingle
                  rw [permissionIds_nil, List.length_nil] at hsingle
                  have hnil : permissionIds s.events = [] :=
                    List.length_eq_zero_iff.mp (by omega)
                  simp [announced, ManagerPc.inFlight, hnil]
                · simp [GateFits, hw, hgate]
                · simpa [decided, inHand, hw, hr, hid] using hledger.grant

/-- **Step lemma**: every step but an unseen cancellation keeps the invariant. -/
theorem step {s t : State} {a : Act} (h : s.Faithful) (hok : CancelSeen s a)
    (ht : next s a = some t) : t.Faithful := by
  cases a with
  | take => exact h.take ht
  | readPermission request => exact h.readPermission ht
  | readOther events => exact h.readOther ht
  | begin => exact h.begin ht
  | queueEvent => exact h.queueEvent ht
  | wait => exact h.wait ht
  | finish => exact h.finish ht
  | writeReply written => exact h.writeReply ht
  | callReturns outcome => exact h.callReturns ht
  | stop => exact h.stop ht
  | pump => exact h.pump ht
  | sendInput text => exact h.sendInput ht
  | cancel written => exact h.cancel hok ht
  | respondPermission permissionId optionId => exact h.respondPermission ht
  | setMode modeId => exact h.callSync ht
  | setConfigOption configId valueId => exact h.callSync ht
  | receiveReply => exact h.receiveReply ht
  | drain => exact h.drain ht
  | isRunning => exact h.isRunning ht
  | release => exact h.release ht

end State.Faithful

/-! ## runs -/

/-- Every state of a run whose cancellations are all seen satisfies the
invariant. -/
theorem faithful_of_reachUnder {s : State} (h : system.ReachUnder CancelSeen s) : s.Faithful :=
  Support.System.invariant_of_step (fun _ hinit => hinit ▸ .initial)
    (fun _ _ _ hs hok ht => hs.step hok ht) h

/-- The steps that bring a decided answer to the agent; none needs the manager. -/
def replySteps : List Act := [.wait, .finish, .writeReply true]

/-- The call number `i`, `respond_permission(permissionId, optionId)`, reached
its request: the reply for that request selects the option, no other reply has
the call as its cause, and the reply is written or the worker is about to write
it. -/
structure State.Reached (s : State) (i : Nat) (permissionId optionId : String) : Prop where
  selected : ∀ answer ∈ s.answers, answer.id = permissionId → answer.outcome = .selected optionId
  only : ∀ answer ∈ s.answers, answer.cause = some i → answer.id = permissionId
  comes : ∃ n t, Support.System.runs next s (replySteps.drop n) = some t ∧
    ∃ answer ∈ t.answers, answer.id = permissionId ∧ answer.outcome = .selected optionId ∧
      answer.cause = some i

/-- An answer in hand is written by the worker's own steps. -/
theorem State.comes_of_inHand {s : State} {answer : Answer}
    (hmem : answer ∈ s.inHand) :
    ∃ n t, Support.System.runs next s (replySteps.drop n) = some t ∧ answer ∈ t.answers := by
  unfold State.inHand at hmem
  split at hmem
  · next command request hw =>
      split at hmem
      · next outcome hd =>
          rw [List.mem_singleton] at hmem
          subst hmem
          refine ⟨0, _, by
            simp [replySteps, Support.System.runs, next, State.wait, hw, PermissionGate.poll, hd,
              State.finish, State.writeReply]; rfl, ?_⟩
          simp
      · contradiction
  · next command request outcome cause hw =>
      rw [List.mem_singleton] at hmem
      subst hmem
      refine ⟨1, _, by
        simp [replySteps, Support.System.runs, next, hw, State.finish, State.writeReply]; rfl, ?_⟩
      simp
  · next command request outcome cause hw =>
      rw [List.mem_singleton] at hmem
      subst hmem
      refine ⟨2, _, by
        simp [replySteps, Support.System.runs, next, hw, State.writeReply]; rfl, ?_⟩
      simp
  · contradiction

/-- No two decided answers are for one request. -/
theorem State.Faithful.decided_nodup {s : State} (h : s.Faithful) :
    (s.decided.map (·.id)).Nodup := by
  refine List.Nodup.sublist ?_ h.fresh
  rw [State.decided, List.map_append]
  refine (List.Sublist.refl _).append ?_
  unfold State.inHand
  split
  · next hw => split <;> simp [hw, WorkerPc.current]
  · next hw => simp [hw, WorkerPc.current]
  · next hw => simp [hw, WorkerPc.current]
  · exact List.nil_sublist _

/-- **Permission answers reach their request**: in every run whose cancellations
are all seen, a call of `respond_permission` that returned `Ok` answers the
request it names, and only that one. -/
theorem respond_permission_reached {s : State} (h : system.ReachUnder CancelSeen s) {i : Nat}
    {permissionId optionId : String} (hi : s.granted[i]? = some (permissionId, optionId)) :
    s.Reached i permissionId optionId := by
  have hs := faithful_of_reachUnder h
  obtain ⟨mine, hmine, hcause, hid⟩ := hs.ledger.answered i permissionId optionId hi
  obtain ⟨option, houtcome, hget⟩ := hs.ledger.caused mine hmine i hcause
  have hopt : option = optionId := by
    rw [hi] at hget
    cases hget
    rfl
  subst hopt
  refine ⟨fun answer hmem hanswer => ?_, fun answer hmem hanswer => ?_, ?_⟩
  · have hsame : answer = mine :=
      List.inj_on_of_nodup_map hs.decided_nodup (List.mem_append_left _ hmem) hmine
        (hanswer.trans hid.symm)
    rw [hsame]
    exact houtcome
  · obtain ⟨option', -, hget'⟩ :=
      hs.ledger.caused answer (List.mem_append_left _ hmem) i hanswer
    rw [hi] at hget'
    cases hget'
    rfl
  · rcases List.mem_append.mp hmine with hwritten | hhand
    · exact ⟨3, s, rfl, mine, hwritten, hid, houtcome, hcause⟩
    · obtain ⟨n, t, hruns, hmem⟩ := State.comes_of_inHand hhand
      exact ⟨n, t, hruns, mine, hmem, hid, houtcome, hcause⟩

/-- A request that is shown, answered, and replied to. -/
def approvalRun : List Act :=
  [.sendInput "build", .drain, .isRunning, .release, .take, .readPermission (ask "r1"), .begin,
    .queueEvent, .pump, .drain, .isRunning, .release, .respondPermission "r1" "allow", .wait,
    .finish, .writeReply true]

theorem respond_permission_reached_approval :
    ∃ s, Support.System.runs next initial approvalRun = some s ∧ s.Reached 0 "r1" "allow" := by
  have hok : Support.System.runsUnder next CancelSeen initial approvalRun := by decide
  exact ⟨_, rfl, respond_permission_reached
    (Support.System.reachUnder_of_runs _ rfl hok rfl) rfl⟩

/-! ## the unseen cancellation -/

/-- `cancel` runs while the event of `r1` is still queued; its own pump then
shows `r1` although the worker leaves it, and the answer given to `r1` is taken
by `r2`. -/
def crossedRun : List Act :=
  [.sendInput "build", .drain, .isRunning, .release, .take, .readPermission (ask "r1"), .begin,
    .queueEvent, .cancel true, .drain, .isRunning, .release, .wait, .finish, .writeReply true,
    .readPermission (ask "r2"), .begin, .respondPermission "r1" "allow", .queueEvent, .wait,
    .finish, .writeReply true]

/-- **The answer can reach another request**: `respond_permission(r1, allow)`
returns `Ok`, the agent is told that `r1` was cancelled and that `r2`, which the
user never saw, was allowed. -/
theorem respond_permission_crosses :
    ¬ ∀ s, system.Reachable s → ∀ i permissionId optionId,
      s.granted[i]? = some (permissionId, optionId) → s.Reached i permissionId optionId := by
  intro hclaim
  obtain ⟨s, hs, hgranted, hanswers⟩ : ∃ s, system.Reachable s ∧
      s.granted = [("r1", "allow")] ∧
      s.answers = [⟨"r1", .cancelled, none, true⟩, ⟨"r2", .selected "allow", some 0, true⟩] :=
    ⟨_, Support.System.reachable_of_runs crossedRun rfl rfl, rfl, rfl⟩
  have hreached := hclaim s hs 0 "r1" "allow" (by simp [hgranted])
  have hid := hreached.only ⟨"r2", .selected "allow", some 0, true⟩ (by simp [hanswers]) rfl
  simp at hid

end Worker

end Slight
