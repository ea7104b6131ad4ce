import Slight.Session.Deadlock

/-!
# Slight.Session.Cancelling

`cancel` against the permission requests the worker is handling.  The call is
not one step: it writes the `session/cancel` notification and then sets the
gate's flag, while the worker thread goes on.  The gate takes the flag only
between `gate.begin` and `gate.finish`, so a cancel that reaches the gate when a
request's frame is read but `gate.begin` has not run is lost, and the worker
goes on to wait for an answer to a request the user has cancelled.

The system is the one of `Slight.Session.Worker` with its `cancel` split into
the steps of the call; `reachable_of_session` is the other direction.  `read`,
`began`, `calls`, `flaggedBy`, `because` and `replies` are history variables.
-/

namespace Slight

namespace Worker

/-! ## the calls -/

/-- Where a call of `cancel` is. -/
inductive CancelPc where
  | idle
  /-- The notification is written next. -/
  | writing
  /-- The notification is written, `gate.cancel` is next. -/
  | written
  /-- `gate.cancel` is done, the call returns `Ok` next. -/
  | signalled
  deriving DecidableEq

/-- A call of `cancel` that returned `Ok`, by the number of permission requests
the worker had read when it began and when it returned. -/
structure CancelCall where
  began : Nat
  returned : Nat
  deriving DecidableEq

/-- The reply to a permission request: the request's number, counted from one,
and the calls of `cancel` whose flag decided it. -/
structure Reply where
  request : Nat
  outcome : RequestPermissionOutcome
  because : List Nat
  deriving DecidableEq

structure Cancelling where
  session : State
  call : CancelPc
  /-- Permission requests read so far. -/
  read : Nat
  /-- Requests read when the last call of `cancel` began. -/
  began : Nat
  /-- The calls of `cancel` that returned `Ok`, in order. -/
  calls : List CancelCall
  /-- The calls that set the gate's flag since it was last cleared. -/
  flaggedBy : List Nat
  /-- The calls whose flag made `gate.wait` return. -/
  because : List Nat
  replies : List Reply

/-- The worker sleeps in `gate.wait`. -/
def State.Blocked (s : State) : Prop :=
  s.worker.stage? = some .waiting ∧ PermissionGate.poll s.gate = none

instance (s : State) : Decidable s.Blocked := inferInstanceAs (Decidable (_ ∧ _))

/-- Reads a `session/request_permission` frame, also one whose id was used
before. -/
def State.readFrame (request : PermissionRequest) (s : State) : Option State :=
  match s.worker with
  | .calling command =>
      some { s with worker := .permission command request .received
                    requested := s.requested ++ [request.permissionId] }
  | _ => none

/-- `respond_permission` of the session itself, which checks no id. -/
def State.respond (optionId : String) (s : State) : State :=
  match PermissionGate.decide (.selected optionId) s.gate with
  | .error _ => s
  | .ok gate => { s with gate }

namespace Cancelling

def initial : Cancelling where
  session := Worker.initial
  call := .idle
  read := 0
  began := 0
  calls := []
  flaggedBy := []
  because := []
  replies := []

/-! ## steps -/

inductive Label where
  /-- A step of `Slight.Session.Worker` that is still one. -/
  | session (act : Act)
  | readFrame (request : PermissionRequest)
  | respond (optionId : String)
  | beginCancel
  /-- `written` says whether the notification could be written and flushed. -/
  | writeCancel (written : Bool)
  | gateCancel
  | returnOk

/-- The worker's steps are free; the manager's need the lock, which a call of
`cancel` holds. -/
def allows (s : Cancelling) : Act → Bool
  | .cancel _ | .readPermission _ => false
  | .take | .readOther _ | .begin | .queueEvent | .wait | .finish | .writeReply _
  | .callReturns _ | .stop => true
  | _ => s.call = .idle

/-- What the history records of a step of the session. -/
def noted (s : Cancelling) : Act → Cancelling
  | .wait =>
      let flag := s.session.gate.decision.isNone && s.session.gate.cancelled
      { s with because := if flag then s.flaggedBy else [] }
  | .finish => { s with flaggedBy := [] }
  | .writeReply _ =>
      match s.session.worker with
      | .permission _ _ (.finished outcome _) =>
          { s with because := [], replies := s.replies ++ [⟨s.read, outcome, s.because⟩] }
      | _ => s
  | _ => s

def beginCancel (s : Cancelling) : Option Cancelling :=
  match s.call, s.session.manager with
  | .idle, .free => some { s with call := .writing, began := s.read }
  | _, _ => none

/-- A call that cannot write returns the error and leaves the gate alone. -/
def writeCancel (written : Bool) (s : Cancelling) : Option Cancelling :=
  match s.call with
  | .writing => some { s with call := if written then .written else .idle }
  | _ => none

def gateCancel (s : Cancelling) : Option Cancelling :=
  match s.call with
  | .written =>
      (s.session.cancel true).map fun session =>
        { s with
          session
          call := .signalled
          flaggedBy :=
            if s.session.gate.pending then s.flaggedBy ++ [s.calls.length] else s.flaggedBy }
  | _ => none

def returnOk (s : Cancelling) : Option Cancelling :=
  match s.call with
  | .signalled => some { s with call := .idle, calls := s.calls ++ [⟨s.began, s.read⟩] }
  | _ => none

def next (s : Cancelling) : Label → Option Cancelling
  | .session act =>
      if s.allows act then
        (Worker.next s.session act).map fun session => { s.noted act with session }
      else none
  | .readFrame request =>
      (s.session.readFrame request).map fun session => { s with session, read := s.read + 1 }
  | .respond optionId =>
      if s.call = .idle then some { s with session := s.session.respond optionId } else none
  | .beginCancel => s.beginCancel
  | .writeCancel written => s.writeCancel written
  | .gateCancel => s.gateCancel
  | .returnOk => s.returnOk

/-- All interleavings of the worker with the calls of the manager. -/
def system : Support.System Cancelling Label := .ofNext (· = initial) next

/-- `gate.cancel` does not run while the worker has read a request's frame,
before the call began, and has not run `gate.begin`. -/
def Keeps (s : Cancelling) : Label → Prop
  | .gateCancel => s.session.worker.stage? = some .received → s.began < s.read
  | _ => True

instance (s : Cancelling) (a : Label) : Decidable (Keeps s a) := by
  unfold Keeps
  split <;> infer_instance

/-! ## the invariant -/

/-- The gate remembers a cancellation that began with `began` requests read: the
request it meant is not still to be begun, and `gate.wait` will not sleep on
it. -/
def Heard (s : Cancelling) (began : Nat) : Prop :=
  s.read ≤ began → s.session.worker.stage? ≠ some .received ∧
    (s.session.worker.stage? = some .begun ∨ s.session.worker.stage? = some .waiting →
      s.session.gate.cancelled = true)

/-- The calls in `causes` that have returned did so with the request read. -/
def Since (calls : List CancelCall) (request : Nat) (causes : List Nat) : Prop :=
  ∀ k ∈ causes, ∀ call, calls[k]? = some call → request ≤ call.returned

end Cancelling

/-- The handler has its outcome and has not written the reply. -/
def WorkerPc.answering (worker : WorkerPc) : Bool :=
  match worker.stage? with
  | some (.released ..) | some (.finished ..) => true
  | _ => false

namespace Cancelling

structure Sound (s : Cancelling) : Prop where
  kept : s.session.GateKept
  began : s.began ≤ s.read
  heard : ∀ call ∈ s.calls, call.began ≤ s.read ∧ s.Heard call.began
  signalled : s.call = .signalled → s.Heard s.began
  flagged : Since s.calls s.read s.flaggedBy
  unflagged : s.session.worker.gated = false → s.flaggedBy = []
  because : Since s.calls s.read s.because
  unanswered : s.session.worker.answering = false → s.because = []
  replies : ∀ reply ∈ s.replies, reply.request ≤ s.read ∧
    Since s.calls reply.request reply.because

theorem Since.nil {calls : List CancelCall} {request : Nat} : Since calls request [] := by
  simp [Since]

/-- A call that returns now has every request read so far behind it. -/
theorem Since.push {calls : List CancelCall} {request : Nat} {causes : List Nat}
    (h : Since calls request causes) {call : CancelCall} (hcall : request ≤ call.returned) :
    Since (calls ++ [call]) request causes := by
  intro k hk c hc
  by_cases hlt : k < calls.length
  · rw [List.getElem?_append_left hlt] at hc
    exact h k hk c hc
  · rw [List.getElem?_append_right (Nat.le_of_not_lt hlt)] at hc
    have hmem := List.mem_of_getElem? hc
    rw [List.mem_singleton] at hmem
    rw [hmem]
    exact hcall

/-- With another request read, no earlier cancellation is about the one at
hand. -/
theorem heard_of_lt {s : Cancelling} {began : Nat} (h : began < s.read) : s.Heard began :=
  fun hle => absurd h (Nat.not_lt.mpr hle)

/-- A handler that is past `gate.wait` sleeps no more. -/
theorem heard_of_stage {s : Cancelling} {stage : Option Handling}
    (hstage : s.session.worker.stage? = stage)
    (hpast : stage ≠ some .received ∧ stage ≠ some .begun ∧ stage ≠ some .waiting)
    (began : Nat) : s.Heard began := by
  intro _
  rw [hstage]
  exact ⟨hpast.1, fun hopen => absurd hopen (not_or.mpr hpast.2)⟩

/-! ## the session's steps -/

theorem gated_of_stage {w : WorkerPc}
    (h : w.stage? = some .begun ∨ w.stage? = some .waiting) : w.gated = true := by
  cases w with
  | permission command request stage =>
      simp only [WorkerPc.stage?, Option.some.injEq] at h
      rcases h with rfl | rfl <;> rfl
  | _ => simp [WorkerPc.stage?] at h

theorem gated_congr {w w' : WorkerPc} (h : w.stage? = w'.stage?) : w.gated = w'.gated := by
  cases w with
  | permission command request stage =>
      cases w' with
      | permission command' request' stage' =>
          obtain rfl : stage = stage' := Option.some.inj h
          cases stage <;> rfl
      | _ => cases h
  | _ =>
      cases w' with
      | permission command' request' stage' => cases h
      | _ => rfl

/-- The steps that leave the handler of a permission request where it is. -/
def quiet : Act → Bool
  | .begin | .queueEvent | .wait | .finish | .writeReply _ | .readPermission _ | .cancel _ => false
  | _ => true

/-- A quiet step leaves the gate's flag alone too. -/
theorem quiet_of_next {s t : State} {a : Act} (hquiet : quiet a = true)
    (ht : Worker.next s a = some t) :
    t.worker.stage? = s.worker.stage? ∧ t.gate.cancelled = s.gate.cancelled := by
  cases a with
  | release =>
      simp only [Worker.next, State.release] at ht
      split at ht
      · next events running hm =>
          cases ht
          obtain ⟨hworker, hgate, -⟩ := State.foldl_applyEvent_worker events s
          exact ⟨congrArg WorkerPc.stage? hworker, congrArg (·.cancelled) hgate⟩
      · contradiction
  | respondPermission permissionId optionId =>
      simp only [Worker.next, State.respondPermission] at ht
      repeat' split at ht
      all_goals first
        | contradiction
        | (cases ht; exact ⟨rfl, rfl⟩)
        | skip
      next hdecide =>
        cases ht
        obtain ⟨-, rfl⟩ := PermissionGate.decide_ok_iff.mp hdecide
        exact ⟨rfl, rfl⟩
  | callReturns outcome =>
      simp only [Worker.next] at ht
      unfold State.callReturns at ht
      split at ht
      case h_4 => contradiction
      all_goals
        next hw =>
          split at ht <;> first | contradiction | cases ht
          all_goals exact ⟨by simp [WorkerPc.stage?, hw], rfl⟩
  | begin => contradiction
  | queueEvent => contradiction
  | wait => contradiction
  | finish => contradiction
  | writeReply written => contradiction
  | readPermission request => contradiction
  | cancel written => contradiction
  | _ =>
      simp only [Worker.next, State.take, State.readOther, State.stop, State.pump,
        State.sendInput, State.setMode, State.setConfigOption, State.callSync,
        State.receiveReply, State.drain, State.isRunning] at ht
      repeat' split at ht
      all_goals first
        | contradiction
        | (cases ht; exact ⟨rfl, rfl⟩)
        | (cases ht; exact ⟨by simp [WorkerPc.stage?, *], rfl⟩)

/-! ### the gate -/

theorem gateKept_readFrame {s t : State} {request : PermissionRequest} (h : s.GateKept)
    (ht : s.readFrame request = some t) : t.GateKept := by
  unfold State.readFrame at ht
  split at ht
  · next hw =>
      cases ht
      exact h.frame rfl (by simp [WorkerPc.gated, hw])
  · contradiction

theorem gateKept_respond {s : State} (h : s.GateKept) (optionId : String) :
    (s.respond optionId).GateKept := by
  unfold State.respond
  split
  · exact h
  · next gate hdecide =>
      obtain ⟨hpending, rfl⟩ := PermissionGate.decide_ok_iff.mp hdecide
      have hgated : s.worker.gated = true := h.pending ▸ hpending
      exact ⟨h.closed, h.pending, by simp [hgated]⟩

theorem gateKept_step {s t : Cancelling} {a : Label} (h : s.session.GateKept)
    (ht : next s a = some t) : t.session.GateKept := by
  cases a with
  | session act =>
      simp only [next] at ht
      split at ht
      · obtain ⟨session, hsession, rfl⟩ := Option.map_eq_some_iff.mp ht
        exact h.step hsession
      · contradiction
  | readFrame request =>
      obtain ⟨session, hsession, rfl⟩ := Option.map_eq_some_iff.mp ht
      exact gateKept_readFrame h hsession
  | respond optionId =>
      simp only [next] at ht
      split at ht
      · cases ht
        exact gateKept_respond h optionId
      · contradiction
  | gateCancel =>
      simp only [next, gateCancel] at ht
      split at ht
      · obtain ⟨session, hsession, rfl⟩ := Option.map_eq_some_iff.mp ht
        exact h.cancel hsession
      · contradiction
  | _ =>
      simp only [next, beginCancel, writeCancel, returnOk] at ht
      split at ht
      · cases ht
        exact h
      · contradiction

namespace Sound

/-- A step of the session that the history does not record. -/
theorem move {s : Cancelling} {session : State} (h : s.Sound) (hkept : session.GateKept)
    (hheard : ∀ began, s.Heard began → Heard { s with session } began)
    (hgated : session.worker.gated = false → s.flaggedBy = [])
    (hanswering : session.worker.answering = false → s.because = []) :
    Sound { s with session } where
  kept := hkept
  began := h.began
  heard call hcall := ⟨(h.heard call hcall).1, hheard _ (h.heard call hcall).2⟩
  signalled hcall := hheard _ (h.signalled hcall)
  flagged := h.flagged
  unflagged := hgated
  because := h.because
  unanswered := hanswering
  replies := h.replies

theorem stay {s : Cancelling} {session : State} (h : s.Sound) (hkept : session.GateKept)
    (hstage : session.worker.stage? = s.session.worker.stage?)
    (hflag : session.gate.cancelled = s.session.gate.cancelled) : Sound { s with session } := by
  refine h.move hkept ?_ ?_ ?_
  · intro began hb hle
    show session.worker.stage? ≠ _ ∧ (session.worker.stage? = _ ∨ session.worker.stage? = _ →
      session.gate.cancelled = true)
    rw [hstage, hflag]
    exact hb hle
  · rw [gated_congr hstage]
    exact h.unflagged
  · rw [WorkerPc.answering, hstage]
    exact h.unanswered

theorem begin {s : Cancelling} {session : State} (h : s.Sound)
    (ht : s.session.begin = some session) : Sound { s with session } := by
  have hkept := h.kept.begin ht
  unfold State.begin at ht
  split at ht
  · next command request hw =>
      cases ht
      refine h.move hkept ?_ ?_ ?_
      · intro began hb hle
        exact absurd (by rw [hw]; rfl) (hb hle).1
      · simp [WorkerPc.gated]
      · intro _
        exact h.unanswered (by rw [hw]; rfl)
  · contradiction

theorem queueEvent {s : Cancelling} {session : State} (h : s.Sound)
    (ht : s.session.queueEvent = some session) : Sound { s with session } := by
  have hkept : session.GateKept := h.kept.step (a := .queueEvent) ht
  unfold State.queueEvent at ht
  split at ht
  · next command request hw =>
      cases ht
      refine h.move hkept ?_ ?_ ?_
      · intro began hb hle
        refine ⟨by simp [WorkerPc.stage?], fun _ => ?_⟩
        exact (hb hle).2 (.inl (by rw [hw]; rfl))
      · simp [WorkerPc.gated]
      · intro _
        exact h.unanswered (by rw [hw]; rfl)
  · contradiction

/-- `gate.wait` returns: the calls it heard are those that set the flag. -/
theorem wait {s : Cancelling} {session : State} (h : s.Sound)
    (ht : s.session.wait = some session) : Sound { s.noted .wait with session } := by
  have hkept := h.kept.wait ht
  unfold State.wait at ht
  split at ht
  · next command request hw =>
      obtain ⟨⟨outcome, gate⟩, -, hsession⟩ := Option.map_eq_some_iff.mp ht
      have hheard : ∀ began, Heard { s.noted .wait with session } began := by
        refine heard_of_stage (by rw [← hsession]) ?_
        simp [WorkerPc.stage?]
      subst hsession
      refine ⟨hkept, h.began, fun call hcall => ⟨(h.heard call hcall).1, hheard _⟩,
        fun _ => hheard _, h.flagged, by simp [WorkerPc.gated], ?_, ?_, h.replies⟩
      · show Since s.calls s.read (if _ then s.flaggedBy else [])
        split
        · exact h.flagged
        · exact .nil
      · simp [WorkerPc.answering, WorkerPc.stage?]
  · contradiction

theorem finish {s : Cancelling} {session : State} (h : s.Sound)
    (ht : s.session.finish = some session) : Sound { s.noted .finish with session } := by
  have hkept := h.kept.finish ht
  unfold State.finish at ht
  split at ht
  · next command request outcome cause hw =>
      have hsession := Option.some.inj ht
      have hheard : ∀ began, Heard { s.noted .finish with session } began := by
        refine heard_of_stage (by rw [← hsession]) ?_
        simp [WorkerPc.stage?]
      subst hsession
      exact ⟨hkept, h.began, fun call hcall => ⟨(h.heard call hcall).1, hheard _⟩,
        fun _ => hheard _, .nil, fun _ => rfl, h.because,
        by simp [WorkerPc.answering, WorkerPc.stage?], h.replies⟩
  · contradiction

theorem writeReply {s : Cancelling} {session : State} {written : Bool} (h : s.Sound)
    (ht : s.session.writeReply written = some session) :
    Sound { s.noted (.writeReply written) with session } := by
  have hkept : session.GateKept := h.kept.step (a := .writeReply written) ht
  unfold State.writeReply at ht
  split at ht
  · next command request outcome cause hw =>
      have hworker : session.worker.stage? = none := by
        repeat' split at ht
        all_goals
          cases ht
          rfl
      have hnoted : s.noted (.writeReply written) =
          { s with because := [], replies := s.replies ++ [⟨s.read, outcome, s.because⟩] } := by
        simp only [noted, hw]
      have hheard : ∀ began, Heard { s with
          session, because := [], replies := s.replies ++ [⟨s.read, outcome, s.because⟩] }
          began :=
        heard_of_stage hworker (by simp)
      rw [hnoted]
      refine ⟨hkept, h.began, fun call hcall => ⟨(h.heard call hcall).1, hheard _⟩,
        fun _ => hheard _, h.flagged, ?_, .nil, fun _ => rfl, ?_⟩
      · intro _
        exact h.unflagged (by rw [hw]; rfl)
      · intro reply hreply
        rcases List.mem_append.mp hreply with hold | hnew
        · exact h.replies reply hold
        · rw [List.mem_singleton] at hnew
          subst hnew
          exact ⟨Nat.le_refl _, h.because⟩
  · contradiction

/-! ### the calls -/

/-- The next request: whatever was set for the last one has been cleared. -/
theorem readFrame {s : Cancelling} {session : State} {request : PermissionRequest} (h : s.Sound)
    (ht : s.session.readFrame request = some session) :
    Sound { s with session, read := s.read + 1 } := by
  have hkept := gateKept_readFrame h.kept ht
  unfold State.readFrame at ht
  split at ht
  · next command hw =>
      cases ht
      have hflagged : s.flaggedBy = [] := h.unflagged (by rw [hw]; rfl)
      have hbecause : s.because = [] := h.unanswered (by rw [hw]; rfl)
      refine ⟨hkept, Nat.le_succ_of_le h.began,
        ?_, fun _ => heard_of_lt (Nat.lt_succ_of_le h.began), ?_, fun _ => hflagged, ?_,
        fun _ => hbecause, ?_⟩
      · intro call hcall
        have hle := (h.heard call hcall).1
        exact ⟨Nat.le_succ_of_le hle, heard_of_lt (Nat.lt_succ_of_le hle)⟩
      · rw [hflagged]
        exact .nil
      · rw [hbecause]
        exact .nil
      · intro reply hreply
        exact ⟨Nat.le_succ_of_le (h.replies reply hreply).1, (h.replies reply hreply).2⟩
  · contradiction

theorem respond {s : Cancelling} (h : s.Sound) (optionId : String) :
    Sound { s with session := s.session.respond optionId } := by
  have hsame : (s.session.respond optionId).worker = s.session.worker ∧
      (s.session.respond optionId).gate.cancelled = s.session.gate.cancelled := by
    unfold State.respond
    split
    · exact ⟨rfl, rfl⟩
    · next hdecide =>
        obtain ⟨-, rfl⟩ := PermissionGate.decide_ok_iff.mp hdecide
        exact ⟨rfl, rfl⟩
  exact h.stay (gateKept_respond h.kept optionId) (congrArg WorkerPc.stage? hsame.1) hsame.2

theorem beginCancel {s t : Cancelling} (h : s.Sound) (ht : s.beginCancel = some t) : t.Sound := by
  unfold Cancelling.beginCancel at ht
  split at ht
  · cases ht
    exact ⟨h.kept, Nat.le_refl _, h.heard, by simp, h.flagged, h.unflagged, h.because,
      h.unanswered, h.replies⟩
  · contradiction

theorem writeCancel {s t : Cancelling} {written : Bool} (h : s.Sound)
    (ht : s.writeCancel written = some t) : t.Sound := by
  unfold Cancelling.writeCancel at ht
  split at ht
  · cases ht
    exact ⟨h.kept, h.began, h.heard, by cases written <;> simp, h.flagged, h.unflagged,
      h.because, h.unanswered, h.replies⟩
  · contradiction

/-- The flag counts from `gate.begin` on, and the guard excludes the window
before it. -/
theorem gateCancel {s t : Cancelling} (h : s.Sound) (hok : Keeps s .gateCancel)
    (ht : s.gateCancel = some t) : t.Sound := by
  unfold Cancelling.gateCancel at ht
  split at ht
  · obtain ⟨session, hsession, rfl⟩ := Option.map_eq_some_iff.mp ht
    have hkept := h.kept.cancel hsession
    unfold State.cancel at hsession
    split at hsession
    · simp only [if_true, Option.some.injEq] at hsession
      subst hsession
      have hpending := h.kept.pending
      have hheard : ∀ began, began ≤ s.began ∨ s.Heard began → Heard { s with
          session := { s.session with
            manager := .pumping, gate := PermissionGate.cancel s.session.gate,
            pendingPermission := none }
          call := .signalled
          flaggedBy :=
            if s.session.gate.pending then s.flaggedBy ++ [s.calls.length] else s.flaggedBy }
          began := by
        intro began hb hle
        refine ⟨fun hstage => ?_, fun hstage => ?_⟩
        · rcases hb with hb | hb
          · have hlt : s.began < s.read := hok hstage
            have hle : s.read ≤ began := hle
            omega
          · exact (hb hle).1 hstage
        · have hgated : s.session.worker.gated = true := gated_of_stage hstage
          rw [hgated] at hpending
          simp [PermissionGate.cancel, hpending]
      refine ⟨hkept, h.began, ?_, fun _ => hheard _ (.inl (Nat.le_refl _)), ?_, ?_, h.because,
        h.unanswered, h.replies⟩
      · intro call hcall
        exact ⟨(h.heard call hcall).1, hheard _ (.inr (h.heard call hcall).2)⟩
      · show Since s.calls s.read (if _ then s.flaggedBy ++ [s.calls.length] else s.flaggedBy)
        split
        · intro k hk call hcall
          rcases List.mem_append.mp hk with hold | hnew
          · exact h.flagged k hold call hcall
          · rw [List.mem_singleton] at hnew
            rw [hnew, List.getElem?_eq_none (Nat.le_refl _)] at hcall
            contradiction
        · exact h.flagged
      · intro hgated
        have hgated : s.session.worker.gated = false := hgated
        show (if _ then s.flaggedBy ++ [s.calls.length] else s.flaggedBy) = []
        rw [hpending, hgated]
        exact h.unflagged hgated
    · contradiction
  · contradiction

theorem returnOk {s t : Cancelling} (h : s.Sound) (ht : s.returnOk = some t) : t.Sound := by
  unfold Cancelling.returnOk at ht
  split at ht
  · next hcall =>
      cases ht
      refine ⟨h.kept, h.began, ?_, by simp, h.flagged.push (Nat.le_refl _), h.unflagged,
        h.because.push (Nat.le_refl _), h.unanswered, ?_⟩
      · intro call hmem
        rcases List.mem_append.mp hmem with hold | hnew
        · exact h.heard call hold
        · rw [List.mem_singleton] at hnew
          subst hnew
          exact ⟨h.began, h.signalled hcall⟩
      · intro reply hreply
        obtain ⟨hle, hsince⟩ := h.replies reply hreply
        exact ⟨hle, hsince.push hle⟩
  · contradiction

/-- **Step lemma**. -/
theorem step {s t : Cancelling} {a : Label} (h : s.Sound) (hok : Keeps s a)
    (ht : next s a = some t) : t.Sound := by
  cases a with
  | session act =>
      simp only [next] at ht
      split at ht
      case isFalse => contradiction
      next hallows =>
        obtain ⟨session, hsession, rfl⟩ := Option.map_eq_some_iff.mp ht
        cases act with
        | begin => exact h.begin hsession
        | queueEvent => exact h.queueEvent hsession
        | wait => exact h.wait hsession
        | finish => exact h.finish hsession
        | writeReply written => exact h.writeReply hsession
        | readPermission request => contradiction
        | cancel written => contradiction
        | _ =>
            obtain ⟨hstage, hflag⟩ := quiet_of_next rfl hsession
            exact h.stay (h.kept.step hsession) hstage hflag
  | readFrame request =>
      obtain ⟨session, hsession, rfl⟩ := Option.map_eq_some_iff.mp ht
      exact h.readFrame hsession
  | respond optionId =>
      simp only [next] at ht
      split at ht
      · cases ht
        exact h.respond optionId
      · contradiction
  | beginCancel => exact h.beginCancel ht
  | writeCancel written => exact h.writeCancel ht
  | gateCancel => exact h.gateCancel hok ht
  | returnOk => exact h.returnOk ht

theorem initial : Cancelling.initial.Sound where
  kept := ⟨rfl, rfl, fun _ => rfl⟩
  began := Nat.le_refl _
  heard := by simp [Cancelling.initial]
  signalled := by simp [Cancelling.initial]
  flagged := .nil
  unflagged _ := rfl
  because := .nil
  unanswered _ := rfl
  replies := by simp [Cancelling.initial]

end Sound

/-! ## runs -/

/-- **A cancel is not slept through**: while no `gate.cancel` falls between the
read of a request's frame and its `gate.begin`, the worker never sleeps in
`gate.wait` on a request it had read when a `cancel` that returned `Ok` began,
and no reply is due to the flag of a call that had returned when its request was
read. -/
theorem cancel_reaches_waiting {s : Cancelling} (h : system.ReachUnder Keeps s) :
    (∀ call ∈ s.calls, s.session.Blocked → call.began < s.read) ∧
      ∀ reply ∈ s.replies, ∀ k ∈ reply.because, ∀ call, s.calls[k]? = some call →
        reply.request ≤ call.returned := by
  have hsound : s.Sound :=
    Support.System.invariant_of_step (fun _ hinit => hinit ▸ .initial)
      (fun _ _ _ hs hok ht => hs.step hok ht) h
  refine ⟨fun call hcall hblocked => ?_, fun reply hreply => (hsound.replies reply hreply).2⟩
  by_contra hlt
  have hflag := ((hsound.heard call hcall).2 (Nat.le_of_not_lt hlt)).2 (.inr hblocked.1)
  have hasleep := ((PermissionGate.poll_eq_none_iff _).mp hblocked.2).2.1
  rw [hflag] at hasleep
  contradiction

/-- The labels up to the frame of the first permission request. -/
def sampleRead : List Label :=
  [.session (.sendInput "build"), .session .drain, .session .isRunning, .session .release,
    .session .take, .readFrame (ask "r1")]

/-- `r1` is cancelled while the worker waits, `r2` comes after it. -/
def sampleCancel : List Label :=
  sampleRead ++
    [.session .begin, .session .queueEvent, .beginCancel, .writeCancel true, .gateCancel,
      .returnOk, .session .wait, .session .finish, .session (.writeReply true),
      .readFrame (ask "r2"), .session .begin, .session .queueEvent]

theorem cancel_reaches_waiting_sample :
    ∃ s : Cancelling, Support.System.runs next initial sampleCancel = some s ∧
      s.calls = [⟨1, 1⟩] ∧ s.replies = [⟨1, .cancelled, [0]⟩] ∧ s.session.Blocked ∧
      (∀ call ∈ s.calls, s.session.Blocked → call.began < s.read) ∧
      ∀ reply ∈ s.replies, ∀ k ∈ reply.because, ∀ call, s.calls[k]? = some call →
        reply.request ≤ call.returned := by
  have hok : Support.System.runsUnder next Keeps initial sampleCancel := by decide +kernel
  exact ⟨_, rfl, rfl, rfl, ⟨rfl, rfl⟩,
    cancel_reaches_waiting (Support.System.reachUnder_of_runs _ rfl hok rfl)⟩

/-- The steps of `cancel` and `respond_permission`. -/
def Label.answers : Label → Bool
  | .beginCancel | .writeCancel _ | .gateCancel | .returnOk | .respond _
  | .session (.respondPermission ..) => true
  | _ => false

/-- The cancel reaches the gate one step before `gate.begin`. -/
def sampleLost : List Label := sampleRead ++ [.beginCancel, .writeCancel true, .gateCancel]

/-- **A cancel can be lost**: it returned `Ok`, no other call follows, and the worker
sleeps on the request it had read before. -/
theorem cancel_lost :
    ¬ ∀ (before after : List Label) (s t : Cancelling),
      Support.System.runs next initial (before ++ [.returnOk]) = some s →
      (∀ a ∈ after, a.answers = false) → Support.System.runs next s after = some t →
      ∀ call ∈ s.calls, t.session.Blocked → call.began < t.read := by
  intro hclaim
  have hlt := hclaim sampleLost [.session .begin, .session .queueEvent] _ _ rfl (by decide) rfl
    ⟨1, 1⟩ (List.mem_singleton_self _) ⟨rfl, rfl⟩
  exact absurd hlt (Nat.lt_irrefl 1)

/-- A worker that has read a request's frame goes to sleep in `gate.wait` when
nothing is decided. -/
theorem blocked_of_received {s : Cancelling} {command : WorkerCommand}
    {request : PermissionRequest} (hw : s.session.worker = .permission command request .received)
    (hpoll : PermissionGate.poll s.session.gate = none) :
    ∃ u, Support.System.runs next s [.session .begin, .session .queueEvent] = some u ∧
      u.session.Blocked ∧ u.calls = s.calls ∧ u.read = s.read := by
  have hbegin : next s (.session .begin) = some { s with session := { s.session with
      worker := .permission command request .begun
      gate := PermissionGate.begin s.session.gate } } := by
    simp only [next, allows, if_true, Worker.next, State.begin, hw, Option.map_some, noted]
  exact ⟨_, (Support.System.runs_cons hbegin _).trans rfl,
    ⟨rfl, (State.poll_begin s.session.gate).mpr hpoll⟩, rfl, rfl⟩

/-- **The condition is exact**: every `gate.cancel` in the window is lost. -/
theorem blocked_of_lost {s t : Cancelling} (hs : system.Reachable s)
    (ht : next s .gateCancel = some t) (hbad : ¬ Keeps s .gateCancel) :
    ∃ as u, Support.System.runs next t as = some u ∧ u.session.Blocked ∧
      ∃ call ∈ u.calls, u.read ≤ call.began := by
  have hkept : s.session.GateKept :=
    Support.System.invariant_of_step (I := fun s => s.session.GateKept)
      (fun _ hinit => hinit ▸ ⟨rfl, rfl, fun _ => rfl⟩)
      (fun _ _ _ hs _ ht => gateKept_step hs ht) hs
  simp only [Keeps, Classical.not_imp, Nat.not_lt] at hbad
  obtain ⟨hstage, hle⟩ := hbad
  cases hw : s.session.worker with
  | permission command request stage =>
      rw [hw] at hstage
      simp only [WorkerPc.stage?, Option.some.injEq] at hstage
      subst hstage
      have hgate : s.session.gate = {} := hkept.clear (by rw [hw]; rfl)
      simp only [next, gateCancel] at ht
      split at ht
      case h_2 => contradiction
      obtain ⟨session, hsession, rfl⟩ := Option.map_eq_some_iff.mp ht
      unfold State.cancel at hsession
      split at hsession
      case h_2 => contradiction
      simp only [if_true, Option.some.injEq] at hsession
      subst hsession
      have hpoll : PermissionGate.poll (PermissionGate.cancel s.session.gate) = none := by
        rw [hgate]
        rfl
      -- nothing stops the worker on its way from here into `gate.wait`
      obtain ⟨u, hruns, hblocked, hcalls, hread⟩ := blocked_of_received (s := { s with
        session := { s.session with
          manager := .pumping, gate := PermissionGate.cancel s.session.gate,
          pendingPermission := none }
        call := .idle
        calls := s.calls ++ [⟨s.began, s.read⟩]
        flaggedBy :=
          if s.session.gate.pending then s.flaggedBy ++ [s.calls.length] else s.flaggedBy })
        hw hpoll
      refine ⟨[.returnOk, .session .begin, .session .queueEvent], u,
        (Support.System.runs_cons rfl _).trans hruns, hblocked, ⟨s.began, s.read⟩, ?_, ?_⟩
      · rw [hcalls]
        exact List.mem_append_right _ (List.mem_singleton_self _)
      · rw [hread]
        exact hle
  | _ => simp [hw, WorkerPc.stage?] at hstage

/-! ## the session on its own -/

theorem reachable_next {s : Cancelling} {w : State} {act : Act} (hs : system.Reachable s)
    (hallows : s.allows act = true) (hstep : Worker.next s.session act = some w) :
    ∃ t : Cancelling, system.Reachable t ∧ t.session = w ∧ t.call = s.call := by
  have hcall : (s.noted act).call = s.call := by
    unfold noted
    repeat' split
    all_goals rfl
  refine ⟨{ s.noted act with session := w }, .step (a := .session act) hs trivial ?_, rfl, hcall⟩
  show (if s.allows act then _ else _) = _
  rw [if_pos hallows, hstep]
  rfl

/-- **The split is faithful**: every run of the session in which `cancel` is one
step is a run of the split one. -/
theorem reachable_of_session {w : State} (h : Worker.system.Reachable w) :
    ∃ s : Cancelling, system.Reachable s ∧ s.session = w ∧ s.call = .idle := by
  induction h with
  | init hinit =>
      cases hinit
      exact ⟨initial, .init rfl, rfl, rfl⟩
  | @step v w act _ _ hstep ih =>
      obtain ⟨s, hs, rfl, hcall⟩ := ih
      cases act with
      | cancel written =>
          change s.session.cancel written = some w at hstep
          have hw := hstep
          unfold State.cancel at hstep
          split at hstep
          case h_2 => contradiction
          next hfree =>
            have hbegun : system.Reachable { s with call := .writing, began := s.read } := by
              refine .step (a := .beginCancel) hs trivial ?_
              show s.beginCancel = _
              simp only [beginCancel, hcall, hfree]
            cases written with
            | false =>
                cases hstep
                exact ⟨_, .step (a := .writeCancel false) hbegun trivial rfl, rfl, rfl⟩
            | true =>
                have hsignalled : next { s with call := .written, began := s.read } .gateCancel =
                    some { s with
                      session := w
                      call := .signalled
                      began := s.read
                      flaggedBy :=
                        if s.session.gate.pending then s.flaggedBy ++ [s.calls.length]
                        else s.flaggedBy } := by
                  simp only [next, gateCancel, hw, Option.map_some]
                have hwritten : system.Reachable
                    { s with call := .written, began := s.read } :=
                  .step (a := .writeCancel true) hbegun trivial rfl
                exact ⟨_, .step (a := .returnOk) (.step (a := .gateCancel) hwritten trivial
                  hsignalled) trivial rfl, rfl, rfl⟩
      | readPermission request =>
          change s.session.readPermission request = some w at hstep
          have hframe : s.session.readFrame request = some w := by
            unfold State.readPermission at hstep
            split at hstep
            · next hw =>
                split at hstep
                · contradiction
                · rw [State.readFrame, hw]
                  exact hstep
            · contradiction
          refine ⟨{ s with session := w, read := s.read + 1 },
            .step (a := .readFrame request) hs trivial ?_, rfl, hcall⟩
          show (s.session.readFrame request).map _ = _
          rw [hframe]
          rfl
      | _ =>
          obtain ⟨t, ht, hsession, hsame⟩ :=
            reachable_next hs (by simp [allows, hcall]) hstep
          exact ⟨t, ht, hsession, hsame.trans hcall⟩

end Cancelling

end Worker

end Slight
