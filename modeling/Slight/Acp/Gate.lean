import Slight.Acp.Types

/-!
# Slight.Acp.Gate

The permission gate between the worker thread of an agent session, blocked
inside the request handler, and the manager, which answers it.  The gate holds
one decision at a time and no request id: which request a decision belongs to
is decided only by who is waiting.

Every operation runs under the gate's own mutex, so each is one atomic step.
`PermissionGate::wait` is a loop around a condition variable; `poll` is one pass
of the loop, `none` when the thread goes back to sleep.
-/

namespace Slight

/-- The answer written for a `session/request_permission` request. -/
inductive RequestPermissionOutcome where
  | cancelled
  | selected (optionId : String)
  deriving DecidableEq

/-- What is behind the mutex of the gate: whether a request waits, and what was decided for
it. -/
structure PermissionGateState where
  pending : Bool := false
  decision : Option RequestPermissionOutcome := none
  cancelled : Bool := false
  closed : Bool := false
  deriving DecidableEq

namespace PermissionGate

/-- A request is about to be shown. -/
def begin (gate : PermissionGateState) : PermissionGateState :=
  { gate with pending := true }

/-- The request was answered, whatever else was said about it meanwhile. -/
def finish (gate : PermissionGateState) : PermissionGateState :=
  { gate with pending := false, decision := none, cancelled := false }

/-- The user's answer; one that comes when no request waits is refused. -/
def decide (outcome : RequestPermissionOutcome) (gate : PermissionGateState) :
    Except AcpError PermissionGateState :=
  if !gate.pending then .error ⟨"no permission request is pending"⟩
  else .ok { gate with decision := some outcome }

/-- Cancels the request that waits, if one does. -/
def cancel (gate : PermissionGateState) : PermissionGateState :=
  if gate.pending then { gate with cancelled := true } else gate

/-- One pass of the waiting loop: a decision is taken before a cancellation is
looked at. -/
def poll (gate : PermissionGateState) :
    Option (RequestPermissionOutcome × PermissionGateState) :=
  match gate.decision with
  | some outcome => some (outcome, { gate with decision := none })
  | none => if gate.cancelled || gate.closed then some (.cancelled, gate) else none

/-- The waiting loop goes back to sleep exactly when nothing was decided. -/
theorem poll_eq_none_iff (gate : PermissionGateState) :
    poll gate = none ↔ gate.decision = none ∧ gate.cancelled = false ∧ gate.closed = false := by
  unfold poll
  cases gate.decision <;> simp

/-- A decision is taken exactly while a request waits, and replaces an earlier one. -/
theorem decide_ok_iff {outcome : RequestPermissionOutcome} {gate gate' : PermissionGateState} :
    decide outcome gate = .ok gate' ↔
      gate.pending = true ∧ gate' = { gate with decision := some outcome } := by
  unfold decide
  cases gate.pending <;> simp [eq_comm]

end PermissionGate

end Slight
