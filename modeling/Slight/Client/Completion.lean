import Slight.Client.Deferral
import Slight.Support.System

/-!
# Slight.Client.Completion

What becomes of the calls of `send`.  A call that finds a transport waits on a
continuation in `pending`; an acknowledgement, an error that names it, its timeout, a
failure to send it, or a disconnect takes the continuation out and resumes it.

`Calling` is a connection with the calls made on it, the timeout tasks and the
continuations resumed so far.  The handlers of the connection are its atomic steps, and
they come in any order.
-/

namespace Slight

open Support

/-! ## what a handler leaves of the requests -/

namespace GatewayConnection

/-- From `s` to `t` the same requests are waited for. -/
structure SameRequests (s t : GatewayConnection) : Prop where
  pending : t.pending = s.pending
  timeouts : t.timeouts = s.timeouts
  drawn : s.nextRequest ≤ t.nextRequest

namespace SameRequests

variable {s t u : GatewayConnection}

theorem refl (s : GatewayConnection) : SameRequests s s := ⟨rfl, rfl, Nat.le_refl _⟩

theorem trans (h : SameRequests s t) (h' : SameRequests t u) : SameRequests s u where
  pending := h'.pending.trans h.pending
  timeouts := h'.timeouts.trans h.timeouts
  drawn := Nat.le_trans h.drawn h'.drawn

theorem emit (h : SameRequests s t) (value : GatewayInbound) : SameRequests s (t.emit value) :=
  ⟨h.pending, h.timeouts, h.drawn⟩

theorem handleState (h : SameRequests s t) (event : ConnectionStateMachine.Event) :
    SameRequests s (t.handleState event) :=
  ⟨h.pending, h.timeouts, h.drawn⟩

theorem markConnected (h : SameRequests s t) : SameRequests s t.markConnected := by
  unfold GatewayConnection.markConnected
  split
  · exact h.handleState _
  · exact h

theorem requestReplay (h : SameRequests s t) (sessionId : String) (fromSequence received : Nat) :
    SameRequests s (t.requestReplay sessionId fromSequence received) :=
  ⟨h.pending, h.timeouts, Nat.le_succ_of_le h.drawn⟩

theorem handleEvent (h : SameRequests s t) (event : GatewayEvent) :
    SameRequests s (t.handleEvent event) := by
  unfold GatewayConnection.handleEvent
  have hjournal : ∀ journal : EventJournal, SameRequests s { t with journal } :=
    fun journal => ⟨h.pending, h.timeouts, h.drawn⟩
  split
  · exact ((hjournal _).markConnected.emit _).emit _
  · dsimp only
    split
    · exact (hjournal _).emit _
    · exact (hjournal _).emit _
    · split
      · exact ⟨h.pending, h.timeouts, h.drawn⟩
      · exact (((hjournal _).handleState _).emit _).requestReplay _ _ _

theorem foldl_handleEvent (h : SameRequests s t) (events : List GatewayEvent) :
    SameRequests s (events.foldl GatewayConnection.handleEvent t) := by
  induction events generalizing t with
  | nil => exact h
  | cons event events ih => exact ih (h.handleEvent event)

theorem restoreAttachments (h : SameRequests s t) : SameRequests s t.restoreAttachments := by
  unfold GatewayConnection.restoreAttachments
  generalize t.attachedSessions = sessions
  induction sessions generalizing t with
  | nil => exact h
  | cons sessionId sessions ih => exact ih ((h.emit _).requestReplay _ _ _)

theorem ingestAttachResult (h : SameRequests s t) (ack : GatewayAck) (isBackgroundReplay : Bool) :
    SameRequests s (t.ingestAttachResult ack isBackgroundReplay) := by
  unfold GatewayConnection.ingestAttachResult
  split
  · exact h
  · next attach _ =>
      split
      · have hreplayed := h.foldl_handleEvent attach.replayed
        unfold ingestBackgroundResult
        dsimp only
        split
        · exact (hreplayed.emit _).requestReplay _ _ _
        · exact hreplayed.markConnected.emit _
      · unfold ingestForegroundResult
        dsimp only
        refine .emit ?_ _
        split <;> exact ⟨h.pending, h.timeouts, h.drawn⟩

end SameRequests

/-- From `s` to `t` one request is not waited for any more. -/
structure DropsRequest (requestId : RequestId) (s t : GatewayConnection) : Prop where
  pending : t.pending = s.pending.erase requestId
  timeouts : t.timeouts = s.timeouts.erase requestId
  drawn : s.nextRequest ≤ t.nextRequest

theorem DropsRequest.trans {requestId : RequestId} {s t u : GatewayConnection}
    (h : DropsRequest requestId s t) (h' : SameRequests t u) : DropsRequest requestId s u where
  pending := h'.pending.trans h.pending
  timeouts := h'.timeouts.trans h.timeouts
  drawn := Nat.le_trans h.drawn h'.drawn

theorem sameRequests_dropAttach (s : GatewayConnection) (attach : Option String) :
    SameRequests s (s.dropAttach attach) := by
  cases attach <;> exact ⟨rfl, rfl, Nat.le_refl _⟩

theorem dropsRequest_failPending (s : GatewayConnection) (requestId : RequestId) :
    DropsRequest requestId s (s.failPending requestId) := by
  have hsame :=
    sameRequests_dropAttach s (s.pendingAttachSessionByRequest.lookup requestId)
  constructor
  · exact congrArg (List.erase · requestId) hsame.pending
  · exact congrArg (List.erase · requestId) hsame.timeouts
  · exact hsame.drawn

theorem sameRequests_releaseDeferred (s : GatewayConnection) (sessionId : String) :
    SameRequests s (s.releaseDeferred sessionId) := by
  unfold releaseDeferred
  dsimp only
  refine .foldl_handleEvent ?_ _
  exact ⟨rfl, rfl, Nat.le_refl _⟩

/-- An acknowledgement answers the request it names, and no other. -/
theorem dropsRequest_handleAck (s : GatewayConnection) (ack : GatewayAck) :
    DropsRequest ack.requestId s (s.handleAck ack) := by
  have hacknowledged : DropsRequest ack.requestId s (s.acknowledged ack) := by
    unfold acknowledged
    dsimp only
    split
    · split
      · refine .trans ?_ ((SameRequests.refl _).ingestAttachResult _ _)
        exact ⟨rfl, rfl, Nat.le_refl _⟩
      · exact ⟨rfl, rfl, Nat.le_refl _⟩
    · exact ⟨rfl, rfl, Nat.le_refl _⟩
  rw [handleAck_eq]
  cases s.pendingAttachSessionByRequest.lookup ack.requestId with
  | none => exact hacknowledged.trans ((SameRequests.refl _).emit _)
  | some sessionId =>
      exact hacknowledged.trans ((sameRequests_releaseDeferred _ sessionId).emit _)

/-- No request is waited for, and nothing is kept for one. -/
structure Cleared (connection : GatewayConnection) : Prop where
  pending : connection.pending = []
  commandNames : connection.pendingCommandNames = ∅
  attachSessions : connection.pendingAttachSessions = []
  attachRequests : connection.pendingAttachSessionByRequest = ∅
  deferredEvents : connection.deferredAttachEvents = ∅
  timeouts : connection.timeouts = []

theorem cleared_failAllPending (s : GatewayConnection) : s.failAllPending.Cleared :=
  ⟨rfl, rfl, rfl, rfl, rfl, rfl⟩

theorem Cleared.emit {s : GatewayConnection} (h : s.Cleared) (value : GatewayInbound) :
    (s.emit value).Cleared :=
  ⟨h.pending, h.commandNames, h.attachSessions, h.attachRequests, h.deferredEvents, h.timeouts⟩

theorem cleared_disconnected (s : GatewayConnection) (message : String) :
    (s.disconnected message).Cleared := by
  have hfed : ∀ event, ((s.emit (.serverError
      { code := "connection_attempt_failed", message })).failAllPending.handleState event).Cleared :=
    fun event => ⟨rfl, rfl, rfl, rfl, rfl, rfl⟩
  unfold disconnected
  dsimp only
  split
  · exact (hfed (.disconnected (some message))).emit _
  · split
    · exact (hfed (.disconnected (some message))).emit _
    · exact hfed (.disconnected (some message))

theorem nextRequest_disconnected (s : GatewayConnection) (message : String) :
    (s.disconnected message).nextRequest = s.nextRequest := by
  unfold disconnected
  dsimp only
  split
  · rfl
  · split <;> rfl

end GatewayConnection

/-! ## a connection with its calls -/

/-- What a call of `send` may throw; `unsent` stands for the errors of the transport and of
the encoder. -/
inductive GatewayConnectionError where
  | transportClosed
  | commandTimedOut (requestId : RequestId)
  | commandFailed (requestId : RequestId) (code message : String)
  | unsent (description : String)
  deriving DecidableEq

/-- What a continuation is resumed with. -/
inductive Resumption where
  | returning (ack : GatewayAck)
  | throwing (error : GatewayConnectionError)

/-- A connection with its calls. -/
structure Calling where
  connection : GatewayConnection
  /-- There is a transport. -/
  transport : Bool := false
  /-- The calls that wait, or waited, on a continuation. -/
  calls : List RequestId := []
  /-- The timeout tasks that sleep. -/
  timers : List RequestId := []
  /-- The timeout tasks that woke before they were cancelled. -/
  woken : List RequestId := []
  /-- The continuations resumed, in order. -/
  resumed : List (RequestId × Resumption) := []

/-- The steps of the actor: calls, timeouts, commands that could not be sent, frames, and what
the connection does by itself. -/
inductive Calling.Action where
  | opened
  | closing
  | fed (event : ConnectionStateMachine.Event)
  | welcomed (welcome : Client.ServerWelcome)
  | sent (command : String) (sessionId : Option String) (params : Option Json)
  | woke (requestId : RequestId)
  | timedOut (requestId : RequestId)
  | unsent (requestId : RequestId) (description : String)
  | replayUnsent (requestId : RequestId) (fromSequence : Nat)
  | replayExpired (requestId : RequestId)
  | eventFrame (event : GatewayEvent)
  | ackFrame (ack : GatewayAck)
  | resyncFrame (sessionId : Option String) (reason : String)
  | errorFrame (error : GatewayProtocolError)
  | welcomeFrame (welcome : Client.ServerWelcome)
  | disconnected (message : String)
  | unwound
  | stopped
  | reconfigured

namespace Calling

/-- The connection is in another state. -/
def goes (calling : Calling) (connection : GatewayConnection) : Calling :=
  { calling with connection }

/-- The timeout of a request is cancelled, and its continuation resumed, if there are any. -/
def settle (calling : Calling) (requestId : RequestId) (resumption : Resumption) : Calling :=
  { calling with
    timers :=
      if requestId ∈ calling.connection.timeouts then calling.timers.erase requestId
      else calling.timers
    resumed :=
      if requestId ∈ calling.connection.pending then
        calling.resumed ++ [(requestId, resumption)]
      else calling.resumed }

/-- Every request waited for fails, whatever its order in the table. -/
def settleAll (calling : Calling) : Calling :=
  { calling with
    timers := calling.timers.filter fun requestId =>
      ¬ (requestId ∈ calling.connection.pending ∧ requestId ∈ calling.connection.timeouts)
    resumed := calling.resumed ++
      calling.connection.pending.map fun requestId => (requestId, .throwing .transportClosed) }

/-- A request fails. -/
def failPending (calling : Calling) (requestId : RequestId) (error : GatewayConnectionError) :
    Calling :=
  (calling.settle requestId (.throwing error)).goes (calling.connection.failPending requestId)

/-- A command is sent while there is a transport; otherwise the call throws at once.  Frames
that were received may be handled after the transport closed, and a command may turn out not
to be sendable at any time. -/
def next (calling : Calling) : Action → Option Calling
  | .opened => some { calling with transport := true }
  | .closing => some { calling with transport := false }
  | .fed event => some (calling.goes (calling.connection.handleState event))
  | .welcomed welcome => some (calling.goes (calling.connection.welcomed welcome))
  | .sent command sessionId params =>
      if calling.transport then
        some { calling with
          connection := calling.connection.send command sessionId params
          calls := calling.connection.nextRequest :: calling.calls
          timers := calling.connection.nextRequest :: calling.timers }
      else some calling
  | .woke requestId =>
      if requestId ∈ calling.timers then
        some { calling with
          timers := calling.timers.erase requestId
          woken := requestId :: calling.woken }
      else none
  | .timedOut requestId =>
      if requestId ∈ calling.woken then
        some ({ calling with woken := calling.woken.erase requestId }.failPending requestId
          (.commandTimedOut requestId))
      else none
  | .unsent requestId description => some (calling.failPending requestId (.unsent description))
  | .replayUnsent requestId fromSequence =>
      some (calling.goes ((calling.connection.clearReplayRequest requestId).emit (.serverError
        { code := "replay_failed"
          message := "Unable to request replay from " ++ toString fromSequence ++ "." })))
  | .replayExpired requestId =>
      some (calling.goes (calling.connection.clearReplayRequest requestId))
  | .eventFrame event => some (calling.goes (calling.connection.handleEvent event))
  | .ackFrame ack =>
      some ((calling.settle ack.requestId (.returning ack)).goes
        (calling.connection.handleAck ack))
  | .resyncFrame sessionId reason =>
      some (calling.goes (calling.connection.handleResync sessionId reason))
  | .errorFrame error =>
      let settled := match error.requestId with
        | some requestId => calling.settle requestId
            (.throwing (.commandFailed requestId error.code error.message))
        | none => calling
      some (settled.goes (calling.connection.handleError error))
  | .welcomeFrame welcome => some (calling.goes (calling.connection.handleWelcome welcome))
  | .disconnected message =>
      some (calling.settleAll.goes (calling.connection.disconnected message))
  | .unwound => some (calling.settleAll.goes calling.connection.failAllPending)
  | .stopped => some (calling.settleAll.goes calling.connection.stopped)
  | .reconfigured => some (calling.settleAll.goes calling.connection.reconfigured)

/-- Nobody has called yet. -/
def Begins (calling : Calling) : Prop :=
  ∃ policy : ReconnectPolicy,
    calling = { connection := { GatewayConnection.initial with stateMachine := { policy } } }

def system : System Calling Action := .ofNext Begins next

/-- The steps in which all requests fail. -/
def Action.failsAll : Action → Bool
  | .disconnected _ | .unwound | .stopped | .reconfigured => true
  | _ => false

/-- A timeout is going to fail the request: its task is in the table, and sleeps or is about to
act. -/
def Armed (calling : Calling) (requestId : RequestId) : Prop :=
  requestId ∈ calling.connection.timeouts ∧
    (requestId ∈ calling.timers ∨ requestId ∈ calling.woken)

/-- The calls whose continuation was resumed. -/
def completed (calling : Calling) : List RequestId := calling.resumed.map Prod.fst

/-- Every call waits or was resumed, once; what is waited for is what the timeouts are for. -/
structure Accounted (calling : Calling) : Prop where
  nodup : calling.calls.Nodup
  drawn : ∀ requestId ∈ calling.calls, requestId < calling.connection.nextRequest
  once : (calling.connection.pending ++ calling.completed).Perm calling.calls
  timeouts : calling.connection.timeouts = calling.connection.pending
  armed : ∀ requestId ∈ calling.connection.pending,
    requestId ∈ calling.timers ∨ requestId ∈ calling.woken

namespace Accounted

variable {calling : Calling}

theorem nodup_pending (h : calling.Accounted) : calling.connection.pending.Nodup :=
  (List.nodup_append.mp (h.once.nodup_iff.mpr h.nodup)).1

theorem nodup_completed (h : calling.Accounted) : calling.completed.Nodup :=
  (List.nodup_append.mp (h.once.nodup_iff.mpr h.nodup)).2.1

/-- A step that waits for the same requests. -/
theorem goes (h : calling.Accounted) {connection : GatewayConnection}
    (hsame : calling.connection.SameRequests connection) : (calling.goes connection).Accounted where
  nodup := h.nodup
  drawn := fun requestId hcall => Nat.lt_of_lt_of_le (h.drawn requestId hcall) hsame.drawn
  once := by
    show (connection.pending ++ calling.completed).Perm calling.calls
    rw [hsame.pending]
    exact h.once
  timeouts := by
    show connection.timeouts = connection.pending
    rw [hsame.timeouts, hsame.pending, h.timeouts]
  armed := fun requestId hpending => h.armed requestId (hsame.pending ▸ hpending)

/-- A request that is settled is waited for no more, and resumed if it was. -/
theorem settle (h : calling.Accounted) {requestId : RequestId} (resumption : Resumption)
    {connection : GatewayConnection}
    (hdrops : calling.connection.DropsRequest requestId connection) :
    ((calling.settle requestId resumption).goes connection).Accounted where
  nodup := h.nodup
  drawn := fun call hcall => Nat.lt_of_lt_of_le (h.drawn call hcall) hdrops.drawn
  once := by
    show (connection.pending ++
      ((calling.settle requestId resumption).resumed.map Prod.fst)).Perm calling.calls
    rw [hdrops.pending, Calling.settle]
    by_cases hpending : requestId ∈ calling.connection.pending
    · rw [if_pos hpending, List.map_append]
      have hmoved := (List.perm_cons_erase hpending).append_right calling.completed
      exact (List.perm_append_comm.append_left _ |>.trans List.perm_middle).trans
        (hmoved.symm.trans h.once)
    · rw [if_neg hpending, List.erase_of_not_mem hpending]
      exact h.once
  timeouts := by
    show connection.timeouts = connection.pending
    rw [hdrops.timeouts, hdrops.pending, h.timeouts]
  armed := by
    intro other hother
    have hmem : other ∈ calling.connection.pending.erase requestId := hdrops.pending ▸ hother
    obtain ⟨hne, hpending⟩ := h.nodup_pending.mem_erase_iff.mp hmem
    rcases h.armed other hpending with htimer | hwoken
    · refine .inl ?_
      show other ∈ if _ then _ else _
      split
      · exact (List.mem_erase_of_ne hne).mpr htimer
      · exact htimer
    · exact .inr hwoken

/-- A disconnect resumes whatever waits. -/
theorem settleAll (h : calling.Accounted) {connection : GatewayConnection}
    (hcleared : connection.Cleared)
    (hdrawn : calling.connection.nextRequest ≤ connection.nextRequest) :
    (calling.settleAll.goes connection).Accounted where
  nodup := h.nodup
  drawn := fun call hcall => Nat.lt_of_lt_of_le (h.drawn call hcall) hdrawn
  once := by
    have hmap : (calling.connection.pending.map fun requestId =>
        (requestId, Resumption.throwing .transportClosed)).map Prod.fst =
        calling.connection.pending := by
      rw [List.map_map]
      exact List.map_id _
    show (connection.pending ++ calling.settleAll.resumed.map Prod.fst).Perm calling.calls
    rw [hcleared.pending, List.nil_append, Calling.settleAll, List.map_append, hmap]
    exact List.perm_append_comm.trans h.once
  timeouts := by
    show connection.timeouts = connection.pending
    rw [hcleared.timeouts, hcleared.pending]
  armed := by
    intro requestId hpending
    have hmem : requestId ∈ connection.pending := hpending
    rw [hcleared.pending] at hmem
    cases hmem

/-- A request fails by itself. -/
theorem failPending (h : calling.Accounted) (requestId : RequestId)
    (error : GatewayConnectionError) : (calling.failPending requestId error).Accounted :=
  h.settle _ (GatewayConnection.dropsRequest_failPending _ requestId)

/-- A new call waits, with a timeout of its own. -/
theorem sent (h : calling.Accounted) (command : String) (sessionId : Option String)
    (params : Option Json) :
    Accounted { calling with
      connection := calling.connection.send command sessionId params
      calls := calling.connection.nextRequest :: calling.calls
      timers := calling.connection.nextRequest :: calling.timers } where
  nodup := by
    refine List.nodup_cons.mpr ⟨fun hcall => ?_, h.nodup⟩
    exact Nat.lt_irrefl _ (h.drawn _ hcall)
  drawn := by
    intro requestId hcall
    rcases List.mem_cons.mp hcall with rfl | hcall
    · exact Nat.lt_succ_self _
    · exact Nat.lt_succ_of_lt (h.drawn requestId hcall)
  once := h.once.cons _
  timeouts := congrArg (calling.connection.nextRequest :: ·) h.timeouts
  armed := by
    intro requestId hpending
    rcases List.mem_cons.mp hpending with rfl | hpending
    · exact .inl List.mem_cons_self
    · exact (h.armed requestId hpending).imp_left (List.mem_cons_of_mem _)

/-- A timeout task wakes. -/
theorem woke (h : calling.Accounted) (requestId : RequestId) :
    Accounted { calling with
      timers := calling.timers.erase requestId
      woken := requestId :: calling.woken } where
  nodup := h.nodup
  drawn := h.drawn
  once := h.once
  timeouts := h.timeouts
  armed := by
    intro other hpending
    by_cases hsame : other = requestId
    · exact .inr (hsame ▸ List.mem_cons_self)
    · exact (h.armed other hpending).imp (List.mem_erase_of_ne hsame).mpr
        (List.mem_cons_of_mem _)

/-- A timeout task that woke fails its request. -/
theorem timedOut (h : calling.Accounted) (requestId : RequestId) :
    ({ calling with woken := calling.woken.erase requestId }.failPending requestId
      (.commandTimedOut requestId)).Accounted := by
  have hfailed := h.failPending requestId (.commandTimedOut requestId)
  refine ⟨hfailed.nodup, hfailed.drawn, hfailed.once, hfailed.timeouts, fun other hother => ?_⟩
  have hdrops := GatewayConnection.dropsRequest_failPending calling.connection requestId
  have hmem : other ∈ calling.connection.pending.erase requestId := hdrops.pending ▸ hother
  have hne := (h.nodup_pending.mem_erase_iff.mp hmem).1
  exact (hfailed.armed other hother).imp_right (List.mem_erase_of_ne hne).mpr

/-- **Every step** keeps the account. -/
theorem next (h : calling.Accounted) {action : Action} {calling' : Calling}
    (hnext : calling.next action = some calling') : calling'.Accounted := by
  have hsame := GatewayConnection.SameRequests.refl calling.connection
  cases action with
  | opened =>
      rw [← Option.some.inj hnext]
      exact ⟨h.nodup, h.drawn, h.once, h.timeouts, h.armed⟩
  | closing =>
      rw [← Option.some.inj hnext]
      exact ⟨h.nodup, h.drawn, h.once, h.timeouts, h.armed⟩
  | fed event =>
      rw [← Option.some.inj hnext]
      exact h.goes (hsame.handleState event)
  | welcomed welcome =>
      rw [← Option.some.inj hnext]
      refine h.goes (.restoreAttachments (.emit ?_ _))
      exact ⟨rfl, rfl, Nat.le_refl _⟩
  | sent command sessionId params =>
      rw [Calling.next] at hnext
      split at hnext
      · rw [← Option.some.inj hnext]
        exact h.sent command sessionId params
      · rw [← Option.some.inj hnext]
        exact h
  | woke requestId =>
      rw [Calling.next] at hnext
      split at hnext
      · rw [← Option.some.inj hnext]
        exact h.woke requestId
      · cases hnext
  | timedOut requestId =>
      rw [Calling.next] at hnext
      split at hnext
      · rw [← Option.some.inj hnext]
        exact h.timedOut requestId
      · cases hnext
  | unsent requestId description =>
      rw [← Option.some.inj hnext]
      exact h.failPending requestId _
  | replayUnsent requestId fromSequence =>
      rw [← Option.some.inj hnext]
      exact h.goes ⟨rfl, rfl, Nat.le_refl _⟩
  | replayExpired requestId =>
      rw [← Option.some.inj hnext]
      exact h.goes ⟨rfl, rfl, Nat.le_refl _⟩
  | eventFrame event =>
      rw [← Option.some.inj hnext]
      exact h.goes (hsame.handleEvent event)
  | ackFrame ack =>
      rw [← Option.some.inj hnext]
      exact h.settle _ (GatewayConnection.dropsRequest_handleAck _ ack)
  | resyncFrame sessionId reason =>
      rw [← Option.some.inj hnext]
      exact h.goes ⟨rfl, rfl, Nat.le_refl _⟩
  | errorFrame error =>
      rw [← Option.some.inj hnext]
      cases hid : error.requestId with
      | none =>
          simp only [GatewayConnection.handleError, hid]
          exact h.goes (hsame.emit _)
      | some requestId =>
          simp only [GatewayConnection.handleError, hid]
          exact h.settle _ ((GatewayConnection.dropsRequest_failPending _ requestId).trans
            ((GatewayConnection.SameRequests.refl _).emit _))
  | welcomeFrame welcome =>
      rw [← Option.some.inj hnext]
      exact h.goes ⟨rfl, rfl, Nat.le_refl _⟩
  | disconnected message =>
      rw [← Option.some.inj hnext]
      exact h.settleAll (GatewayConnection.cleared_disconnected _ message)
        (Nat.le_of_eq (GatewayConnection.nextRequest_disconnected _ message).symm)
  | unwound =>
      rw [← Option.some.inj hnext]
      exact h.settleAll (GatewayConnection.cleared_failAllPending _) (Nat.le_refl _)
  | stopped =>
      rw [← Option.some.inj hnext]
      exact h.settleAll ⟨rfl, rfl, rfl, rfl, rfl, rfl⟩ (Nat.le_refl _)
  | reconfigured =>
      rw [← Option.some.inj hnext]
      exact h.settleAll ⟨rfl, rfl, rfl, rfl, rfl, rfl⟩ (Nat.le_refl _)

end Accounted

/-- After a step in which all requests fail nothing is kept for any. -/
theorem cleared_of_failsAll {calling calling' : Calling} {action : Action}
    (hfails : action.failsAll) (hnext : calling.next action = some calling') :
    calling'.connection.Cleared := by
  cases action with
  | disconnected message =>
      rw [← Option.some.inj hnext]
      exact GatewayConnection.cleared_disconnected _ message
  | unwound =>
      rw [← Option.some.inj hnext]
      exact GatewayConnection.cleared_failAllPending _
  | stopped =>
      rw [← Option.some.inj hnext]
      exact ⟨rfl, rfl, rfl, rfl, rfl, rfl⟩
  | reconfigured =>
      rw [← Option.some.inj hnext]
      exact ⟨rfl, rfl, rfl, rfl, rfl, rfl⟩
  | _ => exact absurd hfails Bool.false_ne_true

theorem accounted {calling : Calling} (h : system.Reachable calling) : calling.Accounted := by
  refine System.invariant_of_step ?_ (fun _ _ _ h _ hnext => h.next hnext) h
  rintro _ ⟨policy, rfl⟩
  exact ⟨List.nodup_nil, nofun, List.Perm.refl _, rfl, nofun⟩

end Calling

/-- **A call completes once**: however calls, acknowledgements, errors, timeouts, failures to
send and disconnects come about, no continuation is resumed twice, a call waits as long as its
continuation was not resumed, and every request waited for has an armed timeout.  A disconnect
leaves nothing in the tables, and no call waiting. -/
theorem Calling.completes_once {calling : Calling} (h : system.Reachable calling) :
    calling.completed.Nodup ∧
      (∀ requestId ∈ calling.calls,
        requestId ∈ calling.connection.pending ↔ requestId ∉ calling.completed) ∧
      (∀ requestId ∈ calling.connection.pending,
        requestId ∈ calling.calls ∧ calling.Armed requestId) ∧
      ∀ action calling', action.failsAll → calling.next action = some calling' →
        calling'.connection.Cleared ∧ calling'.calls = calling.calls ∧
          ∀ requestId ∈ calling'.calls, calling'.completed.count requestId = 1 := by
  have haccounted := accounted h
  have hdisjoint :=
    (List.nodup_append.mp (haccounted.once.nodup_iff.mpr haccounted.nodup)).2.2
  refine ⟨haccounted.nodup_completed, fun requestId hcall => ⟨fun hpending hcompleted => ?_,
    fun hwaits => ?_⟩, fun requestId hpending => ⟨?_, ?_, haccounted.armed requestId hpending⟩,
    fun action calling' hfails hnext => ⟨cleared_of_failsAll hfails hnext, ?_, ?_⟩⟩
  · exact hdisjoint requestId hpending requestId hcompleted rfl
  · have hmem := haccounted.once.mem_iff.mpr hcall
    exact (List.mem_append.mp hmem).resolve_right hwaits
  · exact haccounted.once.mem_iff.mp (List.mem_append_left _ hpending)
  · rw [haccounted.timeouts]
    exact hpending
  · cases action with
    | disconnected | unwound | stopped | reconfigured => rw [← Option.some.inj hnext]; rfl
    | _ => exact absurd hfails Bool.false_ne_true
  · intro requestId hcall
    have hafter := haccounted.next hnext
    refine List.count_eq_one_of_mem hafter.nodup_completed ?_
    have hmem := hafter.once.mem_iff.mpr hcall
    rw [(cleared_of_failsAll hfails hnext).pending, List.nil_append] at hmem
    exact hmem

def sampleCalling : Calling := { connection := .initial }

/-- The first call is acknowledged twice, the second times out, the third waits. -/
theorem Calling.completes_once_sample :
    ∃ calling : Calling, calling.completed = [0, 1] ∧ calling.connection.pending = [2] ∧
      calling.Armed 2 := by
  let ack : GatewayAck := { requestId := 0, ok := true, result := none }
  let actions : List Action :=
    [.opened, .sent "host.info" none none, .sent "session.list" none none, .woke 1, .ackFrame ack,
      .ackFrame ack, .timedOut 1, .sent commandName.sessionAttach (some "s1") none]
  have hends : (System.runs Calling.next sampleCalling actions).map (fun calling =>
      (calling.completed, calling.connection.pending)) = some ([0, 1], [2]) := by
    decide +kernel
  obtain ⟨calling, hruns, hwatch⟩ := Option.map_eq_some_iff.mp hends
  obtain ⟨hcompleted, hpending⟩ := Prod.mk.inj hwatch
  obtain ⟨-, -, harmed, -⟩ := Calling.completes_once
    (System.reachable_of_runs actions ⟨{}, rfl⟩ hruns)
  exact ⟨calling, hcompleted, hpending, (harmed 2 (hpending ▸ List.mem_cons_self)).2⟩

end Slight
