import Slight.Client.Deferral
import Slight.Support.System

/-!
# Slight.Client.Holding

What becomes of the events that are held back while an attach is on its way.  An
acknowledgement, of success or of failure, has them handled again; a request that
fails otherwise drops them.

`Holding` is a connection with its transport.  It interleaves the commands of the
client, the frames of the host, and the requests that time out or cannot be sent, in
any order.  `Holding.Keeps` rules out that a request fails while something is held back
for its session; under it every event that was held back is settled once no attach of
its session is on its way.
-/

namespace Slight

open Support

/-! ## a connection with its transport -/

/-- The transport: there is none, it is open, or it was closed and the connection is about to
notice. -/
inductive Wire where
  | down
  | up
  | closing
  deriving DecidableEq

/-- A connection with its transport, and the states it passed since that was opened. -/
structure Holding where
  connection : GatewayConnection
  wire : Wire := .down
  passed : List GatewayConnection := []

/-- What may happen to a connection: what it does by itself, the commands of the client,
frames, and requests that time out or cannot be sent. -/
inductive Holding.Action where
  | fed (event : ConnectionStateMachine.Event)
  | opened
  | welcomed (welcome : Client.ServerWelcome)
  | closed
  | disconnected (message : String)
  | stopped
  | reconfigured
  | sent (command : String) (sessionId : Option String) (params : Option Json)
  | failed (requestId : RequestId)
  | replayUnsent (requestId : RequestId) (fromSequence : Nat)
  | replayExpired (requestId : RequestId)
  | eventFrame (event : GatewayEvent)
  | ackFrame (ack : GatewayAck)
  | resyncFrame (sessionId : Option String) (reason : String)
  | errorFrame (error : GatewayProtocolError)
  | welcomeFrame (welcome : Client.ServerWelcome)

namespace Holding

/-- The connection is in another state. -/
def goes (holding : Holding) (connection : GatewayConnection) : Holding :=
  { holding with connection, passed := connection :: holding.passed }

/-- Frames are handled while there is a transport, commands are sent while it is open.  What
was held back on an earlier transport is not followed any further. -/
def next (holding : Holding) : Action → Option Holding
  | .fed event => some (holding.goes (holding.connection.handleState event))
  | .opened =>
      if holding.wire = .down then
        some { connection := { holding.connection with held := [] }, wire := .up }
      else none
  | .welcomed welcome =>
      if holding.wire = .up then some (holding.goes (holding.connection.welcomed welcome)) else none
  | .closed => if holding.wire = .up then some { holding with wire := .closing } else none
  | .disconnected message =>
      some { holding.goes (holding.connection.disconnected message) with wire := .down }
  | .stopped => some { holding.goes holding.connection.stopped with wire := .down }
  | .reconfigured => some { holding.goes holding.connection.reconfigured with wire := .down }
  | .sent command sessionId params =>
      if holding.wire = .up then
        some (holding.goes (holding.connection.send command sessionId params))
      else some holding
  | .failed requestId => some (holding.goes (holding.connection.failPending requestId))
  | .replayUnsent requestId fromSequence =>
      some (holding.goes ((holding.connection.clearReplayRequest requestId).emit (.serverError
        { code := "replay_failed"
          message := "Unable to request replay from " ++ toString fromSequence ++ "." })))
  | .replayExpired requestId =>
      some (holding.goes (holding.connection.clearReplayRequest requestId))
  | .eventFrame event =>
      if holding.wire = .down then none
      else some (holding.goes (holding.connection.handleEvent event))
  | .ackFrame ack =>
      if holding.wire = .down then none else some (holding.goes (holding.connection.handleAck ack))
  | .resyncFrame sessionId reason =>
      if holding.wire = .down then none
      else some (holding.goes (holding.connection.handleResync sessionId reason))
  | .errorFrame error =>
      if holding.wire = .down then none
      else some (holding.goes (holding.connection.handleError error))
  | .welcomeFrame welcome =>
      if holding.wire = .down then none
      else some (holding.goes (holding.connection.handleWelcome welcome))

/-- A connection starts without a transport. -/
def Begins (holding : Holding) : Prop :=
  ∃ policy : ReconnectPolicy,
    holding = { connection := { GatewayConnection.initial with stateMachine := { policy } } }

def system : System Holding Action := .ofNext Begins next

/-- The event was settled in a state passed. -/
def Settled (holding : Holding) (event : GatewayEvent) : Prop :=
  ∃ connection ∈ holding.passed, connection.Settles event

/-- Every event that was held back is settled, once no attach of its session is on its way. -/
def NotLost (holding : Holding) : Prop :=
  ∀ event ∈ holding.connection.held,
    (∀ requestId, holding.connection.pendingAttachSessionByRequest.lookup requestId ≠
      some event.sessionId) → holding.Settled event

/-- No request fails on an open transport while something is held back for its session. -/
def Keeps (holding : Holding) : Action → Prop
  | .failed requestId => holding.wire = .up → holding.connection.HoldsNothing requestId
  | .errorFrame error => holding.wire = .up →
      ∀ requestId ∈ error.requestId, holding.connection.HoldsNothing requestId
  | _ => True

instance (holding : Holding) (action : Action) : Decidable (holding.Keeps action) := by
  unfold Keeps
  split <;> infer_instance

/-- The attaches are sound, and on an open transport what was held back is held back still,
or settled. -/
structure Invariant (holding : Holding) : Prop where
  sound : holding.connection.Sound
  kept : holding.wire = .up → ∀ event ∈ holding.connection.held,
    event ∈ holding.connection.deferred event.sessionId ∨ holding.Settled event

namespace Invariant

variable {holding : Holding}

/-- What is held back is for an attach on its way. -/
theorem notLost (h : holding.Invariant) (hopen : holding.wire = .up) : holding.NotLost := by
  intro event hmem hnone
  rcases h.kept hopen event hmem with hdeferred | hsettled
  · obtain ⟨hsession, -, -⟩ := h.sound.deferred event.sessionId event hdeferred
    obtain ⟨requestId, hlookup⟩ := h.sound.requested event.sessionId hsession
    exact absurd hlookup (hnone requestId)
  · exact hsettled

theorem goes (h : holding.Invariant) {connection : GatewayConnection} (hsound : connection.Sound)
    (hcarries : holding.wire = .up → holding.connection.Carries connection) :
    (holding.goes connection).Invariant := by
  refine ⟨hsound, fun hopen event hmem => ?_⟩
  have hnow : connection.Settles event → (holding.goes connection).Settled event :=
    fun hsettles => ⟨connection, List.mem_cons_self, hsettles⟩
  rcases (hcarries hopen).held event hmem with hmem | hdeferred | hsettles
  · rcases h.kept hopen event hmem with hdeferred | ⟨before, hbefore, hsettles⟩
    · exact ((hcarries hopen).deferred event hdeferred).imp_right hnow
    · exact .inr ⟨before, List.mem_cons_of_mem _ hbefore, hsettles⟩
  · exact .inl hdeferred
  · exact .inr (hnow hsettles)

theorem grows (h : holding.Invariant) {connection : GatewayConnection}
    (hgrows : holding.connection.Grows connection) : (holding.goes connection).Invariant :=
  h.goes (h.sound.grows hgrows) fun _ => hgrows.carries

/-- Without a transport nothing is followed. -/
theorem down {connection : GatewayConnection} {passed : List GatewayConnection}
    (hsound : connection.Sound) : Invariant { connection, wire := .down, passed } :=
  ⟨hsound, nofun⟩

end Invariant

theorem sound_disconnected (connection : GatewayConnection) (message : String) :
    (connection.disconnected message).Sound := by
  have hfailed := (connection.emit (.serverError
    { code := "connection_attempt_failed", message })).sound_failAllPending
  unfold GatewayConnection.disconnected
  dsimp only
  have hfed := hfailed.grows (GatewayConnection.grows_handleState _ (.disconnected (some message)))
  split
  · exact hfed.grows (GatewayConnection.grows_emit _ _)
  · split
    · exact hfed.grows (GatewayConnection.grows_emit _ _)
    · exact hfed

/-- **Every action** that is kept keeps the invariant. -/
theorem invariant_next {holding holding' : Holding} (h : holding.Invariant) {action : Action}
    (hkeeps : holding.Keeps action) (hnext : holding.next action = some holding') :
    holding'.Invariant := by
  cases action with
  | fed event =>
      rw [← Option.some.inj hnext]
      exact h.grows (GatewayConnection.grows_handleState _ _)
  | opened =>
      rw [next] at hnext
      split at hnext
      · rw [← Option.some.inj hnext]
        exact ⟨⟨h.sound.nodup, h.sound.requested, h.sound.deferred⟩, fun _ event hmem =>
          absurd hmem List.not_mem_nil⟩
      · cases hnext
  | welcomed welcome =>
      rw [next] at hnext
      split at hnext
      · rw [← Option.some.inj hnext]
        exact h.grows ((((GatewayConnection.grows_currentWelcome _ _).trans
          (GatewayConnection.grows_handleState _ _)).trans
          (GatewayConnection.grows_emit _ _)).trans (GatewayConnection.grows_restoreAttachments _))
      · cases hnext
  | closed =>
      rw [next] at hnext
      split at hnext
      · rw [← Option.some.inj hnext]
        refine ⟨h.sound, fun hopen => ?_⟩
        cases hopen
      · cases hnext
  | disconnected message =>
      rw [← Option.some.inj hnext]
      exact .down (sound_disconnected _ _)
  | stopped =>
      rw [← Option.some.inj hnext]
      exact .down ((GatewayConnection.sound_failAllPending _).grows
        (GatewayConnection.grows_emit _ _))
  | reconfigured =>
      rw [← Option.some.inj hnext]
      have hstopped : holding.connection.stopped.Sound :=
        (GatewayConnection.sound_failAllPending _).grows (GatewayConnection.grows_emit _ _)
      exact .down ⟨hstopped.nodup, hstopped.requested, hstopped.deferred⟩
  | sent command sessionId params =>
      rw [next] at hnext
      split at hnext
      · rw [← Option.some.inj hnext]
        exact h.goes (GatewayConnection.sound_send h.sound _ _ _) fun _ =>
          GatewayConnection.carries_of_eq rfl rfl
      · rw [← Option.some.inj hnext]
        exact h
  | failed requestId =>
      rw [← Option.some.inj hnext]
      exact h.goes (h.sound.failPending requestId) fun hopen =>
        GatewayConnection.carries_failPending (hkeeps hopen)
  | replayUnsent requestId fromSequence =>
      rw [← Option.some.inj hnext]
      have hcleared : holding.connection.Grows (holding.connection.clearReplayRequest requestId) :=
        .of_same (List.Subset.refl _) (List.Subset.refl _) rfl rfl rfl rfl
      exact h.grows (hcleared.trans (GatewayConnection.grows_emit _ _))
  | replayExpired requestId =>
      rw [← Option.some.inj hnext]
      exact h.grows (.of_same (List.Subset.refl _) (List.Subset.refl _) rfl rfl rfl rfl)
  | eventFrame event =>
      rw [next] at hnext
      split at hnext
      · cases hnext
      · rw [← Option.some.inj hnext]
        exact h.grows (GatewayConnection.grows_handleEvent _ _)
  | ackFrame ack =>
      rw [next] at hnext
      split at hnext
      · cases hnext
      · rw [← Option.some.inj hnext]
        obtain ⟨hsound, hcarries⟩ := GatewayConnection.handleAck_spec h.sound ack
        exact h.goes hsound fun _ => hcarries
  | resyncFrame sessionId reason =>
      rw [next] at hnext
      split at hnext
      · cases hnext
      · rw [← Option.some.inj hnext]
        have hforgotten : holding.connection.Grows
            { holding.connection with
              journal := holding.connection.journal.remove sessionId
              attachedSessions := sessionId.elim holding.connection.attachedSessions
                holding.connection.attachedSessions.erase
              attachedNodup := by
                cases sessionId with
                | some sessionId => exact holding.connection.attachedNodup.erase sessionId
                | none => exact holding.connection.attachedNodup } :=
          .of_same (List.Subset.refl _) (List.Subset.refl _) rfl rfl rfl rfl
        exact h.grows (((hforgotten.trans (GatewayConnection.grows_handleState _ _)).trans
          (GatewayConnection.grows_emit _ _)).trans (GatewayConnection.grows_emit _ _))
  | errorFrame error =>
      rw [next] at hnext
      split at hnext
      · cases hnext
      · rw [← Option.some.inj hnext]
        unfold GatewayConnection.handleError
        cases hrequest : error.requestId with
        | some requestId =>
            exact h.goes
              ((h.sound.failPending requestId).grows (GatewayConnection.grows_emit _ _))
              fun hopen => (GatewayConnection.carries_failPending
                (hkeeps hopen requestId hrequest)).emit _
        | none => exact h.grows (GatewayConnection.grows_emit _ _)
  | welcomeFrame welcome =>
      rw [next] at hnext
      split at hnext
      · cases hnext
      · rw [← Option.some.inj hnext]
        exact h.grows ((GatewayConnection.grows_currentWelcome _ _).trans
          (GatewayConnection.grows_emit _ _))

end Holding

/-- **What is held back is not lost**: in a run in which no request fails on an open
transport while something is held back for its session, every event that was held back
has been emitted, was a duplicate, or is covered by a replay requested from the cursor's
successor, once no attach of its session is on its way. -/
theorem Holding.held_events_not_lost {holding : Holding} (h : system.ReachUnder Keeps holding)
    (hopen : holding.wire = .up) : holding.NotLost := by
  have hinvariant : holding.Invariant := System.invariant_of_step (I := Holding.Invariant)
    (by
      rintro _ ⟨policy, rfl⟩
      exact .down ⟨List.nodup_nil, nofun, fun _ _ hmem => nomatch hmem⟩)
    (fun _ _ _ hinvariant hkeeps hnext => invariant_next hinvariant hkeeps hnext) h
  exact hinvariant.notLost hopen

/-! ## an attach that times out -/

def sampleWelcome : Client.ServerWelcome :=
  ⟨1, "c1", "host", "1", none, .default, none, false, none⟩

def sampleHolding : Holding := { connection := .initial }

theorem begins_sampleHolding : sampleHolding.Begins := ⟨{}, rfl⟩

/-- An attach is on its way, and events of its session arrive. -/
def sampleAttaching (sequences : List Nat) : List Holding.Action :=
  [.opened, .welcomed sampleWelcome, .sent commandName.sessionAttach (some "s1") none] ++
    (sampleEvents sequences).map fun event => .eventFrame (gatewayEvent "s1" event)

/-- The acknowledgement moves the cursor to 2: of the events 3 and 5, one is emitted and
the other requested again. -/
theorem Holding.held_events_not_lost_sample :
    ∃ holding : Holding, holding.connection.held.length = 2 ∧
      holding.connection.pendingAttachSessionByRequest.keys = [] ∧ holding.NotLost := by
  let actions : List Action :=
    sampleAttaching [5, 3] ++
      [.ackFrame
        { requestId := 0
          ok := true
          result := some
            (GatewayConnection.replayResult (.ofSummary sampleSummary) [] 2 (some 1) false) }]
  have hkeeps : System.runsUnder Holding.next Keeps sampleHolding actions := by
    decide +kernel
  have hends : (System.runs Holding.next sampleHolding actions).map (fun holding =>
      (holding.wire, holding.connection.held.length,
        holding.connection.pendingAttachSessionByRequest.keys)) = some (.up, 2, []) := by
    decide +kernel
  obtain ⟨holding, hruns, hwatch⟩ := Option.map_eq_some_iff.mp hends
  injection hwatch with hopen hwatch
  injection hwatch with hheld hrequests
  exact ⟨holding, hheld, hrequests, Holding.held_events_not_lost
    (System.reachUnder_of_runs actions begins_sampleHolding hkeeps hruns) hopen⟩

/-- Nothing was emitted or counted as a duplicate, and no replay was requested. -/
def GatewayConnection.isSilent (connection : GatewayConnection) : Bool :=
  connection.emitted.all (fun
    | .event _ | .duplicateEvent _ => false
    | _ => true) &&
  connection.outbox.all (·.command ≠ commandName.eventsReplay)

theorem GatewayConnection.not_settles_of_isSilent {connection : GatewayConnection}
    (h : connection.isSilent) (event : GatewayEvent) : ¬ connection.Settles event := by
  rw [isSilent, Bool.and_eq_true, List.all_eq_true, List.all_eq_true] at h
  rintro (hemitted | hduplicate | ⟨-, requestId, hasked⟩)
  · exact absurd (h.1 _ hemitted) nofun
  · exact absurd (h.1 _ hduplicate) nofun
  · exact absurd (h.2 _ hasked) (by simp [replayCommand])

/-- An attach that times out loses the event that was held back for it. -/
theorem Holding.timeout_loses_event :
    ¬ ∀ holding : Holding, system.Reachable holding → holding.wire = .up → holding.NotLost := by
  intro hkept
  let actions : List Action := sampleAttaching [3] ++ [.failed 0]
  have hends : (System.runs Holding.next sampleHolding actions).map (fun holding =>
      (holding.wire, holding.connection.held.length,
        holding.connection.pendingAttachSessionByRequest.keys,
        holding.passed.all GatewayConnection.isSilent)) = some (.up, 1, [], true) := by
    decide +kernel
  obtain ⟨holding, hruns, hwatch⟩ := Option.map_eq_some_iff.mp hends
  injection hwatch with hopen hwatch
  injection hwatch with hheld hwatch
  injection hwatch with hrequests hsilent
  obtain ⟨event, hevent⟩ := List.length_eq_one_iff.mp hheld
  obtain ⟨connection, hpassed, hsettles⟩ := hkept holding
    (System.reachable_of_runs actions begins_sampleHolding hruns) hopen event
    (by rw [hevent]; exact List.mem_cons_self)
    (fun requestId hlookup => by
      have hmem := AList.mem_keys.mp (mem_of_lookup hlookup)
      rw [hrequests] at hmem
      cases hmem)
  exact GatewayConnection.not_settles_of_isSilent (List.all_eq_true.mp hsilent _ hpassed) event
    hsettles

end Slight
