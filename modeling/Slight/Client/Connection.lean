import Slight.Client.Journal
import Slight.Client.State

/-!
# Slight.Client.Connection

The client's end of a gateway connection: how it answers inbound events and
acknowledgements, keeps its replay cursors, and asks the host for what it has
missed.  The connection is an actor, so each handler is one atomic step.

`outbox` holds the commands handed to the transport, `emitted` the values pushed
to subscribers and `held` the events that were held back, all in order; the tasks
that carry them out are not modelled.
-/

namespace Slight

structure GatewayProtocolError where
  code : String
  message : String
  requestId : Option RequestId := none
  retryable : Bool := false
  deriving DecidableEq

/-- Values pushed to the subscribers of a connection. -/
inductive GatewayInbound where
  | stateChanged (state : GatewayConnectionState)
  | welcome (welcome : Client.ServerWelcome)
  | event (event : GatewayEvent)
  | duplicateEvent (event : GatewayEvent)
  | replayRequested (sessionId : String) (fromSequence : Nat)
  | replayCompleted (sessionId : String) (resyncRequired : Bool)
  | transcriptReset (sessionId : String) (reason : Option String)
  | resyncRequired (sessionId : Option String) (reason : String)
  | ack (ack : GatewayAck)
  | serverError (error : GatewayProtocolError)
  | close (reason : String)

structure GatewayConnection where
  stateMachine : ConnectionStateMachine
  journal : EventJournal
  currentWelcome : Option Client.ServerWelcome
  pending : List RequestId
  pendingCommandNames : AList fun _ : RequestId => String
  backgroundReplayRequests : List RequestId
  pendingAttachSessions : List String
  pendingAttachSessionByRequest : AList fun _ : RequestId => String
  deferredAttachEvents : AList fun _ : String => List GatewayEvent
  attachedSessions : List String
  timeouts : List RequestId
  /-- The id the next command gets. -/
  nextRequest : RequestId
  outbox : List GatewayCommand
  emitted : List GatewayInbound
  held : List GatewayEvent := []
  /-- Ids are drawn once. -/
  idsFresh : ∀ id ∈ pendingAttachSessionByRequest, id < nextRequest
  /-- The attached sessions are a set. -/
  attachedNodup : attachedSessions.Nodup

namespace GatewayConnection

/-- A connection that has seen nothing yet. -/
def initial : GatewayConnection where
  stateMachine := {}
  journal := {}
  currentWelcome := none
  pending := []
  pendingCommandNames := ∅
  backgroundReplayRequests := []
  pendingAttachSessions := []
  pendingAttachSessionByRequest := ∅
  deferredAttachEvents := ∅
  attachedSessions := []
  timeouts := []
  nextRequest := 0
  outbox := []
  emitted := []
  idsFresh := fun id hid => absurd hid (AList.notMem_empty id)
  attachedNodup := List.nodup_nil

/-- The replay cursor of a session. -/
def cursor (connection : GatewayConnection) (sessionId : String) : Nat :=
  connection.journal.lastSequence sessionId

def emit (connection : GatewayConnection) (value : GatewayInbound) : GatewayConnection :=
  { connection with emitted := connection.emitted ++ [value] }

/-- Feeds the state machine and publishes the new state. -/
def handleState (connection : GatewayConnection) (event : ConnectionStateMachine.Event) :
    GatewayConnection :=
  let (_, stateMachine) := connection.stateMachine.handle event
  { connection with stateMachine }.emit (.stateChanged stateMachine.state)

/-- The connection counts as connected again, if it ever was. -/
def markConnected (connection : GatewayConnection) : GatewayConnection :=
  match connection.currentWelcome with
  | some welcome => connection.handleState (.handshakeSucceeded welcome)
  | none => connection

/-- The command of `requestReplay`. -/
def replayCommand (requestId : RequestId) (sessionId : String) (fromSequence received : Nat) :
    GatewayCommand where
  requestId := requestId
  command := commandName.eventsReplay
  sessionId := some sessionId
  params := some (.obj [("fromSequence", .float fromSequence),
    ("receivedSequence", .float received)])

/-- Asks the host for the events after the cursor; nobody waits for the answer. -/
def requestReplay (connection : GatewayConnection) (sessionId : String)
    (fromSequence received : Nat) : GatewayConnection :=
  let requestId := connection.nextRequest
  let command := replayCommand requestId sessionId fromSequence received
  { connection with
    nextRequest := requestId + 1
    backgroundReplayRequests := requestId :: connection.backgroundReplayRequests
    pendingCommandNames := connection.pendingCommandNames.insert requestId command.command
    outbox := connection.outbox ++ [command]
    idsFresh := fun id hid => Nat.lt_succ_of_lt (connection.idsFresh id hid) }

/-! ## inbound events -/

/-- Holds an event back until the attach in progress completes. -/
def deferEvent (connection : GatewayConnection) (event : GatewayEvent) : GatewayConnection :=
  let deferred := (connection.deferredAttachEvents.lookup event.sessionId).getD []
  { connection with
    deferredAttachEvents :=
      connection.deferredAttachEvents.insert event.sessionId (deferred ++ [event])
    held := connection.held ++ [event] }

def handleEvent (connection : GatewayConnection) (event : GatewayEvent) : GatewayConnection :=
  if event.event = replayCompleteName then
    let connection :=
      { connection with journal := connection.journal.markReplayed event.sessionId event.sequence }
    (connection.markConnected.emit (.event event)).emit (.replayCompleted event.sessionId false)
  else
    let (disposition, journal) := connection.journal.observe event
    let connection := { connection with journal }
    match disposition with
    | .accepted => connection.emit (.event event)
    | .duplicate => connection.emit (.duplicateEvent event)
    | .gap expected received =>
        if event.sessionId ∈ connection.pendingAttachSessions then connection.deferEvent event
        else
          let connection := connection.handleState (.resyncRequired (some "sequence_gap"))
          let connection := connection.emit (.replayRequested event.sessionId expected)
          connection.requestReplay event.sessionId expected received

/-- Feeds the events of a replay to the journal.  No caller sets `forceEmit`, so
every event goes through `handleEvent`. -/
def replayEvents (connection : GatewayConnection) (events : List GatewayEvent)
    (sessionId : String) (resync : Bool) (oldest : Option Nat) : GatewayConnection :=
  let connection :=
    if resync then
      let journal := connection.journal.remove (some sessionId)
      match oldest with
      | some oldest =>
          if 0 < oldest then
            { connection with journal := journal.markReplayed sessionId (oldest - 1) }
          else { connection with journal }
      | none => { connection with journal }
    else connection
  events.foldl handleEvent connection

/-! ## acknowledgements -/

def attachLikeCommands : List String :=
  [commandName.sessionAttach, commandName.sessionResume, commandName.eventsReplay]

/-- An attach, or a replay someone waits for: the caller reads the replayed
events from the acknowledgement itself. -/
def ingestForegroundResult (connection : GatewayConnection) (attach : SessionAttachResult) :
    GatewayConnection :=
  let sessionId := attach.session.id
  let isFirstAttach := sessionId ∉ connection.attachedSessions
  let connection :=
    { connection with
      attachedSessions := connection.attachedSessions.insert sessionId
      attachedNodup := connection.attachedNodup.insert }
  let connection :=
    if isFirstAttach ∨ attach.resyncRequired then
      connection.emit (.transcriptReset sessionId
        (if attach.resyncRequired then some "resync_required" else none))
    else connection
  let journal :=
    if attach.resyncRequired then
      let journal := connection.journal.remove (some sessionId)
      match attach.oldestAvailableSequence with
      | some oldest => if 0 < oldest then journal.markReplayed sessionId (oldest - 1) else journal
      | none => journal
    else connection.journal
  let connection :=
    { connection with journal := journal.markReplayed sessionId attach.latestSequence }
  connection.emit (.replayCompleted sessionId attach.resyncRequired)

/-- A replay the connection asked for itself. -/
def ingestBackgroundResult (connection : GatewayConnection) (attach : SessionAttachResult) :
    GatewayConnection :=
  let sessionId := attach.session.id
  let connection := connection.replayEvents attach.replayed sessionId false none
  let lastSequence := connection.cursor sessionId
  if lastSequence < attach.latestSequence then
    let nextSequence := lastSequence + 1
    let connection := connection.emit (.replayRequested sessionId nextSequence)
    connection.requestReplay sessionId nextSequence lastSequence
  else connection.markConnected.emit (.replayCompleted sessionId false)

def ingestAttachResult (connection : GatewayConnection) (ack : GatewayAck)
    (isBackgroundReplay : Bool) : GatewayConnection :=
  match ack.result with
  | none => connection
  | some attach =>
      if isBackgroundReplay then connection.ingestBackgroundResult attach
      else connection.ingestForegroundResult attach

def resolveAck (connection : GatewayConnection) (ack : GatewayAck) : GatewayConnection :=
  { connection with
    timeouts := connection.timeouts.erase ack.requestId
    pendingCommandNames := connection.pendingCommandNames.erase ack.requestId
    pending := connection.pending.erase ack.requestId }

/-- The attach of `sessionId` completed: the events held back for it are handled
in the order of their sequence numbers. -/
def releaseDeferred (connection : GatewayConnection) (sessionId : String) : GatewayConnection :=
  let deferred := (connection.deferredAttachEvents.lookup sessionId).getD []
  let connection :=
    { connection with
      pendingAttachSessions := connection.pendingAttachSessions.erase sessionId
      deferredAttachEvents := connection.deferredAttachEvents.erase sessionId }
  (deferred.insertionSort fun a b => a.sequence ≤ b.sequence).foldl handleEvent connection

theorem fresh_erase_ack (connection : GatewayConnection) (ack : GatewayAck) :
    ∀ id ∈ connection.pendingAttachSessionByRequest.erase ack.requestId,
      id < connection.nextRequest :=
  fun id hid => connection.idsFresh id (AList.mem_erase.mp hid).2

def handleAck (connection : GatewayConnection) (ack : GatewayAck) : GatewayConnection :=
  let commandName := connection.pendingCommandNames.lookup ack.requestId
  let isBackgroundReplay := ack.requestId ∈ connection.backgroundReplayRequests
  let pendingAttachSession := connection.pendingAttachSessionByRequest.lookup ack.requestId
  let connection :=
    { connection with
      backgroundReplayRequests := connection.backgroundReplayRequests.erase ack.requestId
      pendingAttachSessionByRequest :=
        connection.pendingAttachSessionByRequest.erase ack.requestId
      idsFresh := connection.fresh_erase_ack ack }
  let connection := connection.resolveAck ack
  let connection :=
    match commandName with
    | some name =>
        if ack.ok ∧ name ∈ attachLikeCommands then
          connection.ingestAttachResult ack isBackgroundReplay
        else connection
    | none => connection
  let connection :=
    match pendingAttachSession with
    | some sessionId => connection.releaseDeferred sessionId
    | none => connection
  connection.emit (.ack ack)

/-! ## requests -/

/-- The attaches in progress with one more, if the request is one. -/
def withAttach (attaches : AList fun _ : RequestId => String) (requestId : RequestId) :
    Option String → AList fun _ : RequestId => String
  | some sessionId => attaches.insert requestId sessionId
  | none => attaches

theorem mem_withAttach {attaches : AList fun _ : RequestId => String} {requestId id : RequestId}
    {attach : Option String} (h : id ∈ withAttach attaches requestId attach) :
    id = requestId ∨ id ∈ attaches := by
  cases attach with
  | some sessionId => exact (AList.mem_insert attaches).mp h
  | none => exact .inr h

/-- A command is sent.  While one that attaches is on its way, what does not follow the
cursor of its session is held back. -/
def send (connection : GatewayConnection) (command : String) (sessionId : Option String)
    (params : Option Json) : GatewayConnection :=
  let requestId := connection.nextRequest
  let attach := if command ∈ attachLikeCommands then sessionId else none
  { connection with
    pendingAttachSessions :=
      attach.elim connection.pendingAttachSessions connection.pendingAttachSessions.insert
    pendingAttachSessionByRequest :=
      withAttach connection.pendingAttachSessionByRequest requestId attach
    pending := requestId :: connection.pending
    pendingCommandNames := connection.pendingCommandNames.insert requestId command
    timeouts := requestId :: connection.timeouts
    nextRequest := requestId + 1
    outbox := connection.outbox ++ [{ requestId, command, sessionId, params }]
    idsFresh := fun id hid => by
      rcases mem_withAttach hid with rfl | hid
      · exact Nat.lt_succ_self _
      · exact Nat.lt_succ_of_lt (connection.idsFresh id hid) }

/-- A session whose attach failed is not waited for, and what was held back for it is
dropped. -/
def dropAttach (connection : GatewayConnection) : Option String → GatewayConnection
  | some sessionId =>
      { connection with
        pendingAttachSessions := connection.pendingAttachSessions.erase sessionId
        deferredAttachEvents := connection.deferredAttachEvents.erase sessionId }
  | none => connection

/-- A request failed: it timed out, an error names it, or it could not be sent. -/
def failPending (connection : GatewayConnection) (requestId : RequestId) : GatewayConnection :=
  let connection :=
    connection.dropAttach (connection.pendingAttachSessionByRequest.lookup requestId)
  { connection with
    timeouts := connection.timeouts.erase requestId
    pendingCommandNames := connection.pendingCommandNames.erase requestId
    pendingAttachSessionByRequest := connection.pendingAttachSessionByRequest.erase requestId
    pending := connection.pending.erase requestId
    idsFresh := fun id hid => connection.idsFresh id (AList.mem_erase.mp hid).2 }

/-- The transport closed, and all requests failed. -/
def failAllPending (connection : GatewayConnection) : GatewayConnection :=
  { connection with
    pending := []
    pendingCommandNames := ∅
    pendingAttachSessions := []
    pendingAttachSessionByRequest := ∅
    deferredAttachEvents := ∅
    timeouts := []
    idsFresh := fun id hid => absurd hid (AList.notMem_empty id) }

/-- Nobody waits for a replay that takes too long. -/
def clearReplayRequest (connection : GatewayConnection) (requestId : RequestId) :
    GatewayConnection :=
  { connection with
    backgroundReplayRequests := connection.backgroundReplayRequests.erase requestId
    pendingCommandNames := connection.pendingCommandNames.erase requestId }

/-! ## other frames -/

/-- The host cannot continue a session, or any. -/
def handleResync (connection : GatewayConnection) (sessionId : Option String) (reason : String) :
    GatewayConnection :=
  let connection :=
    { connection with
      journal := connection.journal.remove sessionId
      -- the next attach counts as the first
      attachedSessions :=
        sessionId.elim connection.attachedSessions connection.attachedSessions.erase
      attachedNodup := by
        cases sessionId with
        | some sessionId => exact connection.attachedNodup.erase sessionId
        | none => exact connection.attachedNodup }
  let connection := connection.handleState (.resyncRequired (some reason))
  let connection := connection.emit (.resyncRequired sessionId reason)
  connection.emit (.serverError { code := "resync_required", message := reason })

def handleError (connection : GatewayConnection) (error : GatewayProtocolError) :
    GatewayConnection :=
  let connection :=
    match error.requestId with
    | some requestId => connection.failPending requestId
    | none => connection
  connection.emit (.serverError error)

def handleWelcome (connection : GatewayConnection) (welcome : Client.ServerWelcome) :
    GatewayConnection :=
  { connection with currentWelcome := some welcome }.emit (.welcome welcome)

/-! ## reconnecting -/

def restoreAttachment (connection : GatewayConnection) (sessionId : String) : GatewayConnection :=
  let last := connection.cursor sessionId
  let connection := connection.emit (.replayRequested sessionId (last + 1))
  connection.requestReplay sessionId (last + 1) last

/-- Asks for a replay of every session attached before the reconnect; the set is
visited in some order. -/
def restoreAttachments (connection : GatewayConnection) : GatewayConnection :=
  connection.attachedSessions.foldl restoreAttachment connection

/-- The handshake succeeded. -/
def welcomed (connection : GatewayConnection) (welcome : Client.ServerWelcome) :
    GatewayConnection :=
  let connection := { connection with currentWelcome := some welcome }
  let connection := connection.handleState (.handshakeSucceeded welcome)
  (connection.emit (.welcome welcome)).restoreAttachments

/-- The connection broke, or could not be made: it is made again, or has failed. -/
def disconnected (connection : GatewayConnection) (message : String) : GatewayConnection :=
  let connection :=
    connection.emit (.serverError { code := "connection_attempt_failed", message })
  let connection := connection.failAllPending
  let (effect, stateMachine) := connection.stateMachine.handle (.disconnected (some message))
  let connection := { connection with stateMachine }.emit (.stateChanged stateMachine.state)
  match effect with
  | .scheduleReconnect _ => connection.emit (.close "reconnecting")
  | _ =>
      match stateMachine.state with
      | .failed failure =>
          connection.emit (.serverError { code := failure.code, message := failure.message })
      | _ => connection

/-- The client stopped the connection. -/
def stopped (connection : GatewayConnection) : GatewayConnection :=
  let stateMachine := connection.stateMachine.markClosed
  let connection := { connection with stateMachine }.emit (.stateChanged stateMachine.state)
  connection.failAllPending.emit (.close "client_stopped")

/-- The client stopped the connection to go on with another host. -/
def reconfigured (connection : GatewayConnection) : GatewayConnection :=
  { connection.stopped with
    journal := {}
    attachedSessions := []
    attachedNodup := List.nodup_nil
    backgroundReplayRequests := []
    currentWelcome := none }

end GatewayConnection

end Slight
