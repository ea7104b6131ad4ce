import Slight.Gateway.Server
import Slight.Support.System

/-!
# Slight.Gateway.Outbound

The loop of a connection: reading, pushing frames to the outbound queue, and
writing the queue to the socket.

The socket has a write buffer of its own.  A `write` appends the message to that
buffer and may then try to send it; when the stream would block, the message stays
in the buffer and the error is returned all the same.  The loop takes that error as
"not written" and puts the frame back at the front of its queue, so the message
gets into the buffer twice.  A `flush` that would block does no harm.

`Handler.blocked` counts the writes that would block.
-/

namespace Slight

namespace Gateway

open Support

/-! ## the socket -/

inductive IoErrorKind where
  | wouldBlock
  | timedOut
  | interrupted
  | other
  deriving DecidableEq

inductive WsError where
  | io (kind : IoErrorKind)
  | connectionClosed
  | alreadyClosed
  | other
  deriving DecidableEq

def isWouldBlock : WsError → Bool
  | .io .wouldBlock | .io .timedOut | .io .interrupted => true
  | _ => false

/-- What a read yields: a payload, or a message of the WebSocket protocol itself. -/
inductive Incoming where
  | text (payload : Payload)
  | binary (payload : Payload)
  | ping
  | pong
  | frame
  | close

/-- A WebSocket over a stream; `accepted` are the messages its write buffer was
given, `received` those that went out completely, each in order. -/
class WebSocket (W : Type) (M : outParam Type) where
  read : W → Except WsError Incoming × W
  write : W → M → Except WsError Unit × W
  flush : W → Except WsError Unit × W
  close : W → Except WsError Unit × W
  accepted : W → List M
  received : W → List M

/-- What the library documents: a write that succeeds or would block has appended the
message, and nothing else appends one. -/
class LawfulWebSocket (W : Type) {M : outParam Type} [WebSocket W M] : Prop where
  received_begins : ∀ socket : W, WebSocket.received socket <+: WebSocket.accepted socket
  accepted_read : ∀ socket : W,
    WebSocket.accepted (WebSocket.read socket).2 = WebSocket.accepted socket
  accepted_flush : ∀ socket : W,
    WebSocket.accepted (WebSocket.flush socket).2 = WebSocket.accepted socket
  accepted_write : ∀ (socket : W) (message : M) (result : Except WsError Unit) (socket' : W),
    WebSocket.write socket message = (result, socket') →
      (∀ error, result = .error error → isWouldBlock error = true) →
        WebSocket.accepted socket' = WebSocket.accepted socket ++ [message]

/-! ## the loop -/

/-- A connection in its loop, with the frames pushed and the blocked writes so
far. -/
structure Handler (W S C A : Type) where
  socket : W
  connected : Connected S C A
  outbound : List Frame := []
  isOpen : Bool := true
  pushed : List Frame := []
  blocked : Nat := 0

/-- How the write loop ended. -/
inductive Written where
  | drained
  | blocked
  | failed
  deriving DecidableEq

section

variable {W M S C A : Type} [WebSocket W M]

/-- Writes the queue until it is empty or a write fails.  A frame that cannot be
encoded is dropped; one whose write would block goes back to the front. -/
def writeQueue (encode : Frame → Except ProtocolError M) (socket : W) :
    List Frame → Written × W × List Frame
  | [] => (.drained, socket, [])
  | frame :: rest =>
      match encode frame with
      | .error _ => writeQueue encode socket rest
      | .ok message =>
          match WebSocket.write socket message with
          | (.ok (), socket) => writeQueue encode socket rest
          | (.error error, socket) =>
              if isWouldBlock error then (.blocked, socket, frame :: rest)
              else (.failed, socket, rest)

namespace Handler

def push (handler : Handler W S C A) (frames : List Frame) : Handler W S C A :=
  { handler with
    outbound := handler.outbound ++ frames
    pushed := handler.pushed ++ frames }

/-- One read.  A timeout is not fatal. -/
def receive [SessionStore S] [AcpSession C] [AcpDiscovery C] [HostAdmin S C A] [Authenticator A]
    (config : GatewayConfig) (handler : Handler W S C A) : Handler W S C A :=
  let (result, socket) := WebSocket.read handler.socket
  match result with
  | .ok (.text payload) | .ok (.binary payload) =>
      let processed := dispatchIncoming config handler.connected payload
      { handler with socket, connected := processed.connected }.push processed.outbound
  | .ok .ping | .ok .pong | .ok .frame => { handler with socket }
  | .ok .close => { handler with socket, isOpen := false }
  | .error error => { handler with socket, isOpen := isWouldBlock error }

/-- The channels of the subscriptions are drained, in any order. -/
def drainEvents (order : List SessionId) (handler : Handler W S C A) : Handler W S C A :=
  let (connected, frames) := drainSubscriptions handler.connected order
  { handler with connected }.push frames

def sendHeartbeat (config : GatewayConfig) (due : Bool) (handler : Handler W S C A) :
    Handler W S C A :=
  match config.heartbeatIntervalMs.filter (0 < ·) with
  | some _ =>
      if due then
        let (connected, frames) := heartbeat handler.connected
        { handler with connected }.push frames
      else handler
  | none => handler

/-- The write loop and the flush, which is skipped when a write would block. -/
def write (encode : Frame → Except ProtocolError M) (handler : Handler W S C A) :
    Handler W S C A :=
  let (written, socket, outbound) := writeQueue encode handler.socket handler.outbound
  match written with
  | .blocked => { handler with socket, outbound, blocked := handler.blocked + 1 }
  | .drained | .failed =>
      let (flushed, socket) := WebSocket.flush socket
      let flushFailed := match flushed with
        | .ok () => false
        | .error error => !isWouldBlock error
      { handler with socket, outbound, isOpen := written != .failed && !flushFailed }

/-- The best-effort close handshake. -/
def finish (handler : Handler W S C A) : Handler W S C A :=
  { handler with
    socket := (WebSocket.close (WebSocket.flush handler.socket).2).2
    isOpen := false }

/-- One round of the loop. -/
def poll [SessionStore S] [AcpSession C] [AcpDiscovery C] [HostAdmin S C A] [Authenticator A]
    (config : GatewayConfig) (encode : Frame → Except ProtocolError M) (shutdown due : Bool)
    (order : List SessionId) (handler : Handler W S C A) : Handler W S C A :=
  if shutdown then handler.finish
  else
    let handler := handler.receive config
    if handler.isOpen then
      let handler := ((handler.drainEvents order).sendHeartbeat config due).write encode
      if handler.isOpen then handler else handler.finish
    else handler.finish

end Handler

/-- What happens: a round of the loop, or something on the server that other threads
do. -/
inductive HandlerStep (S C A : Type) where
  | poll (shutdown due : Bool) (order : List SessionId)
  | serve (server : Server S C A)

section

variable [SessionStore S] [AcpSession C] [AcpDiscovery C] [HostAdmin S C A] [Authenticator A]

def Handler.next (config : GatewayConfig) (encode : Frame → Except ProtocolError M)
    (handler : Handler W S C A) : HandlerStep S C A → Option (Handler W S C A)
  | .poll shutdown due order =>
      if handler.isOpen then some (handler.poll config encode shutdown due order) else none
  | .serve server =>
      some { handler with connected := { handler.connected with server } }

/-- Connections that start with a socket nothing was written to. -/
def handlerSystem (W : Type) [WebSocket W M] (config : GatewayConfig)
    (encode : Frame → Except ProtocolError M) : System (Handler W S C A) (HandlerStep S C A) :=
  .ofNext
    (fun handler => WebSocket.accepted handler.socket = [] ∧ handler.outbound = [] ∧
      handler.pushed = [] ∧ handler.blocked = 0)
    (Handler.next config encode)

end

/-! ## what the buffer was given -/

/-- As long as no write would block, the buffer and the queue hold the pushed frames;
every write that would block adds a copy. -/
structure Handler.Accounted (message : Frame → M) (handler : Handler W S C A) : Prop where
  intact : handler.blocked = 0 →
    WebSocket.accepted handler.socket ++ handler.outbound.map message =
      handler.pushed.map message
  count : (WebSocket.accepted handler.socket).length + handler.outbound.length =
    handler.pushed.length + handler.blocked

variable {encode : Frame → Except ProtocolError M} {message : Frame → M}

namespace Handler

theorem Accounted.push {handler : Handler W S C A} (h : handler.Accounted message)
    (frames : List Frame) : (handler.push frames).Accounted message where
  intact := by
    intro hblocked
    have hintact := h.intact hblocked
    rw [Handler.push, List.map_append, List.map_append, ← List.append_assoc, hintact]
  count := by
    have hcount := h.count
    simp only [Handler.push, List.length_append]
    omega

/-- Only the socket, the queue, what was pushed and what blocked are accounted. -/
theorem Accounted.frame {handler handler' : Handler W S C A} (h : handler.Accounted message)
    (haccepted : WebSocket.accepted handler'.socket = WebSocket.accepted handler.socket)
    (houtbound : handler'.outbound = handler.outbound) (hpushed : handler'.pushed = handler.pushed)
    (hblocked : handler'.blocked = handler.blocked) : handler'.Accounted message where
  intact := by
    rw [haccepted, houtbound, hpushed, hblocked]
    exact h.intact
  count := by
    rw [haccepted, houtbound, hpushed, hblocked]
    exact h.count

theorem Accounted.drainEvents {handler : Handler W S C A} (h : handler.Accounted message)
    (order : List SessionId) : (handler.drainEvents order).Accounted message := by
  refine Accounted.push ?_ _
  exact h.frame rfl rfl rfl rfl

theorem Accounted.sendHeartbeat {handler : Handler W S C A} (h : handler.Accounted message)
    (config : GatewayConfig) (due : Bool) : (handler.sendHeartbeat config due).Accounted message := by
  unfold Handler.sendHeartbeat
  split
  · split
    · refine Accounted.push ?_ _
      exact h.frame rfl rfl rfl rfl
    · exact h
  · exact h

end Handler

variable [LawfulWebSocket W]

theorem writeQueue_drained (hencode : ∀ frame, encode frame = .ok (message frame))
    {socket socket' : W} {queue rest : List Frame}
    (h : writeQueue encode socket queue = (.drained, socket', rest)) :
    rest = [] ∧ WebSocket.accepted socket' = WebSocket.accepted socket ++ queue.map message := by
  induction queue generalizing socket with
  | nil =>
      cases h
      exact ⟨rfl, (List.append_nil _).symm⟩
  | cons frame queue ih =>
      rw [writeQueue, hencode] at h
      dsimp only at h
      split at h
      · next socket₁ hwrite =>
        obtain ⟨hrest, haccepted⟩ := ih h
        have hfirst := LawfulWebSocket.accepted_write socket _ _ _ hwrite nofun
        rw [haccepted, hfirst, List.map_cons, List.append_assoc, List.singleton_append]
        exact ⟨hrest, rfl⟩
      · split at h <;> cases h

/-- The frame whose write would block is in the buffer and in the queue. -/
theorem writeQueue_blocked (hencode : ∀ frame, encode frame = .ok (message frame))
    {socket socket' : W} {queue rest : List Frame}
    (h : writeQueue encode socket queue = (.blocked, socket', rest)) :
    ∃ written frame after, queue = written ++ frame :: after ∧ rest = frame :: after ∧
      WebSocket.accepted socket' =
        WebSocket.accepted socket ++ (written ++ [frame]).map message := by
  induction queue generalizing socket with
  | nil => cases h
  | cons frame queue ih =>
      rw [writeQueue, hencode] at h
      dsimp only at h
      split at h
      · next socket₁ hwrite =>
        obtain ⟨written, blocked, after, rfl, hrest, haccepted⟩ := ih h
        have hfirst := LawfulWebSocket.accepted_write socket _ _ _ hwrite nofun
        refine ⟨frame :: written, blocked, after, rfl, hrest, ?_⟩
        rw [haccepted, hfirst, List.append_assoc, List.singleton_append]
        rfl
      · next error socket₁ hwrite =>
        split at h
        · next hblock =>
          cases h
          refine ⟨[], frame, queue, rfl, rfl, ?_⟩
          refine LawfulWebSocket.accepted_write socket _ _ _ hwrite fun error' herror => ?_
          cases herror
          exact hblock
        · cases h

namespace Handler

theorem Accounted.write {handler : Handler W S C A} (h : handler.Accounted message)
    (hencode : ∀ frame, encode frame = .ok (message frame))
    (hopen : (handler.write encode).isOpen = true) :
    (handler.write encode).Accounted message := by
  unfold Handler.write at hopen ⊢
  rcases hqueue : writeQueue encode handler.socket handler.outbound with
    ⟨written, socket, rest⟩
  rw [hqueue] at hopen
  cases written with
  | drained =>
      obtain ⟨rfl, haccepted⟩ := writeQueue_drained hencode hqueue
      refine ⟨fun hblocked => ?_, ?_⟩
      · dsimp only
        rw [LawfulWebSocket.accepted_flush, haccepted, List.map_nil, List.append_nil]
        exact h.intact hblocked
      · have hcount := h.count
        dsimp only
        rw [LawfulWebSocket.accepted_flush, haccepted, List.length_append, List.length_map]
        exact hcount
  | blocked =>
      obtain ⟨written, frame, after, houtbound, rfl, haccepted⟩ :=
        writeQueue_blocked hencode hqueue
      refine ⟨fun hblocked => absurd hblocked (Nat.succ_ne_zero _), ?_⟩
      have hcount := h.count
      rw [houtbound] at hcount
      dsimp only
      rw [haccepted]
      simp only [List.length_append, List.length_map, List.length_cons, List.length_nil]
        at hcount ⊢
      omega
  | failed => simp at hopen

section

variable [SessionStore S] [AcpSession C] [AcpDiscovery C] [HostAdmin S C A] [Authenticator A]
  {config : GatewayConfig}

theorem Accounted.receive {handler : Handler W S C A} (h : handler.Accounted message) :
    (handler.receive config).Accounted message := by
  have haccepted := LawfulWebSocket.accepted_read handler.socket
  unfold Handler.receive
  rcases hread : WebSocket.read handler.socket with ⟨result, socket⟩
  rw [hread] at haccepted
  dsimp only
  split
  · refine Accounted.push ?_ _
    exact h.frame haccepted rfl rfl rfl
  · refine Accounted.push ?_ _
    exact h.frame haccepted rfl rfl rfl
  all_goals exact h.frame haccepted rfl rfl rfl

theorem Accounted.poll {handler : Handler W S C A} (h : handler.Accounted message)
    (hencode : ∀ frame, encode frame = .ok (message frame)) {shutdown due : Bool}
    {order : List SessionId}
    (hopen : (handler.poll config encode shutdown due order).isOpen = true) :
    (handler.poll config encode shutdown due order).Accounted message := by
  unfold Handler.poll at hopen ⊢
  split at hopen
  · contradiction
  · dsimp only at hopen ⊢
    split at hopen
    · split at hopen
      · next hwritten =>
        rw [if_neg ‹¬ shutdown = true›, if_pos ‹(handler.receive config).isOpen = true›,
          if_pos hwritten]
        exact (((h.receive).drainEvents order).sendHeartbeat config due).write hencode hwritten
      · contradiction
    · contradiction

/-- **Run**: an open connection is accounted. -/
theorem accounted_of_reachable (hencode : ∀ frame, encode frame = .ok (message frame))
    {handler : Handler W S C A} (h : (handlerSystem W config encode).Reachable handler)
    (hopen : handler.isOpen = true) : handler.Accounted message := by
  refine System.invariant_of_step
    (I := fun handler : Handler W S C A => handler.isOpen = true → handler.Accounted message)
    ?_ ?_ h hopen
  · rintro start ⟨haccepted, houtbound, hpushed, hblocked⟩ -
    refine ⟨fun _ => ?_, ?_⟩
    · rw [haccepted, houtbound, hpushed]
      rfl
    · rw [haccepted, houtbound, hpushed, hblocked]
      rfl
  · intro handler a handler' ih _ hnext hopen'
    cases a with
    | poll shutdown due order =>
        obtain ⟨hopen, rfl⟩ : handler.isOpen = true ∧
            handler.poll config encode shutdown due order = handler' := by
          simpa [handlerSystem, System.ofNext, Handler.next] using hnext
        exact (ih hopen).poll hencode hopen'
    | serve server =>
        cases hnext
        exact (ih hopen').frame rfl rfl rfl rfl

/-- **Sent once**: as long as no `write` would block, whatever the flushes do, the
peer of an open connection receives the pushed frames once and in order; and once
the queue and the buffer are empty, it has received exactly them if and only if no
`write` would block. -/
theorem outbound_sent_once (hencode : ∀ frame, encode frame = .ok (message frame))
    {handler : Handler W S C A} (h : (handlerSystem W config encode).Reachable handler)
    (hopen : handler.isOpen = true) :
    (handler.blocked = 0 →
      WebSocket.received handler.socket <+: handler.pushed.map message) ∧
    (handler.outbound = [] →
      WebSocket.received handler.socket = WebSocket.accepted handler.socket →
        (WebSocket.received handler.socket <+: handler.pushed.map message ↔
          handler.blocked = 0)) := by
  have haccounted := accounted_of_reachable hencode h hopen
  have hbegins : handler.blocked = 0 →
      WebSocket.received handler.socket <+: handler.pushed.map message := by
    intro hblocked
    refine (LawfulWebSocket.received_begins handler.socket).trans ?_
    exact ⟨handler.outbound.map message, haccounted.intact hblocked⟩
  refine ⟨hbegins, fun houtbound hsent => ⟨fun hreceived => ?_, hbegins⟩⟩
  have hlength := hreceived.length_le
  have hcount := haccounted.count
  rw [hsent, List.length_map] at hlength
  rw [houtbound, List.length_nil] at hcount
  omega

end

end Handler

end

/-! ## a peer that is slow to read -/

/-- A socket that follows a script: what the reads yield, and which writes and
flushes would block. -/
structure ScriptedSocket where
  incoming : List Incoming
  writes : List Bool
  flushes : List Bool
  out : List Frame := []
  buffer : List Frame := []

namespace ScriptedSocket

def read (socket : ScriptedSocket) : Except WsError Incoming × ScriptedSocket :=
  match socket.incoming with
  | [] => (.error (.io .wouldBlock), socket)
  | message :: incoming => (.ok message, { socket with incoming })

def write (socket : ScriptedSocket) (message : Frame) : Except WsError Unit × ScriptedSocket :=
  ( if socket.writes.headD false then .error (.io .wouldBlock) else .ok (),
    { socket with writes := socket.writes.tail, buffer := socket.buffer ++ [message] } )

def flush (socket : ScriptedSocket) : Except WsError Unit × ScriptedSocket :=
  if socket.flushes.headD false then
    (.error (.io .wouldBlock), { socket with flushes := socket.flushes.tail })
  else
    ( .ok (),
      { socket with
        flushes := socket.flushes.tail
        out := socket.out ++ socket.buffer
        buffer := [] } )

instance : WebSocket ScriptedSocket Frame where
  read := read
  write := write
  flush := flush
  close socket := (.ok (), socket)
  accepted socket := socket.out ++ socket.buffer
  received socket := socket.out

instance : LawfulWebSocket ScriptedSocket where
  received_begins socket := List.prefix_append _ _
  accepted_read socket := by
    show (read socket).2.out ++ (read socket).2.buffer = socket.out ++ socket.buffer
    unfold read
    split <;> rfl
  accepted_flush socket := by
    show (flush socket).2.out ++ (flush socket).2.buffer = socket.out ++ socket.buffer
    unfold flush
    split
    · rfl
    · exact List.append_nil _
  accepted_write socket message result socket' hwrite _ := by
    cases hwrite
    exact (List.append_assoc _ _ _).symm

end ScriptedSocket

/-- A connection whose client asks for two pongs. -/
def sampleHandler (writes flushes : List Bool) :
    Handler ScriptedSocket SqliteStore ScriptedAgent TestHost where
  socket :=
    { incoming := ["1", "2"].map fun nonce => .text (.ok (.ping ⟨protocolVersion, nonce⟩))
      writes := writes
      flushes := flushes }
  connected := ⟨TestHost.server, .new⟩

/-- The answer to a ping. -/
def samplePong (nonce : String) : Frame := .pong ⟨protocolVersion, nonce⟩

/-- A round of the loop in which nothing else happens. -/
def samplePoll : HandlerStep SqliteStore ScriptedAgent TestHost := .poll false false []

/-- The connection after some rounds. -/
def sampleRounds (writes flushes : List Bool) (rounds : Nat) :
    Handler ScriptedSocket SqliteStore ScriptedAgent TestHost :=
  (System.runs (Handler.next TestHost.config .ok) (sampleHandler writes flushes)
    (List.replicate rounds samplePoll)).getD (sampleHandler writes flushes)

/-- A flush would block in the first round; both pongs are received. -/
theorem outbound_sent_once_sample :
    WebSocket.received (sampleRounds [] [true] 2).socket = [samplePong "1", samplePong "2"] ∧
      WebSocket.received (sampleRounds [] [true] 2).socket <+:
        (sampleRounds [] [true] 2).pushed.map id := by
  have hreach : (handlerSystem ScriptedSocket TestHost.config .ok).Reachable
      (sampleRounds [] [true] 2) :=
    System.reachable_of_runs (s := sampleHandler [] [true]) (List.replicate 2 samplePoll)
      ⟨rfl, rfl, rfl, rfl⟩ rfl
  exact ⟨rfl, (Handler.outbound_sent_once (fun _ => rfl) hreach rfl).1 rfl⟩

/-- A write would block in the first round; the peer receives the pong twice. -/
theorem frame_sent_twice :
    ∃ handler : Handler ScriptedSocket SqliteStore ScriptedAgent TestHost,
      (handlerSystem ScriptedSocket TestHost.config .ok).Reachable handler ∧
        handler.isOpen = true ∧ handler.pushed = [samplePong "1", samplePong "2"] ∧
        WebSocket.received handler.socket =
          [samplePong "1", samplePong "1", samplePong "2"] ∧
        ¬ WebSocket.received handler.socket <+: handler.pushed := by
  refine ⟨sampleRounds [true] [] 3, ?_, rfl, rfl, rfl, fun hbegins => ?_⟩
  · exact System.reachable_of_runs (s := sampleHandler [true] []) (List.replicate 3 samplePoll)
      ⟨rfl, rfl, rfl, rfl⟩ rfl
  · have hle := hbegins.length_le
    contradiction

end Gateway

end Slight
