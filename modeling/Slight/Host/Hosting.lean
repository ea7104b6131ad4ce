import Slight.Gateway.Outbound

/-!
# Slight.Host.Hosting

A host with all its threads: the one in `serve`, which accepts connections, the pump, and one
for every connection.  One flag asks the host to stop; the threads read it at the top of their
loops, and `serve` returns when its own loop and the pump have ended.

* `HostAdminImpl` — the flags, and the commands about the host's life;
* `Hosting` — the state, and `Hosting.next` its steps;
* `Hosting.runs_round` — a round of a connection's loop is three of them.
-/

namespace Slight

namespace HostService

open Gateway Support Support.Program

/-! ## the flags -/

inductive HostRunState where
  | stopped
  | starting
  | running
  | stopping
  | failed

def HostRunState.name : HostRunState → String
  | stopped => "stopped"
  | starting => "starting"
  | running => "running"
  | stopping => "stopping"
  | failed => "failed"

/-- The log of the host. -/
class HostLog (A : Type) where
  log : A → (level message : String) → A

/-- The flags of the host, and the rest of its administration. -/
structure HostAdminImpl (A : Type) where
  shutdown : Bool
  running : Bool
  rest : A

namespace HostAdminImpl

variable {S C A : Type}

def runState (host : HostAdminImpl A) : HostRunState :=
  if host.shutdown then .stopping else if host.running then .running else .stopped

def lifecycleResult (state : HostRunState) (message : String) : Json :=
  .obj [("state", .str state.name), ("message", .str message)]

/-- The status, with the state of the host for the one in it. -/
def withState (state : HostRunState) : Json → Json
  | .obj fields => .obj (("state", .str state.name) :: fields.filter (·.1 ≠ "state"))
  | other => other

/-- A request that the rest of the administration answers. -/
def ask {β : Type} (host : HostAdminImpl A) (request : A → β × A) : β × HostAdminImpl A :=
  ((request host.rest).1, { host with rest := (request host.rest).2 })

def requestStart (host : HostAdminImpl A) : Json :=
  if host.shutdown then
    lifecycleResult .failed "host is shutting down; restart the process or supervisor"
  else lifecycleResult .running "host already running"

section

variable [HostLog A]

def log (host : HostAdminImpl A) (level message : String) : HostAdminImpl A :=
  { host with rest := HostLog.log host.rest level message }

def requestStop (host : HostAdminImpl A) : Json × HostAdminImpl A :=
  (lifecycleResult .stopping "shutdown requested",
    { host with shutdown := true }.log "info" "shutdown requested")

def requestRestart (host : HostAdminImpl A) : Json × HostAdminImpl A :=
  (lifecycleResult .stopping "restart requires an external supervisor",
    { host with shutdown := true }.log "info" "restart requested; process supervisor required")

end

instance [HostAdmin S C A] [HostLog A] : HostAdmin S C (HostAdminImpl A) where
  status host world :=
    let (status, host) := host.ask (HostAdmin.status · world)
    (withState host.runState status, host)
  diagnostics host world := host.ask (HostAdmin.diagnostics · world)
  requestStart host _ := (.ok host.requestStart, host)
  requestStop host _ := (.ok host.requestStop.1, host.requestStop.2)
  requestRestart host _ := (.ok host.requestRestart.1, host.requestRestart.2)
  beginPairing host world label := host.ask (HostAdmin.beginPairing · world label)
  listPairings host world := host.ask (HostAdmin.listPairings · world)
  listDevices host world := host.ask (HostAdmin.listDevices · world)
  revokeDevice host world deviceId := host.ask (HostAdmin.revokeDevice · world deviceId)

instance [Authenticator A] : Authenticator (HostAdminImpl A) where
  authenticate host hello := host.ask (Authenticator.authenticate · hello)

end HostAdminImpl

/-! ## the threads -/

/-- Where the thread of a connection is. -/
inductive ConnectionPhase where
  | upgrading
  | checking
  | reading
  | writing
  | ended
  deriving DecidableEq

/-- The thread of a connection, with its socket, its own state and its queue. -/
structure Connection (W : Type) where
  phase : ConnectionPhase
  socket : W
  state : ConnState
  outbound : List Frame

/-- Where the thread in `serve` is; in a round it has `left` listeners to ask. -/
inductive Serving where
  | bound
  | starting
  | polling
  | accepting (left : Nat)
  | stopped (result : Except IoErrorKind Unit)
  | joining (result : Except IoErrorKind Unit)
  | returned (result : Except IoErrorKind Unit)

inductive Pumping where
  | unstarted
  | checking
  | pumping
  | ended
  deriving DecidableEq

/-- What `accept` yields: a stream, and whether it can be made blocking; nothing yet; or an
error that ends the loop. -/
inductive Accepted (W : Type) where
  | stream (socket : W) (blocking : Except IoErrorKind Unit)
  | notYet
  | failed (kind : IoErrorKind)

/-- A host with all its threads, and the addresses of its listeners. -/
structure Hosting (W S C A : Type) where
  server : Server S C (HostAdminImpl A)
  listeners : List String
  serving : Serving
  pumping : Pumping
  connections : List (Connection W)

/-- What happens: `shutdown` and `serve` are called; a step of the thread in `serve`, of the
pump, or of the thread of a connection. -/
inductive HostingStep (W : Type) where
  | shutdown
  | serve
  | listen (outcome : Except IoErrorKind Unit)
  | poll
  | accept (accepted : Accepted W)
  | sleep
  | leave
  | join
  | checkPump
  | pump
  | upgrade (i : Nat) (done : Bool)
  | check (i : Nat)
  | read (i : Nat)
  | write (i : Nat) (due : Bool) (order : List SessionId)

variable {W M S C A : Type}

namespace Connection

def new (socket : W) : Connection W where
  phase := .upgrading
  socket := socket
  state := .new
  outbound := []

/-- The connection in its loop. -/
def handler (connection : Connection W) (server : Server S C A) : Handler W S C A where
  socket := connection.socket
  connected := { server, state := connection.state }
  outbound := connection.outbound

def ofHandler (handler : Handler W S C A) (phase : ConnectionPhase) : Connection W where
  phase := phase
  socket := handler.socket
  state := handler.connected.state
  outbound := handler.outbound

end Connection

namespace Hosting

def new (world : World S C) (rest : A) (listeners : List String) : Hosting W S C A where
  server := { world, admin := { shutdown := false, running := false, rest } }
  listeners := listeners
  serving := .bound
  pumping := .unstarted
  connections := []

/-- The flag that asks the host to stop. -/
def stopping (s : Hosting W S C A) : Bool := s.server.admin.shutdown

def setRunning (s : Hosting W S C A) (running : Bool) : Hosting W S C A :=
  { s with server := { s.server with admin := { s.server.admin with running } } }

/-- The thread of connection `i`, if that is where it is. -/
def connection? (s : Hosting W S C A) (i : Nat) (phase : ConnectionPhase) :
    Option (Connection W) :=
  s.connections[i]?.filter (·.phase = phase)

/-- The thread of connection `i` has come to `phase`. -/
def take (s : Hosting W S C A) (i : Nat) (handler : Handler W S C (HostAdminImpl A))
    (phase : ConnectionPhase) : Hosting W S C A :=
  { s with
    server := handler.connected.server
    connections := s.connections.set i (.ofHandler handler phase) }

/-- The thread goes on, or leaves the loop. -/
def proceed [WebSocket W M] (s : Hosting W S C A) (i : Nat)
    (handler : Handler W S C (HostAdminImpl A)) (phase : ConnectionPhase) : Hosting W S C A :=
  if handler.isOpen then s.take i handler phase else s.take i handler.finish .ended

/-! ## the thread in `serve` -/

def formatAddrs (addrs : List String) : String := ", ".intercalate addrs

/-- A second call is an error that changes nothing. -/
def serve [HostLog A] (s : Hosting W S C A) : Option (Hosting W S C A) :=
  match s.serving with
  | .bound =>
      let s := s.setRunning true
      let admin := s.server.admin.log "info" ("host listening on " ++ formatAddrs s.listeners)
      some { s with
        server := { s.server with admin }
        serving := .starting
        pumping := .checking }
  | _ => none

/-- `run` begins: the listeners are made nonblocking. -/
def listen (s : Hosting W S C A) (outcome : Except IoErrorKind Unit) :
    Option (Hosting W S C A) :=
  match s.serving, outcome with
  | .starting, .ok () => some { s with serving := .polling }
  | .starting, .error kind => some { s with serving := .stopped (.error kind) }
  | _, _ => none

def poll (s : Hosting W S C A) : Option (Hosting W S C A) :=
  match s.serving with
  | .polling =>
      some { s with
        serving := if s.stopping then .stopped (.ok ()) else .accepting s.listeners.length }
  | _ => none

def accept (s : Hosting W S C A) (accepted : Accepted W) : Option (Hosting W S C A) :=
  match s.serving, accepted with
  | .accepting (left + 1), .stream socket (.ok ()) =>
      some { s with serving := .accepting left, connections := s.connections ++ [.new socket] }
  | .accepting (_ + 1), .stream _ (.error kind) =>
      some { s with serving := .stopped (.error kind) }
  | .accepting (left + 1), .notYet => some { s with serving := .accepting left }
  | .accepting (_ + 1), .failed kind => some { s with serving := .stopped (.error kind) }
  | _, _ => none

def sleep (s : Hosting W S C A) : Option (Hosting W S C A) :=
  match s.serving with
  | .accepting 0 => some { s with serving := .polling }
  | _ => none

/-- `run` has returned. -/
def leave (s : Hosting W S C A) : Option (Hosting W S C A) :=
  match s.serving with
  | .stopped result => some { s.setRunning false with serving := .joining result }
  | _ => none

def join (s : Hosting W S C A) : Option (Hosting W S C A) :=
  match s.serving, s.pumping with
  | .joining result, .ended => some { s with serving := .returned result }
  | _, _ => none

/-! ## the pump -/

def checkPump (s : Hosting W S C A) : Option (Hosting W S C A) :=
  if s.pumping = .checking then
    some { s with pumping := if s.stopping then .ended else .pumping }
  else none

def pump [SessionStore S] [AcpSession C] (s : Hosting W S C A) : Option (Hosting W S C A) :=
  if s.pumping = .pumping then
    some { s with
      server := { s.server with world := Manager.pumpAll.final s.server.world }
      pumping := .checking }
  else none

/-! ## the connections -/

/-- The WebSocket handshake. -/
def upgrade (s : Hosting W S C A) (i : Nat) (done : Bool) : Option (Hosting W S C A) :=
  (s.connection? i .upgrading).map fun connection =>
    s.take i (connection.handler s.server) (if done then .checking else .ended)

def check [WebSocket W M] (s : Hosting W S C A) (i : Nat) : Option (Hosting W S C A) :=
  (s.connection? i .checking).map fun connection =>
    if s.stopping then s.take i (connection.handler s.server).finish .ended
    else s.take i (connection.handler s.server) .reading

section

variable [WebSocket W M] [SessionStore S] [AcpSession C] [AcpDiscovery C] [HostAdmin S C A]
  [Authenticator A] [HostLog A]

def read (config : GatewayConfig) (s : Hosting W S C A) (i : Nat) : Option (Hosting W S C A) :=
  (s.connection? i .reading).map fun connection =>
    s.proceed i ((connection.handler s.server).receive config) .writing

end

def write [WebSocket W M] (config : GatewayConfig) (encode : Frame → Except ProtocolError M)
    (s : Hosting W S C A) (i : Nat) (due : Bool) (order : List SessionId) :
    Option (Hosting W S C A) :=
  (s.connection? i .writing).map fun connection =>
    let handler := ((connection.handler s.server).drainEvents order).sendHeartbeat config due
    s.proceed i (handler.write encode) .checking

section

variable [WebSocket W M] [SessionStore S] [AcpSession C] [AcpDiscovery C] [HostAdmin S C A]
  [Authenticator A] [HostLog A]

def next (config : GatewayConfig) (encode : Frame → Except ProtocolError M)
    (s : Hosting W S C A) : HostingStep W → Option (Hosting W S C A)
  | .shutdown =>
      some { s with server := { s.server with admin := { s.server.admin with shutdown := true } } }
  | .serve => s.serve
  | .listen outcome => s.listen outcome
  | .poll => s.poll
  | .accept accepted => s.accept accepted
  | .sleep => s.sleep
  | .leave => s.leave
  | .join => s.join
  | .checkPump => s.checkPump
  | .pump => s.pump
  | .upgrade i done => s.upgrade i done
  | .check i => s.check i
  | .read i => s.read config i
  | .write i due order => s.write config encode i due order

end

end Hosting

/-! ## a round of a connection's loop -/

/-- The same but for what is only counted. -/
structure Agrees (handler handler' : Handler W S C A) : Prop where
  socket : handler'.socket = handler.socket
  connected : handler'.connected = handler.connected
  outbound : handler'.outbound = handler.outbound
  isOpen : handler'.isOpen = handler.isOpen

namespace Agrees

variable {handler handler' : Handler W S C A}

theorem push (h : Agrees handler handler') (frames : List Frame) :
    Agrees (handler.push frames) (handler'.push frames) where
  socket := h.socket
  connected := h.connected
  outbound := congrArg (· ++ frames) h.outbound
  isOpen := h.isOpen

theorem withConnected (h : Agrees handler handler') (connected : Connected S C A) :
    Agrees { handler with connected } { handler' with connected } :=
  ⟨h.socket, rfl, h.outbound, h.isOpen⟩

theorem drainEvents (h : Agrees handler handler') (order : List SessionId) :
    Agrees (handler.drainEvents order) (handler'.drainEvents order) := by
  unfold Handler.drainEvents
  rw [h.connected]
  exact (h.withConnected _).push _

theorem sendHeartbeat (h : Agrees handler handler') (config : GatewayConfig) (due : Bool) :
    Agrees (handler.sendHeartbeat config due) (handler'.sendHeartbeat config due) := by
  unfold Handler.sendHeartbeat
  split
  · split
    · rw [h.connected]
      exact (h.withConnected _).push _
    · exact h
  · exact h

theorem write [WebSocket W M] (h : Agrees handler handler')
    (encode : Frame → Except ProtocolError M) :
    Agrees (handler.write encode) (handler'.write encode) := by
  unfold Handler.write
  rw [h.socket, h.outbound]
  rcases writeQueue encode handler.socket handler.outbound with ⟨written, socket, outbound⟩
  cases written with
  | blocked => exact ⟨rfl, h.connected, rfl, h.isOpen⟩
  | drained => exact ⟨rfl, h.connected, rfl, rfl⟩
  | failed => exact ⟨rfl, h.connected, rfl, rfl⟩

/-- What the thread of a connection keeps of its handler. -/
theorem ofHandler (handler : Handler W S C A) (phase : ConnectionPhase)
    (hopen : handler.isOpen = true) :
    Agrees handler ((Connection.ofHandler handler phase).handler handler.connected.server) where
  socket := rfl
  connected := rfl
  outbound := rfl
  isOpen := hopen.symm

end Agrees

namespace Hosting

variable {s : Hosting W S C A} {i : Nat}

theorem connection?_eq_some {phase : ConnectionPhase} {connection : Connection W} :
    s.connection? i phase = some connection ↔
      s.connections[i]? = some connection ∧ connection.phase = phase := by
  rw [connection?, Option.filter_eq_some_iff, decide_eq_true_iff]

theorem take_congr {handler handler' : Handler W S C (HostAdminImpl A)}
    (h : Agrees handler handler') (phase : ConnectionPhase) :
    s.take i handler' phase = s.take i handler phase := by
  rw [take, take, Connection.ofHandler, Connection.ofHandler, h.socket, h.connected, h.outbound]

theorem take_take (handler handler' : Handler W S C (HostAdminImpl A))
    (phase phase' : ConnectionPhase) :
    (s.take i handler phase).take i handler' phase' = s.take i handler' phase' := by
  rw [take, take, take, List.set_set]

theorem connection?_take {connection : Connection W} (h : s.connections[i]? = some connection)
    (handler : Handler W S C (HostAdminImpl A)) (phase : ConnectionPhase) :
    (s.take i handler phase).connection? i phase = some (.ofHandler handler phase) := by
  have hlength := (List.getElem?_eq_some_iff.mp h).1
  exact connection?_eq_some.mpr ⟨List.getElem?_set_self hlength, rfl⟩

variable [WebSocket W M] [SessionStore S] [AcpSession C] [AcpDiscovery C] [HostAdmin S C A]
  [Authenticator A] [HostLog A]

/-- **A round** of a loop that goes on is its three sections, when no other thread takes a
step in between. -/
theorem runs_round (config : GatewayConfig) (encode : Frame → Except ProtocolError M)
    {connection : Connection W} (h : s.connection? i .checking = some connection) {due : Bool}
    {order : List SessionId} {handler : Handler W S C (HostAdminImpl A)}
    (hround : (connection.handler s.server).poll config encode s.stopping due order = handler)
    (hopen : handler.isOpen = true) :
    System.runs (next config encode) s [.check i, .read i, .write i due order] =
      some (s.take i handler .checking) := by
  obtain ⟨hwas, -⟩ := connection?_eq_some.mp h
  unfold Handler.poll at hround
  split at hround
  · rw [← hround] at hopen
    cases hopen
  · next hset =>
    dsimp only at hround
    have hcheck : next config encode s (.check i) =
        some (s.take i (connection.handler s.server) .reading) := by
      rw [next, check, h, Option.map_some, if_neg hset]
    split at hround
    · next hreceived =>
      have hread : next config encode (s.take i (connection.handler s.server) .reading)
          (.read i) = some (s.take i ((connection.handler s.server).receive config) .writing) := by
        have hsame : (Connection.ofHandler (connection.handler s.server) .reading).handler
            (s.take i (connection.handler s.server) .reading).server =
            connection.handler s.server := rfl
        rw [next, read, connection?_take hwas, Option.map_some, hsame, proceed, if_pos hreceived,
          take_take]
      split at hround
      · have hwrite : next config encode
            (s.take i ((connection.handler s.server).receive config) .writing)
            (.write i due order) = some (s.take i handler .checking) := by
          have hagrees := (((Agrees.ofHandler _ .writing hreceived).drainEvents order).sendHeartbeat
            config due).write encode
          rw [hround] at hagrees
          rw [next, write, connection?_take hwas, Option.map_some]
          dsimp only
          rw [proceed, take_take, take_take]
          have hopen' := hagrees.isOpen.trans hopen
          exact congrArg some ((if_pos hopen').trans (take_congr hagrees .checking))
        rw [System.runs_cons hcheck, System.runs_cons hread, System.runs_cons hwrite]
        rfl
      · rw [← hround] at hopen
        cases hopen
    · rw [← hround] at hopen
      cases hopen

end Hosting

end HostService

end Slight
