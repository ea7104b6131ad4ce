import Slight.Acp.Gate
import Slight.Session.Types
import Slight.Support.System

/-!
# Slight.Session.Worker

One live session as the host runs it: the worker thread that owns the ACP
client, the manager that drives the session under its lock, the command queue,
reply channel, event channel and permission gate between them.

The worker reads frames only while a command waits for its response.  A
`session/request_permission` frame takes it through the handler: `begin` the
gate, queue the event, `wait`, `finish`, write the JSON-RPC reply.  The manager
takes its lock for every operation.  `send_input`, `cancel` and
`respond_permission` end in a pump; `set_mode` and `set_config_option` block on
the worker's reply while they hold the lock.

Each label of `Act` is one atomic step of one thread, so interleaving is the
order of the labels.  `requested`, `granted`, `decidedBy` and `answers` are
history variables: the code has no such fields.
-/

namespace Slight

namespace Worker

/-! ## the worker thread -/

inductive WorkerCommand where
  | prompt (text : String)
  | setMode (modeId : String)
  | setConfigOption (configId valueId : String)
  deriving DecidableEq

/-- The value a synchronous command's reply channel carries. -/
inductive WorkerReply where
  | mode (result : Except AcpError Unit)
  | configOptions (result : Except AcpError (List AcpConfigOption))

/-- How the client call of a command ends: with the agent's response, with the
end of the stream, or with any other error. -/
inductive CallOutcome where
  | promptEnded (stopReason : StopReason)
  | modeSet
  | configSet (options : List AcpConfigOption)
  | closed
  | failed (message : String)

/-- Where the handler of a permission request is. -/
inductive Handling where
  /-- The frame is read, `gate.begin` is next. -/
  | received
  /-- `gate.begin` returned, the event is sent next. -/
  | begun
  /-- In `gate.wait`. -/
  | waiting
  /-- `gate.wait` returned, `gate.finish` is next. -/
  | released (outcome : RequestPermissionOutcome) (cause : Option Nat)
  /-- `gate.finish` returned, the reply is written next. -/
  | finished (outcome : RequestPermissionOutcome) (cause : Option Nat)
  deriving DecidableEq

inductive WorkerPc where
  /-- Waiting for a command. -/
  | idle
  /-- Reading frames until the response to the command arrives. -/
  | calling (command : WorkerCommand)
  /-- Inside the handler of a permission request read during the call. -/
  | permission (command : WorkerCommand) (request : PermissionRequest) (stage : Handling)
  /-- The exit event is sent, the running flag is cleared next. -/
  | exiting
  | stopped
  deriving DecidableEq

/-- The id of the permission request being handled. -/
def WorkerPc.current : WorkerPc → List String
  | .permission _ request _ => [request.permissionId]
  | _ => []

/-- Where the handler is, when the worker is inside it. -/
def WorkerPc.stage? : WorkerPc → Option Handling
  | .permission _ _ stage => some stage
  | _ => none

/-! ## the manager -/

inductive ManagerPc where
  /-- The lock is free. -/
  | free
  /-- An operation holds the lock and is about to drain the event channel. -/
  | pumping
  /-- The events are drained, the worker's running flag is read next. -/
  | drained (events : List AgentEvent)
  /-- The drained events are about to be applied. -/
  | applying (events : List AgentEvent) (running : Bool)
  /-- `set_mode` or `set_config_option` holds the lock and waits for its reply. -/
  | awaiting (command : WorkerCommand)

/-- The drained events an operation still has to apply. -/
def ManagerPc.inFlight : ManagerPc → List AgentEvent
  | .drained events | .applying events _ => events
  | _ => []

/-- An operation holds the lock and waits for the worker's reply. -/
def ManagerPc.waits : ManagerPc → Bool
  | .awaiting _ => true
  | _ => false

/-- An answer to a permission request: the reply written to the agent, the call
of `respond_permission` that caused it, and whether the write succeeded. -/
structure Answer where
  id : String
  outcome : RequestPermissionOutcome
  cause : Option Nat
  written : Bool
  deriving DecidableEq

structure State where
  manager : ManagerPc
  pendingPermission : Option PermissionRequestPayload
  sessionRunning : Bool
  worker : WorkerPc
  commands : List WorkerCommand
  reply : Option WorkerReply
  events : List AgentEvent
  gate : PermissionGateState
  running : Bool
  /-- Ids of the permission requests the agent has sent. -/
  requested : List String
  /-- The calls of `respond_permission` that return `Ok`, in order. -/
  granted : List (String × String)
  /-- The call whose decision the gate holds. -/
  decidedBy : Option Nat
  /-- The answers given so far. -/
  answers : List Answer

/-- An open session with an idle worker. -/
def initial : State where
  manager := .free
  pendingPermission := none
  sessionRunning := true
  worker := .idle
  commands := []
  reply := none
  events := []
  gate := {}
  running := true
  requested := []
  granted := []
  decidedBy := none
  answers := []

/-! ## worker steps -/

namespace State

/-- `commands.recv()`. -/
def take (s : State) : Option State :=
  match s.worker, s.commands with
  | .idle, command :: rest => some { s with worker := .calling command, commands := rest }
  | _, _ => none

/-- Reads a `session/request_permission` frame. -/
def readPermission (request : PermissionRequest) (s : State) : Option State :=
  match s.worker with
  | .calling command =>
      if request.permissionId ∈ s.requested then none
      else some { s with
        worker := .permission command request .received
        requested := s.requested ++ [request.permissionId] }
  | _ => none

/-- Reads a notification, or a request the host answers itself; `events` are
the normalized events it is turned into. -/
def readOther (events : List AgentEvent) (s : State) : Option State :=
  match s.worker with
  | .calling _ =>
      if events.all fun event => event.permission?.isNone then
        some { s with events := s.events ++ events }
      else none
  | _ => none

def begin (s : State) : Option State :=
  match s.worker with
  | .permission command request .received =>
      some { s with worker := .permission command request .begun
                    gate := PermissionGate.begin s.gate }
  | _ => none

def queueEvent (s : State) : Option State :=
  match s.worker with
  | .permission command request .begun =>
      some { s with worker := .permission command request .waiting
                    events := s.events ++ [.permissionRequest request] }
  | _ => none

/-- `gate.wait` returns. -/
def wait (s : State) : Option State :=
  match s.worker with
  | .permission command request .waiting =>
      (PermissionGate.poll s.gate).map fun (outcome, gate) =>
        { s with
          worker := .permission command request
            (.released outcome (if s.gate.decision.isSome then s.decidedBy else none))
          gate }
  | _ => none

def finish (s : State) : Option State :=
  match s.worker with
  | .permission command request (.released outcome cause) =>
      some { s with worker := .permission command request (.finished outcome cause)
                    gate := PermissionGate.finish s.gate
                    decidedBy := none }
  | _ => none

/-- Writes the JSON-RPC reply; a failed write fails the command in progress. -/
def writeReply (written : Bool) (s : State) : Option State :=
  match s.worker with
  | .permission command request (.finished outcome cause) =>
      let answers := s.answers ++ [⟨request.permissionId, outcome, cause, written⟩]
      if written then some { s with worker := .calling command, answers }
      else match command with
        | .prompt _ => some { s with worker := .idle, answers
                                     events := s.events ++ [.failed "i/o error"] }
        | .setMode _ => some { s with worker := .idle, answers
                                      reply := some (.mode (.error ⟨"i/o error"⟩)) }
        | .setConfigOption .. =>
            some { s with worker := .idle, answers
                          reply := some (.configOptions (.error ⟨"i/o error"⟩)) }
  | _ => none

/-- The client call of the command in progress returns. -/
def callReturns (outcome : CallOutcome) (s : State) : Option State :=
  match s.worker with
  | .calling (.prompt _) =>
      match outcome with
      | .promptEnded stopReason =>
          some { s with worker := .idle, events := s.events ++ [.turnEnded stopReason] }
      | .closed =>
          some { s with worker := .exiting
                        events := s.events ++ [.exited none "agent connection closed"] }
      | .failed message => some { s with worker := .idle, events := s.events ++ [.failed message] }
      | _ => none
  | .calling (.setMode _) =>
      match outcome with
      | .modeSet => some { s with worker := .idle, reply := some (.mode (.ok ())) }
      | .closed => some { s with worker := .idle
                                 reply := some (.mode (.error ⟨"agent closed the connection"⟩)) }
      | .failed message =>
          some { s with worker := .idle, reply := some (.mode (.error ⟨message⟩)) }
      | _ => none
  | .calling (.setConfigOption ..) =>
      match outcome with
      | .configSet options =>
          some { s with worker := .idle, reply := some (.configOptions (.ok options)) }
      | .closed =>
          some { s with worker := .idle
                        reply := some (.configOptions (.error ⟨"agent closed the connection"⟩)) }
      | .failed message =>
          some { s with worker := .idle, reply := some (.configOptions (.error ⟨message⟩)) }
      | _ => none
  | _ => none

/-- `running.store(false)`, after which the command receiver is dropped. -/
def stop (s : State) : Option State :=
  match s.worker with
  | .exiting => some { s with worker := .stopped, running := false, commands := [] }
  | _ => none

/-! ## manager steps -/

/-- What applying one drained event does to the pending permission and to the
session's running flag. -/
def applyEvent (s : State) (event : AgentEvent) : State :=
  match event with
  | .permissionRequest request =>
      { s with pendingPermission := some (.ofRequest request) }
  | .exited .. => { s with sessionRunning := false }
  | _ => s

def pump (s : State) : Option State :=
  match s.manager with
  | .free => some { s with manager := .pumping }
  | _ => none

def sendInput (text : String) (s : State) : Option State :=
  match s.manager with
  | .free =>
      if !s.sessionRunning || s.worker = .stopped then some s
      else some { s with manager := .pumping, commands := s.commands ++ [.prompt text] }
  | _ => none

/-- `written` says whether the `session/cancel` notification could be written. -/
def cancel (written : Bool) (s : State) : Option State :=
  match s.manager with
  | .free =>
      if written then
        some { s with manager := .pumping
                      gate := PermissionGate.cancel s.gate
                      pendingPermission := none }
      else some s
  | _ => none

def respondPermission (permissionId optionId : String) (s : State) : Option State :=
  match s.manager with
  | .free =>
      match s.pendingPermission with
      | none => some s
      | some pending =>
          if pending.id ≠ permissionId then some s
          else match PermissionGate.decide (.selected optionId) s.gate with
            | .error _ => some s
            | .ok gate =>
                some { s with
                  manager := .pumping
                  gate
                  pendingPermission := none
                  granted := s.granted ++ [(permissionId, optionId)]
                  decidedBy := some s.granted.length }
  | _ => none

/-- Queues a synchronous command and starts waiting for its reply. -/
def callSync (command : WorkerCommand) (s : State) : Option State :=
  match s.manager with
  | .free =>
      if s.worker = .stopped then some s
      else some { s with manager := .awaiting command, commands := s.commands ++ [command] }
  | _ => none

def setMode (modeId : String) : State → Option State := callSync (.setMode modeId)

def setConfigOption (configId valueId : String) : State → Option State :=
  callSync (.setConfigOption configId valueId)

/-- The reply arrives, or the worker stopped and the channel is disconnected. -/
def receiveReply (s : State) : Option State :=
  match s.manager with
  | .awaiting _ =>
      if s.reply.isSome || s.worker = .stopped then some { s with manager := .free, reply := none }
      else none
  | _ => none

def drain (s : State) : Option State :=
  match s.manager with
  | .pumping => some { s with manager := .drained s.events, events := [] }
  | _ => none

def isRunning (s : State) : Option State :=
  match s.manager with
  | .drained events => some { s with manager := .applying events s.running }
  | _ => none

/-- Applies the drained events, reports an exit the worker did not, and
releases the lock. -/
def release (s : State) : Option State :=
  match s.manager with
  | .applying events running =>
      let applied := events.foldl applyEvent s
      some { applied with manager := .free
                          sessionRunning := applied.sessionRunning && running }
  | _ => none

end State

/-- Applying drained events leaves the worker's side alone. -/
theorem State.foldl_applyEvent_worker (events : List AgentEvent) (s : State) :
    let t := events.foldl State.applyEvent s
    t.worker = s.worker ∧ t.gate = s.gate ∧ t.granted = s.granted ∧ t.decidedBy = s.decidedBy ∧
      t.answers = s.answers ∧ t.requested = s.requested ∧ t.events = s.events := by
  induction events generalizing s with
  | nil => simp
  | cons event events ih =>
      have hone : ∀ u : State, u = s.applyEvent event → u.worker = s.worker ∧ u.gate = s.gate ∧
          u.granted = s.granted ∧ u.decidedBy = s.decidedBy ∧ u.answers = s.answers ∧
          u.requested = s.requested ∧ u.events = s.events := by
        rintro u rfl
        cases event <;> simp [State.applyEvent]
      simpa only [List.foldl_cons, hone _ rfl] using ih (s.applyEvent event)

/-! ## the system -/

inductive Act where
  | take
  | readPermission (request : PermissionRequest)
  | readOther (events : List AgentEvent)
  | begin
  | queueEvent
  | wait
  | finish
  | writeReply (written : Bool)
  | callReturns (outcome : CallOutcome)
  | stop
  | pump
  | sendInput (text : String)
  | cancel (written : Bool)
  | respondPermission (permissionId optionId : String)
  | setMode (modeId : String)
  | setConfigOption (configId valueId : String)
  | receiveReply
  | drain
  | isRunning
  | release

def next (s : State) : Act → Option State
  | .take => s.take
  | .readPermission request => s.readPermission request
  | .readOther events => s.readOther events
  | .begin => s.begin
  | .queueEvent => s.queueEvent
  | .wait => s.wait
  | .finish => s.finish
  | .writeReply written => s.writeReply written
  | .callReturns outcome => s.callReturns outcome
  | .stop => s.stop
  | .pump => s.pump
  | .sendInput text => s.sendInput text
  | .cancel written => s.cancel written
  | .respondPermission permissionId optionId => s.respondPermission permissionId optionId
  | .setMode modeId => s.setMode modeId
  | .setConfigOption configId valueId => s.setConfigOption configId valueId
  | .receiveReply => s.receiveReply
  | .drain => s.drain
  | .isRunning => s.isRunning
  | .release => s.release

/-- All interleavings of one session's worker with the manager. -/
def system : Support.System State Act := .ofNext (· = initial) next

/-- A permission request of the agent. -/
def ask (permissionId : String) : PermissionRequest where
  permissionId := permissionId
  title := "Run command"
  detail := none
  toolCallId := none
  options := [⟨"allow", "Allow", .allow⟩]

end Worker

end Slight
