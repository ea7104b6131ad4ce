import Slight.Acp.Calls

/-!
# Slight.Acp.Serving

The worker thread of an agent session: it takes commands one by one, makes the calls of
the client, and sends what the agent streams as events.

The handler and the worker send on one channel, from one thread.  What `gate.wait`
returns, one request after the other, is a parameter of the handler.
`WorkerThread.replies` keeps what was sent on the reply channels.
-/

namespace Slight

namespace Acp

open Support Program

/-! ## the handler -/

structure NormalizingHandler where
  decisions : Nat → RequestPermissionOutcome
  asked : Nat := 0
  events : List AgentEvent := []

def normalizeNotification (api : Api) :
    AgentToClientNotification api.toSchema → List AgentEvent
  | .sessionUpdate notification => (api.sessionUpdate notification).events
  | .cancelRequest _ =>
      [.diagnostics .info "agent requested protocol-level cancellation"]
  | .other method _ =>
      [.diagnostics .debug ("ignoring unsupported agent notification: " ++ method)]

/-- A permission request waits for its decision; other requests are rejected. -/
instance (api : Api) : ClientHandler api.toSchema NormalizingHandler where
  handleRequest handler id
    | .requestPermission request =>
        (.respond (.ok (permissionOutcomeValue (handler.decisions handler.asked))),
          { handler with
            asked := handler.asked + 1
            events := handler.events ++
              [.permissionRequest
                (normalizePermission api.pretty id (api.permissionRequest request))] })
    | .other .. => (.respond (.error api.methodNotFound), handler)
  handleNotification handler notification :=
    { handler with events := handler.events ++ normalizeNotification api notification }

/-! ## commands -/

inductive WorkerCommand (api : Api) where
  | initializeAgent (client : api.Implementation)
  | newSession (cwd : String)
  | listSessions (cwd cursor : Option String)
  | loadSession (agentSessionId cwd : String)
  | resumeSession (agentSessionId cwd : String)
  | prompt (text : String)
  | setMode (modeId : String)
  | setConfigOption (configId valueId : String)
  | shutdown

/-- What is sent on the reply channel of a command. -/
inductive WorkerReply where
  | initialized (result : Except AcpError InitializeSummary)
  | session (result : Except AcpError SessionMetadata)
  | sessions (result : Except AcpError ListedSessionPage)
  | mode (result : Except AcpError Unit)
  | configOptions (result : Except AcpError (List AcpConfigOption))

structure WorkerThread (api : Api) where
  peer : Peer api NormalizingHandler
  agentSessionId : Option String := none
  running : Bool := true
  /-- The loop has ended, and the receiver of the commands is dropped. -/
  stopped : Bool := false
  replies : List WorkerReply := []

def initializeSummary (response : InitializeResponse) : InitializeSummary where
  protocolVersion := response.protocolVersion
  agentName := response.agentInfo.map (·.name)
  agentTitle := response.agentInfo.bind (·.title)
  agentVersion := response.agentInfo.map (·.version)
  agentCapabilities := response.agentCapabilities

def sessionMetadata (agentSessionId : String) (opened : OpenedSession) : SessionMetadata where
  agentSessionId := agentSessionId
  modes := opened.modes
  configOptions := (opened.configOptions.getD []).map acpConfigOption

namespace WorkerThread

variable {api : Api}

def events (worker : WorkerThread api) : List AgentEvent := worker.peer.client.handler.events

/-- `events.send`. -/
def send (event : AgentEvent) (worker : WorkerThread api) : WorkerThread api :=
  { worker with peer := { worker.peer with client := { worker.peer.client with
      handler := { worker.peer.client.handler with
        events := worker.peer.client.handler.events ++ [event] } } } }

/-- The error of a call as the caller sees it. -/
def described {α : Type} (outcome : Except (CallError api) α) : Except AcpError α :=
  outcome.mapError fun error => ⟨error.text⟩

/-- A call is made, and its outcome is sent on the reply channel. -/
def replying {α β : Type} (worker : WorkerThread api) (call : Talking api NormalizingHandler α)
    (summary : α → β) (reply : Except AcpError β → WorkerReply) : WorkerThread api :=
  let (outcome, peer) := call.exec worker.peer
  { worker with peer, replies := worker.replies ++ [reply ((described outcome).map summary)] }

/-- A call that opens a session; the commands after it are for that session. -/
def opening {α : Type} (worker : WorkerThread api) (call : Talking api NormalizingHandler α)
    (metadata : α → SessionMetadata) : WorkerThread api :=
  let (outcome, peer) := call.exec worker.peer
  let replies := worker.replies ++ [.session ((described outcome).map metadata)]
  match outcome with
  | .ok response =>
      { worker with peer, replies, agentSessionId := some (metadata response).agentSessionId }
  | .error _ => { worker with peer, replies }

/-- A call for the session that is open. -/
def replyingOpen {α β : Type} (worker : WorkerThread api)
    (call : String → Talking api NormalizingHandler α) (summary : α → β)
    (reply : Except AcpError β → WorkerReply) : WorkerThread api :=
  match worker.agentSessionId with
  | none =>
      { worker with replies := worker.replies ++ [reply (.error ⟨"session is not open"⟩)] }
  | some sessionId => worker.replying (call sessionId) summary reply

/-- How the worker goes on after a prompt: only the end of the stream ends the loop. -/
def prompted (worker : WorkerThread api) : Except (CallError api) StopReason → WorkerThread api
  | .ok stopReason => worker.send (.turnEnded stopReason)
  | .error (.client .closed) =>
      { worker.send (.exited none "agent connection closed") with
        running := false, stopped := true }
  | .error error => worker.send (.failed error.text)

def prompt (worker : WorkerThread api) (text : String) : WorkerThread api :=
  match worker.agentSessionId with
  | none => worker.send (.failed "prompt sent before session/new completed")
  | some sessionId =>
      let call : Talking api NormalizingHandler StopReason := Peer.prompt sessionId text
      let (outcome, peer) := call.exec worker.peer
      prompted { worker with peer } outcome

/-- One round of `run_worker`. -/
def work (worker : WorkerThread api) : WorkerCommand api → WorkerThread api
  | .initializeAgent client =>
      worker.replying (Peer.initializeAgent client) initializeSummary .initialized
  | .newSession cwd =>
      worker.opening (Peer.newSession cwd) fun response =>
        sessionMetadata response.sessionId response.opened
  | .listSessions cwd cursor =>
      worker.replying (Peer.listSessions cwd cursor)
        (fun response =>
          { sessions := response.sessions, nextCursor := response.nextCursor }) .sessions
  | .loadSession agentSessionId cwd =>
      worker.opening (Peer.loadSession agentSessionId cwd) (sessionMetadata agentSessionId)
  | .resumeSession agentSessionId cwd =>
      worker.opening (Peer.resumeSession agentSessionId cwd) (sessionMetadata agentSessionId)
  | .prompt text => worker.prompt text
  | .setMode modeId =>
      worker.replyingOpen (fun sessionId => Peer.setMode sessionId modeId) id .mode
  | .setConfigOption configId valueId =>
      worker.replyingOpen (fun sessionId => Peer.setConfigOption sessionId configId valueId)
        (List.map acpConfigOption) .configOptions
  | .shutdown => { worker with running := false, stopped := true }

/-- `run_worker` on some commands. -/
def run (worker : WorkerThread api) : List (WorkerCommand api) → WorkerThread api
  | [] => worker
  | command :: commands => if worker.stopped then worker else (worker.work command).run commands

/-- A worker with a client that has written and read nothing. -/
structure Fresh (worker : WorkerThread api) : Prop where
  sent : worker.peer.client.transport.sent = []
  nextId : worker.peer.client.nextId = 0
  initialized : worker.peer.initialized = false
  agentCapabilities : worker.peer.agentCapabilities = none
  sessions : worker.peer.sessions = ∅
  asked : worker.peer.asked = []
  agentSessionId : worker.agentSessionId = none
  events : worker.events = []
  stopped : worker.stopped = false

end WorkerThread

end Acp

end Slight
