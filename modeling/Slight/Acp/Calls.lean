import Slight.Acp.Answering
import Slight.Acp.Normalizing

/-!
# Slight.Acp.Calls

The typed calls of the client: `initialize`, the calls that open a session, and those
that need one.  The client keeps what was negotiated and which sessions are open, and
refuses a call before anything is written.

What the schema of the protocol writes and reads for a request of the host is an `Api`.
`Peer.asked` keeps each request that was begun and what came back, for the
statements.
-/

namespace Slight

namespace Acp

open Support Program

/-! ## requests -/

/-- A request of the host. -/
inductive HostRequest (Implementation : Type) where
  | initializeAgent (clientInfo : Implementation)
  | newSession (cwd : String)
  | listSessions (cwd cursor : Option String)
  | loadSession (sessionId cwd : String)
  | resumeSession (sessionId cwd : String)
  | setConfigOption (sessionId configId valueId : String)
  | setMode (sessionId modeId : String)
  | prompt (sessionId text : String)

/-- The JSON-RPC method of a request. -/
def HostRequest.method {Implementation : Type} : HostRequest Implementation → String
  | initializeAgent _ => "initialize"
  | newSession _ => "session/new"
  | listSessions .. => "session/list"
  | loadSession .. => "session/load"
  | resumeSession .. => "session/resume"
  | setConfigOption .. => "session/set_config_option"
  | setMode .. => "session/set_mode"
  | prompt .. => "session/prompt"

/-- How the agent introduces itself. -/
structure AgentInfo where
  name : String
  title : Option String
  version : String
  deriving DecidableEq

/-- What `initialize` answers: the agent's version of the protocol and what it can do. -/
structure InitializeResponse where
  protocolVersion : Nat
  agentCapabilities : AgentCapabilities
  agentInfo : Option AgentInfo
  deriving DecidableEq

/-- What `session/load` and `session/resume` answer. -/
structure OpenedSession where
  modes : Option AcpModeState
  configOptions : Option (List SessionConfigOption)
  deriving DecidableEq

/-- What `session/new` answers: the id of the session, and what any opening tells. -/
structure NewSessionResponse where
  sessionId : String
  opened : OpenedSession
  deriving DecidableEq

/-- What `session/list` answers, a page at a time. -/
structure ListSessionsResponse where
  sessions : List ListedSessionSummary
  nextCursor : Option String
  deriving DecidableEq

/-- What `serde_json` and the schema of the protocol write and read for the requests of
the host, and the texts of their errors. -/
structure Api extends Schema where
  Implementation : Type
  /-- With version 1 and the capabilities of the host. -/
  params : HostRequest Implementation → Json
  initialized : Json → Except String InitializeResponse
  created : Json → Except String NewSessionResponse
  listed : Json → Except String ListSessionsResponse
  opened : Json → Except String OpenedSession
  configured : Json → Except String (List SessionConfigOption)
  modeSet : Json → Except String Unit
  prompted : Json → Except String StopReason
  permissionRequest : toSchema.Permission → RequestPermissionRequest
  sessionUpdate : toSchema.Update → WireSessionUpdate
  errorCode : toSchema.Error → Int
  errorMessage : toSchema.Error → String
  ioError : String
  pretty : Json → String

/-- `ProtocolVersion::V1`. -/
def protocolV1 : Nat := 1

/-- Why a typed call fails: in the client, or before anything is written. -/
inductive CallError (api : Api) where
  | client (error : ClientError api.toSchema)
  | notInitialized
  | unknownSession (sessionId : String)
  | unsupportedCapability (capability : String)
  | unsupportedProtocol (version : Nat)

/-- The `Display` text. -/
def WireError.text (api : Api) : WireError → String
  | io => "i/o error: " ++ api.ioError
  | json text => "json error: " ++ text
  | malformed text => "malformed ACP frame: " ++ text

/-- The `Display` text; a wire error shows as itself. -/
def ClientError.text {api : Api} : ClientError api.toSchema → String
  | wire error => error.text api
  | protocol error =>
      "agent returned JSON-RPC error " ++ toString (api.errorCode error) ++ ": " ++
        api.errorMessage error
  | closed => "agent closed the connection"
  | unknownDeferredRequest id => "no deferred request with id " ++ id.text
  | decode text => "failed to decode response: " ++ text

/-- The `Display` text; an error of the client shows as itself. -/
def CallError.text {api : Api} : CallError api → String
  | client error => error.text
  | notInitialized => "client is not initialized"
  | unknownSession sessionId => "unknown session: " ++ sessionId
  | unsupportedCapability capability =>
      "agent does not advertise the " ++ capability ++ " capability"
  | unsupportedProtocol version => "unsupported protocol version: " ++ toString version

/-! ## the client and what it keeps -/

/-- A request that was begun; `answer` is the result the agent sent for it, if it sent
one. -/
structure Asked (api : Api) where
  request : HostRequest api.Implementation
  answer : Option Json

/-- The client, what `initialize` negotiated, and the sessions that were opened. -/
structure Peer (api : Api) (H : Type) where
  client : AcpClient api.toSchema H
  initialized : Bool := false
  agentCapabilities : Option AgentCapabilities := none
  sessions : Finset String := ∅
  asked : List (Asked api) := []

/-- A typed call: a program over the peer. -/
abbrev Talking (api : Api) (H : Type) := Program (Peer api H) (CallError api)

namespace Peer

variable {api : Api} {H : Type}

/-- Sends a request, and decodes the result the agent sends for it. -/
def request [ClientHandler api.toSchema H] {α : Type} (read : Json → Except String α)
    (request : HostRequest api.Implementation) : Talking api H α := do
  let peer ← get
  let call : Calling api.toSchema H Json :=
    AcpClient.request .ok request.method (api.params request)
  let (outcome, client) := call.exec peer.client
  set { peer with
    client
    asked := peer.asked ++ [Asked.mk request outcome.toOption] }
  match outcome with
  | .error error => throw (.client error)
  | .ok value =>
      match read value with
      | .ok result => return result
      | .error text => throw (.client (.decode text))

/-- Nothing but `initialize` may come first. -/
def ensureInitialized : Talking api H Unit := do
  let peer ← get
  if peer.initialized then return () else throw .notInitialized

/-- A capability that was negotiated. -/
def ensureSupported (supported : AgentCapabilities → Bool) (capability : String) :
    Talking api H Unit := do
  let peer ← get
  if peer.agentCapabilities.any supported then return ()
  else throw (.unsupportedCapability capability)

/-- The session is open from now on. -/
def remember (sessionId : String) : Talking api H Unit :=
  modify fun peer => { peer with sessions := insert sessionId peer.sessions }

variable [ClientHandler api.toSchema H]

/-- Only version 1 is spoken: with an agent of another the client is not initialized. -/
def initializeAgent (clientInfo : api.Implementation) : Talking api H InitializeResponse := do
  let response ← request api.initialized (.initializeAgent clientInfo)
  if response.protocolVersion ≠ protocolV1 then
    throw (.unsupportedProtocol response.protocolVersion)
  modify fun peer => { peer with
    initialized := true
    agentCapabilities := some response.agentCapabilities }
  return response

/-- Every agent can open a session. -/
def newSession (cwd : String) : Talking api H NewSessionResponse := do
  ensureInitialized
  let response ← request api.created (.newSession cwd)
  remember response.sessionId
  return response

/-- An optional method, with a filter and a cursor. -/
def listSessions (cwd cursor : Option String) : Talking api H ListSessionsResponse := do
  ensureInitialized
  ensureSupported (·.sessionList) "session/list"
  request api.listed (.listSessions cwd cursor)

/-- An optional method: the agent replays what the session did. -/
def loadSession (sessionId cwd : String) : Talking api H OpenedSession := do
  ensureInitialized
  ensureSupported (·.loadSession) "session/load"
  let response ← request api.opened (.loadSession sessionId cwd)
  remember sessionId
  return response

/-- An optional method: the agent takes the session up without a replay. -/
def resumeSession (sessionId cwd : String) : Talking api H OpenedSession := do
  ensureInitialized
  ensureSupported (·.sessionResume) "session/resume"
  let response ← request api.opened (.resumeSession sessionId cwd)
  remember sessionId
  return response

/-- The session is not checked here; the worker names the one it opened. -/
def setConfigOption (sessionId configId valueId : String) :
    Talking api H (List SessionConfigOption) := do
  ensureInitialized
  request api.configured (.setConfigOption sessionId configId valueId)

/-- A prompt for a session that was not opened is refused. -/
def prompt (sessionId text : String) : Talking api H StopReason := do
  ensureInitialized
  let peer ← get
  if sessionId ∉ peer.sessions then throw (.unknownSession sessionId)
  request api.prompted (.prompt sessionId text)

/-- The worker makes this request itself, and nothing is checked. -/
def setMode (sessionId modeId : String) : Talking api H Unit :=
  request api.modeSet (.setMode sessionId modeId)

end Peer

end Acp

end Slight
