import Mathlib

/-!
# Slight.Client.State

The connection lifecycle of the client: the states it publishes, the reconnect
policy, and the reducer that turns events into a new state and an effect.
Durations are exact numbers of seconds.
-/

namespace Slight

namespace Client

/-- What the host says it can do. -/
structure GatewayCapabilities where
  supportsReplay : Bool
  maxReplayEvents : Option Int
  maxEventJournal : Option Int
  supportsRawAcp : Bool
  permissionOptions : Bool
  hostAdmin : Bool
  deriving DecidableEq

/-- `GatewayCapabilities()`. -/
def GatewayCapabilities.default : GatewayCapabilities where
  supportsReplay := true
  maxReplayEvents := none
  maxEventJournal := none
  supportsRawAcp := false
  permissionOptions := true
  hostAdmin := true

/-- The answer to a hello that was accepted, as the client reads it. -/
structure ServerWelcome where
  protocolVersion : Int
  connectionId : String
  serverName : String
  serverVersion : String
  hostId : Option String
  capabilities : GatewayCapabilities
  heartbeatIntervalMs : Option Int
  resyncRequired : Bool
  resyncReason : Option String
  deriving DecidableEq

end Client

/-- Why the client gave a connection up. -/
structure GatewayConnectionFailure where
  code : String
  message : String
  deriving DecidableEq

/-! ## reconnect policy -/

/-- How long to wait before an attempt, and how many to make; without a limit the client
keeps trying. -/
structure ReconnectPolicy where
  initialDelay : Rat := 1 / 4
  multiplier : Rat := 2
  maxDelay : Rat := 15
  maxAttempts : Option Nat := none

namespace ReconnectPolicy

/-- The first attempt waits the initial delay, which the cap does not touch; from the second
on the delay grows up to the cap. -/
def delay (policy : ReconnectPolicy) (attempt : Nat) : Rat :=
  if 1 < attempt then min (policy.initialDelay * policy.multiplier ^ (attempt - 1)) policy.maxDelay
  else policy.initialDelay

/-- Whether an attempt is within the budget. -/
def shouldRetry (policy : ReconnectPolicy) (attempt : Nat) : Bool :=
  match policy.maxAttempts with
  | none => true
  | some maxAttempts => attempt ≤ maxAttempts

end ReconnectPolicy

/-- Whole milliseconds of a duration, halves rounded away from zero. -/
def millisecondsInt (duration : Rat) : Int :=
  if 0 ≤ duration then ⌊duration * 1000 + 1 / 2⌋ else -⌊-duration * 1000 + 1 / 2⌋

/-! ## the reducer -/

/-- The states the client shows. -/
inductive GatewayConnectionState where
  | idle
  | connecting (attempt : Nat)
  | handshaking
  | connected (welcome : Client.ServerWelcome)
  | reconnecting (attempt : Nat) (delayMilliseconds : Int)
  | replaying
  | resyncRequired (reason : Option String)
  | failed (failure : GatewayConnectionFailure)
  | closed
  deriving DecidableEq

/-- Whether a connection is up or being made. -/
def GatewayConnectionState.isActive : GatewayConnectionState → Bool
  | idle | failed _ | closed => false
  | _ => true

/-- The state, the number of the attempt under way, and the policy. -/
structure ConnectionStateMachine where
  state : GatewayConnectionState := .idle
  attempt : Nat := 0
  policy : ReconnectPolicy := {}

namespace ConnectionStateMachine

/-- What happens to a connection. -/
inductive Event where
  | connectRequested
  | transportOpened
  | handshakeSucceeded (welcome : Client.ServerWelcome)
  | handshakeFailed (reason : String)
  | disconnected (reason : Option String)
  | reconnectDelayElapsed
  | resyncRequired (reason : Option String)
  | reset
  deriving DecidableEq

/-- What the connection has to do about it. -/
inductive Effect where
  | none
  | openTransport
  | startHandshake
  | scheduleReconnect (delay : Rat)
  | fail (failure : GatewayConnectionFailure)
  | giveUp
  deriving DecidableEq

/-- The next attempt is counted, but the wait before it is the delay of the one that failed. -/
def handleDisconnect (machine : ConnectionStateMachine) (reason : Option String) :
    Effect × ConnectionStateMachine :=
  let nextAttempt := machine.attempt + 1
  if !machine.policy.shouldRetry nextAttempt then
    let message := (reason.map ("Disconnected: " ++ ·)).getD "Unable to reach the host."
    (.giveUp, { machine with state := .failed ⟨"reconnect_exhausted", message⟩ })
  else
    let delay := machine.policy.delay machine.attempt
    (.scheduleReconnect delay,
      { machine with attempt := nextAttempt
                     state := .reconnecting nextAttempt (millisecondsInt delay) })

/-- The reducer.  The outcome of a handshake, a demand to resync and a reset are heeded in
every state, the other events only in some. -/
def handle (machine : ConnectionStateMachine) : Event → Effect × ConnectionStateMachine
  | .connectRequested =>
      if machine.state.isActive then (.none, machine)
      else (.openTransport, { machine with attempt := 1, state := .connecting 1 })
  | .transportOpened =>
      match machine.state with
      | .connecting _ => (.startHandshake, { machine with state := .handshaking })
      | _ => (.none, machine)
  | .handshakeSucceeded welcome =>
      (.none, { machine with attempt := 0, state := .connected welcome })
  | .handshakeFailed reason => machine.handleDisconnect (some reason)
  | .disconnected reason =>
      if machine.state.isActive || machine.state = .idle then machine.handleDisconnect reason
      else (.none, machine)
  | .reconnectDelayElapsed =>
      match machine.state with
      | .reconnecting .. =>
          (.openTransport, { machine with state := .connecting machine.attempt })
      | _ => (.none, machine)
  | .resyncRequired reason => (.none, { machine with state := .resyncRequired reason })
  | .reset => (.none, { machine with attempt := 0, state := .idle })

/-- An intentional shutdown, after which no disconnect reconnects. -/
def markClosed (machine : ConnectionStateMachine) : ConnectionStateMachine :=
  { machine with attempt := 0, state := .closed }

end ConnectionStateMachine

end Slight
