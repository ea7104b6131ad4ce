import Slight.Protocol.Frames
import Slight.Session.Attach

/-!
# Slight.Gateway.Acks

How the gateway turns the manager's answer to an attach-like command into an
acknowledgement.
-/

namespace Slight

/-- The sequence number a command asks to attach after; params that do not
decode count as none given. -/
def GatewayCommand.afterSequence (command : GatewayCommand) : Option Nat :=
  ((command.paramsAs AttachSessionParams).getD default).afterSequence

/-- What is acknowledged of an attach: at most `limit` of the events it missed. -/
def attachResult (sessionId : SessionId) (result : AttachResult) (limit : Nat) :
    SessionAttachResult where
  session := .ofSummary result.summary
  replayed := (result.replayed.take limit).map (gatewayEvent sessionId)
  latestSequence := result.latestSequence
  oldestAvailableSequence := result.oldestAvailableSequence
  resyncRequired := result.resyncRequired

/-- How many events an `events.replay` answers with at most. -/
def replayPage (maxReplayEvents : Option Nat) : Nat := max (maxReplayEvents.getD 256) 1

def ackOk (requestId : RequestId) (result : SessionAttachResult) : GatewayAck where
  requestId := requestId
  ok := true
  result := some result

def ackError (requestId : RequestId) : GatewayAck where
  requestId := requestId
  ok := false
  result := none

end Slight
