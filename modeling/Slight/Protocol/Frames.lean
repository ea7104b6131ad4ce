import Slight.Protocol.Time
import Slight.Session.Codec

/-!
# Slight.Protocol.Frames

The frames host and client exchange about a session's events: event frames,
commands with their JSON params, and the acknowledgement of an attach-like
command.

An acknowledgement holds its result decoded, and a command its id as the client
draws it; the frames they are on the wire are in `Gateway.Wire` and
`Client.Frames`.  The params of a command are JSON, since the two sides read and
write them by field name.
-/

namespace Slight

/-! ## events -/

/-- An event of a session as a client is sent it; the time is text. -/
structure GatewayEvent where
  sessionId : String
  sequence : Nat
  event : String
  at_ : Option String
  payload : Option Json

/-- What the host makes of a journal entry. -/
def gatewayEvent (sessionId : String) (sequenced : SequencedEvent) : GatewayEvent where
  sessionId := sessionId
  sequence := sequenced.sequence
  event := sequenced.event.name
  at_ := some (rfc3339FromMs sequenced.timestampMs)
  payload := some sequenced.event.payload

/-- The event frame on the wire. -/
def GatewayEvent.frame (event : GatewayEvent) : Json :=
  .obj [("type", .str "event"), ("v", .int 1), ("session_id", toJson event.sessionId),
    ("sequence", toJson event.sequence), ("event", toJson event.event), ("at", toJson event.at_),
    ("payload", toJson event.payload)]

/-- The name of the marker frame that ends a replay. -/
def replayCompleteName : String := "replay.complete"

/-- No journal event is a replay marker. -/
theorem gatewayEvent_event_ne (sessionId : String) (sequenced : SequencedEvent) :
    (gatewayEvent sessionId sequenced).event ≠ replayCompleteName := by
  unfold gatewayEvent replayCompleteName
  cases sequenced.event <;> simp [SessionEvent.name]

/-! ## commands -/

/-- A request id.  The client draws a UUID for each command; drawing is modelled
as counting, so that no id is drawn twice. -/
abbrev RequestId := Nat

/-- A command as the connection of the client keeps it, before it is encoded. -/
structure GatewayCommand where
  requestId : RequestId
  command : String
  sessionId : Option String
  params : Option Json

namespace commandName

def sessionAttach : String := "session.attach"

def sessionResume : String := "session.resume"

def eventsReplay : String := "events.replay"

def sessionDetach : String := "session.detach"

end commandName

/-- The params decoded as `α`; a missing value counts as `null`. -/
def GatewayCommand.paramsAs (α : Type) [Serde α] (command : GatewayCommand) : Option α :=
  ofJson (command.params.getD .null)

/-- Params of `session.attach`, `session.resume` and `events.replay`. -/
structure AttachSessionParams where
  afterSequence : Option Nat
  deriving DecidableEq

/-- Where the params do not decode, everything is replayed. -/
instance : Inhabited AttachSessionParams := ⟨⟨none⟩⟩

instance : Record AttachSessionParams where
  toFields p := [("after_sequence", toJson p.afterSequence)]
  ofFields fields := do
    let afterSequence ← fields.optional "after_sequence"
    pure { afterSequence }

/-! ## acknowledgements -/

/-- A summary with its times as text. -/
structure SessionSummaryDto where
  id : String
  title : String
  agent : String
  model : Option String
  effort : Option String
  workingDirectoryLabel : String
  gitBranch : Option String
  status : SessionStatus
  createdAt : Option String
  lastActivityAt : Option String
  lastSequence : Nat
  recovery : SessionRecoveryState
  archived : Bool
  deriving DecidableEq

/-- Everything but the times is copied. -/
def SessionSummaryDto.ofSummary (summary : SessionSummary) : SessionSummaryDto where
  id := summary.id
  title := summary.title
  agent := summary.agent
  model := summary.model
  effort := summary.effort
  workingDirectoryLabel := summary.workingDirectoryLabel
  gitBranch := summary.gitBranch
  status := summary.status
  createdAt := some (rfc3339FromMs summary.createdAtMs)
  lastActivityAt := some (rfc3339FromMs summary.lastActivityAtMs)
  lastSequence := summary.lastSequence
  recovery := summary.recovery
  archived := summary.archived

/-- What a client that attaches is told: the summary, the events it missed, and whether some
of them are gone. -/
structure SessionAttachResult where
  session : SessionSummaryDto
  replayed : List GatewayEvent
  latestSequence : Nat
  oldestAvailableSequence : Option Nat
  resyncRequired : Bool

/-- An acknowledgement; `result` is an attach result where the payload decodes
as one. -/
structure GatewayAck where
  requestId : RequestId
  ok : Bool
  result : Option SessionAttachResult

end Slight
