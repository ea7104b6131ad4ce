import Slight.Protocol.Frames
import Slight.Support.Cursor

/-!
# Slight.Client.Journal

The client's replay cursors, one for each session: the highest sequence number
seen without a hole.
-/

namespace Slight

/-- Classification of an inbound event against the client's replay cursor. -/
inductive EventDisposition where
  | accepted
  | duplicate
  | gap (expected received : Nat)
  deriving DecidableEq

structure EventJournal where
  lastSequenceBySession : AList fun _ : String => Nat := ∅

namespace EventJournal

def lastSequence (journal : EventJournal) (sessionId : String) : Nat :=
  (journal.lastSequenceBySession.lookup sessionId).getD 0

def observe (journal : EventJournal) (event : GatewayEvent) : EventDisposition × EventJournal :=
  let last := journal.lastSequence event.sessionId
  if event.sequence ≤ last then (.duplicate, journal)
  else if last + 1 < event.sequence then (.gap (last + 1) event.sequence, journal)
  else (.accepted, ⟨journal.lastSequenceBySession.insert event.sessionId event.sequence⟩)

/-- Forgets one session, or all of them. -/
def remove (journal : EventJournal) : Option String → EventJournal
  | none => ⟨∅⟩
  | some sessionId => ⟨journal.lastSequenceBySession.erase sessionId⟩

def markReplayed (journal : EventJournal) (sessionId : String) (sequence : Nat) : EventJournal :=
  ⟨journal.lastSequenceBySession.insert sessionId
    (max (journal.lastSequence sessionId) sequence)⟩

/-- One step of the session's cursor, and what it makes of the event. -/
theorem observe_eq (journal : EventJournal) (event : GatewayEvent) :
    journal.observe event =
      match Support.Cursor.dispose (journal.lastSequence event.sessionId) event.sequence with
      | .accepted =>
          (.accepted, ⟨journal.lastSequenceBySession.insert event.sessionId event.sequence⟩)
      | .duplicate => (.duplicate, journal)
      | .gap => (.gap (journal.lastSequence event.sessionId + 1) event.sequence, journal) := by
  unfold observe Support.Cursor.dispose
  by_cases hdup : event.sequence ≤ journal.lastSequence event.sessionId
  · simp only [if_pos hdup]
  · by_cases hgap : journal.lastSequence event.sessionId + 1 < event.sequence
    · simp only [if_neg hdup, if_pos hgap]
    · simp only [if_neg hdup, if_neg hgap]

@[simp] theorem lastSequence_insert (journal : EventJournal) (sessionId : String)
    (sequence : Nat) :
    (⟨journal.lastSequenceBySession.insert sessionId sequence⟩ : EventJournal).lastSequence
      sessionId = sequence := by
  simp [lastSequence]

end EventJournal

end Slight
