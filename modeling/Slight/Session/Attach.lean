import Slight.Session.Types

/-!
# Slight.Session.Attach

What the manager answers from one session's summary and retained journal, for a
live session and for a recovered one alike.
-/

namespace Slight

/-- The events after `afterSequence`, and whether the journal still starts early
enough for them. -/
def attachJournal (summary : SessionSummary) (journal : List SequencedEvent)
    (afterSequence : Option Nat) : AttachResult :=
  let oldest := journal.head?.map (·.sequence)
  let fromSequence := afterSequence.getD 0
  { summary := summary
    replayed := journal.filter fun event => fromSequence < event.sequence
    latestSequence := summary.lastSequence
    oldestAvailableSequence := oldest
    resyncRequired :=
      match afterSequence, oldest with
      | some after, some oldest => after + 1 < oldest
      | _, _ => false }

/-- Where a page ends; without a boundary, at the highest sequence number. -/
def historyBoundary (beforeSequence : Option Nat) : Nat := beforeSequence.getD (2 ^ 64 - 1)

/-- The page of at most `limit` events before `beforeSequence`; `maxLimit` caps
the limit. -/
def historyJournal (summary : SessionSummary) (journal : List SequencedEvent)
    (beforeSequence : Option Nat) (limit maxLimit : Nat) : HistoryResult :=
  let eligible := journal.filter fun event => event.sequence < historyBoundary beforeSequence
  let start := eligible.length - min (max limit 1) maxLimit
  { summary := summary
    events := eligible.drop start
    latestSequence := summary.lastSequence
    oldestAvailableSequence := journal.head?.map (·.sequence)
    hasMore := 0 < start }

end Slight
