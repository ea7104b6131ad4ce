import Slight.Client.Replay

/-!
# Slight.Client.Resync

How the client takes the result of a replay it asked for itself.  The protocol
has it reset the transcript when the retained history starts beyond its cursor,
and ask again at most once.  The background path does neither: it never resets,
and every event beyond a hole sends a request of its own.

`Honours` states what the protocol asks for; `honours_iff` says for which
results it holds.
-/

namespace Slight

namespace GatewayConnection

/-- The retained history starts after the cursor's successor. -/
def StartsBeyond (connection : GatewayConnection) (attach : SessionAttachResult) : Prop :=
  attach.resyncRequired = true ∨ ∃ first, attach.replayed.head? = some first ∧
    connection.cursor attach.session.id + 1 < first.sequence

/-- Taking the result sends at most one request, and resets the transcript and
emits the replayed events when the history starts beyond the cursor. -/
structure Honours (connection : GatewayConnection) (attach : SessionAttachResult) : Prop where
  asksOnce : (connection.ingestBackgroundResult attach).outbox.length ≤
    connection.outbox.length + 1
  resets : connection.StartsBeyond attach →
    (∃ reason, .transcriptReset attach.session.id reason ∈
      (connection.ingestBackgroundResult attach).emitted.drop connection.emitted.length) ∧
    ∀ event ∈ attach.replayed, .event event ∈
      (connection.ingestBackgroundResult attach).emitted.drop connection.emitted.length

/-! ## the background path -/

/-- The numbers `ss` of a replay leave no hole above the cursor `c`, or a single
one, in front of the last number, once the latest sequence has been reached. -/
def Quiet (c latest : Nat) (ss : List Nat) : Prop :=
  ∃ n rest, ss.filter (c < ·) = List.range' (c + 1) n ++ rest ∧
    (rest = [] ∨ ∃ s, rest = [s] ∧ c + n + 1 < s ∧ latest ≤ c + n)

/-- At most one request is due exactly when the numbers are quiet. -/
theorem gaps_le_one_iff {c latest : Nat} {xs : List SequencedEvent}
    (hsorted : xs.Pairwise fun x y => x.sequence < y.sequence) :
    (Support.Cursor.gaps SequencedEvent.sequence c xs).length +
        (if Support.Cursor.after SequencedEvent.sequence c xs < latest then 1 else 0) ≤ 1 ↔
      Quiet c latest (xs.map SequencedEvent.sequence) := by
  obtain ⟨hsplit, hgaps⟩ := Support.Cursor.filter_eq_range_append
    (c := c) SequencedEvent.sequence hsorted
  have hle := Support.Cursor.le_after SequencedEvent.sequence c xs
  have hgap : ∀ s ∈ (Support.Cursor.gaps SequencedEvent.sequence c xs).map SequencedEvent.sequence,
      c + (Support.Cursor.after SequencedEvent.sequence c xs - c) + 1 < s := by
    intro s hs
    obtain ⟨x, hx, rfl⟩ := List.mem_map.mp hs
    have := hgaps x hx
    omega
  constructor
  · intro hone
    refine ⟨_, _, hsplit, ?_⟩
    match hg : Support.Cursor.gaps SequencedEvent.sequence c xs with
    | [] => exact .inl rfl
    | [x] =>
        refine .inr ⟨x.sequence, rfl, hgap _ (by simp [hg]), ?_⟩
        rw [hg, List.length_singleton] at hone
        by_contra hlt
        rw [if_pos (by omega)] at hone
        omega
    | x :: y :: rest =>
        rw [hg, List.length_cons, List.length_cons] at hone
        omega
  · rintro ⟨n, rest, hfilter, hrest⟩
    rw [hsplit] at hfilter
    have hbound : ∀ s ∈ rest, c + n + 1 < s := by
      rcases hrest with rfl | ⟨s, rfl, hs, -⟩
      · simp
      · simpa using hs
    obtain ⟨hn, hrest'⟩ := Support.Cursor.range_append_unique hfilter hgap hbound
    have hlength := congrArg List.length hrest'
    rw [List.length_map] at hlength
    rcases hrest with rfl | ⟨s, rfl, -, hlatest⟩
    · rw [List.length_nil] at hlength
      rw [hlength]
      split <;> omega
    · rw [List.length_singleton] at hlength
      rw [hlength, if_neg (by omega)]

/-- **When a replay is honoured**: exactly when the host asks for no resync, the
replayed events do not start beyond the cursor's successor, and they are quiet,
or an attach in progress holds back what is not. -/
theorem honours_iff (connection : GatewayConnection) (session : SessionSummaryDto)
    {replayed : List SequencedEvent} (latest : Nat) (oldest : Option Nat) (resync : Bool)
    (hsorted : replayed.Pairwise fun x y => x.sequence < y.sequence) :
    connection.Honours (replayResult session replayed latest oldest resync) ↔
      resync = false ∧
      (∀ first ∈ replayed.head?, first.sequence ≤ connection.cursor session.id + 1) ∧
      (session.id ∈ connection.pendingAttachSessions ∨
        Quiet (connection.cursor session.id) latest (replayed.map SequencedEvent.sequence)) := by
  have h := replays_ingestBackgroundResult session replayed latest oldest resync connection
  obtain ⟨new, hnew, -, hreset⟩ := h.emitted
  obtain ⟨sent, hsent, -, hlength⟩ := h.outbox
  have hasks : (connection.ingestBackgroundResult
      (replayResult session replayed latest oldest resync)).outbox.length ≤
        connection.outbox.length + 1 ↔
      session.id ∈ connection.pendingAttachSessions ∨
        Quiet (connection.cursor session.id) latest (replayed.map SequencedEvent.sequence) := by
    rw [hsent, List.length_append, hlength, gapRequests, ← gaps_le_one_iff hsorted]
    clear hlength
    by_cases hpending : session.id ∈ connection.pendingAttachSessions
    · simp only [hpending, if_true, true_or, iff_true]
      split <;> omega
    · simp only [hpending, if_false, false_or]
      omega
  have hbeyond : ¬ connection.StartsBeyond
        (replayResult session replayed latest oldest resync) ↔
      resync = false ∧
      ∀ first ∈ replayed.head?, first.sequence ≤ connection.cursor session.id + 1 := by
    unfold StartsBeyond replayResult
    cases replayed with
    | nil => simp
    | cons x xs => simp [gatewayEvent]
  constructor
  · rintro ⟨honce, hresets⟩
    have hnot : ¬ connection.StartsBeyond
        (replayResult session replayed latest oldest resync) := by
      intro hb
      obtain ⟨⟨reason, hmem⟩, -⟩ := hresets hb
      rw [hnew, List.drop_left] at hmem
      exact absurd (hreset _ hmem) (by simp [GatewayInbound.isReset])
    obtain ⟨hresync, hfirst⟩ := hbeyond.mp hnot
    exact ⟨hresync, hfirst, hasks.mp honce⟩
  · rintro ⟨hresync, hfirst, hquiet⟩
    exact ⟨hasks.mpr hquiet, fun hb => absurd hb (hbeyond.mpr ⟨hresync, hfirst⟩)⟩

/-- A replay that continues the cursor is honoured. -/
theorem honours_iff_contiguous :
    initial.Honours (replayResult (.ofSummary sampleSummary) (sampleEvents [1, 2]) 6 (some 1) false) :=
  (honours_iff initial (.ofSummary sampleSummary) 6 (some 1) false (by decide)).mpr
    ⟨rfl, by decide, .inr ⟨2, [], by decide, .inl rfl⟩⟩

/-- **Replay amplifies**: a fresh client that gets the events 5 and 6 of a journal
whose front was evicted, with the flag set, asks again three times, resets
nothing and emits neither event. -/
theorem replay_amplifies :
    ∃ result : SessionAttachResult,
      result = replayResult (.ofSummary sampleSummary) (sampleEvents [5, 6]) 6 (some 5) true ∧
      (initial.ingestBackgroundResult result).outbox.length = 3 ∧
      (∀ value ∈ (initial.ingestBackgroundResult result).emitted, value.isReset = false) ∧
      eventsIn (initial.ingestBackgroundResult result).emitted = [] ∧
      ¬ initial.Honours result := by
  have hasks : (initial.ingestBackgroundResult
      (replayResult (.ofSummary sampleSummary) (sampleEvents [5, 6]) 6 (some 5) true)).outbox.length = 3 := by
    rfl
  refine ⟨_, rfl, hasks, by decide, by rfl, fun h => ?_⟩
  have := h.asksOnce
  rw [hasks] at this
  exact absurd this (by decide)

end GatewayConnection

end Slight
