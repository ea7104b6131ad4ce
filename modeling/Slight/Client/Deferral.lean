import Slight.Client.Replay
import Slight.Support.Lists

/-!
# Slight.Client.Deferral

The events that a connection holds back while an attach is on its way.

* `grows_handleEvent` — what handling an event holds back, and that it leaves the
  attaches on their way;
* `settles_foldl` — events that are handled in the order of their sequences are all
  settled;
* `handleAck_spec`, `carries_failPending` — what an acknowledgement releases, and what
  a request that fails drops.
-/

namespace Slight

open Support

namespace GatewayConnection

/-! ## what is held back -/

/-- The events held back for a session. -/
def deferred (connection : GatewayConnection) (sessionId : String) : List GatewayEvent :=
  (connection.deferredAttachEvents.lookup sessionId).getD []

/-- From `s` to `t` the attaches on their way are the same; what is held back, for them, is
added to what was. -/
structure Grows (s t : GatewayConnection) : Prop where
  emitted : s.emitted ⊆ t.emitted
  outbox : s.outbox ⊆ t.outbox
  sessions : t.pendingAttachSessions = s.pendingAttachSessions
  requests : t.pendingAttachSessionByRequest = s.pendingAttachSessionByRequest
  held : ∃ new, t.held = s.held ++ new ∧
    (∀ sessionId,
      t.deferred sessionId = s.deferred sessionId ++ new.filter (·.sessionId = sessionId)) ∧
    ∀ event ∈ new,
      event.sessionId ∈ s.pendingAttachSessions ∧ event.event ≠ replayCompleteName

namespace Grows

variable {s t u : GatewayConnection}

/-- Nothing more is held back. -/
theorem of_same (hemitted : s.emitted ⊆ t.emitted) (houtbox : s.outbox ⊆ t.outbox)
    (hsessions : t.pendingAttachSessions = s.pendingAttachSessions)
    (hrequests : t.pendingAttachSessionByRequest = s.pendingAttachSessionByRequest)
    (hheld : t.held = s.held) (hdeferred : t.deferredAttachEvents = s.deferredAttachEvents) :
    Grows s t where
  emitted := hemitted
  outbox := houtbox
  sessions := hsessions
  requests := hrequests
  held := by
    refine ⟨[], hheld.trans (List.append_nil _).symm, fun sessionId => ?_, nofun⟩
    rw [deferred, deferred, hdeferred, List.filter_nil, List.append_nil]

theorem refl (s : GatewayConnection) : Grows s s :=
  of_same (List.Subset.refl _) (List.Subset.refl _) rfl rfl rfl rfl

theorem trans (h : Grows s t) (h' : Grows t u) : Grows s u := by
  obtain ⟨new, hnew, hdeferred, hattaching⟩ := h.held
  obtain ⟨new', hnew', hdeferred', hattaching'⟩ := h'.held
  constructor
  · exact List.Subset.trans h.emitted h'.emitted
  · exact List.Subset.trans h.outbox h'.outbox
  · rw [h'.sessions, h.sessions]
  · rw [h'.requests, h.requests]
  · refine ⟨new ++ new', by rw [hnew', hnew, List.append_assoc], fun sessionId => ?_, ?_⟩
    · rw [hdeferred', hdeferred, List.append_assoc, List.filter_append]
    · intro event hmem
      rcases List.mem_append.mp hmem with hmem | hmem
      · exact hattaching event hmem
      · rw [← h.sessions]
        exact hattaching' event hmem

theorem mem_deferred (h : Grows s t) {sessionId : String} {event : GatewayEvent}
    (hmem : event ∈ s.deferred sessionId) : event ∈ t.deferred sessionId := by
  obtain ⟨new, -, hdeferred, -⟩ := h.held
  rw [hdeferred]
  exact List.mem_append_left _ hmem

/-- What was not held before is held back now. -/
theorem mem_held (h : Grows s t) {event : GatewayEvent} (hmem : event ∈ t.held) :
    event ∈ s.held ∨ event ∈ t.deferred event.sessionId := by
  obtain ⟨new, hnew, hdeferred, -⟩ := h.held
  rw [hnew] at hmem
  rcases List.mem_append.mp hmem with hmem | hmem
  · exact .inl hmem
  · refine .inr ?_
    rw [hdeferred]
    exact List.mem_append_right _ (List.mem_filter.mpr ⟨hmem, decide_eq_true rfl⟩)

end Grows

theorem grows_emit (s : GatewayConnection) (value : GatewayInbound) : Grows s (s.emit value) :=
  .of_same (List.subset_append_left _ _) (List.Subset.refl _) rfl rfl rfl rfl

theorem grows_handleState (s : GatewayConnection) (event : ConnectionStateMachine.Event) :
    Grows s (s.handleState event) :=
  .of_same (List.subset_append_left _ _) (List.Subset.refl _) rfl rfl rfl rfl

theorem grows_currentWelcome (s : GatewayConnection) (welcome : Client.ServerWelcome) :
    Grows s { s with currentWelcome := some welcome } :=
  .of_same (List.Subset.refl _) (List.Subset.refl _) rfl rfl rfl rfl

theorem grows_markConnected (s : GatewayConnection) : Grows s s.markConnected := by
  unfold markConnected
  split
  · exact grows_handleState _ _
  · exact .refl s

theorem grows_requestReplay (s : GatewayConnection) (sessionId : String)
    (fromSequence received : Nat) : Grows s (s.requestReplay sessionId fromSequence received) :=
  .of_same (List.Subset.refl _) (List.subset_append_left _ _) rfl rfl rfl rfl

/-- Moving the cursors holds nothing back. -/
theorem grows_journal (s : GatewayConnection) (journal : EventJournal) :
    Grows s { s with journal } :=
  .of_same (List.Subset.refl _) (List.Subset.refl _) rfl rfl rfl rfl

theorem grows_deferEvent {s : GatewayConnection} {event : GatewayEvent}
    (hsession : event.sessionId ∈ s.pendingAttachSessions)
    (hname : event.event ≠ replayCompleteName) : Grows s (s.deferEvent event) where
  emitted := List.Subset.refl _
  outbox := List.Subset.refl _
  sessions := rfl
  requests := rfl
  held := by
    refine ⟨[event], rfl, fun sessionId => ?_, ?_⟩
    · by_cases hsame : event.sessionId = sessionId
      · subst hsame
        simp [deferred, deferEvent]
      · simp [deferred, deferEvent, AList.lookup_insert_ne (Ne.symm hsame), hsame]
    · intro other hmem
      rw [List.mem_singleton.mp hmem]
      exact ⟨hsession, hname⟩

/-- **Handling an event** holds it back, or nothing. -/
theorem grows_handleEvent (s : GatewayConnection) (event : GatewayEvent) :
    Grows s (s.handleEvent event) := by
  unfold handleEvent
  split
  · exact (((grows_journal s _).trans (grows_markConnected _)).trans (grows_emit _ _)).trans
      (grows_emit _ _)
  · next hname =>
      have hjournal := grows_journal s (s.journal.observe event).2
      dsimp only
      split
      · exact hjournal.trans (grows_emit _ _)
      · exact hjournal.trans (grows_emit _ _)
      · split
        · next hsession => exact hjournal.trans (grows_deferEvent hsession hname)
        · exact ((hjournal.trans (grows_handleState _ _)).trans (grows_emit _ _)).trans
            (grows_requestReplay _ _ _ _)

theorem grows_foldl_handleEvent (events : List GatewayEvent) (s : GatewayConnection) :
    Grows s (events.foldl handleEvent s) := by
  induction events generalizing s with
  | nil => exact .refl s
  | cons event events ih => exact (grows_handleEvent s event).trans (ih _)

theorem grows_ingestBackgroundResult (s : GatewayConnection) (attach : SessionAttachResult) :
    Grows s (s.ingestBackgroundResult attach) := by
  have hreplayed : Grows s (s.replayEvents attach.replayed attach.session.id false none) :=
    grows_foldl_handleEvent attach.replayed s
  unfold ingestBackgroundResult
  dsimp only
  split
  · exact (hreplayed.trans (grows_emit _ _)).trans (grows_requestReplay _ _ _ _)
  · exact (hreplayed.trans (grows_markConnected _)).trans (grows_emit _ _)

theorem grows_ingestForegroundResult (s : GatewayConnection) (attach : SessionAttachResult) :
    Grows s (s.ingestForegroundResult attach) := by
  unfold ingestForegroundResult
  dsimp only
  refine .trans ?_ (grows_emit _ _)
  refine .trans ?_ (grows_journal _ _)
  split
  · exact .of_same (List.subset_append_left _ _) (List.Subset.refl _) rfl rfl rfl rfl
  · exact .of_same (List.Subset.refl _) (List.Subset.refl _) rfl rfl rfl rfl

theorem grows_ingestAttachResult (s : GatewayConnection) (ack : GatewayAck)
    (isBackgroundReplay : Bool) : Grows s (s.ingestAttachResult ack isBackgroundReplay) := by
  unfold ingestAttachResult
  split
  · exact .refl s
  · split
    · exact grows_ingestBackgroundResult _ _
    · exact grows_ingestForegroundResult _ _

theorem grows_restoreAttachments (s : GatewayConnection) : Grows s s.restoreAttachments := by
  have hfoldl : ∀ (sessions : List String) (s : GatewayConnection),
      Grows s (sessions.foldl restoreAttachment s) := by
    intro sessions
    induction sessions with
    | nil => exact Grows.refl
    | cons sessionId sessions ih =>
        exact fun s => ((grows_emit s _).trans (grows_requestReplay _ _ _ _)).trans (ih _)
  exact hfoldl s.attachedSessions s

/-! ## what is handled again -/

/-- The event was emitted, or counted as a duplicate, or a replay from the cursor's
successor was requested that covers it. -/
def Settles (connection : GatewayConnection) (event : GatewayEvent) : Prop :=
  .event event ∈ connection.emitted ∨ .duplicateEvent event ∈ connection.emitted ∨
    (connection.cursor event.sessionId + 1 ≤ event.sequence ∧
      ∃ requestId, replayCommand requestId event.sessionId
        (connection.cursor event.sessionId + 1) event.sequence ∈ connection.outbox)

/-- What is settled stays so while the cursor does. -/
theorem Grows.settles {s t : GatewayConnection} (h : Grows s t) {event : GatewayEvent}
    (hcursor : t.cursor event.sessionId = s.cursor event.sessionId) (hs : s.Settles event) :
    t.Settles event := by
  rcases hs with hemitted | hduplicate | ⟨hcovers, requestId, hasked⟩
  · exact .inl (h.emitted hemitted)
  · exact .inr (.inl (h.emitted hduplicate))
  · refine .inr (.inr ?_)
    rw [hcursor]
    exact ⟨hcovers, requestId, h.outbox hasked⟩

/-- An event of the journal moves the cursor of its session as its number does. -/
theorem cursor_handleEvent {event : GatewayEvent} (hname : event.event ≠ replayCompleteName)
    (s : GatewayConnection) :
    (s.handleEvent event).cursor event.sessionId =
      Cursor.advance (s.cursor event.sessionId) event.sequence := by
  unfold handleEvent
  rw [if_neg hname, EventJournal.observe_eq]
  cases hdispose : Cursor.dispose (s.journal.lastSequence event.sessionId) event.sequence with
  | accepted =>
      refine Eq.trans ?_ (Cursor.advance_of_accepted hdispose).symm
      exact EventJournal.lastSequence_insert _ _ _
  | duplicate => exact (Cursor.advance_of_duplicate hdispose).symm
  | gap =>
      refine Eq.trans ?_ (Cursor.advance_of_gap hdispose).symm
      dsimp only
      split <;> rfl

/-- Events beyond the cursor's successor do not move the cursor. -/
theorem cursor_foldl_of_gaps {sessionId : String} {events : List GatewayEvent}
    {s : GatewayConnection}
    (h : ∀ event ∈ events, event.sessionId = sessionId ∧ event.event ≠ replayCompleteName ∧
      s.cursor sessionId + 1 < event.sequence) :
    (events.foldl handleEvent s).cursor sessionId = s.cursor sessionId := by
  induction events generalizing s with
  | nil => rfl
  | cons event events ih =>
      obtain ⟨rfl, hname, hgap⟩ := h event List.mem_cons_self
      have hcursor : (s.handleEvent event).cursor event.sessionId = s.cursor event.sessionId := by
        rw [cursor_handleEvent hname, Cursor.advance_of_gap (Cursor.dispose_eq_gap_iff.mpr hgap)]
      rw [List.foldl_cons, ih, hcursor]
      intro other hmem
      rw [hcursor]
      exact h other (List.mem_cons_of_mem event hmem)

/-- **An event that is not held back** is settled, and a gap leaves the cursor. -/
theorem settles_handleEvent {event : GatewayEvent} (hname : event.event ≠ replayCompleteName)
    {s : GatewayConnection} (hfree : event.sessionId ∉ s.pendingAttachSessions) :
    (.event event ∈ (s.handleEvent event).emitted ∨
        .duplicateEvent event ∈ (s.handleEvent event).emitted) ∨
      (s.cursor event.sessionId + 1 < event.sequence ∧ (s.handleEvent event).Settles event ∧
        (s.handleEvent event).cursor event.sessionId = s.cursor event.sessionId) := by
  have hcursor := cursor_handleEvent hname s
  cases hdispose : Cursor.dispose (s.journal.lastSequence event.sessionId) event.sequence with
  | accepted =>
      refine .inl (.inl ?_)
      rw [handleEvent, if_neg hname, EventJournal.observe_eq, hdispose]
      exact List.mem_append_right _ List.mem_cons_self
  | duplicate =>
      refine .inl (.inr ?_)
      rw [handleEvent, if_neg hname, EventJournal.observe_eq, hdispose]
      exact List.mem_append_right _ List.mem_cons_self
  | gap =>
      have hgap : s.cursor event.sessionId + 1 < event.sequence :=
        Cursor.dispose_eq_gap_iff.mp hdispose
      replace hcursor := hcursor.trans (Cursor.advance_of_gap hdispose)
      refine .inr ⟨hgap, .inr (.inr ⟨by rw [hcursor]; exact hgap.le, s.nextRequest, ?_⟩), hcursor⟩
      rw [hcursor, handleEvent, if_neg hname, EventJournal.observe_eq, hdispose]
      dsimp only
      rw [if_neg hfree]
      exact List.mem_append_right _ List.mem_cons_self

/-- **Events handled in order** are settled in the end: from the first gap on, the cursor
stays. -/
theorem settles_foldl {sessionId : String} {events : List GatewayEvent} {s : GatewayConnection}
    (hevents : ∀ event ∈ events,
      event.sessionId = sessionId ∧ event.event ≠ replayCompleteName)
    (hsorted : events.Pairwise fun a b => a.sequence ≤ b.sequence)
    (hfree : sessionId ∉ s.pendingAttachSessions) :
    ∀ event ∈ events, (events.foldl handleEvent s).Settles event := by
  induction events generalizing s with
  | nil => exact nofun
  | cons event events ih =>
      obtain ⟨hfirst, hrest⟩ := List.pairwise_cons.mp hsorted
      obtain ⟨rfl, hname⟩ := hevents event List.mem_cons_self
      have hlater : ∀ other ∈ events, other.sessionId = event.sessionId ∧
          other.event ≠ replayCompleteName := fun other hmem =>
        hevents other (List.mem_cons_of_mem event hmem)
      have hgrows := grows_foldl_handleEvent events (s.handleEvent event)
      intro other hmem
      rw [List.foldl_cons]
      rcases List.mem_cons.mp hmem with rfl | hmem
      · rcases settles_handleEvent hname hfree with
          (hemitted | hduplicate) | ⟨hgap, hsettles, hcursor⟩
        · exact .inl (hgrows.emitted hemitted)
        · exact .inr (.inl (hgrows.emitted hduplicate))
        · refine hgrows.settles (cursor_foldl_of_gaps fun later hlater' => ?_) hsettles
          obtain ⟨hsession, hnotComplete⟩ := hlater later hlater'
          have hle := hfirst later hlater'
          exact ⟨hsession, hnotComplete, by omega⟩
      · refine ih hlater hrest ?_ other hmem
        rw [(grows_handleEvent s event).sessions]
        exact hfree

/-! ## acknowledgements -/

/-- An acknowledgement is taken in, up to what was held back. -/
def acknowledged (connection : GatewayConnection) (ack : GatewayAck) : GatewayConnection :=
  let answered :=
    { connection with
      backgroundReplayRequests := connection.backgroundReplayRequests.erase ack.requestId
      pendingAttachSessionByRequest :=
        connection.pendingAttachSessionByRequest.erase ack.requestId
      idsFresh := connection.fresh_erase_ack ack }.resolveAck ack
  match connection.pendingCommandNames.lookup ack.requestId with
  | some name =>
      if ack.ok ∧ name ∈ attachLikeCommands then
        answered.ingestAttachResult ack
          (decide (ack.requestId ∈ connection.backgroundReplayRequests))
      else answered
  | none => answered

/-- What was held back for the session of the request is released at the end. -/
theorem handleAck_eq (connection : GatewayConnection) (ack : GatewayAck) :
    connection.handleAck ack =
      ((connection.pendingAttachSessionByRequest.lookup ack.requestId).elim
        (connection.acknowledged ack) (connection.acknowledged ack).releaseDeferred).emit
          (.ack ack) := by
  unfold handleAck acknowledged
  cases connection.pendingAttachSessionByRequest.lookup ack.requestId <;> rfl

/-- The request of an acknowledgement is not on its way any more. -/
def withoutRequest (connection : GatewayConnection) (requestId : RequestId) : GatewayConnection :=
  { connection with
    pendingAttachSessionByRequest := connection.pendingAttachSessionByRequest.erase requestId
    idsFresh := fun id hid => connection.idsFresh id (AList.mem_erase.mp hid).2 }

theorem grows_acknowledged (s : GatewayConnection) (ack : GatewayAck) :
    Grows (s.withoutRequest ack.requestId) (s.acknowledged ack) := by
  unfold acknowledged
  dsimp only
  have hanswered : Grows (s.withoutRequest ack.requestId)
      ({ s with
        backgroundReplayRequests := s.backgroundReplayRequests.erase ack.requestId
        pendingAttachSessionByRequest := s.pendingAttachSessionByRequest.erase ack.requestId
        idsFresh := s.fresh_erase_ack ack }.resolveAck ack) :=
    .of_same (List.Subset.refl _) (List.Subset.refl _) rfl rfl rfl rfl
  split
  · split
    · exact hanswered.trans (grows_ingestAttachResult _ _ _)
    · exact hanswered
  · exact hanswered

theorem deferred_dropAttach (s : GatewayConnection) (sessionId other : String) :
    (s.dropAttach (some sessionId)).deferred other =
      if other = sessionId then [] else s.deferred other := by
  by_cases hsame : other = sessionId
  · subst hsame
    simp [deferred, dropAttach]
  · rw [if_neg hsame]
    simp [deferred, dropAttach, AList.lookup_erase_ne hsame]

/-- **Releasing** settles what was held back for the session. -/
theorem releaseDeferred_spec {s : GatewayConnection} {sessionId : String}
    (hdeferred : ∀ event ∈ s.deferred sessionId,
      event.sessionId = sessionId ∧ event.event ≠ replayCompleteName)
    (hnodup : s.pendingAttachSessions.Nodup) :
    Grows (s.dropAttach (some sessionId)) (s.releaseDeferred sessionId) ∧
      ∀ event ∈ s.deferred sessionId, (s.releaseDeferred sessionId).Settles event := by
  have hperm := List.perm_insertionSort (fun a b : GatewayEvent => a.sequence ≤ b.sequence)
    (s.deferred sessionId)
  refine ⟨grows_foldl_handleEvent _ _, fun event hmem => ?_⟩
  have hfree : sessionId ∉ (s.dropAttach (some sessionId)).pendingAttachSessions :=
    hnodup.not_mem_erase
  exact settles_foldl (fun other hother => hdeferred other (hperm.mem_iff.mp hother))
    (List.pairwise_insertionSort _ _) hfree event (hperm.mem_iff.mpr hmem)

/-! ## the attaches on their way -/

/-- Sessions are held back for once, each for an attach on its way, and what is held back
is theirs. -/
structure Sound (connection : GatewayConnection) : Prop where
  nodup : connection.pendingAttachSessions.Nodup
  requested : ∀ sessionId ∈ connection.pendingAttachSessions,
    ∃ requestId, connection.pendingAttachSessionByRequest.lookup requestId = some sessionId
  deferred : ∀ sessionId, ∀ event ∈ connection.deferred sessionId,
    sessionId ∈ connection.pendingAttachSessions ∧ event.sessionId = sessionId ∧
      event.event ≠ replayCompleteName

/-- What is held back stays that of the sessions on their way. -/
theorem Grows.deferred_sound {s t : GatewayConnection} (h : Grows s t)
    (hs : ∀ sessionId, ∀ event ∈ s.deferred sessionId,
      sessionId ∈ s.pendingAttachSessions ∧ event.sessionId = sessionId ∧
        event.event ≠ replayCompleteName) :
    ∀ sessionId, ∀ event ∈ t.deferred sessionId,
      sessionId ∈ t.pendingAttachSessions ∧ event.sessionId = sessionId ∧
        event.event ≠ replayCompleteName := by
  intro sessionId event hmem
  obtain ⟨new, -, hdeferred, hattaching⟩ := h.held
  rw [h.sessions]
  rw [hdeferred] at hmem
  rcases List.mem_append.mp hmem with hmem | hmem
  · exact hs sessionId event hmem
  · obtain ⟨hnew, hsame⟩ := List.mem_filter.mp hmem
    obtain rfl : event.sessionId = sessionId := of_decide_eq_true hsame
    obtain ⟨hsession, hname⟩ := hattaching event hnew
    exact ⟨hsession, rfl, hname⟩

namespace Sound

variable {s t : GatewayConnection}

theorem grows (hs : s.Sound) (h : Grows s t) : t.Sound where
  nodup := by
    rw [h.sessions]
    exact hs.nodup
  requested := by
    rw [h.sessions, h.requests]
    exact hs.requested
  deferred := h.deferred_sound hs.deferred

/-- Sessions other than that of the request are still requested without it. -/
theorem requested_erase (hs : s.Sound) {requestId : RequestId} {sessionId : String}
    (hlookup : s.pendingAttachSessionByRequest.lookup requestId = some sessionId) :
    ∀ other ∈ s.pendingAttachSessions.erase sessionId, ∃ otherId,
      (s.pendingAttachSessionByRequest.erase requestId).lookup otherId = some other := by
  intro other hmem
  obtain ⟨hother, hin⟩ := hs.nodup.mem_erase_iff.mp hmem
  obtain ⟨otherId, hotherId⟩ := hs.requested other hin
  have hne : otherId ≠ requestId := by
    rintro rfl
    exact hother (Option.some.inj (hotherId.symm.trans hlookup))
  exact ⟨otherId, (AList.lookup_erase_ne hne).trans hotherId⟩

/-- Dropping a session leaves what is held back for the others. -/
theorem deferred_drop (hnodup : s.pendingAttachSessions.Nodup)
    (hdeferred : ∀ sessionId, ∀ event ∈ s.deferred sessionId,
      sessionId ∈ s.pendingAttachSessions ∧ event.sessionId = sessionId ∧
        event.event ≠ replayCompleteName) (sessionId : String) :
    ∀ other, ∀ event ∈ (s.dropAttach (some sessionId)).deferred other,
      other ∈ s.pendingAttachSessions.erase sessionId ∧ event.sessionId = other ∧
        event.event ≠ replayCompleteName := by
  intro other event hmem
  rw [deferred_dropAttach] at hmem
  split at hmem
  · cases hmem
  · next hne =>
      obtain ⟨hsession, hsame, hname⟩ := hdeferred other event hmem
      exact ⟨hnodup.mem_erase_iff.mpr ⟨hne, hsession⟩, hsame, hname⟩

/-- A request that attaches to nothing may be forgotten. -/
theorem requested_erase_none (hs : s.Sound) {requestId : RequestId}
    (hlookup : s.pendingAttachSessionByRequest.lookup requestId = none) :
    ∀ sessionId ∈ s.pendingAttachSessions, ∃ otherId,
      (s.pendingAttachSessionByRequest.erase requestId).lookup otherId = some sessionId := by
  intro sessionId hmem
  obtain ⟨otherId, hotherId⟩ := hs.requested sessionId hmem
  have hne : otherId ≠ requestId := by
    rintro rfl
    rw [hlookup] at hotherId
    cases hotherId
  exact ⟨otherId, (AList.lookup_erase_ne hne).trans hotherId⟩

/-- A request that fails takes the session of its attach with it. -/
theorem failPending (hs : s.Sound) (requestId : RequestId) : (s.failPending requestId).Sound := by
  have hdropped : ∀ attach : Option String,
      s.pendingAttachSessionByRequest.lookup requestId = attach →
        (s.dropAttach attach).pendingAttachSessions.Nodup ∧
          (∀ sessionId ∈ (s.dropAttach attach).pendingAttachSessions, ∃ otherId,
            (s.pendingAttachSessionByRequest.erase requestId).lookup otherId =
              some sessionId) ∧
          ∀ sessionId, ∀ event ∈ (s.dropAttach attach).deferred sessionId,
            sessionId ∈ (s.dropAttach attach).pendingAttachSessions ∧
              event.sessionId = sessionId ∧ event.event ≠ replayCompleteName := by
    intro attach hlookup
    cases attach with
    | some sessionId =>
        exact ⟨hs.nodup.erase sessionId, hs.requested_erase hlookup,
          deferred_drop hs.nodup hs.deferred sessionId⟩
    | none => exact ⟨hs.nodup, hs.requested_erase_none hlookup, hs.deferred⟩
  obtain ⟨hnodup, hrequested, hdeferred⟩ := hdropped _ rfl
  have hrequests : ∀ attach : Option String,
      (s.dropAttach attach).pendingAttachSessionByRequest = s.pendingAttachSessionByRequest := by
    intro attach
    cases attach <;> rfl
  refine ⟨hnodup, ?_, hdeferred⟩
  show ∀ sessionId ∈ (s.dropAttach _).pendingAttachSessions, ∃ otherId,
    ((s.dropAttach _).pendingAttachSessionByRequest.erase requestId).lookup otherId =
      some sessionId
  rw [hrequests]
  exact hrequested

end Sound

theorem sound_failAllPending (s : GatewayConnection) : s.failAllPending.Sound where
  nodup := List.nodup_nil
  requested := nofun
  deferred := fun sessionId event hmem => by
    simp [GatewayConnection.deferred, failAllPending] at hmem

theorem sound_send {s : GatewayConnection} (hs : s.Sound) (command : String)
    (sessionId : Option String) (params : Option Json) :
    (s.send command sessionId params).Sound := by
  have hother : ∀ other ∈ s.pendingAttachSessions, ∀ attach : Option String, ∃ requestId,
      (withAttach s.pendingAttachSessionByRequest s.nextRequest attach).lookup requestId =
        some other := by
    intro other hmem attach
    obtain ⟨requestId, hlookup⟩ := hs.requested other hmem
    have hne : requestId ≠ s.nextRequest :=
      (s.idsFresh requestId (Support.mem_of_lookup hlookup)).ne
    cases attach with
    | some attached => exact ⟨requestId, (AList.lookup_insert_ne hne).trans hlookup⟩
    | none => exact ⟨requestId, hlookup⟩
  have hsent : ∀ attach : Option String,
      (attach.elim s.pendingAttachSessions s.pendingAttachSessions.insert).Nodup ∧
        (∀ other ∈ attach.elim s.pendingAttachSessions s.pendingAttachSessions.insert,
          ∃ requestId, (withAttach s.pendingAttachSessionByRequest s.nextRequest
            attach).lookup requestId = some other) ∧
        s.pendingAttachSessions ⊆
          attach.elim s.pendingAttachSessions s.pendingAttachSessions.insert := by
    intro attach
    cases attach with
    | some attached =>
        refine ⟨hs.nodup.insert, fun other hmem => ?_, fun _ => List.mem_insert_of_mem⟩
        rcases List.mem_insert_iff.mp hmem with rfl | hmem
        · exact ⟨s.nextRequest, AList.lookup_insert _⟩
        · exact hother other hmem (some attached)
    | none => exact ⟨hs.nodup, fun other hmem => hother other hmem none, List.Subset.refl _⟩
  obtain ⟨hnodup, hrequested, hsubset⟩ :=
    hsent (if command ∈ attachLikeCommands then sessionId else none)
  refine ⟨hnodup, hrequested, fun other event hmem => ?_⟩
  obtain ⟨hsession, hsame, hname⟩ := hs.deferred other event hmem
  exact ⟨hsubset hsession, hsame, hname⟩

/-- What was held back is held back still, or settled. -/
structure Carries (s t : GatewayConnection) : Prop where
  held : ∀ event ∈ t.held,
    event ∈ s.held ∨ event ∈ t.deferred event.sessionId ∨ t.Settles event
  deferred : ∀ event, event ∈ s.deferred event.sessionId →
    event ∈ t.deferred event.sessionId ∨ t.Settles event

theorem Grows.carries {s t : GatewayConnection} (h : Grows s t) : Carries s t where
  held := fun _ hmem => (h.mem_held hmem).imp_right .inl
  deferred := fun _ hmem => .inl (h.mem_deferred hmem)

/-- Emitting a value afterwards settles no less. -/
theorem Carries.emit {s t : GatewayConnection} (h : Carries s t) (value : GatewayInbound) :
    Carries s (t.emit value) where
  held := fun event hmem =>
    (h.held event hmem).imp_right (.imp_right ((grows_emit t value).settles rfl))
  deferred := fun event hmem =>
    (h.deferred event hmem).imp_right ((grows_emit t value).settles rfl)

/-- A step that changes nothing about what is held back. -/
theorem carries_of_eq {s t : GatewayConnection} (hheld : t.held = s.held)
    (hdeferred : t.deferredAttachEvents = s.deferredAttachEvents) : Carries s t where
  held := fun _ hmem => .inl (hheld ▸ hmem)
  deferred := fun event hmem => .inl (by rwa [GatewayConnection.deferred, hdeferred])

/-- **An acknowledgement** settles what was held back for the session of its request. -/
theorem handleAck_spec {s : GatewayConnection} (hs : s.Sound) (ack : GatewayAck) :
    (s.handleAck ack).Sound ∧ Carries s (s.handleAck ack) := by
  have hgrows := grows_acknowledged s ack
  have hdeferred := hgrows.deferred_sound hs.deferred
  rw [handleAck_eq]
  cases hlookup : s.pendingAttachSessionByRequest.lookup ack.requestId with
  | none =>
      have hsound : (s.withoutRequest ack.requestId).Sound :=
        ⟨hs.nodup, hs.requested_erase_none hlookup, hs.deferred⟩
      have hall := hgrows.trans (grows_emit _ (.ack ack))
      exact ⟨hsound.grows hall, hall.carries.held, hall.carries.deferred⟩
  | some sessionId =>
      have hnodup : (s.acknowledged ack).pendingAttachSessions.Nodup := by
        rw [hgrows.sessions]
        exact hs.nodup
      obtain ⟨hreleased, hsettles⟩ := releaseDeferred_spec (s := s.acknowledged ack)
        (fun event hmem => (hdeferred sessionId event hmem).2) hnodup
      have hdropped : ((s.acknowledged ack).dropAttach (some sessionId)).Sound := by
        refine ⟨hnodup.erase sessionId, ?_, Sound.deferred_drop hnodup hdeferred sessionId⟩
        show ∀ other ∈ (s.acknowledged ack).pendingAttachSessions.erase sessionId, ∃ requestId,
          (s.acknowledged ack).pendingAttachSessionByRequest.lookup requestId = some other
        rw [hgrows.sessions, hgrows.requests]
        exact hs.requested_erase hlookup
      have hall := hreleased.trans (grows_emit _ (.ack ack))
      have hcarried : ∀ event, event ∈ (s.acknowledged ack).deferred event.sessionId →
          event ∈ (((s.acknowledged ack).releaseDeferred sessionId).emit (.ack ack)).deferred
              event.sessionId ∨
            (((s.acknowledged ack).releaseDeferred sessionId).emit (.ack ack)).Settles event := by
        intro event hmem
        by_cases hsame : event.sessionId = sessionId
        · rw [hsame] at hmem
          exact .inr ((grows_emit _ _).settles rfl (hsettles event hmem))
        · refine .inl (hall.mem_deferred ?_)
          rw [deferred_dropAttach, if_neg hsame]
          exact hmem
      refine ⟨hdropped.grows hall, fun event hmem => ?_, fun event hmem => ?_⟩
      · rcases hall.mem_held hmem with hmem | hmem
        · rcases hgrows.mem_held hmem with hmem | hmem
          · exact .inl hmem
          · exact .inr (hcarried event hmem)
        · exact .inr (.inl hmem)
      · exact hcarried event (hgrows.mem_deferred hmem)

/-- Nothing is held back for the session of the request. -/
def HoldsNothing (connection : GatewayConnection) (requestId : RequestId) : Prop :=
  ∀ sessionId ∈ connection.pendingAttachSessionByRequest.lookup requestId,
    connection.deferred sessionId = []

instance (connection : GatewayConnection) (requestId : RequestId) :
    Decidable (connection.HoldsNothing requestId) := by
  unfold HoldsNothing
  infer_instance

/-- **A request that fails** drops nothing where nothing is held back for its session. -/
theorem carries_failPending {s : GatewayConnection} {requestId : RequestId}
    (h : s.HoldsNothing requestId) : Carries s (s.failPending requestId) := by
  have hheld : ∀ attach : Option String, (s.dropAttach attach).held = s.held := by
    intro attach
    cases attach <;> rfl
  have hdropped : ∀ attach : Option String, (∀ sessionId ∈ attach, s.deferred sessionId = []) →
      ∀ sessionId, (s.dropAttach attach).deferred sessionId = s.deferred sessionId := by
    intro attach hnothing sessionId
    cases attach with
    | some dropped =>
        rw [deferred_dropAttach]
        split
        · next hsame =>
            subst hsame
            exact (hnothing sessionId rfl).symm
        · rfl
    | none => rfl
  refine ⟨fun event hmem => .inl ?_, fun event hmem => .inl ?_⟩
  · rw [← hheld]
    exact hmem
  · show event ∈ (s.dropAttach _).deferred event.sessionId
    rw [hdropped _ h]
    exact hmem

end GatewayConnection

end Slight
