import Slight.Client.Connection

/-!
# Slight.Client.Replay

What the events of a replay do to the client, and to its cursor, its outbox and
its subscribers: the accepted events are emitted and move the cursor, each gap
sends one request for a replay, or is held back while an attach is in progress.
-/

namespace Slight

/-! ## what subscribers see -/

/-- The events among the emitted values. -/
def eventsIn (emitted : List GatewayInbound) : List GatewayEvent :=
  emitted.filterMap fun
    | .event event => some event
    | _ => none

def GatewayInbound.isReset : GatewayInbound → Bool
  | .transcriptReset .. => true
  | _ => false

@[simp] theorem eventsIn_append (xs ys : List GatewayInbound) :
    eventsIn (xs ++ ys) = eventsIn xs ++ eventsIn ys :=
  List.filterMap_append

namespace GatewayConnection

/-- The connection asked for a replay of the session with `command`, and its
acknowledgement is awaited as that of a background replay. -/
structure Awaits (connection : GatewayConnection) (sessionId : String)
    (command : GatewayCommand) : Prop where
  asks : ∃ fromSequence received,
    command = replayCommand command.requestId sessionId fromSequence received
  background : command.requestId ∈ connection.backgroundReplayRequests
  named : connection.pendingCommandNames.lookup command.requestId = some commandName.eventsReplay
  noAttach : connection.pendingAttachSessionByRequest.lookup command.requestId = none
  drawn : command.requestId < connection.nextRequest

/-- Nothing awaited is forgotten between `s` and `t`. -/
def KeepsAwaiting (s t : GatewayConnection) : Prop :=
  ∀ sessionId command, s.Awaits sessionId command → t.Awaits sessionId command

theorem KeepsAwaiting.trans {s t u : GatewayConnection} (h : KeepsAwaiting s t)
    (h' : KeepsAwaiting t u) : KeepsAwaiting s u :=
  fun sessionId command hawaits => h' sessionId command (h sessionId command hawaits)

theorem keepsAwaiting_emit (connection : GatewayConnection) (value : GatewayInbound) :
    KeepsAwaiting connection (connection.emit value) :=
  fun _ _ h => ⟨h.asks, h.background, h.named, h.noAttach, h.drawn⟩

theorem keepsAwaiting_markConnected (connection : GatewayConnection) :
    KeepsAwaiting connection connection.markConnected := by
  intro sessionId command h
  unfold markConnected
  split
  · exact ⟨h.asks, h.background, h.named, h.noAttach, h.drawn⟩
  · exact h

/-- The new request's id is none of those awaited before. -/
theorem keepsAwaiting_requestReplay (connection : GatewayConnection) (sessionId : String)
    (fromSequence received : Nat) :
    KeepsAwaiting connection (connection.requestReplay sessionId fromSequence received) := by
  intro other command h
  have hne : command.requestId ≠ connection.nextRequest := Nat.ne_of_lt h.drawn
  constructor
  · exact h.asks
  · exact List.mem_cons_of_mem _ h.background
  · show (AList.insert _ _ _).lookup _ = _
    rw [AList.lookup_insert_ne hne]
    exact h.named
  · exact h.noAttach
  · exact Nat.lt_succ_of_lt h.drawn

theorem awaits_requestReplay (connection : GatewayConnection) (sessionId : String)
    (fromSequence received : Nat) :
    (connection.requestReplay sessionId fromSequence received).Awaits sessionId
      (replayCommand connection.nextRequest sessionId fromSequence received) where
  asks := ⟨fromSequence, received, rfl⟩
  background := List.mem_cons_self
  named := AList.lookup_insert _
  noAttach := by
    refine AList.lookup_eq_none.mpr fun hid => ?_
    exact absurd (connection.idsFresh _ hid) (Nat.lt_irrefl _)
  drawn := Nat.lt_succ_self _

@[simp] theorem outbox_requestReplay (connection : GatewayConnection) (sessionId : String)
    (fromSequence received : Nat) :
    (connection.requestReplay sessionId fromSequence received).outbox = connection.outbox ++
      [replayCommand connection.nextRequest sessionId fromSequence received] := rfl

@[simp] theorem cursor_emit (connection : GatewayConnection) (value : GatewayInbound)
    (sessionId : String) : (connection.emit value).cursor sessionId = connection.cursor sessionId :=
  rfl

@[simp] theorem cursor_markConnected (connection : GatewayConnection) (sessionId : String) :
    connection.markConnected.cursor sessionId = connection.cursor sessionId := by
  unfold markConnected
  split <;> rfl

@[simp] theorem outbox_markConnected (connection : GatewayConnection) :
    connection.markConnected.outbox = connection.outbox := by
  unfold markConnected
  split <;> rfl

@[simp] theorem pendingAttachSessions_markConnected (connection : GatewayConnection) :
    connection.markConnected.pendingAttachSessions = connection.pendingAttachSessions := by
  unfold markConnected
  split <;> rfl

/-- Becoming connected again emits a state and no event. -/
theorem emitted_markConnected (connection : GatewayConnection) :
    ∃ new, connection.markConnected.emitted = connection.emitted ++ new ∧ eventsIn new = [] ∧
      ∀ value ∈ new, value.isReset = false := by
  unfold markConnected
  split
  · exact ⟨[_], rfl, rfl, by simp [GatewayInbound.isReset]⟩
  · exact ⟨[], (List.append_nil _).symm, rfl, by simp⟩

/-- From `s` to `t` the events `xs` of the session are taken in and `asked`
requests for a replay are sent. -/
structure Replays (sessionId : String) (xs : List SequencedEvent) (asked : Nat)
    (s t : GatewayConnection) : Prop where
  cursor : t.cursor sessionId =
    Support.Cursor.after SequencedEvent.sequence (s.cursor sessionId) xs
  emitted : ∃ new, t.emitted = s.emitted ++ new ∧
    eventsIn new = (Support.Cursor.accepted SequencedEvent.sequence (s.cursor sessionId) xs).map
      (gatewayEvent sessionId) ∧
    ∀ value ∈ new, value.isReset = false
  outbox : ∃ sent, t.outbox = s.outbox ++ sent ∧
    (∀ command ∈ sent, t.Awaits sessionId command) ∧ sent.length = asked
  keeps : KeepsAwaiting s t
  pendingAttach : t.pendingAttachSessions = s.pendingAttachSessions

/-- The requests the gaps of a replay send: none while an attach is in progress,
which holds the events back instead. -/
def gapRequests (connection : GatewayConnection) (sessionId : String)
    (xs : List SequencedEvent) : Nat :=
  if sessionId ∈ connection.pendingAttachSessions then 0
  else (Support.Cursor.gaps SequencedEvent.sequence (connection.cursor sessionId) xs).length

theorem Replays.nil (sessionId : String) (s : GatewayConnection) :
    Replays sessionId [] 0 s s where
  cursor := rfl
  emitted := ⟨[], (List.append_nil _).symm, rfl, by simp⟩
  outbox := ⟨[], (List.append_nil _).symm, by simp, rfl⟩
  keeps := fun _ _ h => h
  pendingAttach := rfl

/-- One event of the replay. -/
theorem replays_handleEvent (sessionId : String) (x : SequencedEvent) (s : GatewayConnection) :
    Replays sessionId [x] (s.gapRequests sessionId [x]) s
      (s.handleEvent (gatewayEvent sessionId x)) := by
  have hname := gatewayEvent_event_ne sessionId x
  unfold handleEvent gapRequests
  rw [if_neg hname, EventJournal.observe_eq]
  have hcursor : s.journal.lastSequence (gatewayEvent sessionId x).sessionId =
      s.cursor sessionId := rfl
  have hseq : (gatewayEvent sessionId x).sequence = x.sequence := rfl
  rw [hcursor, hseq]
  cases hd : Support.Cursor.dispose (s.cursor sessionId) x.sequence with
  | accepted =>
      constructor
      · show EventJournal.lastSequence ⟨_⟩ sessionId = Support.Cursor.advance _ x.sequence
        rw [Support.Cursor.advance_of_accepted hd]
        exact EventJournal.lastSequence_insert _ _ _
      · refine ⟨[_], rfl, ?_, ?_⟩
        · simp [Support.Cursor.accepted, hd, eventsIn]
        · simp [GatewayInbound.isReset]
      · exact ⟨[], (List.append_nil _).symm, by simp, by simp [Support.Cursor.gaps, hd]⟩
      · exact fun _ _ h => ⟨h.asks, h.background, h.named, h.noAttach, h.drawn⟩
      · rfl
  | duplicate =>
      constructor
      · exact (Support.Cursor.advance_of_duplicate hd).symm
      · refine ⟨[_], rfl, ?_, ?_⟩
        · simp [Support.Cursor.accepted, hd, eventsIn]
        · simp [GatewayInbound.isReset]
      · exact ⟨[], (List.append_nil _).symm, by simp, by simp [Support.Cursor.gaps, hd]⟩
      · exact fun _ _ h => ⟨h.asks, h.background, h.named, h.noAttach, h.drawn⟩
      · rfl
  | gap =>
      dsimp only
      have hid : (gatewayEvent sessionId x).sessionId = sessionId := rfl
      rw [hid]
      by_cases hpending : sessionId ∈ s.pendingAttachSessions
      · rw [if_pos hpending, if_pos hpending]
        constructor
        · exact (Support.Cursor.advance_of_gap hd).symm
        · exact ⟨[], (List.append_nil _).symm, by simp [Support.Cursor.accepted, hd, eventsIn],
            by simp⟩
        · exact ⟨[], (List.append_nil _).symm, by simp, rfl⟩
        · exact fun _ _ h => ⟨h.asks, h.background, h.named, h.noAttach, h.drawn⟩
        · rfl
      · rw [if_neg hpending, if_neg hpending]
        constructor
        · exact (Support.Cursor.advance_of_gap hd).symm
        · refine ⟨[_, _], List.append_assoc _ _ _, ?_, ?_⟩
          · simp [Support.Cursor.accepted, hd, eventsIn]
          · simp [GatewayInbound.isReset]
        · refine ⟨[_], outbox_requestReplay _ _ _ _, ?_, by simp [Support.Cursor.gaps, hd]⟩
          intro command hcommand
          rw [List.mem_singleton.mp hcommand]
          exact awaits_requestReplay _ _ _ _
        · intro other command h
          exact keepsAwaiting_requestReplay _ _ _ _ _ _
            ⟨h.asks, h.background, h.named, h.noAttach, h.drawn⟩
        · rfl

theorem Replays.append {sessionId : String} {xs ys : List SequencedEvent} {asked asked' : Nat}
    {s t u : GatewayConnection} (h : Replays sessionId xs asked s t)
    (h' : Replays sessionId ys asked' t u) :
    Replays sessionId (xs ++ ys) (asked + asked') s u := by
  obtain ⟨new, hnew, hevents, hreset⟩ := h.emitted
  obtain ⟨new', hnew', hevents', hreset'⟩ := h'.emitted
  obtain ⟨sent, hsent, hasks, hlength⟩ := h.outbox
  obtain ⟨sent', hsent', hasks', hlength'⟩ := h'.outbox
  constructor
  · rw [h'.cursor, h.cursor, Support.Cursor.after_append]
  · refine ⟨new ++ new', ?_, ?_, ?_⟩
    · rw [hnew', hnew, List.append_assoc]
    · rw [eventsIn_append, hevents, hevents', h.cursor, Support.Cursor.accepted_append,
        List.map_append]
    · intro value hvalue
      exact (List.mem_append.mp hvalue).elim (hreset value) (hreset' value)
  · refine ⟨sent ++ sent', ?_, ?_, ?_⟩
    · rw [hsent', hsent, List.append_assoc]
    · intro command hcommand
      rcases List.mem_append.mp hcommand with hold | hnext
      · exact h'.keeps _ _ (hasks command hold)
      · exact hasks' command hnext
    · rw [List.length_append, hlength, hlength']
  · exact h.keeps.trans h'.keeps
  · rw [h'.pendingAttach, h.pendingAttach]

/-- **Replay lemma**: the events of a replay, in any order, move the cursor as
their numbers do, are emitted where they are accepted, and send one request for
each gap. -/
theorem replays_foldl (sessionId : String) (xs : List SequencedEvent) (s : GatewayConnection) :
    Replays sessionId xs (s.gapRequests sessionId xs) s
      ((xs.map (gatewayEvent sessionId)).foldl handleEvent s) := by
  induction xs generalizing s with
  | nil =>
      have hnone : s.gapRequests sessionId [] = 0 := by simp [gapRequests, Support.Cursor.gaps]
      rw [hnone]
      exact .nil sessionId s
  | cons x xs ih =>
      have hone := replays_handleEvent sessionId x s
      have hsum : s.gapRequests sessionId (x :: xs) = s.gapRequests sessionId [x] +
          (s.handleEvent (gatewayEvent sessionId x)).gapRequests sessionId xs := by
        rw [gapRequests, gapRequests, gapRequests, hone.pendingAttach, hone.cursor,
          ← List.singleton_append, Support.Cursor.gaps_append, List.length_append]
        split <;> rfl
      rw [hsum, List.map_cons, List.foldl_cons]
      exact hone.append (ih _)

/-! ## a replay the connection asked for itself -/

/-- The result of an `events.replay`: `replayed` are events of the session. -/
def replayResult (session : SessionSummaryDto) (replayed : List SequencedEvent)
    (latestSequence : Nat) (oldestAvailableSequence : Option Nat) (resyncRequired : Bool) :
    SessionAttachResult where
  session := session
  replayed := replayed.map (gatewayEvent session.id)
  latestSequence := latestSequence
  oldestAvailableSequence := oldestAvailableSequence
  resyncRequired := resyncRequired

/-- **Background replay**: the result is taken in, and one more request is sent
when the cursor ends below the latest sequence. -/
theorem replays_ingestBackgroundResult (session : SessionSummaryDto)
    (replayed : List SequencedEvent) (latest : Nat) (oldest : Option Nat) (resync : Bool)
    (s : GatewayConnection) :
    Replays session.id replayed
      (s.gapRequests session.id replayed +
        if Support.Cursor.after SequencedEvent.sequence (s.cursor session.id) replayed < latest
        then 1 else 0)
      s (s.ingestBackgroundResult (replayResult session replayed latest oldest resync)) := by
  have h := replays_foldl session.id replayed s
  unfold ingestBackgroundResult
  simp only [replayEvents, replayResult, Bool.false_eq_true, if_false]
  rw [h.cursor]
  obtain ⟨new, hnew, hevents, hreset⟩ := h.emitted
  obtain ⟨sent, hsent, hasks, hlength⟩ := h.outbox
  generalize (replayed.map (gatewayEvent session.id)).foldl handleEvent s = t at h hnew hsent hasks ⊢
  generalize hlast : Support.Cursor.after SequencedEvent.sequence (s.cursor session.id) replayed =
    last at h ⊢
  split
  · constructor
    · exact h.cursor
    · refine ⟨new ++ [.replayRequested session.id (last + 1)], ?_, ?_, ?_⟩
      · simp only [requestReplay, emit, hnew, List.append_assoc]
      · rw [eventsIn_append, hevents]
        exact List.append_nil _
      · simp only [List.mem_append, List.mem_singleton]
        rintro value (hv | rfl)
        · exact hreset value hv
        · rfl
    · refine ⟨sent ++ [replayCommand t.nextRequest session.id (last + 1) last], ?_, ?_, ?_⟩
      · rw [outbox_requestReplay, emit, hsent, List.append_assoc]
      · intro command hcommand
        rcases List.mem_append.mp hcommand with hold | hnext
        · exact (keepsAwaiting_emit t _).trans (keepsAwaiting_requestReplay _ _ _ _) _ _
            (hasks command hold)
        · rw [List.mem_singleton.mp hnext]
          exact awaits_requestReplay _ _ _ _
      · rw [List.length_append, hlength, List.length_singleton]
    · exact (h.keeps.trans (keepsAwaiting_emit t _)).trans (keepsAwaiting_requestReplay _ _ _ _)
    · exact h.pendingAttach
  · obtain ⟨new', hnew', hevents', hreset'⟩ := emitted_markConnected t
    constructor
    · rw [cursor_emit, cursor_markConnected, h.cursor, hlast]
    · refine ⟨new ++ (new' ++ [.replayCompleted session.id false]), ?_, ?_, ?_⟩
      · simp only [emit, hnew', hnew, List.append_assoc]
      · rw [eventsIn_append, eventsIn_append, hevents, hevents']
        exact List.append_nil _
      · simp only [List.mem_append, List.mem_singleton]
        rintro value (hv | hv | rfl)
        · exact hreset value hv
        · exact hreset' value hv
        · rfl
    · refine ⟨sent, ?_, fun command hcommand => ?_, hlength⟩
      · rw [emit, outbox_markConnected, hsent]
      · exact (keepsAwaiting_markConnected t).trans (keepsAwaiting_emit _ _) _ _
          (hasks command hcommand)
    · exact (h.keeps.trans (keepsAwaiting_markConnected t)).trans (keepsAwaiting_emit _ _)
    · rw [emit, pendingAttachSessions_markConnected, h.pendingAttach]

/-! ## restoring the attachments -/

/-- From `s` to `t` one replay is requested for each of the sessions `ids`, and
nothing else happens. -/
structure Restores (ids : List String) (s t : GatewayConnection) : Prop where
  cursor : ∀ id, t.cursor id = s.cursor id
  emitted : ∃ new, t.emitted = s.emitted ++ new ∧ eventsIn new = []
  outbox : ∃ sent, t.outbox = s.outbox ++ sent ∧ sent.map (·.sessionId) = ids.map some ∧
    ∀ command ∈ sent, ∀ id, command.sessionId = some id → t.Awaits id command
  keeps : KeepsAwaiting s t

theorem restores_restoreAttachment (s : GatewayConnection) (sessionId : String) :
    Restores [sessionId] s (s.restoreAttachment sessionId) := by
  constructor
  · exact fun _ => rfl
  · exact ⟨[_], rfl, rfl⟩
  · refine ⟨[_], outbox_requestReplay _ _ _ _, rfl, ?_⟩
    intro command hcommand id hid
    rw [List.mem_singleton.mp hcommand] at hid ⊢
    obtain rfl : sessionId = id := Option.some.inj hid
    exact awaits_requestReplay _ _ _ _
  · exact (keepsAwaiting_emit s _).trans (keepsAwaiting_requestReplay _ _ _ _)

theorem restores_foldl (ids : List String) (s : GatewayConnection) :
    Restores ids s (ids.foldl restoreAttachment s) := by
  induction ids generalizing s with
  | nil =>
      exact ⟨fun _ => rfl, ⟨[], (List.append_nil _).symm, rfl⟩,
        ⟨[], (List.append_nil _).symm, rfl, by simp⟩, fun _ _ h => h⟩
  | cons sessionId ids ih =>
      have hone := restores_restoreAttachment s sessionId
      have hrest := ih (s.restoreAttachment sessionId)
      obtain ⟨new, hnew, hevents⟩ := hone.emitted
      obtain ⟨new', hnew', hevents'⟩ := hrest.emitted
      obtain ⟨sent, hsent, hids, hawaits⟩ := hone.outbox
      obtain ⟨sent', hsent', hids', hawaits'⟩ := hrest.outbox
      rw [List.foldl_cons]
      constructor
      · intro id
        rw [hrest.cursor, hone.cursor]
      · refine ⟨new ++ new', ?_, ?_⟩
        · rw [hnew', hnew, List.append_assoc]
        · rw [eventsIn_append, hevents, hevents', List.append_nil]
      · refine ⟨sent ++ sent', ?_, ?_, ?_⟩
        · rw [hsent', hsent, List.append_assoc]
        · rw [List.map_append, hids, hids']
          rfl
        · intro command hcommand id hid
          rcases List.mem_append.mp hcommand with hfirst | hlater
          · exact hrest.keeps _ _ (hawaits command hfirst id hid)
          · exact hawaits' command hlater id hid
      · exact hone.keeps.trans hrest.keeps

end GatewayConnection

end Slight
