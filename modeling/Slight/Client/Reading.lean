import Slight.Client.Deferral
import Slight.Client.Holding
import Slight.Support.Delivery

/-!
# Slight.Client.Reading

What the subscribers of a connection read of one session.  Whatever happens to the
connection, what it emits of the session's log is in order: the numbers increase until
the session starts over, and follow one another where no replay was completed in between.

`Follows` is the invariant.  It ties the events emitted so far to the session's cursor;
`Recorded` is what it asks of the log the host sends from.
-/

namespace Slight

open Support

/-! ## signs -/

/-- What an emitted value says of a session.  After a completed replay, or an attach, the
next event may be a later one; after a resync, or when the client stopped, events may come
again. -/
def GatewayInbound.sign (sessionId : String) : GatewayInbound → Option (Sign GatewayEvent)
  | .event sent => if sent.sessionId = sessionId then some (.item sent) else none
  | .replayCompleted id _ => if id = sessionId then some .skip else none
  | .transcriptReset id reason => if id = sessionId ∧ reason.isSome then some .restart else none
  | .resyncRequired id _ => if id.all (· = sessionId) then some .restart else none
  | .close reason => if reason = "client_stopped" then some .restart else none
  | _ => none

/-- The value is an event, of whatever session. -/
def GatewayInbound.isEvent : GatewayInbound → Bool
  | .event _ => true
  | _ => false

/-- The signs of a session among emitted values. -/
def signsOf (sessionId : String) (emitted : List GatewayInbound) : List (Sign GatewayEvent) :=
  emitted.filterMap (·.sign sessionId)

/-- The events of a session that were emitted since it last started over. -/
def shown (sessionId : String) (emitted : List GatewayInbound) : List GatewayEvent :=
  Delivery.since [] (signsOf sessionId emitted)

theorem signsOf_append (sessionId : String) (emitted more : List GatewayInbound) :
    signsOf sessionId (emitted ++ more) = signsOf sessionId emitted ++ signsOf sessionId more :=
  List.filterMap_append

/-- An item is an event of the session. -/
theorem mem_signsOf {sessionId : String} {emitted : List GatewayInbound} {event : GatewayEvent}
    (h : .item event ∈ signsOf sessionId emitted) :
    .event event ∈ emitted ∧ event.sessionId = sessionId := by
  obtain ⟨value, hmem, hsign⟩ := List.mem_filterMap.mp h
  cases value with
  | event other =>
      rw [GatewayInbound.sign] at hsign
      split at hsign
      · next hsession =>
          cases hsign
          exact ⟨hmem, hsession⟩
      · cases hsign
  | replayCompleted id resync =>
      rw [GatewayInbound.sign] at hsign
      split at hsign <;> cases hsign
  | transcriptReset id reason =>
      rw [GatewayInbound.sign] at hsign
      split at hsign <;> cases hsign
  | resyncRequired id reason =>
      rw [GatewayInbound.sign] at hsign
      split at hsign <;> cases hsign
  | close reason =>
      rw [GatewayInbound.sign] at hsign
      split at hsign <;> cases hsign
  | _ => cases hsign

/-- In-order delivery of the events of a journal. -/
abbrev inOrder : Automaton Delivery.Position (Sign GatewayEvent) :=
  Delivery.inOrder (·.sequence)

/-! ## the invariant -/

/-- The log of a session that has come to `last`. -/
structure Recorded (sessionId : String) (log : List GatewayEvent) (last : Nat) : Prop where
  session : ∀ event ∈ log, event.sessionId = sessionId
  named : ∀ event ∈ log, event.event ≠ replayCompleteName
  bounded : ∀ event ∈ log, event.sequence ≤ last

/-- The last event is not past the cursor, and at it if nothing was skipped. -/
def Stands (position : Delivery.Position) (cursor : Nat) : Prop :=
  position.last ≤ cursor ∧ (position.tight = true → position.last = cursor)

/-- After a sign that something may be missing. -/
theorem stands_of_loose {position : Delivery.Position} {cursor : Nat}
    (hlast : position.last ≤ cursor) (hloose : position.tight = false) :
    Stands position cursor :=
  ⟨hlast, fun htight => absurd (hloose.symm.trans htight) Bool.false_ne_true⟩

namespace GatewayConnection

/-- Where a reader of the session stands. -/
def position (connection : GatewayConnection) (sessionId : String) : Delivery.Position :=
  inOrder.after {} (signsOf sessionId connection.emitted)

/-- An event that is of the log, if it is of the session. -/
def Logged (sessionId : String) (log : List GatewayEvent) (event : GatewayEvent) : Prop :=
  event.sessionId = sessionId → event ∈ log

/-- What the connection emitted and holds back of the session is of the log, in order, and
its cursor is not past the log. -/
structure Follows (connection : GatewayConnection) (sessionId : String) (log : List GatewayEvent)
    (last : Nat) : Prop where
  emitted : ∀ event, .event event ∈ connection.emitted → Logged sessionId log event
  deferred : ∀ id, ∀ event ∈ connection.deferred id, Logged sessionId log event
  cursor : connection.cursor sessionId ≤ last
  accepts : inOrder.Accepts {} (signsOf sessionId connection.emitted)
  stands : Stands (connection.position sessionId) (connection.cursor sessionId)

/-- An attach result that speaks of the log, as far as it speaks of the session. -/
structure Speaks (sessionId : String) (log : List GatewayEvent) (last : Nat)
    (attach : SessionAttachResult) : Prop where
  replayed : ∀ event ∈ attach.replayed, Logged sessionId log event
  latest : attach.session.id = sessionId → attach.latestSequence ≤ last
  oldest : attach.session.id = sessionId →
    ∀ oldest ∈ attach.oldestAvailableSequence, oldest - 1 ≤ last

namespace Follows

variable {s t : GatewayConnection} {sessionId : String} {log : List GatewayEvent} {last : Nat}

theorem mono (h : s.Follows sessionId log last) {log' : List GatewayEvent} {last' : Nat}
    (hlog : log ⊆ log') (hlast : last ≤ last') : s.Follows sessionId log' last' where
  emitted := fun event hmem hsession => hlog (h.emitted event hmem hsession)
  deferred := fun id event hmem hsession => hlog (h.deferred id event hmem hsession)
  cursor := Nat.le_trans h.cursor hlast
  accepts := h.accepts
  stands := h.stands

theorem initial (policy : ReconnectPolicy) :
    ({ GatewayConnection.initial with stateMachine := { policy } }).Follows sessionId log last where
  emitted := fun _ hmem => absurd hmem List.not_mem_nil
  deferred := fun _ _ hmem => absurd hmem List.not_mem_nil
  cursor := Nat.zero_le _
  accepts := trivial
  stands := stands_of_loose (Nat.le_refl _) rfl

/-- Nothing is emitted and no cursor is moved. -/
theorem same (h : s.Follows sessionId log last) (hemitted : t.emitted = s.emitted)
    (hjournal : t.journal = s.journal)
    (hdeferred : ∀ id, ∀ event ∈ t.deferred id, Logged sessionId log event) :
    t.Follows sessionId log last where
  emitted := by rw [hemitted]; exact h.emitted
  deferred := hdeferred
  cursor := by rw [GatewayConnection.cursor, hjournal]; exact h.cursor
  accepts := by rw [hemitted]; exact h.accepts
  stands := by
    rw [position, hemitted, GatewayConnection.cursor, hjournal]
    exact h.stands

theorem signsOf_emit (s : GatewayConnection) (value : GatewayInbound) :
    signsOf sessionId (s.emit value).emitted =
      signsOf sessionId s.emitted ++ (value.sign sessionId).toList := by
  rw [GatewayConnection.emit, signsOf_append, signsOf, signsOf, List.filterMap_cons]
  cases value.sign sessionId <;> rfl

theorem position_emit (s : GatewayConnection) (value : GatewayInbound) :
    (s.emit value).position sessionId =
      inOrder.after (s.position sessionId) (value.sign sessionId).toList := by
  rw [position, signsOf_emit, Automaton.after_append]
  rfl

/-- Where a reader stands that is told of no event. -/
theorem stands_sign {p : Delivery.Position} {c : Nat} (h : Stands p c) {sign : Sign GatewayEvent}
    (hsign : ∀ event, sign ≠ .item event) : Stands (inOrder.next p sign) c := by
  cases sign with
  | item event => exact absurd rfl (hsign event)
  | skip => exact stands_of_loose h.1 rfl
  | restart => exact stands_of_loose (Nat.zero_le _) rfl

/-- A value that is no event of the session is emitted. -/
theorem emitOther (h : s.Follows sessionId log last) {value : GatewayInbound}
    (hvalue : ∀ event, value.sign sessionId ≠ some (.item event)) :
    (s.emit value).Follows sessionId log last := by
  have hsigns : signsOf sessionId (s.emit value).emitted = _ := signsOf_emit s value
  constructor
  · intro event hmem hsession
    rcases List.mem_append.mp hmem with hmem | hmem
    · exact h.emitted event hmem hsession
    · rw [← List.mem_singleton.mp hmem] at hvalue
      exact absurd (if_pos hsession) (hvalue event)
  · exact h.deferred
  · exact h.cursor
  · rw [hsigns]
    cases hsign : value.sign sessionId with
    | none => rw [Option.toList_none, List.append_nil]; exact h.accepts
    | some sign =>
        rw [Option.toList_some, Automaton.accepts_concat]
        refine ⟨h.accepts, ?_⟩
        cases sign with
        | item event => exact absurd hsign (hvalue event)
        | skip => trivial
        | restart => trivial
  · rw [position_emit]
    cases hsign : value.sign sessionId with
    | none => exact h.stands
    | some sign => exact stands_sign h.stands fun event heq => hvalue event (by rw [hsign, heq])

/-- A value that is no event is emitted. -/
theorem emit (h : s.Follows sessionId log last) {value : GatewayInbound}
    (hvalue : value.isEvent = false) : (s.emit value).Follows sessionId log last := by
  refine h.emitOther fun event hsign => ?_
  have hitem : .item event ∈ signsOf sessionId [value] :=
    List.mem_filterMap.mpr ⟨value, List.mem_singleton_self _, hsign⟩
  rw [← List.mem_singleton.mp (mem_signsOf hitem).1] at hvalue
  exact absurd hvalue.symm Bool.false_ne_true

/-- The cursors are moved, and a reader of the session stands well by its own. -/
theorem journal (h : s.Follows sessionId log last) {journal : EventJournal}
    (hlast : journal.lastSequence sessionId ≤ last)
    (hstands : Stands (s.position sessionId) (journal.lastSequence sessionId)) :
    { s with journal }.Follows sessionId log last where
  emitted := h.emitted
  deferred := h.deferred
  cursor := hlast
  accepts := h.accepts
  stands := hstands

/-- The next event of the session is emitted. -/
theorem event (h : s.Follows sessionId log last) {event : GatewayEvent} (hmem : event ∈ log)
    (hrecorded : Recorded sessionId log last)
    (hnext : event.sequence = s.cursor sessionId + 1) {journal : EventJournal}
    (hjournal : journal.lastSequence sessionId = event.sequence) :
    ({ s with journal }.emit (.event event)).Follows sessionId log last := by
  have hsession := hrecorded.session event hmem
  have hsign : (GatewayInbound.event event).sign sessionId = some (.item event) := if_pos hsession
  have hsigns : signsOf sessionId ({ s with journal }.emit (.event event)).emitted =
      signsOf sessionId s.emitted ++ [.item event] := by
    rw [signsOf_emit, hsign, Option.toList_some]
  constructor
  · intro other hother hsame
    rcases List.mem_append.mp hother with hother | hother
    · exact h.emitted other hother hsame
    · cases List.mem_singleton.mp hother
      exact hmem
  · exact h.deferred
  · show journal.lastSequence sessionId ≤ last
    rw [hjournal]
    exact hrecorded.bounded event hmem
  · rw [hsigns, Automaton.accepts_concat]
    refine ⟨h.accepts, ?_⟩
    show (s.position sessionId).Admits event.sequence
    refine ⟨?_, fun htight => ?_⟩
    · have hle := h.stands.1
      omega
    · rw [h.stands.2 htight]
      exact hnext
  · rw [position_emit, hsign]
    show Stands { last := event.sequence, tight := true } (journal.lastSequence sessionId)
    rw [hjournal]
    exact ⟨Nat.le_refl _, fun _ => rfl⟩

/-! ## events -/

theorem handleState (h : s.Follows sessionId log last) (event : ConnectionStateMachine.Event) :
    (s.handleState event).Follows sessionId log last :=
  (h.same (t := { s with stateMachine := (s.stateMachine.handle event).2 }) rfl rfl h.deferred).emit
    rfl

theorem markConnected (h : s.Follows sessionId log last) :
    s.markConnected.Follows sessionId log last := by
  unfold GatewayConnection.markConnected
  split
  · exact h.handleState _
  · exact h

theorem requestReplay (h : s.Follows sessionId log last) (id : String)
    (fromSequence received : Nat) :
    (s.requestReplay id fromSequence received).Follows sessionId log last :=
  h.same rfl rfl h.deferred

theorem deferEvent (h : s.Follows sessionId log last) {event : GatewayEvent}
    (hevent : Logged sessionId log event) : (s.deferEvent event).Follows sessionId log last := by
  refine h.same rfl rfl fun id other hmem => ?_
  by_cases hid : id = event.sessionId
  · subst hid
    rw [GatewayConnection.deferred, GatewayConnection.deferEvent, AList.lookup_insert] at hmem
    rcases List.mem_append.mp hmem with hmem | hmem
    · exact h.deferred _ other hmem
    · rw [List.mem_singleton.mp hmem]
      exact hevent
  · rw [GatewayConnection.deferred, GatewayConnection.deferEvent, AList.lookup_insert_ne hid] at hmem
    exact h.deferred id other hmem

/-- An event of another session leaves the session's cursor alone. -/
theorem lastSequence_insert_ne {journal : EventJournal} {id : String} (h : sessionId ≠ id)
    (sequence : Nat) :
    EventJournal.lastSequence ⟨journal.lastSequenceBySession.insert id sequence⟩ sessionId =
      journal.lastSequence sessionId := by
  rw [EventJournal.lastSequence, EventJournal.lastSequence, AList.lookup_insert_ne h]

/-- **Handling an event** of the log, or of another session. -/
theorem handleEvent (h : s.Follows sessionId log last) (hrecorded : Recorded sessionId log last)
    {event : GatewayEvent} (hevent : Logged sessionId log event) :
    (s.handleEvent event).Follows sessionId log last := by
  by_cases hsession : event.sessionId = sessionId
  · have hmem := hevent hsession
    unfold GatewayConnection.handleEvent
    rw [if_neg (hrecorded.named event hmem), EventJournal.observe_eq]
    cases hdispose : Cursor.dispose (s.journal.lastSequence event.sessionId) event.sequence with
    | accepted =>
        refine h.event hmem hrecorded ?_ ?_
        · rw [Cursor.dispose_eq_accepted_iff.mp hdispose, hsession]
          rfl
        · rw [hsession]
          exact EventJournal.lastSequence_insert _ _ _
    | duplicate => exact h.emit rfl
    | gap =>
        dsimp only
        split
        · exact h.deferEvent hevent
        · refine ((h.handleState _).emit ?_).requestReplay _ _ _
          exact rfl
  · have hsign : ∀ other, (GatewayInbound.event event).sign sessionId ≠ some (.item other) := by
      intro other
      rw [GatewayInbound.sign, if_neg hsession]
      exact (Option.some_ne_none _).symm
    have hjournal : ∀ sequence : Nat, ({ s with journal := ⟨s.journal.lastSequenceBySession.insert
        event.sessionId sequence⟩ } : GatewayConnection).Follows sessionId log last := by
      intro sequence
      refine h.journal ?_ ?_
      · rw [lastSequence_insert_ne (Ne.symm hsession)]
        exact h.cursor
      · rw [lastSequence_insert_ne (Ne.symm hsession)]
        exact h.stands
    unfold GatewayConnection.handleEvent
    split
    · refine ((hjournal _).markConnected.emitOther hsign).emit ?_
      exact rfl
    · rw [EventJournal.observe_eq]
      cases Cursor.dispose (s.journal.lastSequence event.sessionId) event.sequence with
      | accepted => exact (hjournal _).emitOther hsign
      | duplicate => exact h.emit rfl
      | gap =>
          dsimp only
          split
          · exact h.deferEvent hevent
          · refine ((h.handleState _).emit ?_).requestReplay _ _ _
            exact rfl

theorem foldl_handleEvent (h : s.Follows sessionId log last)
    (hrecorded : Recorded sessionId log last) {events : List GatewayEvent}
    (hevents : ∀ event ∈ events, Logged sessionId log event) :
    (events.foldl GatewayConnection.handleEvent s).Follows sessionId log last := by
  induction events generalizing s with
  | nil => exact h
  | cons event events ih =>
      obtain ⟨hevent, hrest⟩ := List.forall_mem_cons.mp hevents
      exact ih (h.handleEvent hrecorded hevent) hrest

/-! ## acknowledgements -/

theorem ingestBackgroundResult (h : s.Follows sessionId log last)
    (hrecorded : Recorded sessionId log last) {attach : SessionAttachResult}
    (hattach : Speaks sessionId log last attach) :
    (s.ingestBackgroundResult attach).Follows sessionId log last := by
  have hreplayed : (s.replayEvents attach.replayed attach.session.id false none).Follows
      sessionId log last := h.foldl_handleEvent hrecorded hattach.replayed
  unfold GatewayConnection.ingestBackgroundResult
  dsimp only
  split
  · refine (hreplayed.emit ?_).requestReplay _ _ _
    exact rfl
  · refine hreplayed.markConnected.emit ?_
    exact rfl

theorem lastSequence_markReplayed (journal : EventJournal) (id : String) (sequence : Nat) :
    (journal.markReplayed id sequence).lastSequence id =
      max (journal.lastSequence id) sequence :=
  EventJournal.lastSequence_insert _ _ _

theorem lastSequence_markReplayed_ne {journal : EventJournal} {id : String} (h : sessionId ≠ id)
    (sequence : Nat) :
    (journal.markReplayed id sequence).lastSequence sessionId = journal.lastSequence sessionId :=
  lastSequence_insert_ne h _

theorem lastSequence_remove (journal : EventJournal) (id : String) :
    (journal.remove (some id)).lastSequence id = 0 := by
  rw [EventJournal.lastSequence, EventJournal.remove, AList.lookup_erase]
  rfl

theorem lastSequence_remove_ne {journal : EventJournal} {id : String} (h : sessionId ≠ id) :
    (journal.remove (some id)).lastSequence sessionId = journal.lastSequence sessionId := by
  rw [EventJournal.lastSequence, EventJournal.remove, AList.lookup_erase_ne h]
  rfl

end Follows

/-- The journal of a session that starts over. -/
def resyncedJournal (journal : EventJournal) (attach : SessionAttachResult) : EventJournal :=
  let journal := journal.remove (some attach.session.id)
  match attach.oldestAvailableSequence with
  | some oldest =>
      if 0 < oldest then journal.markReplayed attach.session.id (oldest - 1) else journal
  | none => journal

/-- The journal after an attach. -/
def attachedJournal (journal : EventJournal) (attach : SessionAttachResult) : EventJournal :=
  (if attach.resyncRequired then resyncedJournal journal attach else journal).markReplayed
    attach.session.id attach.latestSequence

theorem nodup_announced (s : GatewayConnection) (attach : SessionAttachResult) :
    (s.attachedSessions.insert attach.session.id).Nodup :=
  s.attachedNodup.insert

theorem nodup_unattached (s : GatewayConnection) (id : Option String) :
    (id.elim s.attachedSessions s.attachedSessions.erase).Nodup := by
  cases id with
  | some id => exact s.attachedNodup.erase id
  | none => exact s.attachedNodup

/-- The attach is noted, and announced if it is the first or starts over. -/
def announced (s : GatewayConnection) (attach : SessionAttachResult) : GatewayConnection :=
  let connection : GatewayConnection :=
    { s with
      attachedSessions := s.attachedSessions.insert attach.session.id
      attachedNodup := nodup_announced s attach }
  if attach.session.id ∉ s.attachedSessions ∨ attach.resyncRequired then
    connection.emit (.transcriptReset attach.session.id
      (if attach.resyncRequired then some "resync_required" else none))
  else connection

/-- The sessions that the host cannot continue are attached to anew. -/
def unattached (s : GatewayConnection) (id : Option String) : GatewayConnection :=
  { s with
    attachedSessions := id.elim s.attachedSessions s.attachedSessions.erase
    attachedNodup := nodup_unattached s id }

theorem handleResync_eq (s : GatewayConnection) (id : Option String) (reason : String) :
    s.handleResync id reason =
      GatewayConnection.emit
        { ((s.unattached id).handleState (.resyncRequired (some reason))).emit
            (.resyncRequired id reason) with
          journal := s.journal.remove id }
        (.serverError { code := "resync_required", message := reason }) := rfl

theorem ingestForegroundResult_eq (s : GatewayConnection) (attach : SessionAttachResult) :
    s.ingestForegroundResult attach =
      { (s.announced attach).emit (.replayCompleted attach.session.id attach.resyncRequired) with
        journal := attachedJournal s.journal attach } := by
  unfold ingestForegroundResult announced
  dsimp only
  split <;> rfl

namespace Follows

variable {s t : GatewayConnection} {sessionId : String} {log : List GatewayEvent} {last : Nat}
  {attach : SessionAttachResult}

theorem lastSequence_attachedJournal_ne (journal : EventJournal) (h : sessionId ≠ attach.session.id) :
    (attachedJournal journal attach).lastSequence sessionId = journal.lastSequence sessionId := by
  rw [attachedJournal, lastSequence_markReplayed_ne h]
  split
  · unfold resyncedJournal
    dsimp only
    split
    · split
      · rw [lastSequence_markReplayed_ne h, lastSequence_remove_ne h]
      · exact lastSequence_remove_ne h
    · exact lastSequence_remove_ne h
  · rfl

theorem lastSequence_resyncedJournal (journal : EventJournal)
    (hattach : Speaks attach.session.id log last attach) :
    (resyncedJournal journal attach).lastSequence attach.session.id ≤ last := by
  unfold resyncedJournal
  dsimp only
  split
  · next oldest holdest =>
      split
      · rw [lastSequence_markReplayed, lastSequence_remove, Nat.zero_max]
        exact hattach.oldest rfl oldest holdest
      · rw [lastSequence_remove]
        exact Nat.zero_le _
  · rw [lastSequence_remove]
    exact Nat.zero_le _

theorem announced (h : s.Follows sessionId log last) (attach : SessionAttachResult) :
    (s.announced attach).Follows sessionId log last := by
  have hnoted : ({ s with
      attachedSessions := s.attachedSessions.insert attach.session.id
      attachedNodup := s.attachedNodup.insert } : GatewayConnection).Follows sessionId log last :=
    h.same rfl rfl h.deferred
  unfold GatewayConnection.announced
  dsimp only
  split
  · refine hnoted.emit ?_
    exact rfl
  · exact hnoted

/-- An attach that starts over says so. -/
theorem position_announced (s : GatewayConnection) {attach : SessionAttachResult}
    (hresync : attach.resyncRequired = true) :
    (s.announced attach).position attach.session.id = {} := by
  unfold GatewayConnection.announced
  dsimp only
  rw [if_pos (.inr hresync), if_pos hresync, position_emit, GatewayInbound.sign,
    if_pos ⟨rfl, rfl⟩]
  rfl

theorem cursor_announced (s : GatewayConnection) (attach : SessionAttachResult) (id : String) :
    (s.announced attach).cursor id = s.cursor id := by
  unfold GatewayConnection.announced
  dsimp only
  split <;> rfl

/-- **An attach** moves the cursor, and the next event may be a later one; if the session
is to start over, it says so first. -/
theorem ingestForegroundResult (h : s.Follows sessionId log last)
    (hattach : Speaks sessionId log last attach) :
    (s.ingestForegroundResult attach).Follows sessionId log last := by
  have hannounced := h.announced attach
  have hemitted : ((s.announced attach).emit (.replayCompleted attach.session.id
      attach.resyncRequired)).Follows sessionId log last := hannounced.emit rfl
  rw [ingestForegroundResult_eq]
  by_cases hsession : attach.session.id = sessionId
  · subst hsession
    refine hemitted.journal ?_ ?_
    · rw [attachedJournal, lastSequence_markReplayed]
      refine Nat.max_le.mpr ⟨?_, hattach.latest rfl⟩
      split
      · exact lastSequence_resyncedJournal s.journal hattach
      · exact h.cursor
    · rw [position_emit, GatewayInbound.sign, if_pos rfl]
      refine stands_of_loose ?_ rfl
      show ((s.announced attach).position attach.session.id).last ≤ _
      rw [attachedJournal, lastSequence_markReplayed]
      refine Nat.le_trans ?_ (Nat.le_max_left _ _)
      split
      · next hresync =>
          rw [position_announced s hresync]
          exact Nat.zero_le _
      · have hle := hannounced.stands.1
        rwa [cursor_announced] at hle
  · have hne : sessionId ≠ attach.session.id := Ne.symm hsession
    refine hemitted.journal ?_ ?_
    · rw [lastSequence_attachedJournal_ne _ hne]
      exact h.cursor
    · have hstands := hemitted.stands
      rw [lastSequence_attachedJournal_ne _ hne]
      have hcursor : ((s.announced attach).emit (.replayCompleted attach.session.id
          attach.resyncRequired)).cursor sessionId = s.cursor sessionId :=
        cursor_announced s attach sessionId
      rwa [hcursor] at hstands

theorem ingestAttachResult (h : s.Follows sessionId log last)
    (hrecorded : Recorded sessionId log last) {ack : GatewayAck}
    (hack : ∀ attach ∈ ack.result, Speaks sessionId log last attach) (isBackgroundReplay : Bool) :
    (s.ingestAttachResult ack isBackgroundReplay).Follows sessionId log last := by
  unfold GatewayConnection.ingestAttachResult
  split
  · exact h
  · next attach hresult =>
      split
      · exact h.ingestBackgroundResult hrecorded (hack attach hresult)
      · exact h.ingestForegroundResult (hack attach hresult)

/-- What is held back for a session that is not waited for any longer is dropped. -/
theorem deferred_erase (h : s.Follows sessionId log last) (released : String) (id : String) :
    ∀ event ∈ ((s.deferredAttachEvents.erase released).lookup id).getD [],
      Logged sessionId log event := by
  intro event hmem
  by_cases hid : id = released
  · subst hid
    rw [AList.lookup_erase] at hmem
    cases hmem
  · rw [AList.lookup_erase_ne hid] at hmem
    exact h.deferred id event hmem

theorem releaseDeferred (h : s.Follows sessionId log last)
    (hrecorded : Recorded sessionId log last) (id : String) :
    (s.releaseDeferred id).Follows sessionId log last := by
  have hreleased : ({ s with
      pendingAttachSessions := s.pendingAttachSessions.erase id
      deferredAttachEvents := s.deferredAttachEvents.erase id } : GatewayConnection).Follows
        sessionId log last := h.same rfl rfl (h.deferred_erase id)
  refine hreleased.foldl_handleEvent hrecorded fun event hmem => ?_
  exact h.deferred id event ((List.perm_insertionSort _ _).subset hmem)

/-- **An acknowledgement**, of an attach that speaks of the log. -/
theorem handleAck (h : s.Follows sessionId log last) (hrecorded : Recorded sessionId log last)
    {ack : GatewayAck} (hack : ∀ attach ∈ ack.result, Speaks sessionId log last attach) :
    (s.handleAck ack).Follows sessionId log last := by
  have hresolved : ({ s with
      backgroundReplayRequests := s.backgroundReplayRequests.erase ack.requestId
      pendingAttachSessionByRequest := s.pendingAttachSessionByRequest.erase ack.requestId
      idsFresh := s.fresh_erase_ack ack } : GatewayConnection).resolveAck ack |>.Follows
        sessionId log last := h.same rfl rfl h.deferred
  unfold GatewayConnection.handleAck
  dsimp only
  refine Follows.emit ?_ rfl
  split
  · refine Follows.releaseDeferred ?_ hrecorded _
    split
    · split
      · exact hresolved.ingestAttachResult hrecorded hack _
      · exact hresolved
    · exact hresolved
  · split
    · split
      · exact hresolved.ingestAttachResult hrecorded hack _
      · exact hresolved
    · exact hresolved

/-! ## requests and other frames -/

theorem dropAttach (h : s.Follows sessionId log last) (attach : Option String) :
    (s.dropAttach attach).Follows sessionId log last := by
  cases attach with
  | none => exact h
  | some id => exact h.same rfl rfl (h.deferred_erase id)

theorem failPending (h : s.Follows sessionId log last) (requestId : RequestId) :
    (s.failPending requestId).Follows sessionId log last :=
  (h.dropAttach (s.pendingAttachSessionByRequest.lookup requestId)).same rfl rfl
    (h.dropAttach (s.pendingAttachSessionByRequest.lookup requestId)).deferred

theorem failAllPending (h : s.Follows sessionId log last) :
    s.failAllPending.Follows sessionId log last :=
  h.same rfl rfl fun _ _ hmem => absurd hmem List.not_mem_nil

theorem restoreAttachments (h : s.Follows sessionId log last) :
    s.restoreAttachments.Follows sessionId log last := by
  have hfoldl : ∀ (ids : List String) (s : GatewayConnection), s.Follows sessionId log last →
      (ids.foldl restoreAttachment s).Follows sessionId log last := by
    intro ids
    induction ids with
    | nil => exact fun _ h => h
    | cons id ids ih =>
        intro s h
        refine ih _ (Follows.requestReplay (h.emit ?_) _ _ _)
        exact rfl
  exact hfoldl s.attachedSessions s h

theorem welcomed (h : s.Follows sessionId log last) (welcome : Client.ServerWelcome) :
    (s.welcomed welcome).Follows sessionId log last := by
  have hwelcome : ({ s with currentWelcome := some welcome } : GatewayConnection).Follows
      sessionId log last := h.same rfl rfl h.deferred
  refine ((hwelcome.handleState (.handshakeSucceeded welcome)).emit ?_).restoreAttachments
  exact rfl

theorem handleWelcome (h : s.Follows sessionId log last) (welcome : Client.ServerWelcome) :
    (s.handleWelcome welcome).Follows sessionId log last := by
  have hwelcome : ({ s with currentWelcome := some welcome } : GatewayConnection).Follows
      sessionId log last := h.same rfl rfl h.deferred
  exact hwelcome.emit rfl

theorem handleError (h : s.Follows sessionId log last) (error : GatewayProtocolError) :
    (s.handleError error).Follows sessionId log last := by
  unfold GatewayConnection.handleError
  dsimp only
  refine Follows.emit ?_ rfl
  split
  · exact h.failPending _
  · exact h

/-- The journal without a session, or without any. -/
theorem lastSequence_removed (journal : EventJournal) (id : Option String) :
    (journal.remove id).lastSequence sessionId =
      if id.all (· = sessionId) then 0 else journal.lastSequence sessionId := by
  cases id with
  | none => rfl
  | some id =>
      by_cases hsession : id = sessionId
      · subst hsession
        rw [lastSequence_remove]
        simp
      · rw [lastSequence_remove_ne (Ne.symm hsession)]
        simp [hsession]

/-- **A resync** takes the cursor back, and says that the session starts over. -/
theorem handleResync (h : s.Follows sessionId log last) (id : Option String) (reason : String) :
    (s.handleResync id reason).Follows sessionId log last := by
  have hunattached : (s.unattached id).Follows sessionId log last := h.same rfl rfl h.deferred
  have hfed := hunattached.handleState (.resyncRequired (some reason))
  rw [handleResync_eq]
  refine Follows.emit (Follows.journal (hfed.emit ?_) ?_ ?_) rfl
  · exact rfl
  · rw [lastSequence_removed]
    split
    · exact Nat.zero_le _
    · exact h.cursor
  · rw [lastSequence_removed, position_emit, GatewayInbound.sign]
    split
    · exact stands_of_loose (Nat.le_refl _) rfl
    · exact hfed.stands

theorem disconnected (h : s.Follows sessionId log last) (message : String) :
    (s.disconnected message).Follows sessionId log last := by
  have hfailed : (s.emit (.serverError
      { code := "connection_attempt_failed", message })).failAllPending.Follows sessionId log last := by
    refine (h.emit ?_).failAllPending
    exact rfl
  have hfed := hfailed.handleState (.disconnected (some message))
  unfold GatewayConnection.disconnected
  dsimp only
  split
  · refine hfed.emit ?_
    exact rfl
  · split
    · refine hfed.emit ?_
      exact rfl
    · exact hfed

theorem stopped (h : s.Follows sessionId log last) : s.stopped.Follows sessionId log last := by
  have hclosed : ({ s with stateMachine := s.stateMachine.markClosed } : GatewayConnection).Follows
      sessionId log last := h.same rfl rfl h.deferred
  refine (hclosed.emit ?_).failAllPending.emit ?_
  · exact rfl
  · exact rfl

/-- The connection goes on with another host. -/
theorem reconfigured (h : s.Follows sessionId log last) :
    s.reconfigured.Follows sessionId log last := by
  have hstands : Stands (s.stopped.position sessionId) (EventJournal.lastSequence {} sessionId) := by
    unfold GatewayConnection.stopped
    dsimp only
    rw [position_emit, GatewayInbound.sign, if_pos rfl]
    exact stands_of_loose (Nat.le_refl _) rfl
  have hjournal : ({ s.stopped with journal := {} } : GatewayConnection).Follows sessionId log last :=
    h.stopped.journal (Nat.zero_le _) hstands
  exact hjournal.same rfl rfl hjournal.deferred

end Follows

end GatewayConnection

/-! ## whole runs -/

namespace Holding

/-- What a frame brings is of the log, as far as it is of the session. -/
def Action.Brings (sessionId : String) (log : List GatewayEvent) (last : Nat) : Action → Prop
  | .eventFrame event => GatewayConnection.Logged sessionId log event
  | .ackFrame ack =>
      ∀ attach ∈ ack.result, GatewayConnection.Speaks sessionId log last attach
  | _ => True

/-- **Every action** keeps the connection to the log. -/
theorem follows_next {holding holding' : Holding} {sessionId : String} {log : List GatewayEvent}
    {last : Nat} (h : holding.connection.Follows sessionId log last)
    (hrecorded : Recorded sessionId log last) {action : Action}
    (hbrings : action.Brings sessionId log last) (hnext : holding.next action = some holding') :
    holding'.connection.Follows sessionId log last := by
  have hguarded : ∀ {p : Prop} [Decidable p] {reached : Holding},
      (if p then none else some reached) = some holding' → reached = holding' := by
    intro p _ reached hreached
    split at hreached
    · cases hreached
    · exact Option.some.inj hreached
  have hopen : ∀ {p : Prop} [Decidable p] {reached : Holding},
      (if p then some reached else none) = some holding' → reached = holding' := by
    intro p _ reached hreached
    split at hreached
    · exact Option.some.inj hreached
    · cases hreached
  cases action with
  | fed event =>
      rw [← Option.some.inj hnext]
      exact h.handleState event
  | opened =>
      rw [← hopen hnext]
      exact h.same rfl rfl h.deferred
  | welcomed welcome =>
      rw [← hopen hnext]
      exact h.welcomed welcome
  | closed =>
      rw [← hopen hnext]
      exact h
  | disconnected message =>
      rw [← Option.some.inj hnext]
      exact h.disconnected message
  | stopped =>
      rw [← Option.some.inj hnext]
      exact h.stopped
  | reconfigured =>
      rw [← Option.some.inj hnext]
      exact h.reconfigured
  | sent command id params =>
      rw [next] at hnext
      split at hnext <;> rw [← Option.some.inj hnext]
      · exact h.same rfl rfl h.deferred
      · exact h
  | failed requestId =>
      rw [← Option.some.inj hnext]
      exact h.failPending requestId
  | replayUnsent requestId fromSequence =>
      rw [← Option.some.inj hnext]
      refine GatewayConnection.Follows.emit ?_ rfl
      exact h.same rfl rfl h.deferred
  | replayExpired requestId =>
      rw [← Option.some.inj hnext]
      exact h.same rfl rfl h.deferred
  | eventFrame event =>
      rw [← hguarded hnext]
      exact h.handleEvent hrecorded hbrings
  | ackFrame ack =>
      rw [← hguarded hnext]
      exact h.handleAck hrecorded hbrings
  | resyncFrame id reason =>
      rw [← hguarded hnext]
      exact h.handleResync id reason
  | errorFrame error =>
      rw [← hguarded hnext]
      exact h.handleError error
  | welcomeFrame welcome =>
      rw [← hguarded hnext]
      exact h.handleWelcome welcome

end Holding

end Slight
