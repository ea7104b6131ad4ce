import Slight.Client.SessionView
import Slight.Client.Survival
import Slight.Support.System

/-!
# Slight.Client.Snapshot

Loading a snapshot while events arrive.  A run interleaves the three answers that
`loadSnapshot` waits for with what the connection pushes meanwhile.

While it loads, the view buffers events until the replay is complete.  The buffer
is emptied without being shown when the acknowledgement is taken up, it is shown
too early when the replay completes before the page of the history replaces the
transcript, and it is not shown at all when events follow the completion.
`Load.Keeps` rules this out step by step; under it, what is shown together with
what is buffered is always the page followed by every event delivered.
-/

namespace Slight.Client

open Support

/-! ## what is shown -/

namespace SessionViewModel

/-- What an event makes of the transcript depends on the transcript. -/
theorem transcript_applyEvent (view : SessionViewModel) (event : GatewayEvent) :
    (view.applyEvent event).transcript =
      (applyEvent { sessionId := "", transcript := view.transcript } event).transcript := by
  unfold applyEvent
  split
  · split <;> rfl
  · split <;> rfl
  · split <;> rfl
  · split <;> rfl
  · split
    · dsimp only
      split <;> rfl
    · rfl
  · split <;> rfl
  · split <;> rfl
  · rfl
  · split
    · dsimp only
      split
      · split <;> rfl
      · rfl
    · rfl
  · split
    · split <;> rfl
    · rfl
  · split
    · split <;> rfl
    · rfl
  · rfl

/-- What an event makes of the permission requests depends on these. -/
theorem permissionRequests_applyEvent (view : SessionViewModel) (event : GatewayEvent) :
    (view.applyEvent event).permissionRequests =
      (applyEvent { sessionId := "", permissionRequests := view.permissionRequests }
        event).permissionRequests := by
  unfold applyEvent
  split
  · split <;> rfl
  · split <;> rfl
  · split <;> rfl
  · split <;> rfl
  · split
    · dsimp only
      split <;> rfl
    · rfl
  · split <;> rfl
  · split <;> rfl
  · rfl
  · split
    · dsimp only
      split
      · show SessionViewModel.permissionRequests (ite _ _ _) =
          SessionViewModel.permissionRequests (ite (view.permissionRequests.any _ = true) _ _)
        split <;> rfl
      · rfl
    · rfl
  · split
    · split <;> rfl
    · rfl
  · split
    · split <;> rfl
    · rfl
  · rfl

/-- The view with the events applied. -/
def showing (view : SessionViewModel) (events : List GatewayEvent) : SessionViewModel :=
  events.foldl SessionViewModel.applyEvent view

theorem showing_append (view : SessionViewModel) (events more : List GatewayEvent) :
    view.showing (events ++ more) = (view.showing events).showing more :=
  List.foldl_append

theorem transcript_showing {view view' : SessionViewModel}
    (h : view.transcript = view'.transcript) (events : List GatewayEvent) :
    (view.showing events).transcript = (view'.showing events).transcript := by
  induction events generalizing view view' with
  | nil => exact h
  | cons event events ih =>
      refine ih ?_
      rw [transcript_applyEvent view, h, ← transcript_applyEvent view']

theorem permissionRequests_showing {view view' : SessionViewModel}
    (h : view.permissionRequests = view'.permissionRequests) (events : List GatewayEvent) :
    (view.showing events).permissionRequests = (view'.showing events).permissionRequests := by
  induction events generalizing view view' with
  | nil => exact h
  | cons event events ih =>
      refine ih ?_
      rw [permissionRequests_applyEvent view, h, ← permissionRequests_applyEvent view']

/-- The views show the same transcript and permission requests. -/
structure Alike (view view' : SessionViewModel) : Prop where
  transcript : view.transcript = view'.transcript
  permissionRequests : view.permissionRequests = view'.permissionRequests

theorem Alike.refl (view : SessionViewModel) : view.Alike view := ⟨rfl, rfl⟩

theorem Alike.trans {view view' view'' : SessionViewModel} (h : view.Alike view')
    (h' : view'.Alike view'') : view.Alike view'' :=
  ⟨h.transcript.trans h'.transcript, h.permissionRequests.trans h'.permissionRequests⟩

/-- **What events show** depends on what is shown only. -/
theorem Alike.showing {view view' : SessionViewModel} (h : view.Alike view')
    (events : List GatewayEvent) : (view.showing events).Alike (view'.showing events) :=
  ⟨transcript_showing h.transcript events, permissionRequests_showing h.permissionRequests events⟩

theorem record_alike (view : SessionViewModel) (event : GatewayEvent) :
    (view.record event).Alike view := by
  rw [record]
  split <;> exact ⟨rfl, rfl⟩

theorem handleEvent_alike (view : SessionViewModel) (event : GatewayEvent) :
    (view.handleEvent event).Alike (view.applyEvent event) :=
  (view.record_alike event).showing [event]

theorem foldl_handleEvent_alike (view : SessionViewModel) (events : List GatewayEvent) :
    (events.foldl handleEvent view).Alike (view.showing events) := by
  induction events generalizing view with
  | nil => exact .refl view
  | cons event events ih => exact (ih _).trans ((view.handleEvent_alike event).showing events)

/-! ## what events leave alone -/

/-- The part of a view that steers loading. -/
structure Steering where
  sessionId : String
  isAttaching : Bool
  isLoadingHistory : Bool
  replayBuffer : List GatewayEvent
  replaySequencesToIgnore : Finset Int
  ignoreNextTranscriptReset : Bool

def steering (view : SessionViewModel) : Steering where
  sessionId := view.sessionId
  isAttaching := view.isAttaching
  isLoadingHistory := view.isLoadingHistory
  replayBuffer := view.replayBuffer
  replaySequencesToIgnore := view.replaySequencesToIgnore
  ignoreNextTranscriptReset := view.ignoreNextTranscriptReset

/-- What an event may change of a view. -/
theorem applyEvent_update (view : SessionViewModel) (event : GatewayEvent) :
    ∃ transcript permissionRequests session acpMetadata replayState exitReason lastError,
      view.applyEvent event =
        { view with
          transcript, permissionRequests, session, acpMetadata, replayState, exitReason,
          lastError } := by
  unfold applyEvent
  split
  · split <;> exact ⟨_, _, _, _, _, _, _, rfl⟩
  · split <;> exact ⟨_, _, _, _, _, _, _, rfl⟩
  · split <;> exact ⟨_, _, _, _, _, _, _, rfl⟩
  · split <;> exact ⟨_, _, _, _, _, _, _, rfl⟩
  · split
    · dsimp only
      split <;> exact ⟨_, _, _, _, _, _, _, rfl⟩
    · exact ⟨_, _, _, _, _, _, _, rfl⟩
  · split <;> exact ⟨_, _, _, _, _, _, _, rfl⟩
  · split <;> exact ⟨_, _, _, _, _, _, _, rfl⟩
  · exact ⟨_, _, _, _, _, _, _, rfl⟩
  · split
    · dsimp only
      split
      · split <;> exact ⟨_, _, _, _, _, _, _, rfl⟩
      · exact ⟨_, _, _, _, _, _, _, rfl⟩
    · exact ⟨_, _, _, _, _, _, _, rfl⟩
  · split
    · split <;> exact ⟨_, _, _, _, _, _, _, rfl⟩
    · exact ⟨_, _, _, _, _, _, _, rfl⟩
  · split
    · split <;> exact ⟨_, _, _, _, _, _, _, rfl⟩
    · exact ⟨_, _, _, _, _, _, _, rfl⟩
  · exact ⟨_, _, _, _, _, _, _, rfl⟩

theorem steering_applyEvent (view : SessionViewModel) (event : GatewayEvent) :
    (view.applyEvent event).steering = view.steering := by
  obtain ⟨_, _, _, _, _, _, _, hupdate⟩ := view.applyEvent_update event
  rw [hupdate]
  rfl

/-- **Handling an event** does not steer loading. -/
theorem steering_handleEvent (view : SessionViewModel) (event : GatewayEvent) :
    (view.handleEvent event).steering = view.steering := by
  rw [handleEvent, steering_applyEvent, record]
  split <;> rfl

theorem steering_foldl_handleEvent (view : SessionViewModel) (events : List GatewayEvent) :
    (events.foldl handleEvent view).steering = view.steering := by
  induction events generalizing view with
  | nil => rfl
  | cons event events ih => exact (ih _).trans (view.steering_handleEvent event)

theorem steering_flushReplayBuffer (view : SessionViewModel) :
    view.flushReplayBuffer.steering = { view.steering with replayBuffer := [] } :=
  steering_foldl_handleEvent _ _

/-- Flushing shows what is buffered. -/
theorem flushReplayBuffer_alike (view : SessionViewModel) :
    view.flushReplayBuffer.Alike (view.showing view.replayBuffer) := by
  have hbare : SessionViewModel.Alike { view with replayBuffer := [] } view := ⟨rfl, rfl⟩
  exact (foldl_handleEvent_alike _ _).trans (hbare.showing _)

/-! ## the stages of a load -/

theorem steering_attached (view : SessionViewModel) {attach : SessionAttachResult}
    (h : attach.replayed = []) :
    (view.attached attach).steering =
      { view.steering with
        replayBuffer := []
        replaySequencesToIgnore := ∅
        ignoreNextTranscriptReset := true } := by
  unfold attached
  rw [h]
  dsimp only
  split <;> rfl

theorem loadedHistorySequences_attached (view : SessionViewModel) {attach : SessionAttachResult}
    (h : attach.replayed = []) : (view.attached attach).loadedHistorySequences = ∅ := by
  unfold attached
  rw [h]
  dsimp only
  split <;> rfl

/-- Events whose sequences increase are all new where nothing is loaded. -/
theorem freshEvents_of_increasing {events : List GatewayEvent} {loaded : Finset Int}
    (h : events.Pairwise fun a b => a.sequence < b.sequence)
    (hloaded : ∀ event ∈ events, event.sequence ∉ loaded) :
    (freshEvents events loaded).1 = events := by
  induction events generalizing loaded with
  | nil => rfl
  | cons event events ih =>
      obtain ⟨hfirst, hrest⟩ := List.pairwise_cons.mp h
      have hnew : ∀ other ∈ events, other.sequence ∉ insert event.sequence loaded := by
        intro other hmem hin
        rcases Finset.mem_insert.mp hin with hsame | hin
        · exact absurd hsame (hfirst other hmem).ne'
        · exact hloaded other (List.mem_cons_of_mem event hmem) hin
      rw [freshEvents, if_neg (hloaded event List.mem_cons_self)]
      exact congrArg (event :: ·) (ih hrest hnew)

/-- Events whose sequences increase are shown in their order. -/
theorem rebuilt_of_increasing (view : SessionViewModel) {events : List GatewayEvent}
    (h : events.Pairwise fun a b => a.sequence < b.sequence) :
    view.rebuilt events = showing { sessionId := view.sessionId } events := by
  have hsorted : events.Pairwise fun a b => a.sequence ≤ b.sequence :=
    h.imp fun hlt => hlt.le
  rw [rebuilt, hsorted.insertionSort_eq, showing]

theorem steering_pageLoaded (view : SessionViewModel) (page : SessionHistoryResult) :
    (view.pageLoaded (.ok (some page))).steering =
      { view.steering with isLoadingHistory := false } := rfl

/-- **The page** replaces the transcript, if nothing else was loaded. -/
theorem pageLoaded_alike (view : SessionViewModel) {page : SessionHistoryResult}
    (hpage : page.events.Pairwise fun a b => a.sequence < b.sequence)
    (hview : view.loadedHistorySequences = ∅) :
    (view.pageLoaded (.ok (some page))).Alike
      (showing { sessionId := view.sessionId } page.events) := by
  have hfresh : (freshEvents page.events view.loadedHistorySequences).1 = page.events :=
    freshEvents_of_increasing hpage fun event _ => by
      rw [hview]
      exact Finset.notMem_empty _
  have hrebuilt : (view.pageLoaded (.ok (some page))).Alike
      (view.rebuilt (freshEvents page.events view.loadedHistorySequences).1) := ⟨rfl, rfl⟩
  rw [hfresh, rebuilt_of_increasing view hpage] at hrebuilt
  exact hrebuilt

theorem steering_inspected (view : SessionViewModel) (response : Response SessionInspectResult) :
    (view.inspected response).steering = { view.steering with isAttaching := false } := by
  cases response <;> rfl

theorem transcript_inspected (view : SessionViewModel)
    (response : Response SessionInspectResult) :
    (view.inspected response).transcript = view.transcript := by
  cases response <;> rfl

theorem steering_transcriptReset (view : SessionViewModel) (reason : Option String) :
    (view.handle (.transcriptReset view.sessionId reason)).steering =
      { view.steering with
        replayBuffer := if view.ignoreNextTranscriptReset then view.replayBuffer else []
        ignoreNextTranscriptReset := false } := by
  rw [handle, if_pos rfl]
  cases hignore : view.ignoreNextTranscriptReset with
  | true => cases reason <;> rfl
  | false =>
      cases reason <;> simp [steering, clearTranscript, appendNotice, hignore]

/-- A reset that the acknowledgement announced is not one. -/
theorem transcriptReset_ignored {view : SessionViewModel}
    (h : view.ignoreNextTranscriptReset = true) :
    view.handle (.transcriptReset view.sessionId none) =
      { view with ignoreNextTranscriptReset := false } := by
  rw [handle, if_pos rfl, h]
  rfl

theorem loadedHistorySequences_transcriptReset {view : SessionViewModel}
    (h : view.ignoreNextTranscriptReset = true) (reason : Option String) :
    (view.handle (.transcriptReset view.sessionId reason)).loadedHistorySequences =
      view.loadedHistorySequences := by
  rw [handle, if_pos rfl, h]
  cases reason <;> rfl

theorem handle_event {view : SessionViewModel} {event : GatewayEvent}
    (hsession : event.sessionId = view.sessionId) (hname : event.event ≠ "replay.complete")
    (hignored : view.replaySequencesToIgnore = ∅) :
    view.handle (.event event) =
      if view.isAttaching then { view with replayBuffer := view.replayBuffer ++ [event] }
      else view.handleEvent event := by
  rw [handle, if_pos hsession, receive, hignored, if_neg (Finset.notMem_empty _), if_neg hname]

end SessionViewModel

/-! ## messages that are not streaming -/

/-- The event is one of the session's, and its message, if it is one, is complete: the
host never sends another. -/
def GatewayEvent.isHosted (sessionId : String) (event : GatewayEvent) : Bool :=
  event.sessionId = sessionId && event.event ≠ "replay.complete" &&
    (event.event ≠ "session.message" ||
      match payloadAs MessagePayload event.payload with
      | some payload => !payload.isStreaming
      | none => true)

theorem GatewayEvent.of_isHosted {sessionId : String} {event : GatewayEvent}
    (h : event.isHosted sessionId = true) :
    event.sessionId = sessionId ∧ event.event ≠ "replay.complete" := by
  rw [isHosted, Bool.and_eq_true, Bool.and_eq_true] at h
  simpa using h.1

/-- No message of the transcript is streaming. -/
def Finished (transcript : List TranscriptItem) : Prop :=
  ∀ item ∈ transcript, item.finished = item

theorem forall_mem_replaceFirst {α : Type} {p : α → Prop} {f : α → Option α} {as bs : List α}
    (h : replaceFirst f as = some bs) (hf : ∀ a b, p a → f a = some b → p b)
    (has : ∀ a ∈ as, p a) : ∀ b ∈ bs, p b := by
  induction as generalizing bs with
  | nil => cases h
  | cons a as ih =>
      have ha := has a List.mem_cons_self
      have hrest : ∀ b ∈ as, p b := fun b hb => has b (List.mem_cons_of_mem a hb)
      rw [replaceFirst] at h
      cases hfa : f a with
      | some b =>
          rw [hfa] at h
          rw [← Option.some.inj h]
          exact List.forall_mem_cons.mpr ⟨hf a b ha hfa, hrest⟩
      | none =>
          rw [hfa] at h
          obtain ⟨rest, hreplace, rfl⟩ := Option.map_eq_some_iff.mp h
          exact List.forall_mem_cons.mpr ⟨ha, ih hreplace hrest⟩

theorem forall_mem_replaceLast {α : Type} {p : α → Prop} {f : α → Option α} {as bs : List α}
    (h : replaceLast f as = some bs) (hf : ∀ a b, p a → f a = some b → p b)
    (has : ∀ a ∈ as, p a) : ∀ b ∈ bs, p b := by
  obtain ⟨reversed, hreversed, rfl⟩ := Option.map_eq_some_iff.mp h
  intro b hb
  exact forall_mem_replaceFirst hreversed hf (fun a ha => has a (List.mem_reverse.mp ha)) b
    (List.mem_reverse.mp hb)

theorem finished_message_iff {message : SessionMessage} :
    (TranscriptItem.message message).finished = .message message ↔
      message.isStreaming = false := by
  constructor
  · intro h
    have hsame := TranscriptItem.message.inj h
    rw [← hsame]
  · intro h
    rw [TranscriptItem.finished, ← h]

namespace Finished

variable {transcript : List TranscriptItem}

theorem append_singleton (h : Finished transcript) {item : TranscriptItem}
    (hitem : item.finished = item) : Finished (transcript ++ [item]) := by
  intro other hmem
  rcases List.mem_append.mp hmem with hmem | hmem
  · exact h other hmem
  · rw [List.mem_singleton.mp hmem]
    exact hitem

theorem dropLast (h : Finished transcript) : Finished transcript.dropLast :=
  fun item hmem => h item (List.mem_of_mem_dropLast hmem)

/-- A function of messages that keeps them complete. -/
theorem onMessage {f : SessionMessage → Option SessionMessage} {item item' : TranscriptItem}
    (hf : ∀ message message', f message = some message' → message.isStreaming = false →
      message'.isStreaming = false)
    (hitem : item.finished = item) (h : Client.onMessage f item = some item') :
    item'.finished = item' := by
  cases item with
  | message m =>
      obtain ⟨m', hm, rfl⟩ := Option.map_eq_some_iff.mp h
      exact finished_message_iff.mpr (hf m m' hm (finished_message_iff.mp hitem))
  | toolCall tool => cases h
  | notice notice => cases h

theorem mergeMessage (h : Finished transcript) {payload : MessagePayload}
    (hpayload : payload.isStreaming = false) (eventSequence : Int) :
    Finished (Client.mergeMessage payload eventSequence transcript) := by
  have hincoming : (payload.shown eventSequence).isStreaming = false := hpayload
  unfold Client.mergeMessage
  dsimp only
  split
  · next transcript' hchunked =>
      obtain ⟨id, -, hreplace⟩ := Option.bind_eq_some_iff.mp hchunked
      refine forall_mem_replaceFirst hreplace (fun item item' hitem => ?_) h
      refine onMessage (fun message message' hmessage _ => ?_) hitem
      split at hmessage
      · rw [← Option.some.inj hmessage]
        exact hincoming
      · cases hmessage
  · split
    · split
      · exact h.dropLast.append_singleton (finished_message_iff.mpr hincoming)
      · exact h.append_singleton (finished_message_iff.mpr hincoming)
    · cases hreplace : replaceFirst _ transcript with
      | none => exact h.append_singleton (finished_message_iff.mpr hincoming)
      | some transcript' =>
          refine forall_mem_replaceFirst hreplace (fun item item' hitem => ?_) h
          refine onMessage (fun message message' hmessage _ => ?_) hitem
          split at hmessage
          · rw [← Option.some.inj hmessage]
            exact hincoming
          · cases hmessage
    · exact h.append_singleton (finished_message_iff.mpr hincoming)

theorem upsert (h : Finished transcript) (toolCall : ToolCall) :
    Finished (Client.upsert toolCall transcript) := by
  rw [Client.upsert]
  cases hreplace : replaceFirst toolCall.mergeInto transcript with
  | none => exact h.append_singleton rfl
  | some transcript' =>
      refine forall_mem_replaceFirst hreplace (fun item item' _ hmerge => ?_) h
      rw [ToolCall.mergeInto] at hmerge
      split at hmerge
      · split at hmerge
        · rw [← Option.some.inj hmerge]
          rfl
        · cases hmerge
      · cases hmerge

/-- **Events of the host** leave no message streaming. -/
theorem applyEvent {sessionId : String} {event : GatewayEvent} (hhosted : event.isHosted sessionId)
    {view : SessionViewModel} (h : Finished view.transcript) :
    Finished (view.applyEvent event).transcript := by
  unfold SessionViewModel.applyEvent
  split
  · next hname =>
      split
      · next payload hpayload =>
          refine mergeMessage h ?_ _
          rw [GatewayEvent.isHosted, hpayload, Bool.and_eq_true] at hhosted
          simpa [hname] using hhosted.2
      · exact h
  · split
    · exact upsert h _
    · exact h
  · split <;> exact h
  · split <;> exact h
  · split
    · dsimp only
      split <;> exact h
    · exact h
  · split <;> exact h
  · split <;> exact h
  · exact h.append_singleton rfl
  · split
    · dsimp only
      split
      · split <;> exact h
      · exact h
    · exact h
  · split
    · split <;> exact h
    · exact h
  · split
    · split
      · dsimp only
        cases hreplace : replaceLast _ view.transcript with
        | none => exact h
        | some transcript' =>
            refine forall_mem_replaceLast hreplace (fun item item' hitem => ?_) h
            refine onMessage (fun message message' hmessage hcomplete => ?_) hitem
            split at hmessage
            · rw [← Option.some.inj hmessage]
              exact hcomplete
            · cases hmessage
      · exact h
    · exact h
  · exact h

theorem showing {sessionId : String} {events : List GatewayEvent}
    (hhosted : ∀ event ∈ events, event.isHosted sessionId) {view : SessionViewModel}
    (h : Finished view.transcript) : Finished (view.showing events).transcript := by
  induction events generalizing view with
  | nil => exact h
  | cons event events ih =>
      exact ih (fun other hmem => hhosted other (List.mem_cons_of_mem event hmem))
        (applyEvent (hhosted event List.mem_cons_self) h)

end Finished

/-- The frames of the host's events are hosted. -/
theorem GatewayEvent.isHosted_ofFrame (sessionId : String) (sequenced : SequencedEvent) :
    (GatewayEvent.ofFrame sessionId sequenced).isHosted sessionId := by
  obtain ⟨sequence, timestampMs, event⟩ := sequenced
  cases event with
  | message payload =>
      have hread : payloadAs MessagePayload
          (GatewayEvent.ofFrame sessionId ⟨sequence, timestampMs, .message payload⟩).payload =
            payload.received :=
        (payloadAs_decode (SessionEvent.payload_ne_null (.message payload))).trans
          payload.decode_trip_received
      rw [isHosted, hread, Slight.MessagePayload.received]
      cases payload.blocks.mapM ContentBlock.received <;> simp [ofFrame, SessionEvent.name]
  | _ => simp [isHosted, ofFrame, SessionEvent.name]

/-! ## a load -/

/-- What `loadSnapshot` waits for. -/
inductive Load.Phase where
  | acknowledgement
  | page
  | inspection
  | returned
  deriving DecidableEq

/-- A load of the session's snapshot, with what arrived so far: the events of the page
and the live events that were delivered. -/
structure Load where
  view : SessionViewModel
  phase : Load.Phase := .acknowledgement
  latestSequence : Int
  page : List GatewayEvent := []
  live : List GatewayEvent := []
  wasReset : Bool := false
  wasCompleted : Bool := false

/-- What may arrive: the answers, the notifications, and events. -/
inductive Load.Arrival where
  | acknowledged (attach : SessionAttachResult)
  | pageLoaded (page : SessionHistoryResult)
  | inspected (response : Response SessionInspectResult)
  | transcriptReset (reason : Option String)
  | replayCompleted (resyncRequired : Bool)
  | event (event : GatewayEvent)

namespace Load

def sessionId (load : Load) : String := load.view.sessionId

/-- The answers come in their order, each notification once, and live events in theirs,
numbered from the acknowledgement's latest sequence. -/
def next (load : Load) : Arrival → Option Load
  | .acknowledged attach =>
      if load.phase = .acknowledgement ∧ attach.latestSequence = load.latestSequence then
        let view := load.view.attached attach
        match view.requestHistory with
        | some view => some { load with view, phase := .page }
        | none => some { load with view := { view with hasLoadedHistory := true }, phase := .inspection }
      else none
  | .pageLoaded page =>
      if load.phase = .page ∧ page.events.all (·.isHosted load.sessionId) ∧
          page.events.Pairwise (fun a b => a.sequence < b.sequence) ∧
          page.events.all (·.sequence ≤ load.latestSequence) then
        some { load with
          view := load.view.pageLoaded (.ok (some page))
          phase := .inspection
          page := page.events }
      else none
  | .inspected response =>
      if load.phase = .inspection then
        some { load with view := load.view.inspected response, phase := .returned }
      else none
  | .transcriptReset reason =>
      if load.wasReset then none
      else
        some { load with
          view := load.view.handle (.transcriptReset load.sessionId reason)
          wasReset := true }
  | .replayCompleted resyncRequired =>
      if load.wasCompleted then none
      else
        some { load with
          view := load.view.handle (.replayCompleted load.sessionId resyncRequired)
          wasCompleted := true }
  | .event event =>
      if event.isHosted load.sessionId ∧
          event.sequence = load.latestSequence + load.live.length + 1 then
        some { load with view := load.view.handle (.event event), live := load.live ++ [event] }
      else none

/-- A page of journal entries up to the latest may arrive. -/
theorem pageLoaded_ofFrame {load : Load} (hphase : load.phase = .page)
    {entries : List SequencedEvent} (hincreasing : entries.Pairwise (·.sequence < ·.sequence))
    (hlatest : ∀ e ∈ entries, e.sequence ≤ load.latestSequence) {page : SessionHistoryResult}
    (hpage : page.events = entries.map (.ofFrame load.sessionId)) :
    (load.next (.pageLoaded page)).isSome := by
  have hhosted : page.events.all (·.isHosted load.sessionId) := by
    rw [hpage, List.all_map, List.all_eq_true]
    exact fun e _ => GatewayEvent.isHosted_ofFrame load.sessionId e
  have hsorted : page.events.Pairwise fun a b => a.sequence < b.sequence := by
    rw [hpage, List.pairwise_map]
    exact hincreasing.imp Int.ofNat_lt.mpr
  have hbounded : page.events.all (·.sequence ≤ load.latestSequence) := by
    rw [hpage, List.all_map, List.all_eq_true]
    exact fun e he => decide_eq_true (hlatest e he)
  rw [next, if_pos ⟨hphase, hhosted, hsorted, hbounded⟩]
  rfl

/-- The next journal entry may arrive as a live event at any time. -/
theorem event_ofFrame {load : Load} {sequenced : SequencedEvent}
    (hnext : sequenced.sequence = load.latestSequence + load.live.length + 1) :
    (load.next (.event (.ofFrame load.sessionId sequenced))).isSome := by
  rw [next, if_pos ⟨GatewayEvent.isHosted_ofFrame load.sessionId sequenced, hnext⟩]
  rfl

/-- A load begins while none is in progress and no page is on its way. -/
def Begins (load : Load) : Prop :=
  ∃ view : SessionViewModel, view.isAttaching = false ∧ view.isLoadingHistory = false ∧
    load = { view := view.beginSnapshot, latestSequence := load.latestSequence }

def system : System Load Arrival := .ofNext Begins next

/-- What the page and the live events show, applied in order to an empty view. -/
def expected (load : Load) : SessionViewModel :=
  SessionViewModel.showing { sessionId := load.sessionId } (load.page ++ load.live)

/-- What the transcript depends on is kept: an event comes after the acknowledgement, and
is buffered only while the replay is not complete; what is buffered is not shown
before the page; the inspection agrees with what is shown and buffered; and the
acknowledgement brings no events of its own. -/
def Keeps (load : Load) : Arrival → Prop
  | .acknowledged attach => attach.replayed.isEmpty
  | .pageLoaded _ => True
  | .inspected (.error _) => True
  | .inspected (.ok inspection) =>
      (SessionViewModel.showing
        { load.view with
          permissionRequests := (inspection.bind (·.pendingPermission)).toList }
        load.view.replayBuffer).permissionRequests =
      (load.view.showing load.view.replayBuffer).permissionRequests
  | .transcriptReset reason =>
      reason = none ∨ load.phase = .acknowledgement ∨ load.phase = .page
  | .replayCompleted _ =>
      load.view.replayBuffer.isEmpty ∨ load.phase = .inspection ∨ load.phase = .returned
  | .event _ =>
      load.phase ≠ .acknowledgement ∧
        if load.phase = .returned then load.view.replayBuffer.isEmpty = true
        else load.wasCompleted = false

instance decidableKeeps (load : Load) : ∀ arrival, Decidable (load.Keeps arrival)
  | .acknowledged _ => inferInstanceAs (Decidable (_ = true))
  | .pageLoaded _ => inferInstanceAs (Decidable True)
  | .inspected (.error _) => inferInstanceAs (Decidable True)
  | .inspected (.ok _) => inferInstanceAs (Decidable (_ = _))
  | .transcriptReset _ => inferInstanceAs (Decidable (_ ∨ _ ∨ _))
  | .replayCompleted _ => inferInstanceAs (Decidable (_ ∨ _ ∨ _))
  | .event _ => inferInstanceAs (Decidable (_ ∧ _))

/-! ## what a run keeps -/

/-- What is shown and buffered is the page and every live event. -/
structure Sound (load : Load) : Prop where
  attaching : load.view.isAttaching = decide (load.phase ≠ .returned)
  ignored : load.view.replaySequencesToIgnore = ∅
  completed : load.wasCompleted = true → load.view.replayBuffer = []
  unanswered : load.phase = .acknowledgement → load.live = [] ∧ load.view.replayBuffer = [] ∧
    load.view.isLoadingHistory = false
  unreset : load.phase ≠ .acknowledgement → load.wasReset = false →
    load.view.ignoreNextTranscriptReset = true
  unloaded : load.phase = .acknowledgement ∨ load.phase = .page → load.page = []
  awaiting : load.phase = .page → load.view.replayBuffer = load.live ∧
    load.view.loadedHistorySequences = ∅
  shown : load.phase = .inspection ∨ load.phase = .returned →
    (load.view.showing load.view.replayBuffer).Alike load.expected
  hosted : ∀ event ∈ load.page ++ load.live, event.isHosted load.sessionId = true

theorem sound_of_begins {load : Load} (h : load.Begins) : load.Sound := by
  obtain ⟨view, hattaching, hloading, hload⟩ := h
  rw [hload]
  have hview : view.beginSnapshot = { view with
      hasLoadedHistory := view.hasAttached && view.hasLoadedHistory
      isAttaching := true
      replayBuffer := []
      replaySequencesToIgnore := ∅
      replayState := .replaying 0 } := by
    rw [SessionViewModel.beginSnapshot, hattaching]
    rfl
  rw [hview]
  exact
    { attaching := rfl
      ignored := rfl
      completed := fun h => nomatch h
      unanswered := fun _ => ⟨rfl, rfl, hloading⟩
      unreset := fun h => absurd rfl h
      unloaded := fun _ => rfl
      awaiting := fun h => nomatch h
      shown := fun h => by rcases h with h | h <;> cases h
      hosted := fun event hmem => nomatch hmem }

namespace Sound

variable {load load' : Load}

theorem acknowledged (h : load.Sound) {attach : SessionAttachResult}
    (hkeeps : load.Keeps (.acknowledged attach))
    (hnext : load.next (.acknowledged attach) = some load') : load'.Sound := by
  have hreplayed : attach.replayed = [] := List.isEmpty_iff.mp hkeeps
  rw [next] at hnext
  split at hnext
  · next hphase =>
      obtain ⟨hlive, hbuffer, hidle⟩ := h.unanswered hphase.1
      have hsteering := load.view.steering_attached hreplayed
      have hloaded := load.view.loadedHistorySequences_attached hreplayed
      generalize load.view.attached attach = view at hnext hsteering hloaded
      have hloading : view.isLoadingHistory = false :=
        (congrArg SessionViewModel.Steering.isLoadingHistory hsteering).trans hidle
      have hrequest : view.requestHistory = some { view with isLoadingHistory := true } := by
        rw [SessionViewModel.requestHistory, hloading]
        rfl
      dsimp only at hnext
      rw [hrequest] at hnext
      rw [← Option.some.inj hnext]
      have hattaching : view.isAttaching = load.view.isAttaching :=
        congrArg SessionViewModel.Steering.isAttaching hsteering
      have hempty : view.replayBuffer = [] :=
        congrArg SessionViewModel.Steering.replayBuffer hsteering
      exact
        { attaching := by
            rw [hattaching, h.attaching, hphase.1]
            rfl
          ignored := congrArg SessionViewModel.Steering.replaySequencesToIgnore hsteering
          completed := fun _ => hempty
          unanswered := fun h => nomatch h
          unreset := fun _ _ =>
            congrArg SessionViewModel.Steering.ignoreNextTranscriptReset hsteering
          unloaded := fun _ => h.unloaded (.inl hphase.1)
          awaiting := fun _ => ⟨hempty.trans hlive.symm, hloaded⟩
          shown := fun h => by rcases h with h | h <;> cases h
          hosted := fun event hmem => by
            rw [h.unloaded (.inl hphase.1), hlive] at hmem
            cases hmem }
  · cases hnext

theorem pageLoaded (h : load.Sound) {page : SessionHistoryResult}
    (hnext : load.next (.pageLoaded page) = some load') : load'.Sound := by
  rw [next] at hnext
  split at hnext
  · next hpage =>
      obtain ⟨hphase, hhosted, hincreasing, -⟩ := hpage
      obtain ⟨hbuffer, hloaded⟩ := h.awaiting hphase
      have hsteering := load.view.steering_pageLoaded page
      have halike := load.view.pageLoaded_alike hincreasing hloaded
      rw [← Option.some.inj hnext]
      generalize load.view.pageLoaded (.ok (some page)) = view at hsteering halike
      have hsession : view.sessionId = load.view.sessionId :=
        congrArg SessionViewModel.Steering.sessionId hsteering
      have hattaching : view.isAttaching = load.view.isAttaching :=
        congrArg SessionViewModel.Steering.isAttaching hsteering
      have hsame : view.replayBuffer = load.view.replayBuffer :=
        congrArg SessionViewModel.Steering.replayBuffer hsteering
      have hreset : view.ignoreNextTranscriptReset = load.view.ignoreNextTranscriptReset :=
        congrArg SessionViewModel.Steering.ignoreNextTranscriptReset hsteering
      exact
        { attaching := by
            rw [hattaching, h.attaching, hphase]
            rfl
          ignored :=
            (congrArg SessionViewModel.Steering.replaySequencesToIgnore hsteering).trans h.ignored
          completed := fun hcompleted => hsame.trans (h.completed hcompleted)
          unanswered := fun h => nomatch h
          unreset := fun _ hwas =>
            hreset.trans (h.unreset (by rw [hphase]; exact nofun) hwas)
          unloaded := fun h => by rcases h with h | h <;> cases h
          awaiting := fun h => nomatch h
          shown := fun _ => by
            rw [expected, sessionId, hsession, SessionViewModel.showing_append, hsame, hbuffer]
            exact halike.showing load.live
          hosted := fun event hmem => by
            rw [sessionId, hsession]
            rcases List.mem_append.mp hmem with hmem | hmem
            · exact List.all_eq_true.mp hhosted event hmem
            · exact h.hosted event (List.mem_append_right _ hmem) }
  · cases hnext

theorem inspected (h : load.Sound) {response : Response SessionInspectResult}
    (hkeeps : load.Keeps (.inspected response))
    (hnext : load.next (.inspected response) = some load') : load'.Sound := by
  rw [next] at hnext
  split at hnext
  · next hphase =>
      have hsteering := load.view.steering_inspected response
      have htranscript := load.view.transcript_inspected response
      have hrequests :
          ((load.view.inspected response).showing load.view.replayBuffer).permissionRequests =
            (load.view.showing load.view.replayBuffer).permissionRequests := by
        cases response with
        | error message =>
            have hsame : (load.view.inspected (.error message)).permissionRequests =
                load.view.permissionRequests := rfl
            exact SessionViewModel.permissionRequests_showing hsame _
        | ok inspection =>
            have hpending : (load.view.inspected (.ok inspection)).permissionRequests =
                SessionViewModel.permissionRequests { load.view with
                  permissionRequests := (inspection.bind (·.pendingPermission)).toList } := rfl
            exact (SessionViewModel.permissionRequests_showing hpending _).trans hkeeps
      rw [← Option.some.inj hnext]
      generalize load.view.inspected response = view at hsteering htranscript hrequests
      have hsession : view.sessionId = load.view.sessionId :=
        congrArg SessionViewModel.Steering.sessionId hsteering
      have hsame : view.replayBuffer = load.view.replayBuffer :=
        congrArg SessionViewModel.Steering.replayBuffer hsteering
      have hreset : view.ignoreNextTranscriptReset = load.view.ignoreNextTranscriptReset :=
        congrArg SessionViewModel.Steering.ignoreNextTranscriptReset hsteering
      exact
        { attaching := congrArg SessionViewModel.Steering.isAttaching hsteering
          ignored :=
            (congrArg SessionViewModel.Steering.replaySequencesToIgnore hsteering).trans h.ignored
          completed := fun hcompleted => hsame.trans (h.completed hcompleted)
          unanswered := fun h => nomatch h
          unreset := fun _ hwas =>
            hreset.trans (h.unreset (by rw [hphase]; exact nofun) hwas)
          unloaded := fun h => by rcases h with h | h <;> cases h
          awaiting := fun h => nomatch h
          shown := fun _ => by
            have hbefore := h.shown (.inl hphase)
            rw [expected, sessionId] at hbefore ⊢
            rw [hsession, hsame]
            exact ⟨(SessionViewModel.transcript_showing htranscript _).trans hbefore.transcript,
              hrequests.trans hbefore.permissionRequests⟩
          hosted := by
            have hhosted := h.hosted
            rw [sessionId] at hhosted ⊢
            rw [hsession]
            exact hhosted }
  · cases hnext

theorem transcriptReset (h : load.Sound) {reason : Option String}
    (hkeeps : load.Keeps (.transcriptReset reason))
    (hnext : load.next (.transcriptReset reason) = some load') : load'.Sound := by
  rw [next] at hnext
  split at hnext
  · cases hnext
  · next hwas =>
      have hunreset := fun hphase => h.unreset hphase (Bool.not_eq_true _ ▸ hwas)
      have hsteering := load.view.steering_transcriptReset reason
      have hloaded : load.phase ≠ .acknowledgement →
          (load.view.handle (.transcriptReset load.sessionId reason)).loadedHistorySequences =
            load.view.loadedHistorySequences := fun hphase =>
        SessionViewModel.loadedHistorySequences_transcriptReset (hunreset hphase) reason
      have hignored : load.phase = .inspection ∨ load.phase = .returned →
          load.view.handle (.transcriptReset load.sessionId reason) =
            { load.view with ignoreNextTranscriptReset := false } := by
        intro hphase
        have hreason : reason = none := by
          rcases hkeeps with hnone | hearly | hearly
          · exact hnone
          · rw [hearly] at hphase
            rcases hphase with h | h <;> cases h
          · rw [hearly] at hphase
            rcases hphase with h | h <;> cases h
        have hanswered : load.phase ≠ .acknowledgement := by
          rcases hphase with h | h <;> rw [h] <;> exact nofun
        rw [hreason]
        exact SessionViewModel.transcriptReset_ignored (hunreset hanswered)
      rw [← Option.some.inj hnext]
      rw [sessionId] at hloaded hignored ⊢
      generalize load.view.handle (.transcriptReset load.view.sessionId reason) = view
        at hsteering hloaded hignored ⊢
      have hsession : view.sessionId = load.view.sessionId :=
        congrArg SessionViewModel.Steering.sessionId hsteering
      have hattaching : view.isAttaching = load.view.isAttaching :=
        congrArg SessionViewModel.Steering.isAttaching hsteering
      have hloading : view.isLoadingHistory = load.view.isLoadingHistory :=
        congrArg SessionViewModel.Steering.isLoadingHistory hsteering
      have hbuffer : view.replayBuffer =
          if load.view.ignoreNextTranscriptReset then load.view.replayBuffer else [] :=
        congrArg SessionViewModel.Steering.replayBuffer hsteering
      have hempty : load.view.replayBuffer = [] → view.replayBuffer = [] := by
        intro hempty
        rw [hbuffer, hempty, ite_self]
      exact
        { attaching := hattaching.trans h.attaching
          ignored :=
            (congrArg SessionViewModel.Steering.replaySequencesToIgnore hsteering).trans h.ignored
          completed := fun hcompleted => hempty (h.completed hcompleted)
          unanswered := fun hphase =>
            ⟨(h.unanswered hphase).1, hempty (h.unanswered hphase).2.1,
              hloading.trans (h.unanswered hphase).2.2⟩
          unreset := fun _ hwas => nomatch hwas
          unloaded := h.unloaded
          awaiting := fun hphase => by
            have hanswered : load.phase ≠ .acknowledgement := by
              rw [hphase]
              exact nofun
            rw [hbuffer, hunreset hanswered, hloaded hanswered]
            exact h.awaiting hphase
          shown := fun hphase => by
            have hbefore := h.shown hphase
            have hview : SessionViewModel.Alike
                { load.view with ignoreNextTranscriptReset := false } load.view := ⟨rfl, rfl⟩
            rw [hignored hphase]
            exact (hview.showing _).trans hbefore
          hosted := by
            have hhosted := h.hosted
            rw [sessionId] at hhosted ⊢
            rw [hsession]
            exact hhosted }

theorem replayCompleted (h : load.Sound) {resyncRequired : Bool}
    (hkeeps : load.Keeps (.replayCompleted resyncRequired))
    (hnext : load.next (.replayCompleted resyncRequired) = some load') : load'.Sound := by
  rw [next] at hnext
  split at hnext
  · cases hnext
  · next hwas =>
      have hhandle : load.view.handle (.replayCompleted load.sessionId resyncRequired) =
          { load.view.flushReplayBuffer.finishReplay with replayState := .idle } := by
        rw [SessionViewModel.handle, sessionId, if_pos rfl]
      have hsteering : (load.view.handle
          (.replayCompleted load.sessionId resyncRequired)).steering =
            { load.view.steering with replayBuffer := [] } := by
        rw [hhandle]
        exact load.view.steering_flushReplayBuffer
      have htranscript : (load.view.handle
          (.replayCompleted load.sessionId resyncRequired)).transcript =
            load.view.flushReplayBuffer.transcript.map .finished := by
        rw [hhandle, SessionViewModel.finishReplay]
      have hrequests : (load.view.handle
          (.replayCompleted load.sessionId resyncRequired)).permissionRequests =
            load.view.flushReplayBuffer.permissionRequests := by
        rw [hhandle, SessionViewModel.finishReplay]
      have hloaded : load.view.replayBuffer = [] → (load.view.handle
          (.replayCompleted load.sessionId resyncRequired)).loadedHistorySequences =
            load.view.loadedHistorySequences := by
        intro hempty
        rw [hhandle, SessionViewModel.finishReplay, SessionViewModel.flushReplayBuffer, hempty,
          List.foldl_nil]
      rw [← Option.some.inj hnext]
      generalize load.view.handle (.replayCompleted load.sessionId resyncRequired) = view
        at hsteering htranscript hrequests hloaded
      have hsession : view.sessionId = load.view.sessionId :=
        congrArg SessionViewModel.Steering.sessionId hsteering
      have hempty : view.replayBuffer = [] :=
        congrArg SessionViewModel.Steering.replayBuffer hsteering
      have hattaching : view.isAttaching = load.view.isAttaching :=
        congrArg SessionViewModel.Steering.isAttaching hsteering
      have hloading : view.isLoadingHistory = load.view.isLoadingHistory :=
        congrArg SessionViewModel.Steering.isLoadingHistory hsteering
      have hreset : view.ignoreNextTranscriptReset = load.view.ignoreNextTranscriptReset :=
        congrArg SessionViewModel.Steering.ignoreNextTranscriptReset hsteering
      exact
        { attaching := hattaching.trans h.attaching
          ignored :=
            (congrArg SessionViewModel.Steering.replaySequencesToIgnore hsteering).trans h.ignored
          completed := fun _ => hempty
          unanswered := fun hphase =>
            ⟨(h.unanswered hphase).1, hempty, hloading.trans (h.unanswered hphase).2.2⟩
          unreset := fun hphase hwas => hreset.trans (h.unreset hphase hwas)
          unloaded := h.unloaded
          awaiting := fun hphase => by
            obtain ⟨hbuffer, hsequences⟩ := h.awaiting hphase
            have hnone : load.view.replayBuffer = [] := by
              rcases hkeeps with hnone | hlater | hlater
              · exact List.isEmpty_iff.mp hnone
              · rw [hphase] at hlater
                cases hlater
              · rw [hphase] at hlater
                cases hlater
            exact ⟨hempty.trans (hnone.symm.trans hbuffer), (hloaded hnone).trans hsequences⟩
          shown := fun hphase => by
            have hbefore := h.shown hphase
            have hflushed := load.view.flushReplayBuffer_alike.trans hbefore
            have hfinished : Finished load.view.flushReplayBuffer.transcript := by
              rw [hflushed.transcript]
              exact Finished.showing h.hosted fun item hmem => nomatch hmem
            have hsame : load.view.flushReplayBuffer.transcript.map .finished =
                load.view.flushReplayBuffer.transcript :=
              (List.map_congr_left hfinished).trans (List.map_id _)
            have hexpected : ({ load with view, wasCompleted := true } : Load).expected =
                load.expected := by
              rw [expected, expected, sessionId, sessionId, hsession]
            rw [hexpected]
            dsimp only
            rw [hempty]
            exact ⟨htranscript.trans (hsame.trans hflushed.transcript),
              hrequests.trans hflushed.permissionRequests⟩
          hosted := by
            have hhosted := h.hosted
            rw [sessionId] at hhosted ⊢
            rw [hsession]
            exact hhosted }

theorem event (h : load.Sound) {event : GatewayEvent} (hkeeps : load.Keeps (.event event))
    (hnext : load.next (.event event) = some load') : load'.Sound := by
  rw [next] at hnext
  split at hnext
  · next hevent =>
      obtain ⟨hsession, hname⟩ := GatewayEvent.of_isHosted hevent.1
      have hhandle := SessionViewModel.handle_event hsession hname h.ignored
      obtain ⟨hanswered, hbuffering⟩ := hkeeps
      have hhosted : ∀ other ∈ load.page ++ (load.live ++ [event]),
          other.isHosted load.sessionId = true := by
        intro other hmem
        rw [← List.append_assoc] at hmem
        rcases List.mem_append.mp hmem with hmem | hmem
        · exact h.hosted other hmem
        · rw [List.mem_singleton.mp hmem]
          exact hevent.1
      have hexpected : SessionViewModel.showing { sessionId := load.view.sessionId }
          (load.page ++ (load.live ++ [event])) = load.expected.showing [event] := by
        rw [← List.append_assoc, SessionViewModel.showing_append]
        rfl
      rw [← Option.some.inj hnext, hhandle]
      by_cases hphase : load.phase = .returned
      · -- shown at once
        rw [if_pos hphase] at hbuffering
        have hempty := List.isEmpty_iff.mp hbuffering
        have hattaching : load.view.isAttaching = false := by
          rw [h.attaching, hphase]
          rfl
        rw [hattaching, if_neg Bool.false_ne_true]
        have hsteering := load.view.steering_handleEvent event
        have halike := load.view.handleEvent_alike event
        generalize load.view.handleEvent event = view at hsteering halike
        have hsession' : view.sessionId = load.view.sessionId :=
          congrArg SessionViewModel.Steering.sessionId hsteering
        have hbuffer : view.replayBuffer = [] :=
          (congrArg SessionViewModel.Steering.replayBuffer hsteering).trans hempty
        have hreset : view.ignoreNextTranscriptReset = load.view.ignoreNextTranscriptReset :=
          congrArg SessionViewModel.Steering.ignoreNextTranscriptReset hsteering
        exact
          { attaching :=
              (congrArg SessionViewModel.Steering.isAttaching hsteering).trans h.attaching
            ignored :=
              (congrArg SessionViewModel.Steering.replaySequencesToIgnore hsteering).trans
                h.ignored
            completed := fun _ => hbuffer
            unanswered := fun hphase => absurd hphase hanswered
            unreset := fun hphase hwas => hreset.trans (h.unreset hphase hwas)
            unloaded := h.unloaded
            awaiting := fun hpage => by
              rw [hphase] at hpage
              cases hpage
            shown := fun hloaded => by
              have hbefore := h.shown hloaded
              rw [hempty] at hbefore
              rw [expected, sessionId]
              dsimp only
              rw [hsession', hexpected, hbuffer]
              exact halike.trans (hbefore.showing [event])
            hosted := by
              rw [sessionId] at hhosted ⊢
              rw [hsession']
              exact hhosted }
      · -- buffered
        rw [if_neg hphase] at hbuffering
        have hattaching : load.view.isAttaching = true := by
          rw [h.attaching, decide_eq_true hphase]
        rw [if_pos hattaching]
        have hview : SessionViewModel.Alike
            { load.view with replayBuffer := load.view.replayBuffer ++ [event] } load.view :=
          ⟨rfl, rfl⟩
        exact
          { attaching := h.attaching
            ignored := h.ignored
            completed := fun hcompleted => by
              rw [hbuffering] at hcompleted
              cases hcompleted
            unanswered := fun hphase => absurd hphase hanswered
            unreset := h.unreset
            unloaded := h.unloaded
            awaiting := fun hpage => by
              obtain ⟨hbuffer, hloaded⟩ := h.awaiting hpage
              exact ⟨congrArg (· ++ [event]) hbuffer, hloaded⟩
            shown := fun hloaded => by
              have hbefore := h.shown hloaded
              rw [expected, sessionId]
              dsimp only
              rw [hexpected, SessionViewModel.showing_append]
              exact ((hview.showing _).trans hbefore).showing [event]
            hosted := hhosted }
  · cases hnext

/-- **Every arrival** that is kept keeps the invariant. -/
theorem next (h : load.Sound) {arrival : Arrival} (hkeeps : load.Keeps arrival)
    (hnext : load.next arrival = some load') : load'.Sound := by
  cases arrival with
  | acknowledged attach => exact h.acknowledged hkeeps hnext
  | pageLoaded page => exact h.pageLoaded hnext
  | inspected response => exact h.inspected hkeeps hnext
  | transcriptReset reason => exact h.transcriptReset hkeeps hnext
  | replayCompleted resyncRequired => exact h.replayCompleted hkeeps hnext
  | event event => exact h.event hkeeps hnext

end Sound

end Load

/-- **Loading loses nothing**: in a run whose arrivals are all kept, the view shows, once
the load has returned and the replay is complete, the page followed by every live
event, each once and in order, and buffers nothing. -/
theorem Load.shows_page_and_live {load : Load} (h : system.ReachUnder Keeps load)
    (hreturned : load.phase = .returned) (hcompleted : load.wasCompleted = true) :
    load.view.transcript = load.expected.transcript ∧
      load.view.permissionRequests = load.expected.permissionRequests ∧
      load.view.replayBuffer = [] := by
  have hsound : load.Sound := System.invariant_of_step (I := Load.Sound)
    (fun _ hbegins => sound_of_begins hbegins)
    (fun _ _ _ hsound hkeeps hnext => hsound.next hkeeps hnext) h
  have hempty := hsound.completed hcompleted
  have hshown := hsound.shown (.inr hreturned)
  rw [hempty] at hshown
  exact ⟨hshown.transcript, hshown.permissionRequests, hempty⟩

/-! ## two orders of the same arrivals -/

def sampleClientSummary : SessionSummary where
  id := "s1"
  title := "Session"
  agent := "fake"
  model := none
  effort := none
  workingDirectoryLabel := "src"
  gitBranch := none
  status := .idle
  createdAt := none
  lastActivityAt := none
  lastSequence := 1
  recovery := .live
  archived := false

/-- A message of the user's. -/
def sampleUserMessage (sequence : Nat) (text : String) : GatewayEvent :=
  .ofFrame "s1" ⟨sequence, 1000, .message
    { role := .user, text, blocks := [{ id := "b1", kind := .text, text }] }⟩

def sampleAcknowledged : Load.Arrival :=
  .acknowledged
    { session := sampleClientSummary, replayed := [], latestSequence := 1
      oldestAvailableSequence := some 1, resyncRequired := false }

/-- The first message is on the page. -/
def samplePage : Load.Arrival :=
  .pageLoaded
    { session := sampleClientSummary, events := [sampleUserMessage 1 "one"], latestSequence := 1
      oldestAvailableSequence := some 1, hasMore := false }

def sampleInspected : Load.Arrival := .inspected (.ok (some ⟨none, none⟩))

def sampleLoad : Load where
  view := SessionViewModel.beginSnapshot { sessionId := "s1" }
  latestSequence := 1

theorem begins_sampleLoad : sampleLoad.Begins := ⟨{ sessionId := "s1" }, rfl, rfl, rfl⟩

/-- An event before the replay is complete and one after the load are both shown. -/
theorem Load.shows_page_and_live_sample :
    ∃ load : Load, load.live.length = 2 ∧ load.view.transcript = load.expected.transcript ∧
      load.view.permissionRequests = load.expected.permissionRequests ∧
      load.view.replayBuffer = [] := by
  let arrivals : List Load.Arrival :=
    [.transcriptReset none, sampleAcknowledged, .event (sampleUserMessage 2 "two"), samplePage,
      .replayCompleted false, sampleInspected, .event (sampleUserMessage 3 "three")]
  have hkeeps : System.runsUnder Load.next Load.Keeps sampleLoad arrivals := by
    decide +kernel
  have hends : (System.runs Load.next sampleLoad arrivals).map (fun load =>
      (load.phase, load.wasCompleted, load.live.length)) = some (.returned, true, 2) := by
    decide +kernel
  obtain ⟨load, hruns, hload⟩ := Option.map_eq_some_iff.mp hends
  injection hload with hphase hload
  injection hload with hcompleted hlive
  exact ⟨load, hlive, Load.shows_page_and_live
    (System.reachUnder_of_runs arrivals begins_sampleLoad hkeeps hruns) hphase hcompleted⟩

/-- An event that arrives after the replay is complete, while the view still loads, stays
in the buffer. -/
theorem Load.live_event_stays_buffered :
    ∃ load : Load, system.Reachable load ∧ load.phase = .returned ∧ load.wasReset = true ∧
      load.wasCompleted = true ∧ load.live.length = 1 ∧ load.view.replayBuffer ≠ [] ∧
      load.view.transcript ≠ load.expected.transcript := by
  let arrivals : List Load.Arrival :=
    [.transcriptReset none, .replayCompleted false, sampleAcknowledged,
      .event (sampleUserMessage 2 "two"), samplePage, sampleInspected]
  have hends : (System.runs Load.next sampleLoad arrivals).map (fun load =>
      (load.phase, load.wasReset, load.wasCompleted, load.live.length)) =
        some (.returned, true, true, 1) := by
    decide +kernel
  have hlengths : (System.runs Load.next sampleLoad arrivals).map (fun load =>
      (load.view.replayBuffer.length, load.view.transcript.length,
        load.expected.transcript.length)) = some (1, 1, 2) := by
    decide +kernel
  obtain ⟨load, hruns, hload⟩ := Option.map_eq_some_iff.mp hends
  injection hload with hphase hload
  injection hload with hreset hload
  injection hload with hcompleted hlive
  rw [hruns] at hlengths
  injection Option.some.inj hlengths with hbuffer hlengths
  injection hlengths with htranscript hexpected
  refine ⟨load, System.reachable_of_runs arrivals begins_sampleLoad hruns, hphase, hreset,
    hcompleted, hlive, fun hempty => ?_, fun hsame => ?_⟩
  · rw [hempty] at hbuffer
    cases hbuffer
  · rw [hsame, hexpected] at htranscript
    cases htranscript

end Slight.Client
