import Slight.Client.Rows

/-!
# Slight.Client.Screen

The view with what it waits for: a load of the snapshot, an older page of the
history, and the delivery of a message that was sent.  In a run these are
interleaved with what the connection pushes, in any order.

Four producers make rows: events that are handled, the page that replaces the
transcript, an older page, and the echo of a message that is sent.  A tool call and
a message with an id of its own are looked up before a row is made; a message
without one stands under the sequence of its event, which is not looked up, and an
older page is put before the transcript without being compared with it.
`Screen.Keeps` rules out the two; under it the ids of the rows are distinct in every
run.
-/

namespace Slight.Client

open Support

/-! ## sending -/

/-- The text without white space and newlines around it. -/
def trimmed (text : String) : String :=
  .ofList (((text.toList.dropWhile isWhitespaceOrNewline).reverse.dropWhile
    isWhitespaceOrNewline).reverse)

namespace SessionViewModel

/-- `send` up to its wait: the message is echoed. -/
def send (view : SessionViewModel) (localId text : String) : SessionViewModel :=
  { view with
    transcript := view.transcript ++ [.message
      { id := localId
        role := .user
        blocks := [{ id := "", kind := .text, text }]
        at_ := some view.now
        isStreaming := false }] }

/-- The delivery was answered; one that failed leaves no echo. -/
def sent (view : SessionViewModel) (localId : String) : Except String Unit → SessionViewModel
  | .ok () => { view with lastError := none }
  | .error message =>
      { view with
        transcript := view.transcript.filter fun item => item.message?.map (·.id) ≠ some localId
        lastError := some message }

theorem nodup_send {view : SessionViewModel} (h : (rowKeys view.transcript).Nodup)
    {localId : String} (hnew : .message localId ∉ rowKeys view.transcript) (text : String) :
    (rowKeys (view.send localId text).transcript).Nodup := by
  rw [send, rowKeys_append, rowKeys_message]
  exact (Takes.appended hnew).nodup h

theorem nodup_sent {view : SessionViewModel} (h : (rowKeys view.transcript).Nodup)
    (localId : String) (response : Except String Unit) :
    (rowKeys (view.sent localId response).transcript).Nodup := by
  cases response with
  | ok _ => exact h
  | error message => exact (List.filter_sublist.filterMap _).nodup h

end SessionViewModel

/-! ## the view with what it waits for -/

/-- The view, how far a load of its snapshot is, whether an older page is on its way, and
the echo of the message that is being delivered. -/
structure Screen where
  view : SessionViewModel
  phase : Load.Phase := .returned
  isPaging : Bool := false
  sending : Option String := none

/-- What is asked of the view, what it is answered, and what is pushed to it.  A message
that is sent comes with the UUID that its echo draws. -/
inductive Screen.Action where
  | loadSnapshot
  | acknowledged (response : Response SessionAttachResult)
  | pageLoaded (response : Response SessionHistoryResult)
  | inspected (response : Response SessionInspectResult)
  | loadOlderHistory
  | olderLoaded (response : Response SessionHistoryResult)
  | pushed (inbound : Inbound)
  | send (draft uuid : String)
  | sent (response : Except String Unit)
  | passed (now : Date)

namespace Screen

/-- The attach was answered.  The first page is not requested where one is on its way. -/
def acknowledge (screen : Screen) : Response SessionAttachResult → Screen
  | .error message =>
      { screen with view := screen.view.attachFailed message, phase := .returned }
  | .ok none =>
      { screen with view := { screen.view with isAttaching := false }, phase := .returned }
  | .ok (some attach) =>
      let view := screen.view.attached attach
      match view.requestHistory with
      | some view => { screen with view, phase := .page }
      | none => { screen with view := { view with hasLoadedHistory := true }, phase := .inspection }

/-- An answer comes only to what was asked; the rest may come at any time. -/
def next (screen : Screen) : Action → Option Screen
  | .loadSnapshot =>
      if screen.view.isAttaching then some screen
      else some { screen with view := screen.view.beginSnapshot, phase := .acknowledgement }
  | .acknowledged response =>
      if screen.phase = .acknowledgement then some (screen.acknowledge response) else none
  | .pageLoaded response =>
      if screen.phase = .page then
        some { screen with view := screen.view.pageLoaded response, phase := .inspection }
      else none
  | .inspected response =>
      if screen.phase = .inspection then
        some { screen with view := screen.view.inspected response, phase := .returned }
      else none
  | .loadOlderHistory =>
      if screen.view.hasOlderHistory ∧ screen.view.oldestLoadedSequence.isSome then
        match screen.view.requestHistory with
        | some view => some { screen with view, isPaging := true }
        | none => some screen
      else some screen
  | .olderLoaded response =>
      if screen.isPaging then
        some { screen with view := screen.view.historyLoaded false response, isPaging := false }
      else none
  | .pushed inbound => some { screen with view := screen.view.handle inbound }
  | .send draft uuid =>
      if trimmed draft = "" ∨ screen.sending.isSome then some screen
      else
        some { screen with
          view := screen.view.send ("local-" ++ uuid) (trimmed draft)
          sending := some ("local-" ++ uuid) }
  | .sent response =>
      screen.sending.map fun localId =>
        { screen with view := screen.view.sent localId response, sending := none }
  | .passed now => some { screen with view := { screen.view with now } }

/-- A view starts with the session's id, and a summary perhaps. -/
def Begins (screen : Screen) : Prop :=
  ∃ (sessionId : String) (session : Option SessionSummary) (now : Date),
    screen = { view := { sessionId, session, now } }

def system : System Screen Action := .ofNext Begins next

/-- Events fit when they are handled, a page is legible, an older page does not bring what
is shown already, and the UUID that an echo draws is new. -/
def Keeps (screen : Screen) : Action → Prop
  | .acknowledged (.ok (some attach)) =>
      AllFit (SessionViewModel.restarted attach) attach.replayed
  | .pageLoaded (.ok (some page)) => Legible page.events
  | .olderLoaded (.ok (some page)) =>
      Legible page.events ∧
        ∀ event ∈ page.events, event.sequence ∉ screen.view.loadedHistorySequences →
          ∀ key ∈ event.key?, key ∉ rowKeys screen.view.transcript
  | .pushed inbound => AllFit screen.view.transcript (screen.view.handled inbound)
  | .send _ uuid => .message ("local-" ++ uuid) ∉ rowKeys screen.view.transcript
  | _ => True

instance (screen : Screen) (action : Action) : Decidable (screen.Keeps action) := by
  unfold Keeps
  split <;> infer_instance

theorem transcript_requestHistory {view view' : SessionViewModel}
    (h : view.requestHistory = some view') : view'.transcript = view.transcript := by
  rw [SessionViewModel.requestHistory] at h
  split at h
  · cases h
  · rw [← Option.some.inj h]

theorem nodup_acknowledge {screen : Screen} (h : (rowKeys screen.view.transcript).Nodup)
    {response : Response SessionAttachResult}
    (hattach : ∀ attach, response = .ok (some attach) →
      AllFit (SessionViewModel.restarted attach) attach.replayed) :
    (rowKeys (screen.acknowledge response).view.transcript).Nodup := by
  cases response with
  | error message => exact h
  | ok attach =>
      cases attach with
      | none => exact h
      | some attach =>
          have hattached := screen.view.nodup_attached (hattach attach rfl)
          rw [acknowledge]
          split
          · next view hrequest => exact (transcript_requestHistory hrequest).symm ▸ hattached
          · exact hattached

/-- **Every action** that is kept keeps the keys of the rows distinct. -/
theorem nodup_next {screen screen' : Screen} (h : (rowKeys screen.view.transcript).Nodup)
    {action : Action} (hkeeps : screen.Keeps action) (hnext : screen.next action = some screen') :
    (rowKeys screen'.view.transcript).Nodup := by
  cases action with
  | loadSnapshot =>
      rw [next] at hnext
      split at hnext
      · rw [← Option.some.inj hnext]
        exact h
      · rw [← Option.some.inj hnext]
        dsimp only
        rw [SessionViewModel.beginSnapshot]
        split <;> exact h
  | acknowledged response =>
      rw [next] at hnext
      split at hnext
      · rw [← Option.some.inj hnext]
        refine nodup_acknowledge h fun attach hattach => ?_
        rw [hattach] at hkeeps
        exact hkeeps
      · cases hnext
  | pageLoaded response =>
      rw [next] at hnext
      split at hnext
      · rw [← Option.some.inj hnext]
        refine SessionViewModel.nodup_pageLoaded h fun page hpage => ?_
        rw [hpage] at hkeeps
        exact hkeeps
      · cases hnext
  | inspected response =>
      rw [next] at hnext
      split at hnext
      · rw [← Option.some.inj hnext]
        dsimp only
        rw [SessionViewModel.transcript_inspected]
        exact h
      · cases hnext
  | loadOlderHistory =>
      rw [next] at hnext
      split at hnext
      · split at hnext
        · next view hrequest =>
            rw [← Option.some.inj hnext]
            exact (transcript_requestHistory hrequest).symm ▸ h
        · rw [← Option.some.inj hnext]
          exact h
      · rw [← Option.some.inj hnext]
        exact h
  | olderLoaded response =>
      rw [next] at hnext
      split at hnext
      · rw [← Option.some.inj hnext]
        refine SessionViewModel.nodup_olderLoaded h fun page hpage => ?_
        rw [hpage] at hkeeps
        exact hkeeps
      · cases hnext
  | pushed inbound =>
      rw [← Option.some.inj hnext]
      exact SessionViewModel.nodup_handle h hkeeps
  | send draft uuid =>
      rw [next] at hnext
      split at hnext
      · rw [← Option.some.inj hnext]
        exact h
      · rw [← Option.some.inj hnext]
        exact SessionViewModel.nodup_send h hkeeps (trimmed draft)
  | sent response =>
      obtain ⟨localId, -, rfl⟩ := Option.map_eq_some_iff.mp hnext
      exact SessionViewModel.nodup_sent h localId response
  | passed now =>
      rw [← Option.some.inj hnext]
      exact h

end Screen

/-- **Rows have distinct ids** in every state of a run whose actions are all kept. -/
theorem Screen.rows_have_unique_ids {screen : Screen} (h : system.ReachUnder Keeps screen) :
    UniqueIds screen.view.transcript := by
  refine uniqueIds_of_nodup (System.invariant_of_step
    (I := fun screen => (rowKeys screen.view.transcript).Nodup) ?_
    (fun _ _ _ hnodup hkeeps hnext => nodup_next hnodup hkeeps hnext) h)
  rintro _ ⟨sessionId, session, now, rfl⟩
  exact .nil

/-! ## a tool call on two pages -/

def sampleScreen : Screen := { view := { sessionId := "s1" } }

theorem begins_sampleScreen : sampleScreen.Begins := ⟨"s1", none, ⟨0⟩, rfl⟩

/-- An update of a tool call. -/
def sampleToolEvent (sequence : Nat) (id : String) : GatewayEvent :=
  .ofFrame "s1" ⟨sequence, 1000, .toolCall
    { id, title := "Run", kind := some "execute", status := .inProgress, detail := none
      content := [], locations := [], rawInput := none, rawOutput := none }⟩

/-- A load whose first page has the last event only. -/
def sampleFirstPage (last : GatewayEvent) : List Screen.Action :=
  [.loadSnapshot,
    .acknowledged (.ok (some
      { session := sampleClientSummary, replayed := [], latestSequence := 3
        oldestAvailableSequence := some 1, resyncRequired := false })),
    .pageLoaded (.ok (some
      { session := sampleClientSummary, events := [last], latestSequence := 3
        oldestAvailableSequence := some 1, hasMore := true })),
    .inspected (.ok none), .loadOlderHistory]

/-- The page before it. -/
def sampleOlderPage (events : List GatewayEvent) : Screen.Action :=
  .olderLoaded (.ok (some
    { session := sampleClientSummary, events, latestSequence := 3
      oldestAvailableSequence := some 1, hasMore := false }))

/-- Two tool calls on two pages, and a message that is echoed and then told. -/
theorem Screen.rows_have_unique_ids_sample :
    ∃ screen : Screen, screen.view.transcript.length = 4 ∧ UniqueIds screen.view.transcript := by
  let actions : List Action :=
    sampleFirstPage (sampleToolEvent 3 "t2") ++
      [sampleOlderPage [sampleUserMessage 1 "one", sampleToolEvent 2 "t1"], .send " two " "u1",
        .pushed (.event (sampleUserMessage 4 "two")), .sent (.ok ())]
  have hkeeps : System.runsUnder Screen.next Keeps sampleScreen actions := by
    decide +kernel
  have hends : (System.runs Screen.next sampleScreen actions).map
      (fun screen => screen.view.transcript.length) = some 4 := by
    decide +kernel
  obtain ⟨screen, hruns, hlength⟩ := Option.map_eq_some_iff.mp hends
  exact ⟨screen, hlength, Screen.rows_have_unique_ids
    (System.reachUnder_of_runs actions begins_sampleScreen hkeeps hruns)⟩

/-- Two updates of one tool call on two pages make two rows of one id. -/
theorem Screen.pages_repeat_row :
    ¬ ∀ screen : Screen, system.Reachable screen → UniqueIds screen.view.transcript := by
  intro hunique
  let actions : List Action :=
    sampleFirstPage (sampleToolEvent 3 "t1") ++ [sampleOlderPage [sampleToolEvent 2 "t1"]]
  have hends : (System.runs Screen.next sampleScreen actions).map
      (fun screen => rowIds (fun n => .ofList (List.replicate n 'u')) screen.view.transcript) =
        some ["tool-t1", "tool-t1"] := by
    decide +kernel
  obtain ⟨screen, hruns, hids⟩ := Option.map_eq_some_iff.mp hends
  have huuid : (fun n => String.ofList (List.replicate n 'u')).Injective := by
    intro m n hsame
    simpa using congrArg (fun text : String => text.toList.length) hsame
  have hnodup := hunique screen (System.reachable_of_runs actions begins_sampleScreen hruns) _ huuid
  rw [hids] at hnodup
  exact absurd hnodup (by decide)

end Slight.Client
