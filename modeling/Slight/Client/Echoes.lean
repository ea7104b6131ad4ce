import Slight.Client.Screen
import Slight.Session.Prompts
import Slight.Support.Queue

/-!
# Slight.Client.Echoes

Messages that are sent, their echoes, and the messages the host tells of them.

`own` takes from the transcript what is the user's: the echoes and the messages told.
A message told gives way to the first echo of its text, whichever send left it, or is
put at the end; an echo of a failed send is taken out; a history that is rebuilt
loses every echo.  The echoes of each text are therefore always the last of the sends
of that text still to be told (`Trails`).
-/

namespace Slight.Client

open Support

/-! ## what is the user's -/

/-- The messages of the transcript. -/
def messages (transcript : List TranscriptItem) : List SessionMessage :=
  transcript.filterMap TranscriptItem.message?

/-- The message is the user's, or an echo. -/
def SessionMessage.isOwn (message : SessionMessage) : Bool :=
  message.isLocal || message.role = .user

/-- The user's messages and the echoes. -/
def own (transcript : List TranscriptItem) : List SessionMessage :=
  (messages transcript).filter SessionMessage.isOwn

@[simp] theorem own_nil : own [] = [] := rfl

@[simp] theorem own_append (transcript more : List TranscriptItem) :
    own (transcript ++ more) = own transcript ++ own more := by
  rw [own, own, own, messages, messages, messages, List.filterMap_append, List.filter_append]

@[simp] theorem own_message (message : SessionMessage) :
    own [.message message] = if message.isOwn then [message] else [] := by
  cases h : message.isOwn <;> simp [own, messages, TranscriptItem.message?, h]

@[simp] theorem own_toolCall (toolCall : ToolCall) : own [.toolCall toolCall] = [] := rfl

@[simp] theorem own_notice (notice : TranscriptNotice) : own [.notice notice] = [] := rfl

theorem own_cons (item : TranscriptItem) (rest : List TranscriptItem) :
    own (item :: rest) = own [item] ++ own rest := own_append [item] rest

theorem own_message_of {message : SessionMessage} (h : message.isOwn = true) :
    own [.message message] = [message] := by
  rw [own_message, if_pos h]

theorem own_message_of_not {message : SessionMessage} (h : message.isOwn = false) :
    own [.message message] = [] := by
  rw [own_message, h]
  rfl

theorem own_reverse (transcript : List TranscriptItem) :
    own transcript.reverse = (own transcript).reverse := by
  rw [own, own, messages, messages, List.filterMap_reverse, List.filter_reverse]

theorem mem_own {transcript : List TranscriptItem} {message : SessionMessage} :
    message ∈ own transcript ↔ message ∈ messages transcript ∧ message.isOwn = true :=
  List.mem_filter

/-- Replacing an item by one with as much of the user's leaves what is the user's. -/
theorem own_replaceFirst {f : TranscriptItem → Option TranscriptItem}
    {transcript transcript' : List TranscriptItem}
    (hf : ∀ item item', f item = some item' → item ∈ transcript → own [item'] = own [item])
    (h : replaceFirst f transcript = some transcript') : own transcript' = own transcript := by
  obtain ⟨before, item, item', after, rfl, hitem, rfl⟩ := replaceFirst_eq_some h
  have hsame := hf item item' hitem (by simp)
  rw [own_append, own_append, own_cons item', own_cons item, hsame]

theorem own_replaceLast {f : TranscriptItem → Option TranscriptItem}
    {transcript transcript' : List TranscriptItem}
    (hf : ∀ item item', f item = some item' → item ∈ transcript → own [item'] = own [item])
    (h : replaceLast f transcript = some transcript') : own transcript' = own transcript := by
  obtain ⟨reversed, hreversed, rfl⟩ := Option.map_eq_some_iff.mp h
  have hmem : ∀ item ∈ transcript.reverse, item ∈ transcript := fun _ => List.mem_reverse.mp
  rw [own_reverse, own_replaceFirst (fun item item' hitem hin => hf item item' hitem (hmem item hin))
    hreversed, own_reverse, List.reverse_reverse]

/-! ## what events make of it -/

/-- A message told in the place of the first echo of its text, or at the end. -/
def tell (messages : List SessionMessage) (incoming : SessionMessage) : List SessionMessage :=
  (replaceFirst (fun existing =>
    if existing.isLocal ∧ existing.text = incoming.text then some incoming else none)
    messages).getD (messages ++ [incoming])

theorem tell_nil (incoming : SessionMessage) : tell [] incoming = [incoming] := rfl

theorem tell_cons (message : SessionMessage) (messages : List SessionMessage)
    (incoming : SessionMessage) :
    tell (message :: messages) incoming =
      if message.isLocal ∧ message.text = incoming.text then incoming :: messages
      else message :: tell messages incoming := by
  rw [tell, replaceFirst]
  by_cases hecho : message.isLocal ∧ message.text = incoming.text
  · rw [if_pos hecho, if_pos hecho]
    rfl
  · rw [if_neg hecho, if_neg hecho, tell]
    cases replaceFirst (fun existing : SessionMessage =>
      if existing.isLocal ∧ existing.text = incoming.text then some incoming else none)
        messages <;> rfl

/-- The same on the transcript. -/
def tellItem (transcript : List TranscriptItem) (incoming : SessionMessage) :
    List TranscriptItem :=
  (replaceFirst (onMessage fun existing =>
    if existing.isLocal ∧ existing.text = incoming.text then some incoming else none)
    transcript).getD (transcript ++ [.message incoming])

theorem tellItem_cons (item : TranscriptItem) (rest : List TranscriptItem)
    (incoming : SessionMessage) :
    tellItem (item :: rest) incoming =
      match onMessage (fun existing =>
        if existing.isLocal ∧ existing.text = incoming.text then some incoming else none) item with
      | some item' => item' :: rest
      | none => item :: tellItem rest incoming := by
  rw [tellItem, replaceFirst]
  cases onMessage (fun existing => if existing.isLocal ∧ existing.text = incoming.text
    then some incoming else none) item with
  | some item' => rfl
  | none =>
      rw [tellItem]
      cases replaceFirst (onMessage fun existing =>
        if existing.isLocal ∧ existing.text = incoming.text then some incoming else none) rest <;>
        rfl

/-- What is the user's after a message of the user's was told. -/
theorem own_tellItem {incoming : SessionMessage} (h : incoming.isOwn = true)
    (transcript : List TranscriptItem) :
    own (tellItem transcript incoming) = tell (own transcript) incoming := by
  induction transcript with
  | nil => exact own_message_of h
  | cons item rest ih =>
      rw [tellItem_cons]
      cases item with
      | message message =>
          by_cases hecho : message.isLocal ∧ message.text = incoming.text
          · have hown : message.isOwn = true := by simp [SessionMessage.isOwn, hecho.1]
            have hgives : onMessage (fun existing => if existing.isLocal ∧
                existing.text = incoming.text then some incoming else none) (.message message) =
                  some (.message incoming) := by
              simp [onMessage, TranscriptItem.message?, hecho]
            rw [hgives]
            dsimp only
            rw [own_cons, own_cons (.message message), own_message_of h, own_message_of hown]
            exact ((tell_cons _ _ _).trans (if_pos hecho)).symm
          · have hstays : onMessage (fun existing => if existing.isLocal ∧
                existing.text = incoming.text then some incoming else none) (.message message) =
                  none := by
              simp only [onMessage, TranscriptItem.message?, Option.bind_some, if_neg hecho,
                Option.map_none]
            rw [hstays]
            dsimp only
            rw [own_cons, own_cons (.message message) rest, ih]
            by_cases hown : message.isOwn = true
            · rw [own_message_of hown]
              exact ((tell_cons _ _ _).trans (if_neg hecho)).symm
            · rw [own_message_of_not (Bool.not_eq_true _ ▸ hown)]
              rfl
      | toolCall toolCall => exact (own_cons _ _).trans ih
      | notice notice => exact (own_cons _ _).trans ih

theorem mergeMessage_user {payload : MessagePayload} (hid : payload.id = none)
    (hrole : payload.role = .user) (eventSequence : Int) (transcript : List TranscriptItem) :
    mergeMessage payload eventSequence transcript =
      tellItem transcript (payload.shown eventSequence) := by
  have hshown : (payload.shown eventSequence).role = .user := hrole
  unfold mergeMessage
  rw [hid]
  dsimp only [Option.bind_none]
  rw [hshown]
  rfl

/-- A message of another role, under the number of its event, does not touch what is the
user's, if every echo is the user's. -/
theorem own_mergeMessage_other {payload : MessagePayload} (hid : payload.id = none)
    (hrole : payload.role ≠ .user) (eventSequence : Int) {transcript : List TranscriptItem}
    (huser : ∀ message ∈ own transcript, message.role = .user) :
    own (mergeMessage payload eventSequence transcript) = own transcript := by
  have hshown : (payload.shown eventSequence).role = payload.role := rfl
  have hother : (payload.shown eventSequence).isOwn = false := by
    have hlocal : (payload.shown eventSequence).isLocal = false := by
      simp [SessionMessage.isLocal, MessagePayload.shown, hid, List.isPrefixOf]
    simp [SessionMessage.isOwn, hlocal, hshown, hrole]
  have happended : own (transcript ++ [.message (payload.shown eventSequence)]) =
      own transcript := by
    rw [own_append, own_message_of_not hother, List.append_nil]
  unfold mergeMessage
  rw [hid]
  dsimp only [Option.bind_none]
  split
  · next existing hrole' hlast =>
      split
      · next hassistant =>
          have hsplit := List.dropLast_append_getLast? _ hlast
          have hnot : existing.isOwn = false := by
            by_contra hown
            have hmem : existing ∈ own transcript := by
              rw [← hsplit, own_append, own_message_of (by simpa using hown)]
              exact List.mem_append_right _ List.mem_cons_self
            rw [huser existing hmem] at hassistant
            cases hassistant
          have hsame : own transcript = own transcript.dropLast := by
            conv_lhs => rw [← hsplit]
            rw [own_append, own_message_of_not hnot, List.append_nil]
          have hextended : own [.message { existing with
              blocks := (payload.shown eventSequence).blocks.foldl joinBlock existing.blocks
              isStreaming := (payload.shown eventSequence).isStreaming
              at_ := (payload.shown eventSequence).at_.or existing.at_ }] = [] :=
            own_message_of_not hnot
          rw [own_append, hextended, List.append_nil, hsame]
      · exact happended
  · next hrole' =>
      exact absurd hrole' hrole
  · exact happended

theorem own_upsert (toolCall : ToolCall) (transcript : List TranscriptItem) :
    own (upsert toolCall transcript) = own transcript := by
  unfold upsert
  cases h : replaceFirst toolCall.mergeInto transcript with
  | none => simp
  | some transcript' =>
      refine own_replaceFirst (fun item item' hitem _ => ?_) h
      cases item with
      | toolCall existing =>
          rw [ToolCall.mergeInto] at hitem
          dsimp only [TranscriptItem.toolCall?] at hitem
          split at hitem
          · rw [← Option.some.inj hitem]
            rfl
          · cases hitem
      | message message => cases hitem
      | notice notice => cases hitem

theorem forall_mem_tell {p : SessionMessage → Prop} {messages : List SessionMessage}
    {incoming : SessionMessage} (h : ∀ message ∈ messages, p message) (hincoming : p incoming) :
    ∀ message ∈ tell messages incoming, p message := by
  induction messages with
  | nil => simpa [tell_nil] using hincoming
  | cons message messages ih =>
      obtain ⟨hfirst, hrest⟩ := List.forall_mem_cons.mp h
      rw [tell_cons]
      split
      · exact List.forall_mem_cons.mpr ⟨hincoming, hrest⟩
      · exact List.forall_mem_cons.mpr ⟨hfirst, ih hrest⟩

/-! ## echoes and messages told -/

/-- A send as its echo shows it. -/
structure Echo where
  id : String
  text : String
  deriving DecidableEq

@[simps] def SessionMessage.echo (message : SessionMessage) : Echo := ⟨message.id, message.text⟩

/-- The echoes among messages. -/
def echoes (messages : List SessionMessage) : List Echo :=
  (messages.filter (·.isLocal)).map SessionMessage.echo

/-- The messages that are not echoes. -/
def genuine (messages : List SessionMessage) : List SessionMessage :=
  messages.filter (!·.isLocal)

/-- **A message told** takes the place of the first echo of its text. -/
theorem echoes_tell {incoming : SessionMessage} (hincoming : incoming.isLocal = false)
    (messages : List SessionMessage) :
    echoes (tell messages incoming) = (echoes messages).eraseP (·.text = incoming.text) := by
  induction messages with
  | nil => simp [tell_nil, echoes, hincoming]
  | cons message messages ih =>
      rw [tell_cons]
      by_cases hlocal : message.isLocal = true
      · have hcons : echoes (message :: messages) = message.echo :: echoes messages := by
          rw [echoes, List.filter_cons_of_pos hlocal]
          rfl
        by_cases htext : message.text = incoming.text
        · rw [if_pos ⟨hlocal, htext⟩, hcons, List.eraseP_cons_of_pos (by simpa using htext), echoes,
            List.filter_cons_of_neg (by simp [hincoming]), echoes]
        · rw [if_neg (fun h => htext h.2), hcons, List.eraseP_cons_of_neg (by simpa using htext),
            ← ih, echoes, List.filter_cons_of_pos hlocal]
          rfl
      · rw [if_neg (fun h => hlocal h.1), echoes, List.filter_cons_of_neg hlocal, ← echoes, ih,
          echoes, echoes, List.filter_cons_of_neg hlocal]

theorem genuine_tell {incoming : SessionMessage} (hincoming : incoming.isLocal = false)
    (messages : List SessionMessage) :
    (genuine (tell messages incoming)).Perm (incoming :: genuine messages) := by
  induction messages with
  | nil => simp [tell_nil, genuine, hincoming]
  | cons message messages ih =>
      rw [tell_cons]
      by_cases hlocal : message.isLocal = true
      · have hcons : genuine (message :: messages) = genuine messages := by
          rw [genuine, List.filter_cons_of_neg (by simp [hlocal])]
          rfl
        split
        · rw [genuine, List.filter_cons_of_pos (by simp [hincoming]), hcons]
          exact .refl _
        · rw [hcons, genuine, List.filter_cons_of_neg (by simp [hlocal])]
          exact ih
      · have hcons : ∀ rest, genuine (message :: rest) = message :: genuine rest := fun rest => by
          rw [genuine, List.filter_cons_of_pos (by simpa using hlocal), genuine]
        rw [if_neg (fun h => hlocal h.1), hcons, hcons]
        exact (ih.cons message).trans (.swap incoming message _)

/-- Where there is no echo, messages are told in their order. -/
theorem foldl_tell {incoming : List SessionMessage} (h : ∀ m ∈ incoming, m.isLocal = false)
    {messages : List SessionMessage} (hmessages : ∀ m ∈ messages, m.isLocal = false) :
    incoming.foldl tell messages = messages ++ incoming := by
  induction incoming generalizing messages with
  | nil => rw [List.foldl_nil, List.append_nil]
  | cons first incoming ih =>
      obtain ⟨hfirst, hrest⟩ := List.forall_mem_cons.mp h
      have hend : tell messages first = messages ++ [first] := by
        have hnone : replaceFirst (fun existing : SessionMessage =>
            if existing.isLocal ∧ existing.text = first.text then some first else none)
              messages = none := by
          cases hreplace : replaceFirst _ messages with
          | none => rfl
          | some replaced =>
              obtain ⟨before, a, b, after, rfl, ha, -⟩ := replaceFirst_eq_some hreplace
              simp [hmessages a (by simp)] at ha
        rw [tell, hnone]
        rfl
      rw [List.foldl_cons, hend, ih hrest, List.append_assoc]
      · rfl
      · simpa [or_imp, forall_and] using ⟨hmessages, hfirst⟩

theorem echoes_append (messages more : List SessionMessage) :
    echoes (messages ++ more) = echoes messages ++ echoes more := by
  rw [echoes, List.filter_append, List.map_append]
  rfl

theorem genuine_append (messages more : List SessionMessage) :
    genuine (messages ++ more) = genuine messages ++ genuine more := List.filter_append ..

theorem echoes_filter_id (messages : List SessionMessage) (id : String) :
    echoes (messages.filter (·.id ≠ id)) = (echoes messages).filter (·.id ≠ id) := by
  rw [echoes, echoes, List.filter_map, List.filter_filter, List.filter_filter]
  exact congrArg _ (List.filter_congr fun message _ => Bool.and_comm _ _)

/-- A message that is not an echo does not have the id of one. -/
theorem genuine_filter_id {id : String} (h : "local-".toList.isPrefixOf id.toList = true)
    (messages : List SessionMessage) :
    genuine (messages.filter (·.id ≠ id)) = genuine messages := by
  rw [genuine, List.filter_filter]
  refine List.filter_congr fun message _ => ?_
  by_cases hid : message.id = id
  · have hlocal : message.isLocal = true := by rwa [SessionMessage.isLocal, hid]
    simp [hlocal]
  · simp [hid]

/-- Where no echo is left, everything was told. -/
theorem genuine_of_echoes_eq_nil {messages : List SessionMessage} (h : echoes messages = []) :
    genuine messages = messages := by
  refine List.filter_eq_self.mpr fun message hmem => ?_
  have hnone := List.filter_eq_nil_iff.mp (List.map_eq_nil_iff.mp h) message hmem
  simpa using hnone

/-! ## what the host's events tell -/

end Slight.Client

namespace Slight

open Support

/-- The message of the user's that an event tells, as it is shown. -/
def SequencedEvent.own? (sequenced : SequencedEvent) : Option Client.SessionMessage :=
  match sequenced.event with
  | .message payload =>
      if payload.role = .user then
        payload.received.map fun received => received.shown sequenced.sequence
      else none
  | _ => none

theorem MessagePayload.received_eq_some {payload : MessagePayload}
    {received : Client.MessagePayload} (h : payload.received = some received) :
    received.id = none ∧ received.role = payload.role := by
  obtain ⟨blocks, -, rfl⟩ := Option.map_eq_some_iff.mp h
  exact ⟨rfl, rfl⟩

theorem SequencedEvent.of_own? {sequenced : SequencedEvent} {message : Client.SessionMessage}
    (h : sequenced.own? = some message) :
    sequenced.event.isUserMessage = true ∧ message.role = .user ∧
      message.id = "event-" ++ toString (sequenced.sequence : Int) ∧ message.isLocal = false := by
  obtain ⟨sequence, timestampMs, event⟩ := sequenced
  cases event with
  | message payload =>
      rw [own?] at h
      dsimp only at h
      by_cases hrole : payload.role = .user
      · rw [if_pos hrole] at h
        obtain ⟨received, hreceived, rfl⟩ := Option.map_eq_some_iff.mp h
        obtain ⟨hid, hsame⟩ := MessagePayload.received_eq_some hreceived
        have hshown : (received.shown sequence).id = "event-" ++ toString (sequence : Int) := by
          rw [Client.MessagePayload.shown, hid]
          rfl
        refine ⟨by simpa [SessionEvent.isUserMessage] using hrole, hsame.trans hrole, hshown, ?_⟩
        rw [Client.SessionMessage.isLocal, hshown]
        simp [List.isPrefixOf]
      · rw [if_neg hrole] at h
        cases h
  | _ => cases h

namespace Client.SessionViewModel

variable {view : SessionViewModel}

theorem transcript_applyEvent_message (sessionId : String) (sequence : Nat) (timestampMs : Int)
    (payload : Slight.MessagePayload) (view : SessionViewModel) :
    (view.applyEvent (.ofFrame sessionId ⟨sequence, timestampMs, .message payload⟩)).transcript =
      match payload.received with
      | some received => mergeMessage received sequence view.transcript
      | none => view.transcript := by
  have hread : payloadAs Client.MessagePayload
      (Client.GatewayEvent.ofFrame sessionId ⟨sequence, timestampMs, .message payload⟩).payload =
        payload.received :=
    (payloadAs_decode (SessionEvent.payload_ne_null (.message payload))).trans
      payload.decode_trip_received
  have hname : (GatewayEvent.ofFrame sessionId ⟨sequence, timestampMs, .message payload⟩).event =
      "session.message" := rfl
  unfold applyEvent
  rw [hname]
  dsimp only
  rw [hread]
  cases payload.received <;> rfl

/-- An event that brings no message does not touch what is the user's. -/
theorem own_applyEvent_of_ne {event : GatewayEvent} (hname : event.event ≠ "session.message")
    (huser : ∀ message ∈ own view.transcript, message.role = .user) :
    own (view.applyEvent event).transcript = own view.transcript := by
  unfold applyEvent
  split
  · next hmessage => exact absurd hmessage hname
  · split
    · exact own_upsert _ _
    · rfl
  · split <;> rfl
  · split <;> rfl
  · split
    · dsimp only
      split <;> rfl
    · rfl
  · split <;> rfl
  · split <;> rfl
  · exact (own_append _ _).trans (List.append_nil _)
  · split
    · dsimp only
      split
      · split <;> rfl
      · rfl
    · rfl
  · split
    · split <;> rfl
    · rfl
  · split
    · split
      · dsimp only
        cases hreplace : replaceLast _ view.transcript with
        | none => rfl
        | some transcript' =>
            refine own_replaceLast (fun item item' hitem hmem => ?_) hreplace
            obtain ⟨message, message', rfl, hmessage, rfl⟩ := onMessage_eq_some_iff.mp hitem
            split at hmessage
            · next hassistant =>
                have hnot : message.isOwn = false := by
                  by_contra hown
                  have hin : message ∈ own view.transcript :=
                    mem_own.mpr ⟨List.mem_filterMap.mpr ⟨_, hmem, rfl⟩, by simpa using hown⟩
                  rw [huser message hin] at hassistant
                  cases hassistant
                rw [own_message_of_not hnot, ← Option.some.inj hmessage]
                exact own_message_of_not hnot
            · cases hmessage
      · rfl
    · rfl
  · rfl

/-- **An event of the host** tells the user's message in it, if there is one. -/
theorem own_applyEvent (sessionId : String) (sequenced : SequencedEvent)
    (huser : ∀ message ∈ own view.transcript, message.role = .user) :
    own (view.applyEvent (.ofFrame sessionId sequenced)).transcript =
      match sequenced.own? with
      | some message => tell (own view.transcript) message
      | none => own view.transcript := by
  obtain ⟨sequence, timestampMs, event⟩ := sequenced
  cases event with
  | message payload =>
      rw [transcript_applyEvent_message, SequencedEvent.own?]
      dsimp only
      cases hreceived : payload.received with
      | none => split <;> simp_all
      | some received =>
          obtain ⟨hid, hrole⟩ := MessagePayload.received_eq_some hreceived
          dsimp only
          by_cases hrole' : payload.role = .user
          · rw [if_pos hrole', mergeMessage_user hid (hrole.trans hrole')]
            refine own_tellItem ?_ view.transcript
            simp [SessionMessage.isOwn, MessagePayload.shown, hrole.trans hrole']
          · rw [if_neg hrole']
            exact own_mergeMessage_other hid (hrole ▸ hrole') sequence huser
  | _ =>
      refine own_applyEvent_of_ne ?_ huser
      simp [GatewayEvent.ofFrame, SessionEvent.name]

/-- **Events of the host** tell the user's messages in them, one after the other. -/
theorem own_showing (sessionId : String) (events : List SequencedEvent)
    (huser : ∀ message ∈ own view.transcript, message.role = .user) :
    own (view.showing (events.map (.ofFrame sessionId))).transcript =
      (events.filterMap SequencedEvent.own?).foldl tell (own view.transcript) := by
  induction events generalizing view with
  | nil => rfl
  | cons sequenced events ih =>
      have hfirst := own_applyEvent sessionId sequenced huser
      have hrest : ∀ message ∈
          own (view.applyEvent (.ofFrame sessionId sequenced)).transcript,
            message.role = .user := by
        rw [hfirst]
        cases htold : sequenced.own? with
        | none => exact huser
        | some told => exact forall_mem_tell huser (SequencedEvent.of_own? htold).2.1
      refine (ih hrest).trans ?_
      rw [hfirst, List.filterMap_cons]
      cases sequenced.own? <;> rfl

end Client.SessionViewModel

namespace Client

/-! ## sending and loading -/

theorem own_filter_id (transcript : List TranscriptItem) (localId : String) :
    own (transcript.filter fun item => item.message?.map (·.id) ≠ some localId) =
      (own transcript).filter (·.id ≠ localId) := by
  induction transcript with
  | nil => rfl
  | cons item rest ih =>
      cases item with
      | message message =>
          have hitem : (TranscriptItem.message message).message?.map (·.id) = some message.id := rfl
          rw [own_cons (.message message) rest, List.filter_append, ← ih, own_message]
          by_cases hid : message.id = localId
          · rw [List.filter_cons_of_neg (by simp [hitem, hid])]
            split <;> simp [hid]
          · rw [List.filter_cons_of_pos (by simp [hitem, hid]), own_cons, own_message]
            split <;> simp [hid]
      | toolCall toolCall => exact ih
      | notice notice => exact ih

theorem mem_freshEvents_loaded (events : List GatewayEvent) (loaded : Finset Int) (n : Int) :
    n ∈ (SessionViewModel.freshEvents events loaded).2 ↔
      n ∈ loaded ∨ ∃ event ∈ events, event.sequence = n := by
  induction events generalizing loaded with
  | nil => simp [SessionViewModel.freshEvents]
  | cons event events ih =>
      rw [SessionViewModel.freshEvents]
      split
      · next hloaded =>
          rw [ih]
          simp only [List.mem_cons, exists_eq_or_imp]
          constructor
          · exact fun h => h.imp_right .inr
          · rintro (h | rfl | h)
            · exact .inl h
            · exact .inl hloaded
            · exact .inr h
      · dsimp only
        rw [ih, Finset.mem_insert]
        simp only [List.mem_cons, exists_eq_or_imp]
        constructor
        · rintro ((rfl | h) | h)
          · exact .inr (.inl rfl)
          · exact .inl h
          · exact .inr (.inr h)
        · rintro (h | rfl | h)
          · exact .inl (.inr h)
          · exact .inl (.inl rfl)
          · exact .inr h

namespace SessionViewModel

theorem loadedHistorySequences_applyEvent (view : SessionViewModel) (event : GatewayEvent) :
    (view.applyEvent event).loadedHistorySequences = view.loadedHistorySequences := by
  obtain ⟨_, _, _, _, _, _, _, hupdate⟩ := view.applyEvent_update event
  rw [hupdate]

/-- **A live event** is loaded and tells the user's message in it. -/
theorem live_spec {view : SessionViewModel} (hidle : view.isAttaching = false)
    (hignored : view.replaySequencesToIgnore = ∅) (sequenced : SequencedEvent)
    (huser : ∀ message ∈ own view.transcript, message.role = .user) :
    let view' := view.handle (.event (.ofFrame view.sessionId sequenced))
    view'.isAttaching = false ∧ view'.replaySequencesToIgnore = ∅ ∧
      view'.loadedHistorySequences =
        insert (sequenced.sequence : Int) view.loadedHistorySequences ∧
      own view'.transcript =
        match sequenced.own? with
        | some message => tell (own view.transcript) message
        | none => own view.transcript := by
  have hname : (GatewayEvent.ofFrame view.sessionId sequenced).event ≠ "replay.complete" := by
    rw [GatewayEvent.ofFrame]
    cases sequenced.event <;> simp [SessionEvent.name]
  have hhandle := handle_event rfl hname hignored
  rw [hidle, if_neg Bool.false_ne_true] at hhandle
  have hsteering := view.steering_handleEvent (.ofFrame view.sessionId sequenced)
  have hrecorded : (view.record (.ofFrame view.sessionId sequenced)).transcript =
      view.transcript := (view.record_alike _).transcript
  have hloaded : (view.record (.ofFrame view.sessionId sequenced)).loadedHistorySequences =
      insert (sequenced.sequence : Int) view.loadedHistorySequences := by
    rw [record]
    split
    · rfl
    · next hold =>
        have hmem : (sequenced.sequence : Int) ∈ view.loadedHistorySequences := by
          by_contra hnew
          exact hold ⟨hname, hnew⟩
        exact (Finset.insert_eq_of_mem hmem).symm
  dsimp only
  rw [hhandle]
  refine ⟨(congrArg Steering.isAttaching hsteering).trans hidle,
    (congrArg Steering.replaySequencesToIgnore hsteering).trans hignored, ?_, ?_⟩
  · rw [handleEvent, loadedHistorySequences_applyEvent, hloaded]
  · rw [handleEvent, own_applyEvent _ _ (hrecorded.symm ▸ huser), hrecorded]

/-- `loadSnapshot` where nothing arrives but its answers. -/
def reload (view : SessionViewModel) (attach : SessionAttachResult) (page : SessionHistoryResult)
    (inspection : Response SessionInspectResult) : Option SessionViewModel :=
  (view.beginSnapshot.attached attach).requestHistory.map fun view =>
    (view.pageLoaded (.ok (some page))).inspected inspection

theorem loadedHistorySequences_inspected (view : SessionViewModel)
    (response : Response SessionInspectResult) :
    (view.inspected response).loadedHistorySequences = view.loadedHistorySequences := by
  cases response <;> rfl

/-- **A load** shows the page and nothing else. -/
theorem reload_spec {view view' : SessionViewModel} {attach : SessionAttachResult}
    {page : SessionHistoryResult} {inspection : Response SessionInspectResult}
    (hattach : attach.replayed = [])
    (hpage : page.events.Pairwise fun a b => a.sequence < b.sequence)
    (h : view.reload attach page inspection = some view') :
    view'.isAttaching = false ∧ view'.replaySequencesToIgnore = ∅ ∧
      (∃ sessionId, view'.transcript =
        (showing { sessionId := sessionId } page.events).transcript) ∧
      ∀ n, n ∈ view'.loadedHistorySequences ↔ ∃ event ∈ page.events, event.sequence = n := by
  obtain ⟨requested, hrequest, rfl⟩ := Option.map_eq_some_iff.mp h
  have hsteering := view.beginSnapshot.steering_attached hattach
  have hloaded := view.beginSnapshot.loadedHistorySequences_attached hattach
  generalize view.beginSnapshot.attached attach = attached at hrequest hsteering hloaded
  have hsame : requested = { attached with isLoadingHistory := true } := by
    rw [requestHistory] at hrequest
    split at hrequest
    · cases hrequest
    · exact (Option.some.inj hrequest).symm
  have hempty : requested.loadedHistorySequences = ∅ := by rw [hsame, ← hloaded]
  have hnone : requested.replaySequencesToIgnore = ∅ := by
    rw [hsame]
    exact congrArg Steering.replaySequencesToIgnore hsteering
  have hinspected := (requested.pageLoaded (.ok (some page))).steering_inspected inspection
  refine ⟨congrArg Steering.isAttaching hinspected,
    (congrArg Steering.replaySequencesToIgnore hinspected).trans hnone,
    ⟨requested.sessionId, ?_⟩, fun n => ?_⟩
  · rw [transcript_inspected]
    exact (requested.pageLoaded_alike hpage hempty).transcript
  · rw [loadedHistorySequences_inspected]
    have hfresh : (requested.pageLoaded (.ok (some page))).loadedHistorySequences =
        (freshEvents page.events ∅).2 := by rw [← hempty]; rfl
    rw [hfresh, mem_freshEvents_loaded]
    simp

end SessionViewModel

/-! ## the view and the host -/

/-- A send that the host accepted, with the event that tells it. -/
structure Accepted where
  echo : Echo
  blockId : String
  sequence : Nat

namespace Accepted

/-- The event's payload, as `send_prompt` appends it. -/
def event (send : Accepted) : SessionEvent :=
  .message
    { role := .user
      text := send.echo.text
      blocks := [.fromNormalized send.blockId (.text send.echo.text)] }

/-- The message it is shown as. -/
def message (send : Accepted) : SessionMessage where
  id := "event-" ++ toString (send.sequence : Int)
  role := .user
  blocks := [.fromNormalized send.blockId (.text send.echo.text)]
  isStreaming := false

@[simp] theorem text_message (send : Accepted) : send.message.text = send.echo.text :=
  String.empty_append

theorem own?_event (send : Accepted) (timestampMs : Int) :
    SequencedEvent.own? ⟨send.sequence, timestampMs, send.event⟩ = some send.message := rfl

/-- The message is the user's and says what was sent. -/
def isShownBy (send : Accepted) (message : SessionMessage) : Bool :=
  message.role = .user && message.id = "event-" ++ toString (send.sequence : Int) &&
    message.text = send.echo.text

end Accepted

/-- A view that no load is in progress on, with the session at the host.  `pending`,
`accepted`, `failed` and `drawn` are history variables: the accepted sends whose
messages are still to be delivered, all accepted sends, all failed ones, and the ids
drawn for echoes. -/
structure Chat where
  view : SessionViewModel
  /-- The echo of the message that is being delivered. -/
  sending : Option Echo := none
  /-- The host accepted it. -/
  isAccepted : Bool := false
  /-- The events of the session, and how many of them were delivered live. -/
  history : List SequencedEvent := []
  delivered : Nat := 0
  pending : List Echo := []
  accepted : List Accepted := []
  failed : List Echo := []
  drawn : List String := []

/-- What is done on either side.  A load is given the numbers of the events on its page. -/
inductive Chat.Action where
  | send (draft uuid : String)
  | accept (blockId : String) (timestampMs : Int)
  | answered (response : Except String Unit)
  | append (event : SessionEvent) (timestampMs : Int)
  | deliver
  | reload (attach : SessionAttachResult) (held : List Nat) (page : SessionHistoryResult)
      (inspection : Response SessionInspectResult)

namespace Chat

/-- The sends whose messages are still to be told. -/
def awaited (chat : Chat) : List Echo :=
  chat.pending ++ if chat.isAccepted then [] else chat.sending.toList

/-- The page that holds some of the session's events. -/
def pageOf (chat : Chat) (held : List Nat) (page : SessionHistoryResult) : SessionHistoryResult :=
  { page with
    events := (chat.history.filter (·.sequence ∈ held)).map (.ofFrame chat.view.sessionId) }

/-- A send is answered with success just when the host accepted it; no message of the
user's is appended but for sends; an echo draws a new id; and the host's attach brings no
events. -/
def next (chat : Chat) : Action → Option Chat
  | .send draft uuid =>
      if trimmed draft = "" ∨ chat.sending.isSome then some chat
      else if "local-" ++ uuid ∈ chat.drawn then none
      else
        some { chat with
          view := chat.view.send ("local-" ++ uuid) (trimmed draft)
          sending := some ⟨"local-" ++ uuid, trimmed draft⟩
          isAccepted := false
          drawn := ("local-" ++ uuid) :: chat.drawn }
  | .accept blockId timestampMs =>
      if chat.isAccepted then none
      else
        chat.sending.map fun echo =>
          let send : Accepted := ⟨echo, blockId, chat.history.length + 1⟩
          { chat with
            isAccepted := true
            history := chat.history ++ [⟨send.sequence, timestampMs, send.event⟩]
            pending := chat.pending ++ [echo]
            accepted := chat.accepted ++ [send] }
  | .answered (.ok ()) =>
      if chat.isAccepted then
        chat.sending.map fun echo =>
          { chat with
            view := chat.view.sent echo.id (.ok ()), sending := none, isAccepted := false }
      else none
  | .answered (.error message) =>
      if chat.isAccepted then none
      else
        chat.sending.map fun echo =>
          { chat with
            view := chat.view.sent echo.id (.error message)
            sending := none
            failed := chat.failed ++ [echo] }
  | .append event timestampMs =>
      if event.isUserMessage then none
      else
        some { chat with
          history := chat.history ++ [⟨chat.history.length + 1, timestampMs, event⟩] }
  | .deliver =>
      chat.history[chat.delivered]?.map fun sequenced =>
        { chat with
          view := chat.view.handle (.event (.ofFrame chat.view.sessionId sequenced))
          delivered := chat.delivered + 1
          pending := if sequenced.own?.isSome then chat.pending.tail else chat.pending }
  | .reload attach held page inspection =>
      (chat.view.reload { attach with replayed := [] } (chat.pageOf held page) inspection).map
        fun view => { chat with view }

/-- A view starts without an echo, a message of the user's or a load in progress, on a
session without messages of the user's. -/
structure Begins (chat : Chat) : Prop where
  idle : chat.view.isAttaching = false
  ignored : chat.view.replaySequencesToIgnore = ∅
  own : own chat.view.transcript = []
  loaded : ∀ n ∈ chat.view.loadedHistorySequences, n ≤ chat.history.length
  history : ∀ sequenced ∈ chat.history, sequenced.event.isUserMessage = false
  numbers : chat.history.map (·.sequence) = List.range' 1 chat.history.length
  delivered : chat.delivered ≤ chat.history.length
  fresh : chat = { view := chat.view, history := chat.history, delivered := chat.delivered }

def system : System Chat Action := .ofNext Begins next

/-- A page holds every message of the user's that was delivered, and none is delivered that
the loaded history holds already. -/
def Keeps (chat : Chat) : Action → Prop
  | .deliver =>
      ∀ sequenced ∈ chat.history[chat.delivered]?, sequenced.own?.isSome →
        (sequenced.sequence : Int) ∉ chat.view.loadedHistorySequences
  | .reload _ held _ _ =>
      ∀ sequenced ∈ chat.history.take chat.delivered, sequenced.own?.isSome →
        sequenced.sequence ∈ held
  | _ => True

instance decidableKeeps (chat : Chat) : ∀ action, Decidable (chat.Keeps action)
  | .deliver => inferInstanceAs (Decidable (∀ sequenced ∈ chat.history[chat.delivered]?, _))
  | .reload _ held _ _ =>
      inferInstanceAs (Decidable (∀ sequenced ∈ chat.history.take chat.delivered,
        sequenced.own?.isSome → sequenced.sequence ∈ held))
  | .send _ _ | .accept _ _ | .answered _ | .append _ _ => inferInstanceAs (Decidable True)

/-- Each accepted send is one message of the user's, there is no other, no failed send has
one, and no echo is left. -/
structure Settled (chat : Chat) : Prop where
  accepted : ∀ send ∈ chat.accepted,
    ((messages chat.view.transcript).filter send.isShownBy).length = 1
  others : ∀ message ∈ messages chat.view.transcript, message.role = .user →
    ∃ send ∈ chat.accepted, send.isShownBy message
  failed : ∀ echo ∈ chat.failed, ∀ message ∈ messages chat.view.transcript, message.id ≠ echo.id
  echoes : ∀ message ∈ messages chat.view.transcript, message.isLocal = false

/-! ## what a run keeps -/

/-- What is shown of the user's are the messages that are loaded, and echoes of sends that
are still to be told. -/
structure Sound (chat : Chat) : Prop where
  idle : chat.view.isAttaching = false
  ignored : chat.view.replaySequencesToIgnore = ∅
  increasing : chat.history.Pairwise fun a b => a.sequence < b.sequence
  numbered : ∀ sequenced ∈ chat.history, sequenced.sequence ≤ chat.history.length
  loaded : ∀ n ∈ chat.view.loadedHistorySequences, n ≤ chat.history.length
  delivered : chat.delivered ≤ chat.history.length
  user : ∀ message ∈ own chat.view.transcript, message.role = .user
  queued : chat.pending.map Echo.text =
    (chat.history.drop chat.delivered).filterMap fun sequenced =>
      sequenced.own?.map SessionMessage.text
  trails : Trails Echo.text (echoes (own chat.view.transcript)) chat.awaited
  distinct : (chat.awaited.map Echo.id).Nodup
  drawn : ∀ echo ∈ chat.awaited, echo.id ∈ chat.drawn
  locals : ∀ echo ∈ chat.sending.toList ++ chat.failed,
    "local-".toList.isPrefixOf echo.id.toList = true
  shown : (genuine (own chat.view.transcript)).Perm
    ((chat.history.filter fun sequenced =>
      (sequenced.sequence : Int) ∈ chat.view.loadedHistorySequences).filterMap
        SequencedEvent.own?)
  told : ∀ sequenced ∈ chat.history.take chat.delivered, sequenced.own?.isSome →
    (sequenced.sequence : Int) ∈ chat.view.loadedHistorySequences
  accepted : chat.history.filterMap SequencedEvent.own? = chat.accepted.map Accepted.message

theorem sound_of_begins {chat : Chat} (h : chat.Begins) : chat.Sound := by
  have hpending : chat.pending = [] := by rw [h.fresh]
  have haccepted : chat.accepted = [] := by rw [h.fresh]
  have hawaited : chat.awaited = [] := by
    rw [h.fresh]
    rfl
  have hnone : ∀ sequenced ∈ chat.history, sequenced.own? = none := by
    intro sequenced hmem
    by_contra hsome
    obtain ⟨message, hmessage⟩ := Option.ne_none_iff_exists'.mp hsome
    have huser := (SequencedEvent.of_own? hmessage).1
    rw [h.history sequenced hmem] at huser
    cases huser
  have hnumber : ∀ sequenced ∈ chat.history, sequenced.sequence ≤ chat.history.length := by
    intro sequenced hmem
    have hin := List.mem_map_of_mem (f := SequencedEvent.sequence) hmem
    rw [h.numbers, List.mem_range'_1] at hin
    omega
  refine
    { idle := h.idle
      ignored := h.ignored
      increasing := ?_
      numbered := hnumber
      loaded := h.loaded
      delivered := h.delivered
      user := by
        rw [h.own]
        exact nofun
      queued := ?_
      trails := by
        rw [h.own]
        exact .nil
      distinct := by
        rw [hawaited]
        exact List.nodup_nil
      drawn := by
        rw [hawaited]
        exact nofun
      locals := by
        rw [h.fresh]
        exact nofun
      shown := ?_
      told := ?_
      accepted := ?_ }
  · have hpairs : (chat.history.map (·.sequence)).Pairwise (· < ·) := by
      rw [h.numbers]
      exact List.pairwise_lt_range'
    exact List.pairwise_map.mp hpairs
  · rw [hpending]
    refine (List.filterMap_eq_nil_iff.mpr fun sequenced hmem => ?_).symm
    rw [hnone sequenced (List.mem_of_mem_drop hmem)]
    rfl
  · rw [h.own, List.filterMap_eq_nil_iff.mpr fun sequenced hmem =>
      hnone sequenced (List.mem_of_mem_filter hmem)]
    exact .refl []
  · intro sequenced hmem hsome
    rw [hnone sequenced (List.mem_of_mem_take hmem)] at hsome
    cases hsome
  · rw [haccepted]
    exact List.filterMap_eq_nil_iff.mpr hnone

namespace Sound

variable {chat chat' : Chat}

/-- The echo that a send leaves. -/
theorem own_send (view : SessionViewModel) (localId text : String)
    (hlocal : "local-".toList.isPrefixOf localId.toList = true) :
    ∃ message : SessionMessage, message.role = .user ∧ message.isLocal = true ∧
      message.echo = ⟨localId, text⟩ ∧
      own (view.send localId text).transcript = own view.transcript ++ [message] := by
  refine ⟨{ id := localId, role := .user, blocks := [{ id := "", kind := .text, text }]
            at_ := some view.now, isStreaming := false }, rfl, hlocal, ?_, ?_⟩
  · rw [SessionMessage.echo, SessionMessage.text]
    simp
  · rw [SessionViewModel.send, own_append, own_message_of (by simp [SessionMessage.isOwn])]

theorem send (h : chat.Sound) {draft uuid : String}
    (hnext : chat.next (.send draft uuid) = some chat') : chat'.Sound := by
  rw [next] at hnext
  split at hnext
  · rw [← Option.some.inj hnext]
    exact h
  · next hfree =>
      split at hnext
      · cases hnext
      · next hnew =>
          have hsending : chat.sending = none := by
            cases hsending : chat.sending with
            | none => rfl
            | some echo => simp [hsending] at hfree
          have hlocal : "local-".toList.isPrefixOf ("local-" ++ uuid).toList = true := by
            simp
          have hpending : chat.awaited = chat.pending := by
            rw [awaited, hsending]
            split <;> exact List.append_nil _
          obtain ⟨message, hrole, hmessage, hecho, hown⟩ :=
            own_send chat.view ("local-" ++ uuid) (trimmed draft) hlocal
          have htrails := h.trails.joined (a := ⟨"local-" ++ uuid, trimmed draft⟩)
          have hechoes : echoes [message] = [⟨"local-" ++ uuid, trimmed draft⟩] := by
            rw [echoes, List.filter_cons_of_pos hmessage, ← hecho]
            rfl
          have hgenuine : genuine [message] = [] := by
            rw [genuine, List.filter_cons_of_neg (by simp [hmessage])]
            rfl
          have hdistinct := h.distinct
          have hdrawn := h.drawn
          rw [hpending] at htrails hdistinct hdrawn
          rw [← Option.some.inj hnext]
          exact
            { idle := h.idle
              ignored := h.ignored
              increasing := h.increasing
              numbered := h.numbered
              loaded := h.loaded
              delivered := h.delivered
              user := by
                rw [hown]
                simpa [or_imp, forall_and] using ⟨h.user, hrole⟩
              queued := h.queued
              trails := by
                rw [hown, echoes_append, hechoes]
                exact htrails
              distinct := by
                refine (List.map_append ..).symm ▸ nodup_append_singleton hdistinct ?_
                intro hmem
                obtain ⟨echo, hecho, hid⟩ := List.mem_map.mp hmem
                have hsame : echo.id = "local-" ++ uuid := hid
                exact hnew (hsame ▸ hdrawn echo hecho)
              drawn := by
                intro echo hmem
                rcases List.mem_append.mp hmem with hmem | hmem
                · exact List.mem_cons_of_mem _ (hdrawn echo hmem)
                · rw [List.mem_singleton.mp hmem]
                  exact List.mem_cons_self
              locals := by
                intro echo hmem
                rcases List.mem_append.mp hmem with hmem | hmem
                · rw [List.mem_singleton.mp hmem]
                  exact hlocal
                · exact h.locals echo (List.mem_append_right _ hmem)
              shown := by
                rw [hown, genuine_append, hgenuine, List.append_nil]
                exact h.shown
              told := h.told
              accepted := h.accepted }

/-- The events that are loaded are the same after another was appended. -/
theorem filter_appended (h : chat.Sound) {sequenced : SequencedEvent}
    (hsequence : sequenced.sequence = chat.history.length + 1) :
    (chat.history ++ [sequenced]).filter (fun sequenced =>
        (sequenced.sequence : Int) ∈ chat.view.loadedHistorySequences) =
      chat.history.filter fun sequenced =>
        (sequenced.sequence : Int) ∈ chat.view.loadedHistorySequences := by
  have hnew : (sequenced.sequence : Int) ∉ chat.view.loadedHistorySequences := by
    intro hmem
    have hle := h.loaded _ hmem
    omega
  rw [List.filter_append, List.filter_cons_of_neg (by simpa using hnew), List.filter_nil,
    List.append_nil]

theorem increasing_appended (h : chat.Sound) {sequenced : SequencedEvent}
    (hsequence : sequenced.sequence = chat.history.length + 1) :
    (chat.history ++ [sequenced]).Pairwise fun a b => a.sequence < b.sequence := by
  refine List.pairwise_append.mpr ⟨h.increasing, List.pairwise_singleton _ _, ?_⟩
  intro earlier hearlier later hlater
  have hle := h.numbered earlier hearlier
  rw [List.mem_singleton.mp hlater, hsequence]
  omega

theorem numbered_appended (h : chat.Sound) {sequenced : SequencedEvent}
    (hsequence : sequenced.sequence = chat.history.length + 1) :
    ∀ other ∈ chat.history ++ [sequenced],
      other.sequence ≤ (chat.history ++ [sequenced]).length := by
  intro other hmem
  rw [List.length_append, List.length_singleton]
  rcases List.mem_append.mp hmem with hmem | hmem
  · have hle := h.numbered other hmem
    omega
  · rw [List.mem_singleton.mp hmem, hsequence]

/-- **An event is appended**: what was shown, told and loaded stays; the message of the
user's in it, if there is one, is queued. -/
theorem appended (h : chat.Sound) {sequenced : SequencedEvent} {pending : List Echo}
    {isAccepted : Bool} {accepted : List Accepted}
    (hsequence : sequenced.sequence = chat.history.length + 1)
    (hpending : pending.map Echo.text = chat.pending.map Echo.text ++
      (sequenced.own?.map SessionMessage.text).toList)
    (hawaited : pending ++ (if isAccepted then [] else chat.sending.toList) = chat.awaited)
    (haccepted : accepted.map Accepted.message =
      chat.accepted.map Accepted.message ++ sequenced.own?.toList) :
    Sound { chat with
      isAccepted, pending, accepted, history := chat.history ++ [sequenced] } :=
  { idle := h.idle
    ignored := h.ignored
    increasing := h.increasing_appended hsequence
    numbered := h.numbered_appended hsequence
    loaded := fun n hmem => by
      have hle := h.loaded n hmem
      rw [List.length_append]
      omega
    delivered := by
      rw [List.length_append]
      exact h.delivered.trans (Nat.le_add_right _ _)
    user := h.user
    queued := by
      dsimp only
      rw [hpending, h.queued, List.drop_append_of_le_length h.delivered, List.filterMap_append]
      congr 1
    trails := by
      rw [awaited, hawaited]
      exact h.trails
    distinct := by
      rw [awaited, hawaited]
      exact h.distinct
    drawn := by
      rw [awaited, hawaited]
      exact h.drawn
    locals := h.locals
    shown := by
      dsimp only
      rw [h.filter_appended hsequence]
      exact h.shown
    told := by
      dsimp only
      rw [List.take_append_of_le_length h.delivered]
      exact h.told
    accepted := by
      dsimp only
      rw [List.filterMap_append, h.accepted, haccepted]
      congr 1 }

theorem accept (h : chat.Sound) {blockId : String} {timestampMs : Int}
    (hnext : chat.next (.accept blockId timestampMs) = some chat') : chat'.Sound := by
  rw [next] at hnext
  split at hnext
  · cases hnext
  · next hfresh =>
      obtain ⟨echo, hecho, rfl⟩ := Option.map_eq_some_iff.mp hnext
      have hown := Accepted.own?_event ⟨echo, blockId, chat.history.length + 1⟩ timestampMs
      refine h.appended rfl ?_ ?_ ?_
      · rw [hown, List.map_append]
        simp
      · rw [awaited, hecho, if_neg hfresh]
        simp
      · rw [hown, List.map_append]
        rfl

theorem append (h : chat.Sound) {event : SessionEvent} {timestampMs : Int}
    (hnext : chat.next (.append event timestampMs) = some chat') : chat'.Sound := by
  rw [next] at hnext
  split at hnext
  · cases hnext
  · next hother =>
      rw [← Option.some.inj hnext]
      have hown : SequencedEvent.own? ⟨chat.history.length + 1, timestampMs, event⟩ = none := by
        by_contra hsome
        obtain ⟨message, hmessage⟩ := Option.ne_none_iff_exists'.mp hsome
        exact hother (SequencedEvent.of_own? hmessage).1
      refine h.appended rfl ?_ rfl ?_
      · rw [hown]
        exact (List.append_nil _).symm
      · rw [hown]
        exact (List.append_nil _).symm

/-- **A send is answered**: nothing is awaited any more but what the host accepted. -/
theorem ended (h : chat.Sound) {view : SessionViewModel} {isAccepted : Bool} {failed : List Echo}
    (hidle : view.isAttaching = chat.view.isAttaching)
    (hignored : view.replaySequencesToIgnore = chat.view.replaySequencesToIgnore)
    (hloaded : view.loadedHistorySequences = chat.view.loadedHistorySequences)
    (hown : ∀ message ∈ own view.transcript, message ∈ own chat.view.transcript)
    (htrails : Trails Echo.text (echoes (own view.transcript)) chat.pending)
    (hgenuine : genuine (own view.transcript) = genuine (own chat.view.transcript))
    (hlocals : ∀ echo ∈ failed, "local-".toList.isPrefixOf echo.id.toList = true) :
    Sound { chat with view, isAccepted, failed, sending := none } := by
  have hawaited : chat.pending ++ (if isAccepted then [] else (none : Option Echo).toList) =
      chat.pending := by
    split <;> exact List.append_nil _
  have hsublist : chat.pending.Sublist chat.awaited := List.sublist_append_left _ _
  exact
    { idle := hidle.trans h.idle
      ignored := hignored.trans h.ignored
      increasing := h.increasing
      numbered := h.numbered
      loaded := by
        rw [hloaded]
        exact h.loaded
      delivered := h.delivered
      user := fun message hmem => h.user message (hown message hmem)
      queued := h.queued
      trails := by
        rw [awaited, hawaited]
        exact htrails
      distinct := by
        rw [awaited, hawaited]
        exact (hsublist.map Echo.id).nodup h.distinct
      drawn := by
        rw [awaited, hawaited]
        exact fun echo hmem => h.drawn echo (hsublist.subset hmem)
      locals := hlocals
      shown := by
        dsimp only
        rw [hgenuine, hloaded]
        exact h.shown
      told := by
        dsimp only
        rw [hloaded]
        exact h.told
      accepted := h.accepted }

theorem answered (h : chat.Sound) {response : Except String Unit}
    (hnext : chat.next (.answered response) = some chat') : chat'.Sound := by
  have hfailed : ∀ echo ∈ chat.failed, "local-".toList.isPrefixOf echo.id.toList = true :=
    fun echo hmem => h.locals echo (List.mem_append_right _ hmem)
  cases response with
  | ok _ =>
      rw [next] at hnext
      split at hnext
      · next haccepted =>
          obtain ⟨echo, -, rfl⟩ := Option.map_eq_some_iff.mp hnext
          have htrails := h.trails
          rw [awaited, if_pos haccepted, List.append_nil] at htrails
          exact h.ended rfl rfl rfl (fun _ => id) htrails rfl hfailed
      · cases hnext
  | error message =>
      rw [next] at hnext
      split at hnext
      · cases hnext
      · next hrefused =>
          obtain ⟨echo, hecho, rfl⟩ := Option.map_eq_some_iff.mp hnext
          have hawaited : chat.awaited = chat.pending ++ [echo] := by
            rw [awaited, if_neg hrefused, hecho]
            rfl
          have hlocal := h.locals echo (by rw [hecho]; exact List.mem_cons_self)
          have hdistinct := h.distinct
          have htrails := h.trails
          rw [hawaited] at hdistinct htrails
          -- the echo of the failed send is the last that is awaited
          have hothers : ∀ other ∈ chat.pending, other.id ≠ echo.id := by
            rw [List.map_append] at hdistinct
            intro other hmem hsame
            exact (List.nodup_append.mp hdistinct).2.2 _ (List.mem_map_of_mem hmem) _
              List.mem_cons_self hsame
          have hown : own (chat.view.sent echo.id (.error message)).transcript =
              (own chat.view.transcript).filter (·.id ≠ echo.id) :=
            own_filter_id chat.view.transcript echo.id
          refine h.ended rfl rfl rfl (fun other hmem => ?_) ?_ ?_ (fun other hmem => ?_)
          · rw [hown] at hmem
            exact List.mem_of_mem_filter hmem
          · rw [hown, echoes_filter_id]
            exact htrails.takenBack hothers
          · rw [hown, genuine_filter_id hlocal]
          · rcases List.mem_append.mp hmem with hmem | hmem
            · exact hfailed other hmem
            · rw [List.mem_singleton.mp hmem]
              exact hlocal

/-- What is loaded after a further event was, in another order perhaps. -/
theorem loaded_inserted (h : chat.Sound) {sequenced : SequencedEvent}
    (hmem : sequenced ∈ chat.history)
    (hnew : sequenced.own?.isSome →
      (sequenced.sequence : Int) ∉ chat.view.loadedHistorySequences) :
    ((chat.history.filter fun other => (other.sequence : Int) ∈
        insert (sequenced.sequence : Int) chat.view.loadedHistorySequences).filterMap
          SequencedEvent.own?).Perm
      (sequenced.own?.toList ++ (chat.history.filter fun other =>
        (other.sequence : Int) ∈ chat.view.loadedHistorySequences).filterMap
          SequencedEvent.own?) := by
  obtain ⟨before, after, hsplit⟩ := List.append_of_mem hmem
  have hincreasing := h.increasing
  rw [hsplit] at hincreasing
  obtain ⟨-, hlater, hbefore⟩ := List.pairwise_append.mp hincreasing
  have hafter := (List.pairwise_cons.mp hlater).1
  have hothers : ∀ others : List SequencedEvent,
      (∀ other ∈ others, other.sequence ≠ sequenced.sequence) →
        others.filter (fun other => (other.sequence : Int) ∈
          insert (sequenced.sequence : Int) chat.view.loadedHistorySequences) =
        others.filter fun other =>
          (other.sequence : Int) ∈ chat.view.loadedHistorySequences := by
    intro others hne
    refine List.filter_congr fun other hother => ?_
    have hnot := hne other hother
    simp [Finset.mem_insert, hnot]
  rw [hsplit, List.filter_append, List.filter_append,
    hothers before fun other hother => (hbefore other hother _ List.mem_cons_self).ne,
    List.filter_cons_of_pos (by simp), hothers after fun other hother => (hafter other hother).ne',
    List.filterMap_append, List.filterMap_append, List.filterMap_cons]
  cases hown : sequenced.own? with
  | none =>
      by_cases hloaded : (sequenced.sequence : Int) ∈ chat.view.loadedHistorySequences
      · rw [List.filter_cons_of_pos (by simpa using hloaded), List.filterMap_cons, hown]
        exact .refl _
      · rw [List.filter_cons_of_neg (by simpa using hloaded)]
        exact .refl _
  | some message =>
      have hnot := hnew (by rw [hown]; rfl)
      rw [List.filter_cons_of_neg (by simpa using hnot)]
      exact List.perm_middle

/-- **An event is delivered**: what it tells is shown after what was, and what is awaited
is part of what was. -/
theorem advanced (h : chat.Sound) {sequenced : SequencedEvent} {view : SessionViewModel}
    {pending : List Echo} (hget : chat.history[chat.delivered]? = some sequenced)
    (hidle : view.isAttaching = false) (hignored : view.replaySequencesToIgnore = ∅)
    (hloaded : view.loadedHistorySequences =
      insert (sequenced.sequence : Int) chat.view.loadedHistorySequences)
    (hnew : sequenced.own?.isSome →
      (sequenced.sequence : Int) ∉ chat.view.loadedHistorySequences)
    (huser : ∀ message ∈ own view.transcript, message.role = .user)
    (hqueued : pending.map Echo.text =
      (chat.history.drop (chat.delivered + 1)).filterMap fun sequenced =>
        sequenced.own?.map SessionMessage.text)
    (hpending : pending.Sublist chat.pending)
    (htrails : Trails Echo.text (echoes (own view.transcript))
      (pending ++ if chat.isAccepted then [] else chat.sending.toList))
    (hshown : (genuine (own view.transcript)).Perm
      (sequenced.own?.toList ++ genuine (own chat.view.transcript))) :
    Sound { chat with view, pending, delivered := chat.delivered + 1 } := by
  obtain ⟨hlt, hat⟩ := List.getElem?_eq_some_iff.mp hget
  have hmem : sequenced ∈ chat.history := hat ▸ List.getElem_mem hlt
  have hawaited : (pending ++ if chat.isAccepted then [] else chat.sending.toList).Sublist
      chat.awaited := hpending.append_right _
  exact
    { idle := hidle
      ignored := hignored
      increasing := h.increasing
      numbered := h.numbered
      loaded := by
        intro n hn
        rw [hloaded] at hn
        rcases Finset.mem_insert.mp hn with rfl | hn
        · exact_mod_cast h.numbered sequenced hmem
        · exact h.loaded n hn
      delivered := hlt
      user := huser
      queued := hqueued
      trails := htrails
      distinct := (hawaited.map Echo.id).nodup h.distinct
      drawn := fun echo hecho => h.drawn echo (hawaited.subset hecho)
      locals := h.locals
      shown := by
        dsimp only
        rw [hloaded]
        exact (hshown.trans (h.shown.append_left _)).trans (h.loaded_inserted hmem hnew).symm
      told := by
        intro other hother hsome
        rw [hloaded]
        rw [List.take_add_one, hget, Option.toList_some] at hother
        rcases List.mem_append.mp hother with hother | hother
        · exact Finset.mem_insert_of_mem (h.told other hother hsome)
        · rw [List.mem_singleton.mp hother]
          exact Finset.mem_insert_self _ _
      accepted := h.accepted }

theorem deliver (h : chat.Sound) (hkeeps : chat.Keeps .deliver)
    (hnext : chat.next .deliver = some chat') : chat'.Sound := by
  obtain ⟨sequenced, hget, rfl⟩ := Option.map_eq_some_iff.mp hnext
  obtain ⟨hlt, hat⟩ := List.getElem?_eq_some_iff.mp hget
  have hnew := hkeeps sequenced hget
  have hqueued := h.queued
  rw [List.drop_eq_getElem_cons hlt, hat, List.filterMap_cons] at hqueued
  obtain ⟨hidle, hignored, hloaded, hown⟩ :=
    SessionViewModel.live_spec h.idle h.ignored sequenced h.user
  generalize chat.view.handle (.event (.ofFrame chat.view.sessionId sequenced)) = view
    at hidle hignored hloaded hown
  cases htells : sequenced.own? with
  | none =>
      rw [htells] at hown hqueued
      refine h.advanced hget hidle hignored hloaded hnew ?_ hqueued (.refl _) ?_ ?_
      · rw [hown]
        exact h.user
      · rw [hown]
        exact h.trails
      · rw [hown, htells]
        exact .refl _
  | some message =>
      rw [htells] at hown hqueued
      obtain ⟨-, hrole, -, hlocal⟩ := SequencedEvent.of_own? htells
      obtain ⟨echo, rest, hpending, htext, hrest⟩ := List.map_eq_cons_iff.mp hqueued
      have hawaited : chat.awaited =
          echo :: (rest ++ if chat.isAccepted then [] else chat.sending.toList) := by
        rw [awaited, hpending]
        rfl
      -- the message takes the echo of the oldest send
      have hleft := (hawaited ▸ h.trails).left
      rw [htext] at hleft
      refine h.advanced hget hidle hignored hloaded hnew ?_ ?_ (List.tail_sublist _) ?_ ?_
      · rw [hown]
        exact forall_mem_tell h.user hrole
      · rw [Option.isSome_some, if_pos rfl, hpending]
        exact hrest
      · rw [hown, echoes_tell hlocal, Option.isSome_some, if_pos rfl, hpending]
        exact hleft
      · rw [hown, htells]
        exact genuine_tell hlocal _

theorem reload (h : chat.Sound) {attach : SessionAttachResult} {held : List Nat}
    {page : SessionHistoryResult} {inspection : Response SessionInspectResult}
    (hkeeps : chat.Keeps (.reload attach held page inspection))
    (hnext : chat.next (.reload attach held page inspection) = some chat') : chat'.Sound := by
  obtain ⟨view, hview, rfl⟩ := Option.map_eq_some_iff.mp hnext
  have hincreasing : (chat.pageOf held page).events.Pairwise
      fun a b => a.sequence < b.sequence := by
    refine List.pairwise_map.mpr ((h.increasing.filter _).imp fun hlt => ?_)
    exact Int.ofNat_lt.mpr hlt
  obtain ⟨hidle, hignored, ⟨sessionId, htranscript⟩, hloaded⟩ :=
    SessionViewModel.reload_spec rfl hincreasing hview
  have hheld : ∀ sequenced ∈ chat.history,
      ((sequenced.sequence : Int) ∈ view.loadedHistorySequences ↔ sequenced.sequence ∈ held) := by
    intro sequenced hmem
    rw [hloaded]
    constructor
    · rintro ⟨event, hevent, hsame⟩
      obtain ⟨other, hother, rfl⟩ := List.mem_map.mp hevent
      have hin := (List.mem_filter.mp hother).2
      have hequal : other.sequence = sequenced.sequence := Int.ofNat_inj.mp hsame
      rw [← hequal]
      simpa using hin
    · intro hin
      exact ⟨_, List.mem_map_of_mem (List.mem_filter.mpr ⟨hmem, by simpa using hin⟩), rfl⟩
  have hlocal : ∀ message ∈ (chat.history.filter (·.sequence ∈ held)).filterMap
      SequencedEvent.own?, message.role = .user ∧ message.isLocal = false := by
    intro message hmessage
    obtain ⟨sequenced, -, htells⟩ := List.mem_filterMap.mp hmessage
    obtain ⟨-, hrole, -, hlocal⟩ := SequencedEvent.of_own? htells
    exact ⟨hrole, hlocal⟩
  have hown : own view.transcript =
      (chat.history.filter (·.sequence ∈ held)).filterMap SequencedEvent.own? := by
    rw [htranscript, pageOf]
    dsimp only
    refine (SessionViewModel.own_showing chat.view.sessionId _ (by simp)).trans ?_
    rw [foldl_tell (fun message hmem => (hlocal message hmem).2) (by simp)]
    rfl
  have hechoes : echoes (own view.transcript) = [] := by
    rw [hown, echoes, List.map_eq_nil_iff, List.filter_eq_nil_iff]
    intro message hmem
    simp [(hlocal message hmem).2]
  have hfiltered : chat.history.filter (fun sequenced =>
      (sequenced.sequence : Int) ∈ view.loadedHistorySequences) =
        chat.history.filter (·.sequence ∈ held) :=
    List.filter_congr fun sequenced hmem => by simp [hheld sequenced hmem]
  exact
    { idle := hidle
      ignored := hignored
      increasing := h.increasing
      numbered := h.numbered
      loaded := by
        intro n hn
        obtain ⟨event, hevent, rfl⟩ := (hloaded n).mp hn
        obtain ⟨sequenced, hmem, rfl⟩ := List.mem_map.mp hevent
        exact Int.ofNat_le.mpr (h.numbered sequenced (List.mem_of_mem_filter hmem))
      delivered := h.delivered
      user := by
        rw [hown]
        exact fun message hmem => (hlocal message hmem).1
      queued := h.queued
      trails := by
        rw [hechoes]
        exact .nil
      distinct := h.distinct
      drawn := h.drawn
      locals := h.locals
      shown := by
        dsimp only
        rw [genuine_of_echoes_eq_nil hechoes, hfiltered, hown]
      told := fun sequenced hmem hsome =>
        (hheld sequenced (List.mem_of_mem_take hmem)).mpr (hkeeps sequenced hmem hsome)
      accepted := h.accepted }

theorem next (h : chat.Sound) {action : Action} (hkeeps : chat.Keeps action)
    (hnext : chat.next action = some chat') : chat'.Sound := by
  cases action with
  | send draft uuid => exact h.send hnext
  | accept blockId timestampMs => exact h.accept hnext
  | answered response => exact h.answered hnext
  | append event timestampMs => exact h.append hnext
  | deliver => exact h.deliver hkeeps hnext
  | reload attach held page inspection => exact h.reload hkeeps hnext

/-- The messages of accepted sends have ids of their own. -/
theorem accepted_distinct (h : chat.Sound) :
    chat.accepted.Pairwise fun a b => a.message.id ≠ b.message.id := by
  have htold : (chat.history.filterMap SequencedEvent.own?).Pairwise fun a b => a.id ≠ b.id := by
    refine List.pairwise_filterMap.mpr (h.increasing.imp fun {earlier later} hlt => ?_)
    intro message hmessage message' hmessage' hsame
    obtain ⟨-, -, hid, -⟩ := SequencedEvent.of_own? hmessage
    obtain ⟨-, -, hid', -⟩ := SequencedEvent.of_own? hmessage'
    rw [hid, hid'] at hsame
    have hequal := toString_int_injective ((String.append_right_inj "event-").mp hsame)
    omega
  rw [h.accepted] at htold
  exact (List.pairwise_map (f := Accepted.message) (R := fun a b => a.id ≠ b.id)).mp htold

/-- Where all events were delivered, all of the user's messages are loaded. -/
theorem all_loaded (h : chat.Sound) (hdelivered : chat.delivered = chat.history.length) :
    (chat.history.filter fun sequenced =>
      (sequenced.sequence : Int) ∈ chat.view.loadedHistorySequences).filterMap
        SequencedEvent.own? = chat.accepted.map Accepted.message := by
  have htold := h.told
  rw [hdelivered, List.take_length] at htold
  rw [← h.accepted, List.filterMap_filter]
  refine List.filterMap_congr fun sequenced hmem => ?_
  cases hown : sequenced.own? with
  | none => split <;> rfl
  | some message =>
      rw [if_pos]
      simpa using htold sequenced hmem (by rw [hown]; rfl)

/-- **Where nothing is awaited**, all of the user's messages are those of accepted sends. -/
theorem settled (h : chat.Sound) (hsending : chat.sending = none)
    (hdelivered : chat.delivered = chat.history.length) : chat.Settled := by
  have hpending : chat.pending = [] := by
    have hqueued := h.queued
    rw [hdelivered, List.drop_length] at hqueued
    exact List.map_eq_nil_iff.mp hqueued
  have hawaited : chat.awaited = [] := by
    rw [awaited, hpending, hsending]
    split <;> rfl
  have htrails := h.trails
  rw [hawaited] at htrails
  have hechoes := htrails.eq_nil
  have hperm : (own chat.view.transcript).Perm (chat.accepted.map Accepted.message) := by
    rw [← genuine_of_echoes_eq_nil hechoes, ← h.all_loaded hdelivered]
    exact h.shown
  have hlocal : ∀ message ∈ messages chat.view.transcript, message.isLocal = false := by
    intro message hmem
    by_contra hecho
    have hown : message ∈ own chat.view.transcript :=
      mem_own.mpr ⟨hmem, by simp [SessionMessage.isOwn, hecho]⟩
    rw [echoes, List.map_eq_nil_iff, List.filter_eq_nil_iff] at hechoes
    exact hechoes message hown (by simpa using hecho)
  refine
    { accepted := fun send hsend => ?_
      others := fun message hmem hrole => ?_
      failed := fun echo hecho message hmem hsame => ?_
      echoes := hlocal }
  · have hshown : (messages chat.view.transcript).filter send.isShownBy =
        (own chat.view.transcript).filter send.isShownBy := by
      rw [own, List.filter_filter]
      refine List.filter_congr fun message _ => ?_
      by_cases hrole : message.role = .user
      · simp [SessionMessage.isOwn, hrole]
      · simp [Accepted.isShownBy, hrole]
    obtain ⟨front, back, hsplit⟩ := List.append_of_mem hsend
    have hdistinct := h.accepted_distinct
    rw [hsplit] at hdistinct
    obtain ⟨-, hback, hfront⟩ := List.pairwise_append.mp hdistinct
    have hno : ∀ others : List Accepted, (∀ other ∈ others, other.message.id ≠ send.message.id) →
        (others.map Accepted.message).filter send.isShownBy = [] := by
      intro others hne
      rw [List.filter_eq_nil_iff]
      intro message hmem hshows
      obtain ⟨other, hother, rfl⟩ := List.mem_map.mp hmem
      refine hne other hother ?_
      simp only [Accepted.isShownBy, Bool.and_eq_true, decide_eq_true_eq] at hshows
      exact hshows.1.2
    have hself : send.isShownBy send.message = true := by
      simp [Accepted.isShownBy, Accepted.message, SessionMessage.text,
        ContentBlock.fromNormalized]
    rw [hshown, (hperm.filter _).length_eq, hsplit, List.map_append, List.map_cons,
      List.filter_append, List.filter_cons_of_pos hself,
      hno front fun other hother => hfront other hother send List.mem_cons_self,
      hno back fun other hother => ((List.pairwise_cons.mp hback).1 other hother).symm]
    rfl
  · have hown : message ∈ own chat.view.transcript :=
      mem_own.mpr ⟨hmem, by simp [SessionMessage.isOwn, hrole]⟩
    obtain ⟨send, hsend, rfl⟩ := List.mem_map.mp (hperm.mem_iff.mp hown)
    refine ⟨send, hsend, ?_⟩
    simp [Accepted.isShownBy, Accepted.message, SessionMessage.text,
      ContentBlock.fromNormalized]
  · have hecho' := h.locals echo (List.mem_append_right _ hecho)
    have hnot := hlocal message hmem
    rw [SessionMessage.isLocal, hsame, hecho'] at hnot
    cases hnot

end Sound

/-- **Sent messages appear once** in every run whose steps are all kept: when every send
was answered and every event delivered, each accepted send is one message of the user's,
no failed send is one, and no echo is left. -/
theorem sent_once {chat : Chat} (h : system.ReachUnder Keeps chat) (hsending : chat.sending = none)
    (hdelivered : chat.delivered = chat.history.length) : chat.Settled :=
  Sound.settled (System.invariant_of_step (I := Sound) (fun _ hbegins => sound_of_begins hbegins)
    (fun _ _ _ hsound hkeeps hnext => hsound.next hkeeps hnext) h) hsending hdelivered

/-! ## a load before the event -/

def sampleChat : Chat := { view := { sessionId := "s1" } }

theorem begins_sampleChat : sampleChat.Begins where
  idle := rfl
  ignored := rfl
  own := rfl
  loaded := fun n hmem => absurd hmem (Finset.notMem_empty n)
  history := fun _ hmem => absurd hmem List.not_mem_nil
  numbers := rfl
  delivered := Nat.le_refl 0
  fresh := rfl

/-- A load whose page holds the events of these numbers. -/
def sampleReload (held : List Nat) : Action :=
  .reload
    { session := sampleClientSummary, replayed := [], latestSequence := 1
      oldestAvailableSequence := some 1, resyncRequired := false }
    held
    { session := sampleClientSummary, events := [], latestSequence := 1
      oldestAvailableSequence := some 1, hasMore := false }
    (.ok none)

/-- One text sent three times: the second send fails, and a load loses the first echo. -/
theorem sent_once_sample :
    ∃ chat : Chat, (messages chat.view.transcript).length = 2 ∧ chat.Settled := by
  let actions : List Action :=
    [.send "hi" "u1", .accept "b1" 1000, sampleReload [], .answered (.ok ()), .send "hi " "u2",
      .deliver, .answered (.error "timeout"), .append (.status ⟨.working⟩) 1000, .deliver,
      .send "hi" "u3", .accept "b3" 1000, .answered (.ok ()), .deliver]
  have hkeeps : System.runsUnder Chat.next Keeps sampleChat actions := by
    decide +kernel
  have hends : (System.runs Chat.next sampleChat actions).map (fun chat =>
      ((messages chat.view.transcript).length, chat.sending, chat.delivered,
        chat.history.length)) = some (2, none, 3, 3) := by
    decide +kernel
  obtain ⟨chat, hruns, hchat⟩ := Option.map_eq_some_iff.mp hends
  obtain ⟨hlength, hchat⟩ := Prod.mk.inj hchat
  obtain ⟨hsending, hchat⟩ := Prod.mk.inj hchat
  obtain ⟨hdelivered, hhistory⟩ := Prod.mk.inj hchat
  exact ⟨chat, hlength, Chat.sent_once
    (System.reachUnder_of_runs actions begins_sampleChat hkeeps hruns) hsending
    (hdelivered.trans hhistory.symm)⟩

/-- A message that the page holds is shown again when its event is delivered. -/
theorem load_repeats_message :
    ¬ ∀ chat : Chat, system.Reachable chat → chat.sending = none →
        chat.delivered = chat.history.length → chat.Settled := by
  intro hsettled
  let actions : List Action :=
    [.send "hi" "u1", .accept "b1" 1000, .answered (.ok ()), sampleReload [1], .deliver]
  have hends : (System.runs Chat.next sampleChat actions).map (fun chat =>
      (chat.sending, chat.delivered, chat.history.length, chat.accepted.map fun send =>
        ((messages chat.view.transcript).filter send.isShownBy).length)) =
          some (none, 1, 1, [2]) := by
    decide +kernel
  obtain ⟨chat, hruns, hchat⟩ := Option.map_eq_some_iff.mp hends
  obtain ⟨hsending, hchat⟩ := Prod.mk.inj hchat
  obtain ⟨hdelivered, hchat⟩ := Prod.mk.inj hchat
  obtain ⟨hhistory, htwice⟩ := Prod.mk.inj hchat
  have honce := hsettled chat (System.reachable_of_runs actions begins_sampleChat hruns) hsending
    (hdelivered.trans hhistory.symm)
  obtain ⟨send, rest, haccepted, hcount, -⟩ := List.map_eq_cons_iff.mp htwice
  have hone := honce.accepted send (by rw [haccepted]; exact List.mem_cons_self)
  rw [hcount] at hone
  cases hone

end Chat

end Client

end Slight
