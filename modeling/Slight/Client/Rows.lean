import Slight.Client.Snapshot
import Slight.Client.ToolCalls

/-!
# Slight.Client.Rows

The rows of the transcript and their ids.  A row is told from others of its kind by
the id of its message or tool call; an event leaves these keys distinct, unless it
brings a message without an id of its own while a row stands under its sequence.

* `nodup_showing` — events that fit, one after the other;
* `nodup_rebuilt` — a page of the history, rebuilt in the order of its sequences;
* `nodup_handle` — whatever the connection pushes.
-/

namespace Slight.Client

open Support

/-! ## ids -/

namespace TranscriptItem

/-- The id of a row; a notice draws its own. -/
def id (noticeId : String) : TranscriptItem → String
  | .message m => "message-" ++ m.id
  | .toolCall tool => "tool-" ++ tool.id
  | .notice _ => "notice-" ++ noticeId

end TranscriptItem

/-- The ids of the rows, where the notice of a row drew what `uuid` has there. -/
def rowIds (uuid : Nat → String) (transcript : List TranscriptItem) : List String :=
  transcript.mapIdx fun position item => item.id (uuid position)

/-- The ids are pairwise distinct, whatever distinct ids the notices drew. -/
def UniqueIds (transcript : List TranscriptItem) : Prop :=
  ∀ uuid : Nat → String, uuid.Injective → (rowIds uuid transcript).Nodup

/-- What tells a row from others of its kind. -/
inductive RowKey where
  | message (id : String)
  | toolCall (id : String)
  deriving DecidableEq

def TranscriptItem.key? : TranscriptItem → Option RowKey
  | .message m => some (.message m.id)
  | .toolCall tool => some (.toolCall tool.id)
  | .notice _ => none

/-- The keys of the rows that have one. -/
def rowKeys (transcript : List TranscriptItem) : List RowKey :=
  transcript.filterMap TranscriptItem.key?

@[simp] theorem rowKeys_nil : rowKeys [] = [] := rfl

@[simp] theorem rowKeys_append (transcript more : List TranscriptItem) :
    rowKeys (transcript ++ more) = rowKeys transcript ++ rowKeys more :=
  List.filterMap_append

@[simp] theorem rowKeys_message (message : SessionMessage) :
    rowKeys [.message message] = [.message message.id] := rfl

@[simp] theorem rowKeys_toolCall (toolCall : ToolCall) :
    rowKeys [.toolCall toolCall] = [.toolCall toolCall.id] := rfl

@[simp] theorem rowKeys_notice (notice : TranscriptNotice) : rowKeys [.notice notice] = [] := rfl

namespace TranscriptItem

/-- The kinds of rows start their ids differently. -/
def initial : TranscriptItem → Char
  | .message _ => 'm'
  | .toolCall _ => 't'
  | .notice _ => 'n'

theorem head?_id (item : TranscriptItem) (noticeId : String) :
    (item.id noticeId).toList.head? = some item.initial := by
  cases item <;> simp [id, initial]

/-- Rows of one id are notices that drew it, or have one key. -/
theorem eq_of_id_eq {item item' : TranscriptItem} {noticeId noticeId' : String}
    (h : item.id noticeId = item'.id noticeId') :
    noticeId = noticeId' ∨ ∃ key, item.key? = some key ∧ item'.key? = some key := by
  have hinitial : item.initial = item'.initial := by
    have hhead := item.head?_id noticeId
    rw [h, head?_id] at hhead
    exact (Option.some.inj hhead).symm
  cases item with
  | message m =>
      cases item' with
      | message m' =>
          have hid : m.id = m'.id := (String.append_right_inj "message-").mp h
          exact .inr ⟨.message m.id, rfl, congrArg (fun id => some (RowKey.message id)) hid.symm⟩
      | toolCall tool => simp [initial] at hinitial
      | notice notice => simp [initial] at hinitial
  | toolCall tool =>
      cases item' with
      | message m => simp [initial] at hinitial
      | toolCall tool' =>
          have hid : tool.id = tool'.id := (String.append_right_inj "tool-").mp h
          exact .inr
            ⟨.toolCall tool.id, rfl, congrArg (fun id => some (RowKey.toolCall id)) hid.symm⟩
      | notice notice => simp [initial] at hinitial
  | notice notice =>
      cases item' with
      | message m => simp [initial] at hinitial
      | toolCall tool => simp [initial] at hinitial
      | notice notice' => exact .inl ((String.append_right_inj "notice-").mp h)

end TranscriptItem

/-- **Rows with distinct keys** have distinct ids. -/
theorem uniqueIds_of_nodup {transcript : List TranscriptItem} (h : (rowKeys transcript).Nodup) :
    UniqueIds transcript := by
  intro uuid huuid
  have hpairs := List.pairwise_filterMap.mp h
  refine List.pairwise_iff_getElem.mpr fun i j hi hj hij hsame => ?_
  rw [rowIds, List.length_mapIdx] at hi hj
  simp only [rowIds, List.getElem_mapIdx] at hsame
  rcases TranscriptItem.eq_of_id_eq hsame with hdrawn | ⟨key, hkey, hkey'⟩
  · exact absurd (huuid hdrawn) hij.ne
  · exact List.pairwise_iff_getElem.mp hpairs i j hi hj hij key hkey key hkey' rfl

/-! ## what an event brings -/

/-- The message an event brings. -/
def GatewayEvent.message? (event : GatewayEvent) : Option MessagePayload :=
  if event.event = "session.message" then payloadAs MessagePayload event.payload else none

/-- The tool call an event brings. -/
def GatewayEvent.toolCall? (event : GatewayEvent) : Option ToolCallPayload :=
  if event.event = "session.tool_call" then payloadAs ToolCallPayload event.payload else none

/-- The key of what an event brings. -/
def GatewayEvent.key? (event : GatewayEvent) : Option RowKey :=
  match event.message? with
  | some payload => some (.message (payload.shown event.sequence).id)
  | none => event.toolCall?.map fun payload => .toolCall payload.id

/-- The event brings a message without an id of its own. -/
def GatewayEvent.isUnnamed (event : GatewayEvent) : Bool :=
  event.message?.any fun payload => payload.id.isNone

/-- An assistant's message goes on in the last row, if that is an assistant's. -/
def MessagePayload.continues (payload : MessagePayload) (transcript : List TranscriptItem) :
    Bool :=
  payload.role = .assistant &&
    (transcript.getLast?.bind TranscriptItem.message?).any (·.role = .assistant)

/-- A message without an id finds no row under the id it stands under, or makes none. -/
def GatewayEvent.Fits (event : GatewayEvent) (transcript : List TranscriptItem) : Prop :=
  event.isUnnamed → event.message?.any (·.continues transcript) ∨
    ∀ key ∈ event.key?, key ∉ rowKeys transcript

instance (event : GatewayEvent) (transcript : List TranscriptItem) :
    Decidable (event.Fits transcript) :=
  inferInstanceAs (Decidable (_ → _))

/-! ## what becomes of the keys -/

/-- The keys after one that is there already, or is put at the end or in the place of
another. -/
inductive Takes {α : Type} (key : α) (keys : List α) : List α → Prop
  | kept : Takes key keys keys
  | appended : key ∉ keys → Takes key keys (keys ++ [key])
  | replaced {before after : List α} {other : α} : key ∉ keys →
      keys = before ++ other :: after → Takes key keys (before ++ key :: after)

namespace Takes

variable {α : Type} {key : α} {keys keys' : List α}

theorem of_eq (h : keys' = keys) : Takes key keys keys' := by
  rw [h]
  exact .kept

theorem mem (h : Takes key keys keys') {other : α} (hmem : other ∈ keys') :
    other = key ∨ other ∈ keys := by
  cases h with
  | kept => exact .inr hmem
  | appended => simpa [or_comm] using hmem
  | replaced _ hkeys =>
      rw [hkeys]
      simp only [List.mem_append, List.mem_cons] at hmem ⊢
      tauto

theorem nodup (h : Takes key keys keys') (hkeys : keys.Nodup) : keys'.Nodup := by
  cases h with
  | kept => exact hkeys
  | appended hnew => exact List.nodup_append'.mpr ⟨hkeys, List.nodup_singleton key, by simpa⟩
  | replaced hnew hsplit =>
      rw [hsplit] at hkeys hnew
      have hrest := List.nodup_middle.mp hkeys
      refine List.nodup_middle.mpr (List.nodup_cons.mpr ⟨?_, (List.nodup_cons.mp hrest).2⟩)
      simp only [List.mem_append, List.mem_cons] at hnew ⊢
      tauto

end Takes

/-- A replacement splits the list at the first element that `f` replaces. -/
theorem replaceFirst_eq_some {α : Type} {f : α → Option α} {as bs : List α}
    (h : replaceFirst f as = some bs) :
    ∃ before a b after, as = before ++ a :: after ∧ f a = some b ∧ bs = before ++ b :: after := by
  induction as generalizing bs with
  | nil => cases h
  | cons a as ih =>
      rw [replaceFirst] at h
      cases hfa : f a with
      | some b =>
          rw [hfa] at h
          exact ⟨[], a, b, as, rfl, hfa, (Option.some.inj h).symm⟩
      | none =>
          rw [hfa] at h
          obtain ⟨rest, hrest, rfl⟩ := Option.map_eq_some_iff.mp h
          obtain ⟨before, a', b, after, rfl, hb, rfl⟩ := ih hrest
          exact ⟨a :: before, a', b, after, rfl, hb, rfl⟩

theorem replaceFirst_eq_none {α : Type} {f : α → Option α} {as : List α}
    (h : replaceFirst f as = none) : ∀ a ∈ as, f a = none := by
  induction as with
  | nil => exact nofun
  | cons a as ih =>
      rw [replaceFirst] at h
      cases hfa : f a with
      | some b =>
          rw [hfa] at h
          cases h
      | none =>
          rw [hfa] at h
          exact List.forall_mem_cons.mpr ⟨hfa, ih (Option.map_eq_none_iff.mp h)⟩

theorem rowKeys_cons (item : TranscriptItem) (rest : List TranscriptItem) :
    rowKeys (item :: rest) = item.key?.toList ++ rowKeys rest := by
  rw [rowKeys, List.filterMap_cons]
  cases item.key? <;> rfl

theorem rowKeys_message_cons (message : SessionMessage) (rest : List TranscriptItem) :
    rowKeys (.message message :: rest) = .message message.id :: rowKeys rest := rfl

theorem rowKeys_reverse (transcript : List TranscriptItem) :
    rowKeys transcript.reverse = (rowKeys transcript).reverse :=
  List.filterMap_reverse

/-- Replacing an item by one with the same key leaves the keys. -/
theorem rowKeys_replaceFirst {f : TranscriptItem → Option TranscriptItem}
    {transcript transcript' : List TranscriptItem}
    (hf : ∀ item item', f item = some item' → item'.key? = item.key?)
    (h : replaceFirst f transcript = some transcript') :
    rowKeys transcript' = rowKeys transcript := by
  obtain ⟨before, item, item', after, rfl, hitem, rfl⟩ := replaceFirst_eq_some h
  rw [rowKeys_append, rowKeys_append, rowKeys_cons, rowKeys_cons, hf item item' hitem]

theorem rowKeys_replaceLast {f : TranscriptItem → Option TranscriptItem}
    {transcript transcript' : List TranscriptItem}
    (hf : ∀ item item', f item = some item' → item'.key? = item.key?)
    (h : replaceLast f transcript = some transcript') :
    rowKeys transcript' = rowKeys transcript := by
  obtain ⟨reversed, hreversed, rfl⟩ := Option.map_eq_some_iff.mp h
  rw [rowKeys_reverse, rowKeys_replaceFirst hf hreversed, rowKeys_reverse, List.reverse_reverse]

/-- Messages give way to messages. -/
theorem onMessage_eq_some_iff {f : SessionMessage → Option SessionMessage}
    {item item' : TranscriptItem} :
    onMessage f item = some item' ↔
      ∃ m m', item = .message m ∧ f m = some m' ∧ item' = .message m' := by
  constructor
  · intro h
    cases item with
    | message m =>
        obtain ⟨m', hm, rfl⟩ := Option.map_eq_some_iff.mp h
        exact ⟨m, m', rfl, hm, rfl⟩
    | toolCall tool => cases h
    | notice notice => cases h
  · rintro ⟨m, m', rfl, hm, rfl⟩
    simp [onMessage, TranscriptItem.message?, hm]

theorem key?_onMessage {f : SessionMessage → Option SessionMessage}
    (hf : ∀ m m', f m = some m' → m'.id = m.id) {item item' : TranscriptItem}
    (h : onMessage f item = some item') : item'.key? = item.key? := by
  obtain ⟨m, m', rfl, hm, rfl⟩ := onMessage_eq_some_iff.mp h
  exact congrArg (fun id => some (RowKey.message id)) (hf m m' hm)

/-- The last message may be another one of its id. -/
theorem rowKeys_dropLast_append {transcript : List TranscriptItem} {m m' : SessionMessage}
    (h : transcript.getLast? = some (.message m)) (hid : m'.id = m.id) :
    rowKeys (transcript.dropLast ++ [.message m']) = rowKeys transcript := by
  have hsplit := List.dropLast_append_getLast? _ h
  rw [rowKeys_append, rowKeys_message, hid, ← rowKeys_message, ← rowKeys_append, hsplit]

/-- **A message** takes its key, if one without an id does not find it taken. -/
theorem takes_mergeMessage {payload : MessagePayload} {eventSequence : Int}
    {transcript : List TranscriptItem}
    (h : payload.id = none → payload.continues transcript = true ∨
      .message (payload.shown eventSequence).id ∉ rowKeys transcript) :
    Takes (.message (payload.shown eventSequence).id) (rowKeys transcript)
      (rowKeys (mergeMessage payload eventSequence transcript)) := by
  unfold mergeMessage
  dsimp only
  split
  · next transcript' hchunked =>
      obtain ⟨id, -, hreplace⟩ := Option.bind_eq_some_iff.mp hchunked
      refine .of_eq (rowKeys_replaceFirst (fun item item' hitem => ?_) hreplace)
      refine key?_onMessage (fun m m' hm => ?_) hitem
      split at hm
      · rw [← Option.some.inj hm]
      · cases hm
  · next hchunked =>
      have hnew : payload.continues transcript = false →
          .message (payload.shown eventSequence).id ∉ rowKeys transcript := by
        intro hcontinues
        cases hid : payload.id with
        | none => exact (h hid).resolve_left (by simp [hcontinues])
        | some id =>
            rw [hid, Option.bind_some] at hchunked
            intro hmem
            obtain ⟨item, hitem, hkey⟩ := List.mem_filterMap.mp hmem
            have hother := replaceFirst_eq_none hchunked item hitem
            cases item with
            | message m =>
                have hsame : m.id = id := by
                  have hshown := RowKey.message.inj (Option.some.inj hkey)
                  rwa [MessagePayload.shown, hid] at hshown
                simp [onMessage, TranscriptItem.message?, hsame] at hother
            | toolCall tool => cases Option.some.inj hkey
            | notice notice => cases hkey
      have happended : payload.continues transcript = false →
          Takes (.message (payload.shown eventSequence).id) (rowKeys transcript)
            (rowKeys (transcript ++ [.message (payload.shown eventSequence)])) := by
        intro hcontinues
        rw [rowKeys_append, rowKeys_message]
        exact .appended (hnew hcontinues)
      split
      · next hlast =>
          split
          · exact .of_eq (rowKeys_dropLast_append hlast rfl)
          · next hrole =>
              refine happended ?_
              simp [MessagePayload.continues, hlast, TranscriptItem.message?, hrole]
      · next hrole =>
          have hcontinues : payload.continues transcript = false := by
            have hrole : payload.role = .user := hrole
            simp [MessagePayload.continues, hrole]
          cases hreplace : replaceFirst _ transcript with
          | none => exact happended hcontinues
          | some transcript' =>
              obtain ⟨before, item, item', after, rfl, hitem, rfl⟩ :=
                replaceFirst_eq_some hreplace
              obtain ⟨m, m', rfl, hm, rfl⟩ := onMessage_eq_some_iff.mp hitem
              split at hm
              · have hkeys : ∀ m : SessionMessage, rowKeys (before ++ .message m :: after) =
                    rowKeys before ++ .message m.id :: rowKeys after := by
                  intro m
                  rw [rowKeys_append, rowKeys_message_cons]
                rw [← Option.some.inj hm, Option.getD_some, hkeys (payload.shown eventSequence)]
                exact .replaced (hnew hcontinues) (hkeys m)
              · cases hm
      · next hassistant =>
          refine happended ?_
          rw [MessagePayload.continues, Bool.and_eq_false_iff]
          by_cases hrole : payload.role = .assistant
          · refine .inr ?_
            cases hlast : transcript.getLast? with
            | none => rfl
            | some item =>
                cases item with
                | message m => exact (hassistant m hrole hlast).elim
                | toolCall tool => rfl
                | notice notice => rfl
          · exact .inl (decide_eq_false hrole)

/-- **A tool call** takes its key. -/
theorem takes_upsert (toolCall : ToolCall) (transcript : List TranscriptItem) :
    Takes (.toolCall toolCall.id) (rowKeys transcript) (rowKeys (upsert toolCall transcript)) := by
  rw [upsert]
  cases hreplace : replaceFirst toolCall.mergeInto transcript with
  | some transcript' =>
      refine .of_eq (rowKeys_replaceFirst (fun item item' hitem => ?_) hreplace)
      cases item with
      | message m => cases hitem
      | toolCall existing =>
          rw [ToolCall.mergeInto, TranscriptItem.toolCall?] at hitem
          dsimp only at hitem
          split at hitem
          · next hsame =>
              rw [← Option.some.inj hitem]
              exact congrArg (fun id => some (RowKey.toolCall id)) hsame.symm
          · cases hitem
      | notice notice => cases hitem
  | none =>
      rw [Option.getD_none, rowKeys_append, rowKeys_toolCall]
      refine .appended fun hmem => ?_
      obtain ⟨item, hitem, hkey⟩ := List.mem_filterMap.mp hmem
      have hother := replaceFirst_eq_none hreplace item hitem
      cases item with
      | message m => cases Option.some.inj hkey
      | toolCall existing =>
          have hsame : existing.id = toolCall.id := RowKey.toolCall.inj (Option.some.inj hkey)
          simp [ToolCall.mergeInto, TranscriptItem.toolCall?, hsame] at hother
      | notice notice => cases hkey

/-! ## events that are handled together -/

/-- The transcript after an event. -/
def told (transcript : List TranscriptItem) (event : GatewayEvent) : List TranscriptItem :=
  (SessionViewModel.applyEvent { sessionId := "", transcript } event).transcript

/-- Each event fits when its turn comes. -/
def AllFit : List TranscriptItem → List GatewayEvent → Prop
  | _, [] => True
  | transcript, event :: events => event.Fits transcript ∧ AllFit (told transcript event) events

instance decidableAllFit : ∀ transcript events, Decidable (AllFit transcript events)
  | _, [] => .isTrue trivial
  | transcript, event :: events =>
      have := decidableAllFit (told transcript event) events
      inferInstanceAs (Decidable (_ ∧ _))

/-- **An event** takes the key of what it brings. -/
theorem rowKeys_told {transcript : List TranscriptItem} {event : GatewayEvent}
    (h : event.Fits transcript) :
    rowKeys (told transcript event) = rowKeys transcript ∨
      ∃ key, event.key? = some key ∧ Takes key (rowKeys transcript)
        (rowKeys (told transcript event)) := by
  unfold told SessionViewModel.applyEvent
  split
  · next hname =>
      split
      · next payload hpayload =>
          have hmessage : event.message? = some payload := by
            rw [GatewayEvent.message?, if_pos hname, hpayload]
          have hkey : event.key? = some (.message (payload.shown event.sequence).id) := by
            rw [GatewayEvent.key?, hmessage]
          refine .inr ⟨_, hkey, takes_mergeMessage fun hid => ?_⟩
          have hunnamed : event.isUnnamed := by
            rw [GatewayEvent.isUnnamed, hmessage, Option.any_some, hid]
            rfl
          rcases h hunnamed with hcontinues | hnew
          · rw [hmessage] at hcontinues
            exact .inl hcontinues
          · exact .inr (hnew _ hkey)
      · exact .inl rfl
  · next hname =>
      split
      · next payload hpayload =>
          have hkey : event.key? = some (.toolCall payload.id) := by
            simp [GatewayEvent.key?, GatewayEvent.message?, GatewayEvent.toolCall?, hname, hpayload]
          exact .inr ⟨_, hkey, takes_upsert payload transcript⟩
      · exact .inl rfl
  · exact .inl (by split <;> rfl)
  · exact .inl (by split <;> rfl)
  · split
    · dsimp only
      exact .inl (by split <;> rfl)
    · exact .inl rfl
  · exact .inl (by split <;> rfl)
  · exact .inl (by split <;> rfl)
  · exact .inl (by simp [SessionViewModel.appendNotice])
  · split
    · dsimp only
      split
      · exact .inl (by split <;> rfl)
      · exact .inl rfl
    · exact .inl rfl
  · split
    · exact .inl (by split <;> rfl)
    · exact .inl rfl
  · split
    · split
      · dsimp only
        cases hreplace : replaceLast _ transcript with
        | some transcript' =>
            refine .inl (rowKeys_replaceLast (fun item item' hitem => ?_) hreplace)
            refine key?_onMessage (fun m m' hm => ?_) hitem
            split at hm
            · rw [← Option.some.inj hm]
            · cases hm
        | none => exact .inl rfl
      · exact .inl rfl
    · exact .inl rfl
  · exact .inl rfl

/-- An event brings no other key than its own. -/
theorem mem_rowKeys_told {transcript : List TranscriptItem} {event : GatewayEvent}
    (h : event.Fits transcript) {key : RowKey} (hkey : key ∈ rowKeys (told transcript event)) :
    key ∈ rowKeys transcript ∨ event.key? = some key := by
  rcases rowKeys_told h with hsame | ⟨taken, htaken, htakes⟩
  · exact .inl (hsame ▸ hkey)
  · rcases htakes.mem hkey with rfl | hkey
    · exact .inr htaken
    · exact .inl hkey

theorem nodup_told {transcript : List TranscriptItem} {event : GatewayEvent}
    (h : event.Fits transcript) (hnodup : (rowKeys transcript).Nodup) :
    (rowKeys (told transcript event)).Nodup := by
  rcases rowKeys_told h with hsame | ⟨taken, -, htakes⟩
  · rw [hsame]
    exact hnodup
  · exact htakes.nodup hnodup

namespace SessionViewModel

theorem transcript_showing_cons (view : SessionViewModel) (event : GatewayEvent)
    (events : List GatewayEvent) :
    (view.showing (event :: events)).transcript =
      (showing { sessionId := "", transcript := told view.transcript event }
        events).transcript := by
  refine transcript_showing ?_ events
  exact view.transcript_applyEvent event

/-- **Events that fit** keep the keys distinct, and bring no others than theirs. -/
theorem nodup_showing {view : SessionViewModel} {events : List GatewayEvent}
    (h : (rowKeys view.transcript).Nodup) (hfit : AllFit view.transcript events) :
    (rowKeys (view.showing events).transcript).Nodup ∧
      ∀ key ∈ rowKeys (view.showing events).transcript,
        key ∈ rowKeys view.transcript ∨ ∃ event ∈ events, event.key? = some key := by
  induction events generalizing view with
  | nil => exact ⟨h, fun key hkey => .inl hkey⟩
  | cons event events ih =>
      obtain ⟨hfirst, hrest⟩ := hfit
      rw [transcript_showing_cons]
      obtain ⟨hall, hkeys⟩ := @ih { sessionId := "", transcript := told view.transcript event }
        (nodup_told hfirst h) hrest
      refine ⟨hall, fun key hkey => ?_⟩
      rcases hkeys key hkey with hshown | ⟨later, hlater, hbrought⟩
      · rcases mem_rowKeys_told hfirst hshown with hshown | hbrought
        · exact .inl hshown
        · exact .inr ⟨event, List.mem_cons_self, hbrought⟩
      · exact .inr ⟨later, List.mem_cons_of_mem event hlater, hbrought⟩

/-- Finishing a replay leaves the keys. -/
theorem rowKeys_finishReplay (view : SessionViewModel) :
    rowKeys view.finishReplay.transcript = rowKeys view.transcript := by
  rw [finishReplay, rowKeys, List.filterMap_map]
  refine List.filterMap_congr fun item _ => ?_
  cases item <;> rfl

end SessionViewModel

/-! ## pages of the history -/

theorem toString_nat_injective {m n : Nat} (h : toString m = toString n) : m = n := by
  have hdigits := congrArg (fun text : String => Nat.ofDigitChars 10 text.toList 0) h
  simpa [Nat.toString_eq_ofList_toDigits] using hdigits

/-- Sequences are told apart by how they are written. -/
theorem toString_int_injective {m n : Int} (h : toString m = toString n) : m = n := by
  have hsign : ∀ k l : Nat, toString k ≠ "-" ++ toString l := by
    intro k l hsame
    have hmem : '-' ∈ Nat.toDigits 10 k := by
      have hlists := congrArg String.toList hsame
      simp only [Nat.toString_eq_ofList_toDigits, String.toList_ofList, String.toList_append]
        at hlists
      rw [hlists]
      exact List.mem_cons_self
    exact absurd (Nat.isDigit_of_mem_toDigits (by decide) (by decide) hmem) (by decide)
  cases m with
  | ofNat k =>
      cases n with
      | ofNat l => exact congrArg Int.ofNat (toString_nat_injective h)
      | negSucc l => exact absurd h (hsign k (l + 1))
  | negSucc k =>
      cases n with
      | ofNat l => exact absurd h.symm (hsign l (k + 1))
      | negSucc l =>
          have hsame := toString_nat_injective ((String.append_right_inj "-").mp h)
          rw [Nat.succ.inj hsame]

/-- A message without an id stands under the sequence of its event. -/
theorem GatewayEvent.key?_of_isUnnamed {event : GatewayEvent} (h : event.isUnnamed) :
    event.key? = some (.message ("event-" ++ toString event.sequence)) := by
  rw [isUnnamed, Option.any_eq_true] at h
  obtain ⟨payload, hmessage, hid⟩ := h
  rw [key?, hmessage]
  dsimp only
  rw [MessagePayload.shown, Option.isNone_iff_eq_none.mp hid, Option.getD_none]

/-- No event brings the key that a message without an id at a later sequence stands
under. -/
def Legible (events : List GatewayEvent) : Prop :=
  ∀ earlier ∈ events, ∀ later ∈ events, later.isUnnamed → ¬ earlier.isUnnamed →
    earlier.sequence < later.sequence → earlier.key? ≠ later.key?

instance (events : List GatewayEvent) : Decidable (Legible events) := by
  unfold Legible
  infer_instance

/-- **Fresh events** are some of the events, with distinct sequences that were not loaded. -/
theorem freshEvents_spec (events : List GatewayEvent) (loaded : Finset Int) :
    (∀ event ∈ (SessionViewModel.freshEvents events loaded).1,
        event ∈ events ∧ event.sequence ∉ loaded) ∧
      (SessionViewModel.freshEvents events loaded).1.Pairwise
        fun a b => a.sequence ≠ b.sequence := by
  induction events generalizing loaded with
  | nil => exact ⟨nofun, .nil⟩
  | cons event events ih =>
      rw [SessionViewModel.freshEvents]
      split
      · obtain ⟨hmem, hpairs⟩ := ih loaded
        exact ⟨fun other hother =>
          ⟨List.mem_cons_of_mem event (hmem other hother).1, (hmem other hother).2⟩, hpairs⟩
      · next hnew =>
          obtain ⟨hmem, hpairs⟩ := ih (insert event.sequence loaded)
          refine ⟨fun other hother => ?_, List.pairwise_cons.mpr ⟨fun other hother => ?_, hpairs⟩⟩
          · rcases List.mem_cons.mp hother with rfl | hother
            · exact ⟨List.mem_cons_self, hnew⟩
            · obtain ⟨hin, hout⟩ := hmem other hother
              exact ⟨List.mem_cons_of_mem event hin, fun h => hout (Finset.mem_insert_of_mem h)⟩
          · have hout := (hmem other hother).2
            exact fun hsame => hout (hsame ▸ Finset.mem_insert_self _ _)

/-- Events fit if no message without an id has the key of a row or of an event before it. -/
theorem allFit_of_pairwise {transcript : List TranscriptItem} {events : List GatewayEvent}
    (hshown : ∀ event ∈ events, event.isUnnamed → ∀ key ∈ event.key?, key ∉ rowKeys transcript)
    (h : events.Pairwise fun earlier later => later.isUnnamed → earlier.key? ≠ later.key?) :
    AllFit transcript events := by
  induction events generalizing transcript with
  | nil => trivial
  | cons event events ih =>
      obtain ⟨hfirst, hrest⟩ := List.pairwise_cons.mp h
      have hfits : event.Fits transcript := fun hunnamed =>
        .inr (hshown event List.mem_cons_self hunnamed)
      refine ⟨hfits, ih (fun later hlater hunnamed key hkey htold => ?_) hrest⟩
      rcases mem_rowKeys_told hfits htold with htold | hbrought
      · exact hshown later (List.mem_cons_of_mem event hlater) hunnamed key hkey htold
      · exact hfirst later hlater hunnamed (hbrought.trans hkey.symm)

/-- Events of distinct sequences that are legible fit in their order. -/
theorem allFit_insertionSort {events : List GatewayEvent}
    (hdistinct : events.Pairwise fun a b => a.sequence ≠ b.sequence) (h : Legible events) :
    AllFit [] (events.insertionSort fun a b => a.sequence ≤ b.sequence) := by
  refine allFit_of_pairwise (fun _ _ _ _ _ => List.not_mem_nil) ?_
  have hperm := List.perm_insertionSort (fun a b : GatewayEvent => a.sequence ≤ b.sequence) events
  have hsorted := List.pairwise_insertionSort
    (fun a b : GatewayEvent => a.sequence ≤ b.sequence) events
  have hdistinct' := hperm.symm.pairwise hdistinct fun hne => hne.symm
  refine (hsorted.and hdistinct').imp_of_mem fun {earlier later} hearlier hlater hboth => ?_
  intro hunnamed hsame
  have hlt : earlier.sequence < later.sequence := lt_of_le_of_ne hboth.1 hboth.2
  by_cases hearlierUnnamed : earlier.isUnnamed
  · rw [GatewayEvent.key?_of_isUnnamed hearlierUnnamed, GatewayEvent.key?_of_isUnnamed hunnamed]
      at hsame
    have hid := RowKey.message.inj (Option.some.inj hsame)
    exact hboth.2 (toString_int_injective ((String.append_right_inj "event-").mp hid))
  · exact h earlier (hperm.mem_iff.mp hearlier) later (hperm.mem_iff.mp hlater) hunnamed
      hearlierUnnamed hlt hsame

namespace SessionViewModel

/-- **A page that is rebuilt** has distinct keys, each brought by one of its new events. -/
theorem nodup_rebuilt (view : SessionViewModel) {events : List GatewayEvent}
    (h : Legible events) (loaded : Finset Int) :
    (rowKeys (view.rebuilt (freshEvents events loaded).1).transcript).Nodup ∧
      ∀ key ∈ rowKeys (view.rebuilt (freshEvents events loaded).1).transcript,
        ∃ event ∈ events, event.sequence ∉ loaded ∧ event.key? = some key := by
  obtain ⟨hmem, hdistinct⟩ := freshEvents_spec events loaded
  have hlegible : Legible (freshEvents events loaded).1 := fun earlier hearlier later hlater =>
    h earlier (hmem earlier hearlier).1 later (hmem later hlater).1
  have hperm := List.perm_insertionSort (fun a b : GatewayEvent => a.sequence ≤ b.sequence)
    (freshEvents events loaded).1
  obtain ⟨hnodup, hkeys⟩ := @nodup_showing { sessionId := view.sessionId } _ .nil
    (allFit_insertionSort hdistinct hlegible)
  refine ⟨hnodup, fun key hkey => ?_⟩
  rcases hkeys key hkey with hnone | ⟨event, hevent, hbrought⟩
  · cases hnone
  · obtain ⟨hin, hout⟩ := hmem event (hperm.mem_iff.mp hevent)
    exact ⟨event, hin, hout, hbrought⟩

/-- A page that replaces the transcript. -/
theorem nodup_pageLoaded {view : SessionViewModel} (h : (rowKeys view.transcript).Nodup)
    {response : Response SessionHistoryResult}
    (hpage : ∀ page, response = .ok (some page) → Legible page.events) :
    (rowKeys (view.pageLoaded response).transcript).Nodup := by
  cases response with
  | error message => exact h
  | ok page =>
      cases page with
      | none => exact h
      | some page => exact (view.nodup_rebuilt (hpage page rfl) view.loadedHistorySequences).1

/-- An older page, none of whose new events brings the key of a row that is shown. -/
theorem nodup_olderLoaded {view : SessionViewModel} (h : (rowKeys view.transcript).Nodup)
    {response : Response SessionHistoryResult}
    (hpage : ∀ page, response = .ok (some page) → Legible page.events ∧
      ∀ event ∈ page.events, event.sequence ∉ view.loadedHistorySequences →
        ∀ key ∈ event.key?, key ∉ rowKeys view.transcript) :
    (rowKeys (view.historyLoaded false response).transcript).Nodup := by
  cases response with
  | error message => exact h
  | ok page =>
      cases page with
      | none => exact h
      | some page =>
          obtain ⟨hlegible, hother⟩ := hpage page rfl
          obtain ⟨hnodup, hkeys⟩ := view.nodup_rebuilt hlegible view.loadedHistorySequences
          have hdisjoint : (rowKeys (view.rebuilt
              (freshEvents page.events view.loadedHistorySequences).1).transcript).Disjoint
                (rowKeys view.transcript) := by
            intro key hkey hshown
            obtain ⟨event, hevent, hnew, hbrought⟩ := hkeys key hkey
            exact hother event hevent hnew key hbrought hshown
          rw [historyLoaded]
          dsimp only
          rw [if_neg Bool.false_ne_true]
          split
          · exact (rowKeys_append _ _).symm ▸ List.nodup_append'.mpr ⟨hnodup, h, hdisjoint⟩
          · exact h

/-! ## what the connection pushes -/

/-- The events that are handled when the connection pushes something. -/
def handled (view : SessionViewModel) : Inbound → List GatewayEvent
  | .event event =>
      if event.sessionId = view.sessionId ∧ event.sequence ∉ view.replaySequencesToIgnore then
        if event.event = "replay.complete" then view.replayBuffer
        else if view.isAttaching then []
        else [event]
      else []
  | .replayCompleted sessionId _ => if sessionId = view.sessionId then view.replayBuffer else []
  | .replayRequested _ _ => []
  | .transcriptReset _ _ => []

theorem nodup_foldl_handleEvent {view : SessionViewModel} {events : List GatewayEvent}
    (h : (rowKeys view.transcript).Nodup) (hfit : AllFit view.transcript events) :
    (rowKeys (events.foldl handleEvent view).transcript).Nodup := by
  rw [(view.foldl_handleEvent_alike events).transcript]
  exact (nodup_showing h hfit).1

theorem nodup_flushReplayBuffer {view : SessionViewModel} (h : (rowKeys view.transcript).Nodup)
    (hfit : AllFit view.transcript view.replayBuffer) :
    (rowKeys view.flushReplayBuffer.finishReplay.transcript).Nodup := by
  rw [rowKeys_finishReplay]
  exact nodup_foldl_handleEvent h hfit

/-- **What is pushed** keeps the keys distinct, if the events it has handled fit. -/
theorem nodup_handle {view : SessionViewModel} (h : (rowKeys view.transcript).Nodup)
    {inbound : Inbound} (hfit : AllFit view.transcript (view.handled inbound)) :
    (rowKeys (view.handle inbound).transcript).Nodup := by
  cases inbound with
  | event event =>
      rw [handle]
      by_cases hsession : event.sessionId = view.sessionId
      · rw [if_pos hsession, receive]
        by_cases hignored : event.sequence ∈ view.replaySequencesToIgnore
        · rw [if_pos hignored]
          exact h
        · rw [handled, if_pos ⟨hsession, hignored⟩] at hfit
          rw [if_neg hignored]
          by_cases hcomplete : event.event = "replay.complete"
          · rw [if_pos hcomplete] at hfit ⊢
            exact nodup_flushReplayBuffer h hfit
          · rw [if_neg hcomplete] at hfit ⊢
            by_cases hattaching : view.isAttaching
            · rw [if_pos hattaching]
              exact h
            · rw [if_neg hattaching] at hfit ⊢
              exact @nodup_foldl_handleEvent view [event] h hfit
      · rw [if_neg hsession]
        exact h
  | replayRequested sessionId fromSequence =>
      rw [handle]
      split <;> exact h
  | replayCompleted sessionId resyncRequired =>
      rw [handle]
      by_cases hsession : sessionId = view.sessionId
      · rw [handled, if_pos hsession] at hfit
        rw [if_pos hsession]
        exact nodup_flushReplayBuffer h hfit
      · rw [if_neg hsession]
        exact h
  | transcriptReset sessionId reason =>
      rw [handle]
      split
      · split
        · dsimp only
          split
          · rw [appendNotice, rowKeys_append, rowKeys_notice, List.append_nil]
            exact h
          · exact h
        · dsimp only
          split
          · exact .nil
          · exact .nil
      · exact h

/-- The transcript an acknowledgement starts from. -/
def restarted (attach : SessionAttachResult) : List TranscriptItem :=
  if attach.resyncRequired then [.notice { kind := .warning, text := historyTrimmed }] else []

/-- **The acknowledgement** has its events handled; the buffer was emptied with the
transcript. -/
theorem nodup_attached (view : SessionViewModel) {attach : SessionAttachResult}
    (h : AllFit (restarted attach) attach.replayed) :
    (rowKeys (view.attached attach).transcript).Nodup := by
  have hbuffer : ∀ view : SessionViewModel, view.replayBuffer = [] →
      (attach.replayed.foldl handleEvent view).replayBuffer = [] := by
    intro view hempty
    have hsteering := view.steering_foldl_handleEvent attach.replayed
    exact (congrArg Steering.replayBuffer hsteering).trans hempty
  have hstart : (rowKeys (restarted attach)).Nodup := by
    rw [restarted]
    split <;> exact .nil
  have hhandled : ∀ view : SessionViewModel, view.transcript = restarted attach →
      (rowKeys (attach.replayed.foldl handleEvent view).transcript).Nodup := by
    intro view hview
    exact nodup_foldl_handleEvent (hview.symm ▸ hstart) (hview.symm ▸ h)
  unfold attached
  dsimp only
  rw [hbuffer _ (by split <;> rfl), List.foldl_nil]
  refine (rowKeys_finishReplay _).symm ▸ hhandled _ ?_
  rw [restarted]
  split <;> rfl

end SessionViewModel

end Slight.Client
