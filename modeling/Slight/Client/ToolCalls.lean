import Slight.Acp.Updates
import Slight.Client.SessionView
import Slight.Client.Survival
import Slight.Session.Journal

/-!
# Slight.Client.ToolCalls

A tool call from the agent's notifications to the screen.  The host normalizes
each notification and journals it, the client merges it into the tool call it
shows.

`patched` is the merging alone.  For every field but the status it keeps the value
of the last update that carried one; the status is overwritten by every update,
and the host turns a status that was left out into `pending`.
-/

namespace Slight

open Support Program

/-! ## the host -/

/-- The payload of an update, with an id for each piece of its content. -/
def ToolCallPayload.ofUpdate (ids : List String) (update : ToolCallUpdate) : ToolCallPayload where
  id := update.toolCallId
  title := update.title
  kind := update.kind
  status := update.status
  detail := update.detail
  content := List.zipWith .fromNormalized ids update.content
  locations := update.locations.map .ofLocation
  rawInput := update.rawInput
  rawOutput := update.rawOutput

/-- The host told the update by the event. -/
def Tells (update : SessionUpdate) (event : SessionEvent) : Prop :=
  ∃ ids : List String, ids.length = update.normalized.content.length ∧
    event = .toolCall (.ofUpdate ids update.normalized)

section

variable {S C : Type} {world : World S C}

/-- The pieces of content draw one id each. -/
theorem exec_mapM_toolContent (world : World S C) (content : List NormalizedToolContent) :
    ∃ ids : List String, ids.length = content.length ∧
      (content.mapM Manager.toolContent : Manager S C _).exec world =
        (.ok (List.zipWith .fromNormalized ids content),
          { world with ticks := world.ticks + content.length }) := by
  induction content generalizing world with
  | nil => exact ⟨[], rfl, rfl⟩
  | cons piece content ih =>
      obtain ⟨ids, hlength, hexec⟩ := ih { world with ticks := world.ticks + 1 }
      have hpiece : (Manager.toolContent piece : Manager S C _).exec world =
          (.ok (.fromNormalized (world.env.uuid world.ticks) piece),
            { world with ticks := world.ticks + 1 }) := rfl
      refine ⟨world.env.uuid world.ticks :: ids, by simp [hlength], ?_⟩
      rw [List.mapM_cons, exec_bind, hpiece]
      dsimp only
      rw [exec_bind, hexec]
      simp
      omega

/-- **Journaling a notification**: the host appends one event, which tells it. -/
theorem appendedTo_toolCall [SessionStore S] {sessionId : SessionId} {session : Session C}
    (hlive : world.inner.sessions.lookup sessionId = some session) (update : SessionUpdate) :
    ∃ sequenced, Tells update sequenced.event ∧
      appendedTo sessionId
          ((Manager.applyAgentEvent sessionId (.toolCall update.normalized) :
            Manager S C Unit).final world).effects =
        appendedTo sessionId world.effects ++ [sequenced] := by
  obtain ⟨ids, hlength, hexec⟩ :=
    exec_mapM_toolContent world update.normalized.content
  generalize hdrawn : ({ world with
    ticks := world.ticks + update.normalized.content.length } : World S C) = drawn at hexec
  have hlive' : drawn.inner.sessions.lookup sessionId = some session := by
    rw [← hdrawn]
    exact hlive
  have heffects : drawn.effects = world.effects := by
    rw [← hdrawn]
  have hfinal : (Manager.applyAgentEvent sessionId (.toolCall update.normalized) :
      Manager S C Unit).final world =
        drawn.appended sessionId session
          (drawn.nextEvent session (.toolCall (.ofUpdate ids update.normalized))) := by
    rw [Manager.applyAgentEvent, final_bind, hexec]
    dsimp only
    rw [final_bind, Manager.exec_append hlive']
    rfl
  refine ⟨drawn.nextEvent session (.toolCall (.ofUpdate ids update.normalized)),
    ⟨ids, hlength, rfl⟩, ?_⟩
  rw [hfinal, World.appended, appendedTo_append, appendedTo_appended, heffects, if_pos rfl]

end

/-- A raw value other than `null` is not touched by the journal. -/
theorem rereadRaw_of_ne_null {raw : Option Json} (h : raw ≠ some .null) : rereadRaw raw = raw := by
  cases raw with
  | none => rfl
  | some j =>
      cases j with
      | null => exact absurd rfl h
      | _ => rfl

/-- What the host tells reads back from the journal as it is. -/
theorem Tells.reread {update : SessionUpdate} {event : SessionEvent} (h : Tells update event) :
    event.reread = event := by
  obtain ⟨ids, -, rfl⟩ := h
  have hraw := update.normalized_raw_ne_null
  have hinput := rereadRaw_of_ne_null hraw.1
  have houtput := rereadRaw_of_ne_null hraw.2
  rw [SessionEvent.reread, ToolCallPayload.reread]
  simp only [ToolCallPayload.ofUpdate, hinput, houtput]

/-! ## the transcript -/

namespace Client

/-- The tool calls of a transcript. -/
def toolCalls (transcript : List TranscriptItem) : List ToolCall :=
  transcript.filterMap TranscriptItem.toolCall?

@[simp] theorem toolCalls_append (transcript more : List TranscriptItem) :
    toolCalls (transcript ++ more) = toolCalls transcript ++ toolCalls more :=
  List.filterMap_append

@[simp] theorem toolCalls_message (message : SessionMessage) :
    toolCalls [.message message] = [] := rfl

@[simp] theorem toolCalls_notice (notice : TranscriptNotice) :
    toolCalls [.notice notice] = [] := rfl

/-- Messages give way to messages. -/
theorem onMessage_eq_some {f : SessionMessage → Option SessionMessage}
    {item item' : TranscriptItem} (h : onMessage f item = some item') :
    item.toolCall? = none ∧ item'.toolCall? = none := by
  cases item with
  | message m =>
      obtain ⟨m', -, rfl⟩ := Option.map_eq_some_iff.mp h
      exact ⟨rfl, rfl⟩
  | toolCall tool => cases h
  | notice notice => cases h

theorem toolCalls_replaceFirst_onMessage {f : SessionMessage → Option SessionMessage}
    {transcript transcript' : List TranscriptItem}
    (h : replaceFirst (onMessage f) transcript = some transcript') :
    toolCalls transcript' = toolCalls transcript := by
  induction transcript generalizing transcript' with
  | nil => cases h
  | cons item rest ih =>
      rw [replaceFirst] at h
      cases hitem : onMessage f item with
      | some item' =>
          rw [hitem] at h
          obtain ⟨hnone, hnone'⟩ := onMessage_eq_some hitem
          rw [← Option.some.inj h, toolCalls, toolCalls, List.filterMap_cons_none hnone,
            List.filterMap_cons_none hnone']
      | none =>
          rw [hitem] at h
          obtain ⟨rest', hrest, rfl⟩ := Option.map_eq_some_iff.mp h
          have htools := ih hrest
          rw [toolCalls, toolCalls] at htools ⊢
          rw [List.filterMap_cons, List.filterMap_cons, htools]

theorem toolCalls_reverse (transcript : List TranscriptItem) :
    toolCalls transcript.reverse = (toolCalls transcript).reverse :=
  List.filterMap_reverse

theorem toolCalls_replaceLast_onMessage {f : SessionMessage → Option SessionMessage}
    {transcript transcript' : List TranscriptItem}
    (h : replaceLast (onMessage f) transcript = some transcript') :
    toolCalls transcript' = toolCalls transcript := by
  obtain ⟨reversed, hreversed, rfl⟩ := Option.map_eq_some_iff.mp h
  rw [toolCalls_reverse, toolCalls_replaceFirst_onMessage hreversed, toolCalls_reverse,
    List.reverse_reverse]

/-- The last message may be another one. -/
theorem toolCalls_dropLast_append {transcript : List TranscriptItem} {message : SessionMessage}
    (h : transcript.getLast? = some (.message message)) (message' : SessionMessage) :
    toolCalls (transcript.dropLast ++ [.message message']) = toolCalls transcript := by
  have hsplit := List.dropLast_append_getLast? _ h
  rw [toolCalls_append, toolCalls_message, ← hsplit, toolCalls_append, toolCalls_message,
    hsplit]

/-- A message does not touch the tool calls. -/
theorem toolCalls_mergeMessage (payload : MessagePayload) (eventSequence : Int)
    (transcript : List TranscriptItem) :
    toolCalls (mergeMessage payload eventSequence transcript) = toolCalls transcript := by
  have hechoed : ∀ (f : SessionMessage → Option SessionMessage) (incoming : SessionMessage),
      toolCalls ((replaceFirst (onMessage f) transcript).getD
        (transcript ++ [.message incoming])) = toolCalls transcript := by
    intro f incoming
    cases hreplace : replaceFirst (onMessage f) transcript with
    | some transcript' => exact toolCalls_replaceFirst_onMessage hreplace
    | none => simp
  unfold mergeMessage
  dsimp only
  split
  · next transcript' hchunked =>
      obtain ⟨id, -, hreplace⟩ := Option.bind_eq_some_iff.mp hchunked
      exact toolCalls_replaceFirst_onMessage hreplace
  · split
    · next existing hlast =>
        split
        · exact toolCalls_dropLast_append hlast _
        · simp
    · exact hechoed _ _
    · simp

/-- The tool call shown under an id. -/
def SessionViewModel.toolCall? (view : SessionViewModel) (id : String) : Option ToolCall :=
  (toolCalls view.transcript).find? (·.id = id)

/-- A tool call after an update; the first update is the tool call. -/
def patch (shown : Option ToolCall) (update : ToolCall) : ToolCall :=
  match shown with
  | some existing => existing.merging update
  | none => update

@[simp] theorem ToolCall.merging_id (toolCall update : ToolCall) :
    (toolCall.merging update).id = update.id := rfl

theorem toolCalls_cons (item : TranscriptItem) (rest : List TranscriptItem) :
    toolCalls (item :: rest) = item.toolCall?.toList ++ toolCalls rest := by
  rw [toolCalls, List.filterMap_cons]
  cases item.toolCall? <;> rfl

/-- Replacing patches the tool call of the id, and leaves the others. -/
theorem find?_replaceFirst_mergeInto {toolCall : ToolCall}
    {transcript transcript' : List TranscriptItem}
    (h : replaceFirst toolCall.mergeInto transcript = some transcript') (id : String) :
    (toolCalls transcript').find? (·.id = id) =
      if toolCall.id = id then
        some (patch ((toolCalls transcript).find? (·.id = id)) toolCall)
      else (toolCalls transcript).find? (·.id = id) := by
  induction transcript generalizing transcript' with
  | nil => cases h
  | cons item rest ih =>
      rw [replaceFirst] at h
      cases hitem : toolCall.mergeInto item with
      | some item' =>
          rw [hitem] at h
          rw [← Option.some.inj h, toolCalls_cons, toolCalls_cons]
          rw [ToolCall.mergeInto] at hitem
          cases htool : item.toolCall? with
          | none =>
              rw [htool] at hitem
              cases hitem
          | some existing =>
              rw [htool] at hitem
              dsimp only at hitem
              split at hitem
              · next hsame =>
                  rw [← Option.some.inj hitem]
                  by_cases hid : toolCall.id = id
                  · simp [TranscriptItem.toolCall?, hid, hsame.trans hid, patch]
                  · simp [TranscriptItem.toolCall?, hid, hsame]
              · cases hitem
      | none =>
          rw [hitem] at h
          obtain ⟨rest', hrest, rfl⟩ := Option.map_eq_some_iff.mp h
          rw [toolCalls_cons, toolCalls_cons, List.find?_append, List.find?_append, ih hrest]
          rw [ToolCall.mergeInto] at hitem
          cases htool : item.toolCall? with
          | none => simp
          | some existing =>
              rw [htool] at hitem
              dsimp only at hitem
              split at hitem
              · cases hitem
              · next hother =>
                  by_cases hid : toolCall.id = id
                  · subst hid
                    simp [hother]
                  · simp [hid]

/-- Nothing is replaced where there is no tool call of the id. -/
theorem find?_of_replaceFirst_mergeInto {toolCall : ToolCall}
    {transcript : List TranscriptItem}
    (h : replaceFirst toolCall.mergeInto transcript = none) :
    (toolCalls transcript).find? (·.id = toolCall.id) = none := by
  induction transcript with
  | nil => rfl
  | cons item rest ih =>
      rw [replaceFirst] at h
      cases hitem : toolCall.mergeInto item with
      | some item' =>
          rw [hitem] at h
          cases h
      | none =>
          rw [hitem] at h
          have hrest := ih (Option.map_eq_none_iff.mp h)
          rw [toolCalls_cons, List.find?_append, hrest]
          rw [ToolCall.mergeInto] at hitem
          cases htool : item.toolCall? with
          | none => rfl
          | some existing =>
              rw [htool] at hitem
              dsimp only at hitem
              split at hitem
              · cases hitem
              · next hother => simp [hother]

/-- **Upserting** patches the tool call of its id and no other. -/
theorem find?_upsert (toolCall : ToolCall) (transcript : List TranscriptItem) (id : String) :
    (toolCalls (upsert toolCall transcript)).find? (·.id = id) =
      if toolCall.id = id then
        some (patch ((toolCalls transcript).find? (·.id = id)) toolCall)
      else (toolCalls transcript).find? (·.id = id) := by
  rw [upsert]
  cases hreplace : replaceFirst toolCall.mergeInto transcript with
  | some transcript' => exact find?_replaceFirst_mergeInto hreplace id
  | none =>
      have hnone := find?_of_replaceFirst_mergeInto hreplace
      have hone : toolCalls [.toolCall toolCall] = [toolCall] := rfl
      rw [Option.getD_none, toolCalls_append, List.find?_append, hone]
      by_cases hid : toolCall.id = id
      · subst hid
        simp [hnone, patch]
      · simp [hid]

namespace SessionViewModel

theorem record_transcript (view : SessionViewModel) (event : GatewayEvent) :
    (view.record event).transcript = view.transcript := by
  rw [record]
  split <;> rfl

/-- An event of another kind does not touch the tool calls. -/
theorem toolCalls_applyEvent {event : GatewayEvent} (h : event.event ≠ "session.tool_call")
    (view : SessionViewModel) :
    toolCalls (view.applyEvent event).transcript = toolCalls view.transcript := by
  unfold applyEvent
  split
  · split
    · exact toolCalls_mergeMessage _ _ _
    · rfl
  · next hname => exact absurd hname h
  · split <;> rfl
  · split <;> rfl
  · split
    · dsimp only
      split <;> rfl
    · rfl
  · split <;> rfl
  · split <;> rfl
  · simp [appendNotice]
  · split
    · dsimp only
      split
      · split <;> rfl
      · rfl
    · rfl
  · split
    · split <;> rfl
    · rfl
  · split
    · split
      · dsimp only
        cases hreplace : replaceLast _ view.transcript with
        | some transcript => exact toolCalls_replaceLast_onMessage hreplace
        | none => rfl
      · rfl
    · rfl
  · rfl

theorem toolCall?_handleEvent_of_ne {event : GatewayEvent} (h : event.event ≠ "session.tool_call")
    (view : SessionViewModel) (id : String) :
    (view.handleEvent event).toolCall? id = view.toolCall? id := by
  rw [handleEvent, toolCall?, toolCalls_applyEvent h, record_transcript, toolCall?]

/-- **A tool-call event** patches the tool call of its payload, if it can be read. -/
theorem toolCall?_handleEvent {event : GatewayEvent} (h : event.event = "session.tool_call")
    (view : SessionViewModel) (id : String) :
    (view.handleEvent event).toolCall? id =
      match payloadAs ToolCallPayload event.payload with
      | some payload =>
          if payload.id = id then some (patch (view.toolCall? id) payload) else view.toolCall? id
      | none => view.toolCall? id := by
  have happly : ∀ view : SessionViewModel, view.applyEvent event =
      match payloadAs ToolCallPayload event.payload with
      | some payload => { view with transcript := upsert payload view.transcript }
      | none => view := by
    intro view
    cases hpayload : payloadAs ToolCallPayload event.payload <;> simp [applyEvent, h, hpayload]
  rw [handleEvent, happly]
  cases payloadAs ToolCallPayload event.payload with
  | none => rw [toolCall?, record_transcript, toolCall?]
  | some payload =>
      show (toolCalls (upsert payload (view.record event).transcript)).find? _ = _
      rw [find?_upsert, record_transcript]
      rfl

end SessionViewModel

/-! ## patches -/

/-- The tool call after all updates. -/
def patched (updates : List ToolCall) : Option ToolCall :=
  updates.foldl (fun shown update => some (patch shown update)) none

theorem patched_append_singleton (updates : List ToolCall) (update : ToolCall) :
    patched (updates ++ [update]) = some (patch (patched updates) update) := by
  rw [patched, List.foldl_append]
  rfl

/-- **A field that is kept** is the one of the last update that has it. -/
theorem patched_bind {β : Type} {f : ToolCall → Option β}
    (h : ∀ toolCall update : ToolCall, f (toolCall.merging update) = (f update).or (f toolCall))
    (updates : List ToolCall) : (patched updates).bind f = (updates.filterMap f).getLast? := by
  induction updates using List.reverseRecOn with
  | nil => rfl
  | append_singleton updates update ih =>
      have hpatch : f (patch (patched updates) update) =
          (f update).or ((patched updates).bind f) := by
        cases patched updates with
        | none => simp [patch]
        | some toolCall => exact h toolCall update
      rw [patched_append_singleton, Option.bind_some, hpatch, ih, List.filterMap_append,
        List.getLast?_append]
      cases hfield : f update <;> simp [List.filterMap, hfield]

/-- **The status** is the one of the last update. -/
theorem patched_status (updates : List ToolCall) :
    (patched updates).map ToolCallPayload.status =
      updates.getLast?.map ToolCallPayload.status := by
  induction updates using List.reverseRecOn with
  | nil => rfl
  | append_singleton updates update ih =>
      rw [patched_append_singleton, List.getLast?_append]
      cases patched updates <;> rfl

/-! The fields that are kept. -/

def ToolCallPayload.title? (toolCall : ToolCallPayload) : Option String :=
  if isBlank toolCall.title then none else some toolCall.title

def ToolCallPayload.content? (toolCall : ToolCallPayload) :
    Option (List ToolCallContentPayload) :=
  if toolCall.content = [] then none else some toolCall.content

def ToolCallPayload.locations? (toolCall : ToolCallPayload) : Option (List ToolLocation) :=
  if toolCall.locations = [] then none else some toolCall.locations

theorem title?_merging (toolCall update : ToolCall) :
    (toolCall.merging update).title? = update.title?.or toolCall.title? := by
  by_cases h : isBlank update.title <;>
    simp [ToolCallPayload.title?, ToolCall.merging, h]

theorem content?_merging (toolCall update : ToolCall) :
    (toolCall.merging update).content? = update.content?.or toolCall.content? := by
  cases h : update.content <;> simp [ToolCallPayload.content?, ToolCall.merging, h]

theorem locations?_merging (toolCall update : ToolCall) :
    (toolCall.merging update).locations? = update.locations?.or toolCall.locations? := by
  cases h : update.locations <;> simp [ToolCallPayload.locations?, ToolCall.merging, h]

end Client

/-! ## what an update carries -/

namespace SessionUpdate

/-- A `tool_call` has all fields. -/
def fields : SessionUpdate → ToolCallUpdateFields
  | toolCall tool =>
      { kind := some tool.kind
        status := some tool.status
        title := some tool.title
        content := some tool.content
        locations := some tool.locations
        rawInput := tool.rawInput
        rawOutput := tool.rawOutput }
  | toolCallUpdate update => update.fields

/-- A title, unless it is blank. -/
def title? (update : SessionUpdate) : Option String :=
  update.fields.title.filter fun title => !Client.isBlank title

def status? (update : SessionUpdate) : Option ToolCallStatus :=
  update.fields.status.map mapToolStatus

def kind? (update : SessionUpdate) : Option String := update.fields.kind.bind toolKindString

/-- Content the host knows, if there is any. -/
def content? (update : SessionUpdate) : Option (List NormalizedToolContent) :=
  (update.fields.content.map normalizeToolContent).filter fun content => !content.isEmpty

def locations? (update : SessionUpdate) : Option (List ToolLocation) :=
  (update.fields.locations.map fun locations => locations.map .fromWire).filter
    fun locations => !locations.isEmpty

def rawInput? (update : SessionUpdate) : Option Json := normalizedRaw update.fields.rawInput

def rawOutput? (update : SessionUpdate) : Option Json := normalizedRaw update.fields.rawOutput

end SessionUpdate

/-- The value of the last update that carries one. -/
def lastCarried {β : Type} (carried : SessionUpdate → Option β) (updates : List SessionUpdate) :
    Option β :=
  (updates.filterMap carried).getLast?

/-- A content block without its id, which the host draws anew for each event. -/
def ContentBlock.anonymous (block : ContentBlock) : ContentBlock := { block with id := "" }

def ToolCallContentPayload.anonymous : ToolCallContentPayload → ToolCallContentPayload
  | .content block => .content block.anonymous
  | piece => piece

/-- How the client reads content, ids apart: sizes of links are the nearest `Double`s. -/
def contentReceived (content : List NormalizedToolContent) :
    Option (List ToolCallContentPayload) :=
  (content.map (.fromNormalized "")).mapM ToolCallContentPayload.received

/-- How the client reads a location. -/
def locationReceived (location : ToolLocation) : Client.ToolLocation :=
  .ofHost (.ofLocation location)

/-- How the client reads a raw value: its numbers are the nearest `Double`s. -/
def rawReceived (raw : Json) : JSONValue := .decode raw.trip

/-- The client can read the update: it can hold the sizes of the links. -/
def SessionUpdate.readable (update : SessionUpdate) : Bool :=
  (contentReceived update.normalized.content).isSome

/-- The tool call shown has, field by field, the value of the last update that carries
the field. -/
structure Shows (shown : Option Client.ToolCall) (updates : List SessionUpdate) : Prop where
  title : ∀ title, lastCarried SessionUpdate.title? updates = some title →
    shown.map (·.title) = some title
  status : ∀ status, lastCarried SessionUpdate.status? updates = some status →
    shown.map (·.status) = some status
  kind : shown.bind (·.kind) = lastCarried SessionUpdate.kind? updates
  content : contentReceived ((lastCarried SessionUpdate.content? updates).getD []) =
    some (((shown.map (·.content)).getD []).map .anonymous)
  locations : (shown.map (·.locations)).getD [] =
    ((lastCarried SessionUpdate.locations? updates).getD []).map locationReceived
  rawInput : shown.bind (·.rawInput) =
    (lastCarried SessionUpdate.rawInput? updates).map rawReceived
  rawOutput : shown.bind (·.rawOutput) =
    (lastCarried SessionUpdate.rawOutput? updates).map rawReceived

/-- The last update the client can read carries the status that was carried last, or
carries none while that is `pending`. -/
def StatusKept (updates : List SessionUpdate) : Prop :=
  ∀ status, lastCarried SessionUpdate.status? updates = some status →
    (updates.filter (·.readable)).getLast?.map (fun update => update.status?.getD .pending) =
      some status

/-- What an update carries that the client cannot read is said by others too. -/
structure Reaches (updates : List SessionUpdate) : Prop where
  title : ∀ title, lastCarried SessionUpdate.title? updates = some title →
    lastCarried SessionUpdate.title? (updates.filter (·.readable)) = some title
  kind : lastCarried SessionUpdate.kind? (updates.filter (·.readable)) =
    lastCarried SessionUpdate.kind? updates
  content : contentReceived
      ((lastCarried SessionUpdate.content? (updates.filter (·.readable))).getD []) =
    contentReceived ((lastCarried SessionUpdate.content? updates).getD [])
  locations :
    ((lastCarried SessionUpdate.locations? (updates.filter (·.readable))).getD []).map
        locationReceived =
      ((lastCarried SessionUpdate.locations? updates).getD []).map locationReceived
  rawInput : (lastCarried SessionUpdate.rawInput? (updates.filter (·.readable))).map rawReceived =
    (lastCarried SessionUpdate.rawInput? updates).map rawReceived
  rawOutput :
    (lastCarried SessionUpdate.rawOutput? (updates.filter (·.readable))).map rawReceived =
      (lastCarried SessionUpdate.rawOutput? updates).map rawReceived

/-- The event is about the tool call. -/
def SequencedEvent.concerns (toolCallId : String) (sequenced : SequencedEvent) : Bool :=
  match sequenced.event with
  | .toolCall payload => payload.id = toolCallId
  | _ => false

/-- The updates are what the session's events tell of the tool call. -/
def ToldBy (toolCallId : String) (updates : List SessionUpdate)
    (events : List SequencedEvent) : Prop :=
  List.Forall₂ (fun update sequenced => Tells update sequenced.event) updates
    (events.filter (·.concerns toolCallId))

/-- The tool call the client shows after the session's events. -/
def shownAfter (sessionId toolCallId : String) (view : Client.SessionViewModel)
    (events : List SequencedEvent) : Option Client.ToolCall :=
  ((events.map (Client.GatewayEvent.ofFrame sessionId)).foldl
    Client.SessionViewModel.handleEvent view).toolCall? toolCallId

/-! ## what the client reads -/

/-- The tool call the client reads in an event. -/
def SequencedEvent.toolRead (sequenced : SequencedEvent) : Option Client.ToolCall :=
  match sequenced.event with
  | .toolCall payload => payload.received
  | _ => none

theorem ToolCallPayload.received_id {payload : ToolCallPayload} {tool : Client.ToolCall}
    (h : payload.received = some tool) : tool.id = payload.id := by
  obtain ⟨content, -, rfl⟩ := Option.map_eq_some_iff.mp h
  rfl

theorem toolCall?_handleEvent_toolCall (sessionId toolCallId : String) (sequence : Nat)
    (timestampMs : Int) (payload : ToolCallPayload) (view : Client.SessionViewModel) :
    (view.handleEvent (.ofFrame sessionId ⟨sequence, timestampMs, .toolCall payload⟩)).toolCall?
        toolCallId =
      match payload.received with
      | some tool =>
          if payload.id = toolCallId then some (Client.patch (view.toolCall? toolCallId) tool)
          else view.toolCall? toolCallId
      | none => view.toolCall? toolCallId := by
  have hread : payloadAs Client.ToolCallPayload
      (Client.GatewayEvent.ofFrame sessionId ⟨sequence, timestampMs, .toolCall payload⟩).payload =
        payload.received :=
    (payloadAs_decode (SessionEvent.payload_ne_null (.toolCall payload))).trans
      payload.decode_trip_received
  rw [Client.SessionViewModel.toolCall?_handleEvent rfl, hread]
  cases hreceived : payload.received with
  | none => rfl
  | some tool =>
      dsimp only
      rw [ToolCallPayload.received_id hreceived]

/-- An event that does not concern the tool call does not touch it. -/
theorem toolCall?_handleEvent_ofFrame_of_not {toolCallId : String} {sequenced : SequencedEvent}
    (h : sequenced.concerns toolCallId = false) (sessionId : String)
    (view : Client.SessionViewModel) :
    (view.handleEvent (.ofFrame sessionId sequenced)).toolCall? toolCallId =
      view.toolCall? toolCallId := by
  obtain ⟨sequence, timestampMs, event⟩ := sequenced
  cases event with
  | toolCall payload =>
      have hid : payload.id ≠ toolCallId := by
        simpa [SequencedEvent.concerns] using h
      rw [toolCall?_handleEvent_toolCall]
      cases payload.received with
      | none => rfl
      | some tool => exact if_neg hid
  | _ =>
      refine Client.SessionViewModel.toolCall?_handleEvent_of_ne ?_ view toolCallId
      simp [Client.GatewayEvent.ofFrame, SessionEvent.name]

/-- An event that concerns the tool call patches it, if the client can read it. -/
theorem toolCall?_handleEvent_ofFrame {toolCallId : String} {sequenced : SequencedEvent}
    (h : sequenced.concerns toolCallId = true) (sessionId : String)
    (view : Client.SessionViewModel) :
    (view.handleEvent (.ofFrame sessionId sequenced)).toolCall? toolCallId =
      match sequenced.toolRead with
      | some tool => some (Client.patch (view.toolCall? toolCallId) tool)
      | none => view.toolCall? toolCallId := by
  obtain ⟨sequence, timestampMs, event⟩ := sequenced
  cases event with
  | toolCall payload =>
      have hid : payload.id = toolCallId := by
        simpa [SequencedEvent.concerns] using h
      have hread : SequencedEvent.toolRead ⟨sequence, timestampMs, .toolCall payload⟩ =
          payload.received := rfl
      rw [toolCall?_handleEvent_toolCall, hread]
      cases payload.received with
      | none => rfl
      | some tool => exact if_pos hid
  | _ => simp [SequencedEvent.concerns] at h

/-- **The tool call shown** is patched with what the client can read. -/
theorem toolCall?_foldl_handleEvent (sessionId toolCallId : String)
    (events : List SequencedEvent) (view : Client.SessionViewModel) :
    shownAfter sessionId toolCallId view events =
      ((events.filter (·.concerns toolCallId)).filterMap SequencedEvent.toolRead).foldl
        (fun shown update => some (Client.patch shown update)) (view.toolCall? toolCallId) := by
  induction events generalizing view with
  | nil => rfl
  | cons sequenced events ih =>
      have hstep : shownAfter sessionId toolCallId view (sequenced :: events) =
          shownAfter sessionId toolCallId
            (view.handleEvent (.ofFrame sessionId sequenced)) events := rfl
      rw [hstep, ih]
      cases hconcerns : sequenced.concerns toolCallId with
      | false =>
          rw [toolCall?_handleEvent_ofFrame_of_not hconcerns,
            List.filter_cons_of_neg (by rw [hconcerns]; exact Bool.false_ne_true)]
      | true =>
          rw [toolCall?_handleEvent_ofFrame hconcerns, List.filter_cons_of_pos hconcerns]
          cases hread : sequenced.toolRead with
          | none => rw [List.filterMap_cons_none hread]
          | some tool => rw [List.filterMap_cons_some hread, List.foldl_cons]

/-! ## what is shown -/

/-- The client's tool call says what the update carries. -/
structure ReadAs (update : SessionUpdate) (tool : Client.ToolCall) : Prop where
  title : tool.title? = update.title?
  status : tool.status = update.status?.getD .pending
  kind : tool.kind = update.kind?
  content : tool.content?.map (fun content => some (content.map .anonymous)) =
    update.content?.map contentReceived
  locations : tool.locations? = update.locations?.map (·.map locationReceived)
  rawInput : tool.rawInput = update.rawInput?.map rawReceived
  rawOutput : tool.rawOutput = update.rawOutput?.map rawReceived

/-- Normalizing treats a `tool_call` as an update with all fields. -/
theorem SessionUpdate.normalized_eq (update : SessionUpdate) :
    update.normalized = normalizeToolCallUpdate ⟨update.toolCallId, update.fields⟩ := by
  cases update <;> rfl

@[simp] theorem ContentBlock.anonymous_fromNormalized (id : String)
    (content : NormalizedContent) :
    (fromNormalized id content).anonymous = fromNormalized "" content := by
  cases content with
  | resource contents => cases contents <;> rfl
  | _ => rfl

@[simp] theorem ToolCallContentPayload.anonymous_fromNormalized (id : String)
    (content : NormalizedToolContent) :
    (fromNormalized id content).anonymous = fromNormalized "" content := by
  cases content with
  | content block => exact congrArg _ (ContentBlock.anonymous_fromNormalized id block)
  | _ => rfl

theorem ToolCallContentPayload.received_anonymous (content : ToolCallContentPayload) :
    content.anonymous.received = content.received.map .anonymous := by
  cases content with
  | content block =>
      simp only [anonymous, received, ContentBlock.received, ContentBlock.anonymous]
      cases block.size.mapM Slight.received <;> rfl
  | _ => rfl

/-- Ids do not matter to how content is read. -/
theorem mapM_received_zipWith {ids : List String} {content : List NormalizedToolContent}
    (h : ids.length = content.length) :
    ((List.zipWith .fromNormalized ids content).mapM ToolCallContentPayload.received).map
        (·.map .anonymous) = contentReceived content := by
  induction content generalizing ids with
  | nil =>
      rw [List.zipWith_nil_right]
      rfl
  | cons piece content ih =>
      cases ids with
      | nil => cases h
      | cons id ids =>
          have htail := ih (Nat.succ.inj h)
          have hpiece := (ToolCallContentPayload.fromNormalized id piece).received_anonymous
          rw [ToolCallContentPayload.anonymous_fromNormalized] at hpiece
          rw [contentReceived] at htail ⊢
          rw [List.zipWith_cons_cons, List.map_cons, List.mapM_cons, List.mapM_cons, hpiece,
            ← htail]
          cases (ToolCallContentPayload.fromNormalized id piece).received with
          | none => rfl
          | some read =>
              cases (List.zipWith ToolCallContentPayload.fromNormalized ids content).mapM
                ToolCallContentPayload.received <;> rfl

/-- Left out is as good as empty. -/
theorem filter_nonempty_eq {α : Type} (as : Option (List α)) :
    as.filter (fun as => !as.isEmpty) =
      match as.getD [] with
      | [] => none
      | a :: rest => some (a :: rest) := by
  cases as with
  | none => rfl
  | some as => cases as <;> rfl

/-- Content is empty where it was. -/
theorem content?_eq {received : List ToolCallContentPayload} (wire : Option (List WireToolCallContent))
    (h : contentReceived ((wire.map normalizeToolContent).getD []) =
      some (received.map .anonymous)) :
    (if received = [] then none else some received).map
        (fun content => some (content.map ToolCallContentPayload.anonymous)) =
      ((wire.map normalizeToolContent).filter fun content => !content.isEmpty).map
        contentReceived := by
  rw [filter_nonempty_eq]
  cases hcontent : (wire.map normalizeToolContent).getD [] with
  | nil =>
      rw [hcontent] at h
      have hnil : received = [] := List.map_eq_nil_iff.mp (Option.some.inj h).symm
      simp [hnil]
  | cons piece content =>
      rw [hcontent] at h
      have hne : received ≠ [] := by
        rintro rfl
        rw [contentReceived, List.map_cons, List.mapM_cons] at h
        obtain ⟨read, -, hrest⟩ := Option.bind_eq_some_iff.mp h
        obtain ⟨rest, -, hcons⟩ := Option.bind_eq_some_iff.mp hrest
        cases hcons
      rw [if_neg hne, Option.map_some, Option.map_some, h]

/-- A title that was left out is blank. -/
theorem title?_eq (wire : Option String) :
    (if Client.isBlank (wire.getD "") then none else some (wire.getD "")) =
      wire.filter fun title => !Client.isBlank title := by
  cases wire with
  | none => rfl
  | some title =>
      by_cases h : Client.isBlank title <;> simp [Option.filter_some, h]

theorem locations?_eq (wire : Option (List WireToolCallLocation)) :
    (let locations : List Client.ToolLocation := ((((wire.map fun locations =>
        locations.map ToolLocation.fromWire).getD []).map .ofLocation).map .ofHost)
      if locations = [] then none else some locations) =
      ((wire.map fun locations => locations.map ToolLocation.fromWire).filter
        fun locations => !locations.isEmpty).map (·.map locationReceived) := by
  rw [filter_nonempty_eq]
  cases (wire.map fun locations => locations.map ToolLocation.fromWire).getD [] with
  | nil => rfl
  | cons location locations =>
      simp only [List.map_cons, List.map_map, reduceCtorEq, if_false]
      rfl

theorem receivedRaw_normalizedRaw (raw : Option Json) :
    receivedRaw (normalizedRaw raw) = (normalizedRaw raw).map rawReceived := by
  rw [receivedRaw, rereadRaw_of_ne_null (normalizedRaw_ne_null raw)]
  rfl

/-- **What the client reads** of an event says what the update carries. -/
theorem Tells.readAs {update : SessionUpdate} {sequenced : SequencedEvent}
    (h : Tells update sequenced.event) :
    match sequenced.toolRead with
    | some tool => update.readable = true ∧ ReadAs update tool
    | none => update.readable = false := by
  obtain ⟨ids, hlength, hevent⟩ := h
  have hcontent := mapM_received_zipWith hlength
  rw [SequencedEvent.toolRead, hevent]
  dsimp only
  rw [ToolCallPayload.received, SessionUpdate.readable]
  simp only [ToolCallPayload.ofUpdate]
  cases hread : (List.zipWith ToolCallContentPayload.fromNormalized ids
      update.normalized.content).mapM ToolCallContentPayload.received with
  | none =>
      rw [hread] at hcontent
      rw [← hcontent]
      rfl
  | some content =>
      rw [hread] at hcontent
      rw [← hcontent]
      refine ⟨rfl, ?_⟩
      rw [SessionUpdate.normalized_eq] at hcontent ⊢
      exact
        { title := title?_eq update.fields.title
          status := rfl
          kind := rfl
          content := content?_eq update.fields.content hcontent.symm
          locations := locations?_eq update.fields.locations
          rawInput := receivedRaw_normalizedRaw update.fields.rawInput
          rawOutput := receivedRaw_normalizedRaw update.fields.rawOutput }

/-- The tool calls the client reads are those of the updates it can read. -/
theorem ToldBy.readAs {toolCallId : String} {updates : List SessionUpdate}
    {events : List SequencedEvent} (h : ToldBy toolCallId updates events) :
    List.Forall₂ ReadAs (updates.filter (·.readable))
      ((events.filter (·.concerns toolCallId)).filterMap SequencedEvent.toolRead) := by
  rw [ToldBy] at h
  generalize events.filter (·.concerns toolCallId) = events at h ⊢
  induction h with
  | nil => exact .nil
  | @cons update sequenced updates events htells _ ih =>
      have hread := htells.readAs
      cases htool : sequenced.toolRead with
      | none =>
          rw [htool] at hread
          rw [List.filterMap_cons_none htool,
            List.filter_cons_of_neg (by rw [hread]; exact Bool.false_ne_true)]
          exact ih
      | some tool =>
          rw [htool] at hread
          rw [List.filterMap_cons_some htool, List.filter_cons_of_pos hread.1]
          exact .cons hread.2 ih

/-- A field that is a list is empty where it is absent. -/
theorem getD_map_eq {α β : Type} (shown : Option α) (field : α → List β) :
    (shown.map field).getD [] =
      (shown.bind fun a => if field a = [] then none else some (field a)).getD [] := by
  cases shown with
  | none => rfl
  | some a =>
      by_cases h : field a = [] <;> simp [h]

section

variable {updates : List SessionUpdate} {tools : List Client.ToolCall}

/-- The last value carried is the last one read. -/
theorem lastCarried_map {β γ δ : Type} {carried : SessionUpdate → Option β}
    {field : Client.ToolCall → Option γ} {f : β → δ} {g : γ → δ}
    (h : List.Forall₂ ReadAs updates tools)
    (hfield : ∀ update tool, ReadAs update tool → (field tool).map g = (carried update).map f) :
    (tools.filterMap field).getLast?.map g = (lastCarried carried updates).map f := by
  have hmap : (tools.filterMap field).map g = (updates.filterMap carried).map f := by
    induction h with
    | nil => rfl
    | @cons update tool updates tools hread _ ih =>
        rw [List.map_filterMap, List.map_filterMap] at ih ⊢
        rw [List.filterMap_cons, List.filterMap_cons, hfield update tool hread, ih]
  rw [lastCarried, ← List.getLast?_map, ← List.getLast?_map, hmap]

theorem bind_patched {β γ : Type} {carried : SessionUpdate → Option β}
    {field : Client.ToolCall → Option γ} {f : β → γ} (h : List.Forall₂ ReadAs updates tools)
    (hmerging : ∀ toolCall update : Client.ToolCall,
      field (toolCall.merging update) = (field update).or (field toolCall))
    (hfield : ∀ update tool, ReadAs update tool → field tool = (carried update).map f) :
    (Client.patched tools).bind field = (lastCarried carried updates).map f := by
  have hlast : (tools.filterMap field).getLast?.map id = (lastCarried carried updates).map f :=
    lastCarried_map h fun update tool hread => by
      rw [hfield update tool hread, Option.map_id, id_eq]
  rw [Client.patched_bind hmerging, ← hlast, Option.map_id, id_eq]

theorem title?_patched (h : List.Forall₂ ReadAs updates tools) :
    (Client.patched tools).bind (·.title?) = lastCarried SessionUpdate.title? updates := by
  simpa using bind_patched (f := id) h Client.title?_merging fun update tool hread => by
    rw [hread.title, Option.map_id, id_eq]

theorem status_patched (h : List.Forall₂ ReadAs updates tools) :
    (Client.patched tools).map (·.status) =
      updates.getLast?.map fun update => update.status?.getD .pending := by
  have hmap : tools.map (·.status) = updates.map fun update => update.status?.getD .pending := by
    induction h with
    | nil => rfl
    | cons hread _ ih => rw [List.map_cons, List.map_cons, hread.status, ih]
  rw [Client.patched_status, ← List.getLast?_map, ← List.getLast?_map, hmap]

theorem kind_patched (h : List.Forall₂ ReadAs updates tools) :
    (Client.patched tools).bind (·.kind) = lastCarried SessionUpdate.kind? updates := by
  simpa using bind_patched (f := id) h (fun _ _ => rfl) fun update tool hread => by
    rw [hread.kind, Option.map_id, id_eq]

theorem content_patched (h : List.Forall₂ ReadAs updates tools) :
    some ((((Client.patched tools).map (·.content)).getD []).map .anonymous) =
      contentReceived ((lastCarried SessionUpdate.content? updates).getD []) := by
  have hlast := lastCarried_map h fun update tool hread => hread.content
  have hbind := Client.patched_bind Client.content?_merging tools
  have hgetD : ((Client.patched tools).map (·.content)).getD [] =
      ((Client.patched tools).bind (·.content?)).getD [] := getD_map_eq _ _
  rw [hgetD, hbind]
  cases hread : (tools.filterMap (·.content?)).getLast? with
  | none =>
      rw [hread] at hlast
      rw [Option.map_eq_none_iff.mp hlast.symm]
      rfl
  | some content =>
      rw [hread] at hlast
      obtain ⟨carried, hcarried, hreceived⟩ := Option.map_eq_some_iff.mp hlast.symm
      rw [hcarried]
      exact hreceived.symm

theorem locations_patched (h : List.Forall₂ ReadAs updates tools) :
    ((Client.patched tools).map (·.locations)).getD [] =
      ((lastCarried SessionUpdate.locations? updates).getD []).map locationReceived := by
  have hbind := bind_patched h Client.locations?_merging fun _ _ hread => hread.locations
  have hgetD : ((Client.patched tools).map (·.locations)).getD [] =
      ((Client.patched tools).bind (·.locations?)).getD [] := getD_map_eq _ _
  rw [hgetD, hbind]
  cases lastCarried SessionUpdate.locations? updates <;> rfl

theorem rawInput_patched (h : List.Forall₂ ReadAs updates tools) :
    (Client.patched tools).bind (·.rawInput) =
      (lastCarried SessionUpdate.rawInput? updates).map rawReceived :=
  bind_patched h (fun _ _ => rfl) fun _ _ hread => hread.rawInput

theorem rawOutput_patched (h : List.Forall₂ ReadAs updates tools) :
    (Client.patched tools).bind (·.rawOutput) =
      (lastCarried SessionUpdate.rawOutput? updates).map rawReceived :=
  bind_patched h (fun _ _ => rfl) fun _ _ hread => hread.rawOutput

end

theorem isBlank_of_lastCarried {updates : List SessionUpdate} {title : String}
    (h : lastCarried SessionUpdate.title? updates = some title) :
    Client.isBlank title = false := by
  obtain ⟨update, -, hcarried⟩ := List.mem_filterMap.mp (List.mem_of_getLast? h)
  have hkept := (Option.filter_eq_some_iff.mp hcarried).2
  simpa using hkept

theorem bind_title?_iff {shown : Option Client.ToolCall} {title : String}
    (h : Client.isBlank title = false) :
    shown.bind (·.title?) = some title ↔ shown.map (·.title) = some title := by
  cases shown with
  | none => simp
  | some tool =>
      rw [Option.bind_some, Option.map_some, Client.ToolCallPayload.title?]
      constructor
      · intro hkept
        split at hkept
        · cases hkept
        · exact hkept
      · intro hsame
        rw [Option.some.inj hsame, h]
        rfl

/-- **Patching**: the tool call shown has the last values the client could read, and
the status of the last update. -/
theorem shows_patched_iff {updates : List SessionUpdate} {tools : List Client.ToolCall}
    (h : List.Forall₂ ReadAs (updates.filter (·.readable)) tools) :
    Shows (Client.patched tools) updates ↔ StatusKept updates ∧ Reaches updates := by
  have htitle : ∀ title, lastCarried SessionUpdate.title? updates = some title →
      ((Client.patched tools).map (·.title) = some title ↔
        lastCarried SessionUpdate.title? (updates.filter (·.readable)) = some title) := by
    intro title hlast
    rw [← bind_title?_iff (isBlank_of_lastCarried hlast), title?_patched h]
  constructor
  · intro hshows
    refine ⟨fun status hlast => ?_, ?_⟩
    · rw [← status_patched h]
      exact hshows.status status hlast
    · exact
        { title := fun title hlast => (htitle title hlast).mp (hshows.title title hlast)
          kind := (kind_patched h).symm.trans hshows.kind
          content := (content_patched h).symm.trans hshows.content.symm
          locations := (locations_patched h).symm.trans hshows.locations
          rawInput := (rawInput_patched h).symm.trans hshows.rawInput
          rawOutput := (rawOutput_patched h).symm.trans hshows.rawOutput }
  · rintro ⟨hstatus, hreaches⟩
    exact
      { title := fun title hlast => (htitle title hlast).mpr (hreaches.title title hlast)
        status := fun status hlast => (status_patched h).trans (hstatus status hlast)
        kind := (kind_patched h).trans hreaches.kind
        content := hreaches.content.symm.trans (content_patched h).symm
        locations := (locations_patched h).trans hreaches.locations
        rawInput := (rawInput_patched h).trans hreaches.rawInput
        rawOutput := (rawOutput_patched h).trans hreaches.rawOutput }

/-- Updates that the client can read all reach it. -/
theorem reaches_of_readable {updates : List SessionUpdate}
    (h : ∀ update ∈ updates, update.readable = true) : Reaches updates := by
  have hall : updates.filter (·.readable) = updates := List.filter_eq_self.mpr h
  constructor <;> rw [hall]
  exact fun _ hlast => hlast

/-- Where the client can read everything, the status is kept exactly if the last update
carries one, or `pending` was carried last. -/
theorem statusKept_iff_of_readable {updates : List SessionUpdate}
    (h : ∀ update ∈ updates, update.readable = true) :
    StatusKept updates ↔ ∀ last, updates.getLast? = some last → last.status? = none →
      ∀ status, lastCarried SessionUpdate.status? updates = some status → status = .pending := by
  have hall : updates.filter (·.readable) = updates := List.filter_eq_self.mpr h
  rw [StatusKept, hall]
  constructor
  · intro hkept last hlast hnone status hcarried
    have hsame := hkept status hcarried
    rw [hlast, Option.map_some, hnone] at hsame
    exact (Option.some.inj hsame).symm
  · intro hpending status hcarried
    cases hlast : updates.getLast? with
    | none =>
        rw [List.getLast?_eq_none_iff.mp hlast] at hcarried
        cases hcarried
    | some last =>
        rw [Option.map_some]
        cases hstatus : last.status? with
        | none => rw [hpending last hlast hstatus status hcarried, Option.getD_none]
        | some carried =>
            have hsplit := List.dropLast_append_getLast? _ hlast
            rw [← hsplit, lastCarried, List.filterMap_append,
              List.filterMap_cons_some hstatus] at hcarried
            rw [List.filterMap_nil, List.getLast?_append, List.getLast?_singleton,
              Option.some_or] at hcarried
            rw [Option.getD_some, hcarried]

/-- The tool call of a view that did not show it before. -/
theorem shownAfter_eq_patched {sessionId toolCallId : String} {view : Client.SessionViewModel}
    (hview : view.toolCall? toolCallId = none) (events : List SequencedEvent) :
    shownAfter sessionId toolCallId view events = Client.patched
      ((events.filter (·.concerns toolCallId)).filterMap SequencedEvent.toolRead) := by
  rw [toolCall?_foldl_handleEvent, hview, Client.patched]

/-- **Tool-call updates as patches**: the tool call shown has the last value carried of
every field exactly if the last update the client can read carries the status that
was carried last, or carries none while that is `pending`, and nothing hangs on
updates the client cannot read. -/
theorem shows_iff {sessionId toolCallId : String} {updates : List SessionUpdate}
    {events : List SequencedEvent} {view : Client.SessionViewModel}
    (htold : ToldBy toolCallId updates events) (hview : view.toolCall? toolCallId = none) :
    Shows (shownAfter sessionId toolCallId view events) updates ↔
      StatusKept updates ∧ Reaches updates := by
  rw [shownAfter_eq_patched hview]
  exact shows_patched_iff htold.readAs

/-- A tool call that is announced, completes with a diff, and gets an output. -/
def sampleUpdates (status : Option WireToolCallStatus) : List SessionUpdate :=
  [.toolCall { toolCallId := "t1", title := "Edit", kind := .edit },
    .toolCallUpdate ⟨"t1",
      { status := some .completed
        content := some [.diff "src/main.rs" (some "a") "b"]
        locations := some [{ path := "src/main.rs", line := some 3 }] }⟩,
    .toolCallUpdate ⟨"t1", { status, rawOutput := some (.str "ok") }⟩]

/-- The events the host tells the updates by. -/
def sampleToolEvents (status : Option WireToolCallStatus) : List SequencedEvent :=
  [⟨2, 2000, .status ⟨.working⟩⟩] ++
    ((sampleUpdates status).zipIdx 3).map fun (update, sequence) =>
      ⟨sequence, 2000, .toolCall
        (.ofUpdate (update.normalized.content.map fun _ => "b1") update.normalized)⟩

theorem toldBy_sampleToolEvents (status : Option WireToolCallStatus) :
    ToldBy "t1" (sampleUpdates status) (sampleToolEvents status) := by
  refine .cons ⟨[], rfl, rfl⟩ (.cons ⟨["b1"], rfl, rfl⟩ (.cons ⟨[], rfl, rfl⟩ .nil))

/-- With a status in the last update the tool call is shown as patched. -/
theorem shows_iff_sampleUpdates :
    Shows (shownAfter "s1" "t1" { sessionId := "s1" } (sampleToolEvents (some .completed)))
      (sampleUpdates (some .completed)) := by
  have hreadable : ∀ update ∈ sampleUpdates (some .completed), update.readable = true := by
    decide +kernel
  refine (shows_iff (toldBy_sampleToolEvents _) rfl).mpr
    ⟨(statusKept_iff_of_readable hreadable).mpr ?_, reaches_of_readable hreadable⟩
  intro last hlast hnone
  rw [← Option.some.inj hlast] at hnone
  cases hnone

/-- An output that arrives after completion, without a status, puts the tool call back
to `pending`. -/
theorem completed_shown_pending :
    ToldBy "t1" (sampleUpdates none) (sampleToolEvents none) ∧
      lastCarried SessionUpdate.status? (sampleUpdates none) = some .completed ∧
      (shownAfter "s1" "t1" { sessionId := "s1" } (sampleToolEvents none)).map (·.status) =
        some .pending ∧
      ¬ Shows (shownAfter "s1" "t1" { sessionId := "s1" } (sampleToolEvents none))
        (sampleUpdates none) := by
  have hcarried : lastCarried SessionUpdate.status? (sampleUpdates none) = some .completed := by
    decide +kernel
  have hshown : (shownAfter "s1" "t1" { sessionId := "s1" } (sampleToolEvents none)).map
      (·.status) = some .pending := by
    rw [shownAfter_eq_patched rfl]
    decide +kernel
  refine ⟨toldBy_sampleToolEvents none, hcarried, hshown, fun hshows => ?_⟩
  have hkept := hshows.status .completed hcarried
  rw [hshown] at hkept
  cases hkept

end Slight
