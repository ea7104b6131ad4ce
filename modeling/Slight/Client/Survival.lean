import Slight.Client.Mirror

/-!
# Slight.Client.Survival

The trip of a session event from the host's journal to the client's model: the
host writes it as an event frame, the client decodes the frame and, by the event
name, its payload.

Snapshots lose the times of their summary on the way, because the host writes a
summary in its event form while the client reads the form of the results; and
the client has no model for two of the host's events.
-/

namespace Slight

/-! ## the range of JSON integers -/

mutual

/-- Every integer literal of a document is below `bound` in magnitude. -/
def Json.intsBelow (bound : Nat) : Json → Bool
  | .int n => n.natAbs < bound
  | .arr xs => intsBelowAll bound xs
  | .obj fields => intsBelowFields bound fields
  | _ => true

def Json.intsBelowAll (bound : Nat) : List Json → Bool
  | [] => true
  | j :: js => intsBelow bound j && intsBelowAll bound js

def Json.intsBelowFields (bound : Nat) : List (String × Json) → Bool
  | [] => true
  | (_, j) :: fields => intsBelow bound j && intsBelowFields bound fields

end

namespace Json

variable {bound : Nat}

theorem intsBelow_of_mem {xs : List Json} (h : (arr xs).intsBelow bound) :
    ∀ j ∈ xs, j.intsBelow bound := by
  rw [intsBelow] at h
  induction xs with
  | nil => simp
  | cons x xs ih =>
      rw [intsBelowAll, Bool.and_eq_true] at h
      intro j hj
      rcases List.mem_cons.mp hj with rfl | hj
      · exact h.1
      · exact ih h.2 j hj

theorem intsBelow_cons {key : String} {j : Json} {fields : Fields}
    (h : (obj ((key, j) :: fields)).intsBelow bound) :
    j.intsBelow bound ∧ (obj fields).intsBelow bound := by
  rw [intsBelow, intsBelowFields, Bool.and_eq_true] at h
  exact h

theorem intsBelow_of_field {fields : Fields} (h : (obj fields).intsBelow bound) :
    ∀ key j, (key, j) ∈ fields → j.intsBelow bound := by
  rw [intsBelow] at h
  induction fields with
  | nil => simp
  | cons field fields ih =>
      obtain ⟨key', j'⟩ := field
      rw [intsBelowFields, Bool.and_eq_true] at h
      intro key j hj
      rcases List.mem_cons.mp hj with heq | hj
      · rw [(Prod.mk.inj heq).2]
        exact h.1
      · exact ih h.2 key j hj

theorem decode_trip_float_exact (q : Rat) :
    JSONValue.decode (trip (.float q)) = .number q := by
  rw [trip_float]
  by_cases hint : q.den = 1 ∧ q.num.natAbs < 2 ^ 53
  · have hq : (q.num : Rat) = q := Rat.den_eq_one_iff q |>.mp hint.1
    rw [if_pos hint, JSONValue.decode, JSONValue.read, doubleOfInt_of_lt hint.2, hq]
  · rw [if_neg hint]
    rfl

mutual

/-- **Small integers survive**: a document whose integers are below 2^53 says the
same after the detour. -/
theorem decode_trip_exact : ∀ j : Json, j.intsBelow (2 ^ 53) →
    JSONValue.decode j.trip = JSONValue.exact j
  | .null, _ => rfl
  | .bool _, _ => rfl
  | .str _, _ => rfl
  | .int n, h => by
      rw [intsBelow, decide_eq_true_eq] at h
      rw [trip_int, decode_trip_float_exact, doubleOfInt_of_lt h]
      rfl
  | .float q, _ => decode_trip_float_exact q
  | .arr xs, h => by
      rw [trip_arr, JSONValue.decode, JSONValue.read, readAll_trip_exact xs h]
      rfl
  | .obj fields, h => by
      rw [trip_obj, JSONValue.decode, JSONValue.read, readFields_trip_exact fields h]
      rfl

theorem readAll_trip_exact : ∀ xs : List Json, intsBelowAll (2 ^ 53) xs →
    JSONValue.readAll doubleOfInt (xs.map trip) = JSONValue.readAll (fun n => n) xs
  | [], _ => rfl
  | j :: js, h => by
      rw [intsBelowAll, Bool.and_eq_true] at h
      have hj := decode_trip_exact j h.1
      rw [JSONValue.decode, JSONValue.exact] at hj
      rw [List.map_cons, JSONValue.readAll, JSONValue.readAll, hj, readAll_trip_exact js h.2]

theorem readFields_trip_exact : ∀ fields : List (String × Json),
    intsBelowFields (2 ^ 53) fields →
    JSONValue.readFields doubleOfInt (fields.map fun (key, j) => (key, j.trip)) =
      JSONValue.readFields (fun n => n) fields
  | [], _ => rfl
  | (key, j) :: fields, h => by
      rw [intsBelowFields, Bool.and_eq_true] at h
      have hj := decode_trip_exact j h.1
      rw [JSONValue.decode, JSONValue.exact] at hj
      rw [List.map_cons, JSONValue.readFields, JSONValue.readFields, hj,
        readFields_trip_exact fields h.2]

end

end Json

/-- A field left out when it is `None` stands before the others. -/
theorem mem_skipNone {α : Type} [Serde α] {key : String} {a : Option α} {rest : Fields}
    {field : String × Json} (h : field ∈ rest) : field ∈ skipNone key a rest := by
  cases a with
  | none => exact h
  | some a => exact List.mem_cons_of_mem _ h

/-- A field of a bounded struct is bounded. -/
theorem intsBelow_field {α : Type} [Record α] {bound : Nat} {a : α}
    (h : (toJson a).intsBelow bound) {key : String} {j : Json} (hmem : (key, j) ∈ toFields a) :
    j.intsBelow bound :=
  Json.intsBelow_of_field h key j hmem

/-- An element of a bounded list is bounded. -/
theorem intsBelow_element {α : Type} [Serde α] {bound : Nat} {as : List α}
    (h : (toJson as).intsBelow bound) {a : α} (hmem : a ∈ as) : (toJson a).intsBelow bound :=
  Json.intsBelow_of_mem h _ (List.mem_map_of_mem hmem)

theorem received_of_intsBelow {n : Int} (h : (toJson n).intsBelow (2 ^ 53)) :
    received n = some n := by
  change (Json.int n).intsBelow (2 ^ 53) at h
  rw [Json.intsBelow, decide_eq_true_eq] at h
  exact received_of_lt h

theorem mapM_received_of_intsBelow {n : Option Int} (h : (toJson n).intsBelow (2 ^ 53)) :
    n.mapM received = some n := by
  cases n with
  | none => rfl
  | some n =>
      have hn := received_of_intsBelow h
      rw [Option.mapM, hn]
      rfl

/-- A list whose elements are received as they are is. -/
theorem mapM_eq_some_self {α : Type} {f : α → Option α} {as : List α}
    (h : ∀ a ∈ as, f a = some a) : as.mapM f = some as := by
  induction as with
  | nil => rfl
  | cons a as ih =>
      rw [List.mapM_cons, h a List.mem_cons_self,
        ih fun b hb => h b (List.mem_cons_of_mem a hb)]
      rfl

theorem ContentBlock.received_of_intsBelow {block : ContentBlock}
    (h : (toJson block).intsBelow (2 ^ 53)) : block.received = some block := by
  have hsize : block.size.mapM Slight.received = some block.size := by
    cases hcase : block.size with
    | none => rfl
    | some n =>
        have hmem : ("size", toJson n) ∈ toFields block := by
          simp only [toFields, hcase]
          iterate 4 apply List.mem_cons_of_mem
          iterate 6 apply mem_skipNone
          exact List.mem_cons_self
        exact mapM_received_of_intsBelow (n := some n) (intsBelow_field h hmem)
  rw [received, hsize]
  rfl

theorem ToolCallContentPayload.received_of_intsBelow {content : ToolCallContentPayload}
    (h : (toJson content).intsBelow (2 ^ 53)) : content.received = some content := by
  cases content with
  | content block =>
      have hblock : (toJson block).intsBelow (2 ^ 53) := by
        have htagged : (Json.obj (tagged "type" "content" block)).intsBelow (2 ^ 53) := h
        rw [tagged, Json.intsBelow, Json.intsBelowFields, Bool.and_eq_true] at htagged
        exact htagged.2
      rw [received, ContentBlock.received_of_intsBelow hblock]
      rfl
  | diff path oldText newText => rfl
  | terminal terminalId => rfl

/-! ## the trip of an event -/

/-- The client's payload says what the host's does, field by field. -/
def Carries : SessionEvent → Client.EventPayload → Prop
  | .status host, .status client => client.status = host.status
  | .message host, .message client =>
      client.role = host.role ∧ client.text = host.text ∧ client.blocks = host.blocks
  | .toolCall host, .toolCall client =>
      client.id = host.id ∧ client.title = host.title ∧ client.kind = host.kind ∧
        client.status = host.status ∧ client.detail = host.detail ∧
        client.content = host.content ∧ client.locations = host.locations.map .ofHost ∧
        client.rawInput = host.rawInput.map .exact ∧ client.rawOutput = host.rawOutput.map .exact
  | .plan host, .plan client => client.entries = host.entries
  | .mode host, .mode client => client.currentModeId = host.currentModeId
  | .commands host, .commands client => client.commands = host.commands
  | .configOptions host, .configOptions client => client.options = host.options
  | .turnEnded host, .turnEnded client =>
      client.stopReason = host.stopReason ∧
        client.reasoningStartedAtMs = host.reasoningStartedAtMs ∧
        client.reasoningEndedAtMs = host.reasoningEndedAtMs
  | .permissionRequest host, .permissionRequest client =>
      client.id = host.id ∧ client.title = host.title ∧ client.detail = host.detail ∧
        client.toolCallId = host.toolCallId ∧ client.options = host.options
  | .permissionResolved host, .permissionResolved client =>
      client.id = host.id ∧ client.optionId = host.optionId
  | .exit host, .exit client =>
      client.code = host.code.map (·.toInt) ∧ client.reason = host.reason
  | .diagnostics host, .diagnostics client =>
      client.level = host.level.rawValue ∧ client.message = host.message
  | .snapshot host, .snapshot client =>
      client.summary.id = host.summary.id ∧ client.summary.title = host.summary.title ∧
        client.summary.agent = host.summary.agent ∧ client.summary.model = host.summary.model ∧
        client.summary.effort = host.summary.effort ∧
        client.summary.workingDirectoryLabel = host.summary.workingDirectoryLabel ∧
        client.summary.gitBranch = host.summary.gitBranch ∧
        client.summary.status = host.summary.status ∧
        client.summary.createdAt = some (.ofMs host.summary.createdAtMs) ∧
        client.summary.lastActivityAt = some (.ofMs host.summary.lastActivityAtMs) ∧
        client.summary.lastSequence = host.summary.lastSequence ∧
        client.summary.recovery = host.summary.recovery ∧
        client.summary.archived = host.summary.archived ∧
        client.pendingPermission = host.pendingPermission
  | _, _ => False

/-- The frame of an event decodes, its payload decodes under the model of its name,
and both say what the host wrote. -/
def Survives (sessionId : String) (sequenced : SequencedEvent) : Prop :=
  ∃ event payload, Client.decodeEventFrame (gatewayEvent sessionId sequenced).frame = some event ∧
    event.sessionId = sessionId ∧ event.sequence = sequenced.sequence ∧
    event.event = sequenced.event.name ∧ event.at_ = some (.ofMs sequenced.timestampMs) ∧
    event.typedPayload = some payload ∧ Carries sequenced.event payload

/-- The events the host appends, with numbers the client can hold: the integers of
the frame are below 2^53, the time is of the years 0 to 9999, and the event reads
back from the host's journal as it is, that is, its raw values are not `null` and a
category with a name of its own is not spelled like a known one. -/
structure Appendable (sessionId : String) (sequenced : SequencedEvent) : Prop where
  ints : (gatewayEvent sessionId sequenced).frame.intsBelow (2 ^ 53)
  year : 0 ≤ yearFromMs sequenced.timestampMs ∧ yearFromMs sequenced.timestampMs ≤ 9999
  reread : sequenced.event.reread = sequenced.event

/-- The events the client has a model for that reads all of it. -/
def SessionEvent.mirrored : SessionEvent → Bool
  | .snapshot _ | .sessionInfo _ | .usage _ => false
  | _ => true

/-- A payload is an object. -/
theorem SessionEvent.payload_ne_null (event : SessionEvent) : event.payload ≠ .null := by
  cases event <;> exact Json.noConfusion

theorem payloadAs_decode {α : Type} [Decodable α] {j : Json} (hj : j ≠ .null) :
    payloadAs α (some (.decode j)) = decodeJSON j.trip := by
  have hvalue : decodePayload α (some (.decode j)) = (decodeJSON j.trip : Option α).map some := by
    cases j with
    | null => exact absurd rfl hj
    | _ => rfl
  rw [payloadAs, hvalue]
  cases (decodeJSON j.trip : Option α) <;> rfl

/-- What the client makes of an event frame. -/
def Client.GatewayEvent.ofFrame (sessionId : String) (sequenced : SequencedEvent) :
    Client.GatewayEvent where
  protocolVersion := 1
  sessionId := sessionId
  sequence := sequenced.sequence
  event := sequenced.event.name
  at_ := some (.ofMs sequenced.timestampMs)
  payload := some (.decode sequenced.event.payload)

theorem decodeEventFrame_frame {sessionId : String} {sequenced : SequencedEvent}
    (h : Appendable sessionId sequenced) :
    Client.decodeEventFrame (gatewayEvent sessionId sequenced).frame =
      some (.ofFrame sessionId sequenced) := by
  have hsequence : (sequenced.sequence : Int).natAbs < 2 ^ 53 := by
    have hfield := Json.intsBelow_of_field h.ints "sequence" (.int sequenced.sequence)
      (by simp [gatewayEvent, toJson])
    rw [Json.intsBelow, decide_eq_true_eq] at hfield
    exact hfield
  have hint : int64? sequenced.sequence = some (sequenced.sequence : Int) := by
    rw [int64?, if_pos (by omega)]
  have hat := parseTimestamp_rfc3339FromMs h.year
  have hpayload := sequenced.event.payload_ne_null
  have hcontainer : (gatewayEvent sessionId sequenced).frame.container =
      some [("type", .str "event"), ("v", .int 1), ("sessionId", .str sessionId),
        ("sequence", .int sequenced.sequence), ("event", .str sequenced.event.name),
        ("at", .str (rfc3339FromMs sequenced.timestampMs)),
        ("payload", sequenced.event.payload)] := by
    simp [GatewayEvent.frame, gatewayEvent, Json.container, toJson]
  generalize hfields : [("type", Json.str "event"), ("v", .int 1), ("sessionId", .str sessionId),
    ("sequence", .int sequenced.sequence), ("event", .str sequenced.event.name),
    ("at", .str (rfc3339FromMs sequenced.timestampMs)),
    ("payload", sequenced.event.payload)] = fields at hcontainer
  have htype : Container.decode fields "type" = some "event" := by
    rw [← hfields]
    rfl
  have hversion : Container.decodeOr fields "v" (1 : Int) = some 1 := by
    rw [← hfields]
    rfl
  have hsession : Container.decode fields "sessionId" = some sessionId := by
    rw [← hfields]
    rfl
  have hnumber : Container.decode fields "sequence" = some (sequenced.sequence : Int) := by
    have hlookup : List.lookup "sequence" fields = some (.int sequenced.sequence) := by
      rw [← hfields]
      rfl
    rw [Container.decode, hlookup, Option.bind_some]
    exact hint
  have hname : Container.decode fields "event" = some sequenced.event.name := by
    rw [← hfields]
    rfl
  have htime : Container.decodeIfPresent fields "at" =
      some (some (Date.ofMs sequenced.timestampMs)) := by
    have hlookup : List.lookup "at" fields =
        some (.str (rfc3339FromMs sequenced.timestampMs)) := by
      rw [← hfields]
      rfl
    rw [Container.decodeIfPresent_of_lookup Json.noConfusion hlookup]
    exact congrArg (Option.map some) hat
  have hbody : Container.decodeIfPresent fields "payload" =
      some (some (JSONValue.decode sequenced.event.payload)) := by
    rw [Container.decodeIfPresent_of_lookup sequenced.event.payload_ne_null (by rw [← hfields]; rfl)]
    rfl
  have hevent : decodeJSON (gatewayEvent sessionId sequenced).frame =
      some (Client.GatewayEvent.ofFrame sessionId sequenced) := by
    change ((gatewayEvent sessionId sequenced).frame.container).bind ofContainer = _
    rw [hcontainer, Option.bind_some]
    simp only [ofContainer, hversion, hsession, hnumber, hname, htime, hbody]
    rfl
  simp only [Client.decodeEventFrame, hcontainer, Option.bind_eq_bind, Option.bind_some, htype,
    if_true, hevent]

/-- A field of the payload of an appended event is bounded. -/
theorem Appendable.payload_ints {sessionId : String} {sequenced : SequencedEvent}
    (h : Appendable sessionId sequenced) : sequenced.event.payload.intsBelow (2 ^ 53) :=
  Json.intsBelow_of_field h.ints "payload" _ (by simp [gatewayEvent, toJson])

/-- The typed payload of a decoded frame. -/
theorem typedPayload_ofFrame {α : Type} [Decodable α] {sessionId : String}
    {sequenced : SequencedEvent} {a : α} {wrap : α → Client.EventPayload}
    (hname : (Client.GatewayEvent.ofFrame sessionId sequenced).typedPayload =
      (payloadAs α (some (.decode sequenced.event.payload))).map wrap)
    (hread : decodeJSON sequenced.event.payload.trip = some a) :
    (Client.GatewayEvent.ofFrame sessionId sequenced).typedPayload = some (wrap a) := by
  rw [hname, payloadAs_decode sequenced.event.payload_ne_null, hread]
  rfl

theorem MessagePayload.received_of_intsBelow {payload : MessagePayload}
    (h : (toJson payload).intsBelow (2 ^ 53)) :
    payload.received = some
      { role := payload.role, text := payload.text, blocks := payload.blocks, id := none,
        isStreaming := false, append := false } := by
  have hblocks := intsBelow_field h (show ("blocks", toJson payload.blocks) ∈ toFields payload by
    simp [toFields])
  have hsame : payload.blocks.mapM ContentBlock.received = some payload.blocks :=
    mapM_eq_some_self fun block hblock =>
      ContentBlock.received_of_intsBelow (intsBelow_element hblocks hblock)
  rw [received, hsame]
  rfl

theorem TurnEndedPayload.received_of_intsBelow {payload : TurnEndedPayload}
    (h : (toJson payload).intsBelow (2 ^ 53)) : payload.received = some payload := by
  have hstarted := intsBelow_field h
    (show ("reasoning_started_at_ms", toJson payload.reasoningStartedAtMs) ∈ toFields payload by
      simp [toFields])
  have hended := intsBelow_field h
    (show ("reasoning_ended_at_ms", toJson payload.reasoningEndedAtMs) ∈ toFields payload by
      simp [toFields])
  rw [received, mapM_received_of_intsBelow hstarted, mapM_received_of_intsBelow hended]
  rfl

/-- Fields that are left out or not: both they and the rest are bounded. -/
theorem intsBelow_skipEmpty {α : Type} [Serde α] {bound : Nat} {key : String} {as : List α}
    {rest : Fields} (h : (Json.obj (skipEmpty key as rest)).intsBelow bound) :
    (∀ a ∈ as, (toJson a).intsBelow bound) ∧ (Json.obj rest).intsBelow bound := by
  cases as with
  | nil => exact ⟨by simp, h⟩
  | cons a as =>
      have hfields := Json.intsBelow_cons h
      exact ⟨fun b hb => intsBelow_element hfields.1 hb, hfields.2⟩

theorem intsBelow_skipNone {α : Type} [Serde α] {bound : Nat} {key : String} {a : Option α}
    {rest : Fields} (h : (Json.obj (skipNone key a rest)).intsBelow bound) :
    (∀ b, a = some b → (toJson b).intsBelow bound) ∧ (Json.obj rest).intsBelow bound := by
  cases a with
  | none => exact ⟨by simp, h⟩
  | some a =>
      have hfields := Json.intsBelow_cons h
      exact ⟨fun b hb => Option.some.inj hb ▸ hfields.1, hfields.2⟩

theorem receivedRaw_of_intsBelow {raw : Option Json}
    (h : ∀ j, raw = some j → j.intsBelow (2 ^ 53)) (hraw : rereadRaw raw = raw) :
    receivedRaw raw = raw.map .exact := by
  rw [receivedRaw, hraw]
  cases raw with
  | none => rfl
  | some j => rw [Option.map_some, Option.map_some, j.decode_trip_exact (h j rfl)]

theorem ToolCallPayload.received_of_intsBelow {payload : ToolCallPayload}
    (h : (toJson payload).intsBelow (2 ^ 53)) (hreread : payload.reread = payload) :
    payload.received = some
      { id := payload.id, title := payload.title, kind := payload.kind, status := payload.status,
        detail := payload.detail, content := payload.content,
        locations := payload.locations.map .ofHost, rawInput := payload.rawInput.map .exact,
        rawOutput := payload.rawOutput.map .exact } := by
  have hdetail := (Json.intsBelow_cons h).2
  have hcontent := intsBelow_skipEmpty
    (Json.intsBelow_cons (Json.intsBelow_cons (Json.intsBelow_cons
      (Json.intsBelow_cons hdetail).2).2).2).2
  have hinput := intsBelow_skipNone (intsBelow_skipEmpty hcontent.2).2
  have houtput := intsBelow_skipNone hinput.2
  have hsame : payload.content.mapM ToolCallContentPayload.received = some payload.content :=
    mapM_eq_some_self fun content hmem =>
      ToolCallContentPayload.received_of_intsBelow (hcontent.1 content hmem)
  rw [received, hsame,
    receivedRaw_of_intsBelow hinput.1 (congrArg ToolCallPayload.rawInput hreread),
    receivedRaw_of_intsBelow houtput.1 (congrArg ToolCallPayload.rawOutput hreread)]
  rfl

/-- The payload of an event the client has a full model for arrives as the host
wrote it. -/
theorem typedPayload_carries {sessionId : String} {sequenced : SequencedEvent}
    (h : Appendable sessionId sequenced) (hmirrored : sequenced.event.mirrored) :
    ∃ payload, (Client.GatewayEvent.ofFrame sessionId sequenced).typedPayload = some payload ∧
      Carries sequenced.event payload := by
  have hints := h.payload_ints
  have hreread := h.reread
  obtain ⟨sequence, timestampMs, event⟩ := sequenced
  dsimp only at hints hreread hmirrored ⊢
  cases event with
  | status payload =>
      exact ⟨.status payload, typedPayload_ofFrame rfl (decode_trip payload), rfl⟩
  | message payload =>
      have hread := payload.decode_trip_received
      rw [MessagePayload.received_of_intsBelow hints] at hread
      exact ⟨.message _, typedPayload_ofFrame rfl hread, rfl, rfl, rfl⟩
  | toolCall payload =>
      have hsame : payload.reread = payload := SessionEvent.toolCall.inj hreread
      have hread := payload.decode_trip_received
      rw [ToolCallPayload.received_of_intsBelow hints hsame] at hread
      exact ⟨.toolCall _, typedPayload_ofFrame rfl hread, rfl, rfl, rfl, rfl, rfl, rfl, rfl, rfl, rfl⟩
  | plan payload =>
      exact ⟨.plan payload, typedPayload_ofFrame rfl (decode_trip payload), rfl⟩
  | mode payload =>
      exact ⟨.mode payload, typedPayload_ofFrame rfl (decode_trip payload), rfl⟩
  | commands payload =>
      exact ⟨.commands payload, typedPayload_ofFrame rfl (decode_trip payload), rfl⟩
  | configOptions payload =>
      have hsame : payload.options.map .reread = payload.options :=
        congrArg ConfigOptionsPayload.options (SessionEvent.configOptions.inj hreread)
      exact ⟨.configOptions _, typedPayload_ofFrame rfl payload.decode_trip_reread, hsame⟩
  | turnEnded payload =>
      have hread := payload.decode_trip_received
      rw [TurnEndedPayload.received_of_intsBelow hints] at hread
      exact ⟨.turnEnded payload, typedPayload_ofFrame rfl hread, rfl, rfl, rfl⟩
  | permissionRequest payload =>
      exact ⟨.permissionRequest payload, typedPayload_ofFrame rfl (decode_trip payload),
        rfl, rfl, rfl, rfl, rfl⟩
  | permissionResolved payload =>
      exact ⟨.permissionResolved payload, typedPayload_ofFrame rfl (decode_trip payload), rfl, rfl⟩
  | exit payload =>
      exact ⟨.exit _, typedPayload_ofFrame rfl (Client.ExitPayload.decode_trip_ofHost payload),
        rfl, rfl⟩
  | diagnostics payload =>
      exact ⟨.diagnostics _,
        typedPayload_ofFrame rfl (Client.DiagnosticsPayload.decode_trip_ofHost payload), rfl, rfl⟩
  | sessionInfo payload => cases hmirrored
  | usage payload => cases hmirrored
  | snapshot payload => cases hmirrored

/-- A snapshot arrives without the times of its summary. -/
theorem typedPayload_snapshot {sessionId : String} {sequence : Nat} {timestampMs : Int}
    {snapshot : SnapshotPayload} {payload : Client.EventPayload}
    (h : (Client.GatewayEvent.ofFrame sessionId
      ⟨sequence, timestampMs, .snapshot snapshot⟩).typedPayload = some payload) :
    ∃ client, payload = .snapshot client ∧ client.summary.createdAt = none ∧
      client.summary.lastActivityAt = none := by
  have hread := snapshot.decode_trip_received
  have hpayload : (Client.GatewayEvent.ofFrame sessionId
      ⟨sequence, timestampMs, .snapshot snapshot⟩).typedPayload =
      (payloadAs Client.SnapshotPayload (some (.decode (toJson snapshot)))).map .snapshot := rfl
  rw [hpayload, payloadAs_decode (toJson_ne_null snapshot), hread, SnapshotPayload.received,
    SessionSummary.received] at h
  cases hlast : Slight.received snapshot.summary.lastSequence with
  | none =>
      rw [hlast] at h
      cases h
  | some lastSequence =>
      rw [hlast] at h
      exact ⟨_, (Option.some.inj h).symm, rfl, rfl⟩

/-- An event without a full model does not survive. -/
theorem not_survives {sessionId : String} {sequenced : SequencedEvent}
    (h : Appendable sessionId sequenced) (hmirrored : sequenced.event.mirrored = false) :
    ¬ Survives sessionId sequenced := by
  rintro ⟨event, payload, hframe, -, -, -, -, htyped, hcarries⟩
  rw [decodeEventFrame_frame h] at hframe
  rw [← Option.some.inj hframe] at htyped
  obtain ⟨sequence, timestampMs, sequenced⟩ := sequenced
  cases sequenced with
  | snapshot snapshot =>
      obtain ⟨client, rfl, hcreated, -⟩ := typedPayload_snapshot htyped
      have hsame : client.summary.createdAt = some (.ofMs snapshot.summary.createdAtMs) :=
        hcarries.2.2.2.2.2.2.2.2.1
      rw [hcreated] at hsame
      cases hsame
  | sessionInfo payload => cases htyped
  | usage payload => cases htyped
  | _ => cases hmirrored

/-- **What survives the trip**: of the events the host appends, exactly those the
client has a full model for arrive as they were written. -/
theorem survives_iff {sessionId : String} {sequenced : SequencedEvent}
    (h : Appendable sessionId sequenced) :
    Survives sessionId sequenced ↔ sequenced.event.mirrored := by
  constructor
  · intro hsurvives
    by_contra hmirrored
    exact not_survives h (Bool.not_eq_true _ ▸ hmirrored) hsurvives
  · intro hmirrored
    obtain ⟨payload, htyped, hcarries⟩ := typedPayload_carries h hmirrored
    exact ⟨_, payload, decodeEventFrame_frame h, rfl, rfl, rfl, rfl, htyped, hcarries⟩

/-- A tool call with a line, a link size and a raw input. -/
def sampleToolCall : SequencedEvent where
  sequence := 7
  timestampMs := 1700000000123
  event := .toolCall
    { id := "t1", title := "Read", kind := some "read", status := .inProgress, detail := none
      content := [.content { id := "b1", kind := .resourceLink, text := "", size := some 120 }]
      locations := [⟨"src/main.rs", some 12⟩]
      rawInput := some (.obj [("path", .str "src/main.rs"), ("limit", .int 40)])
      rawOutput := none }

/-- That tool call survives. -/
theorem survives_iff_sampleToolCall :
    Appendable "s1" sampleToolCall ∧ Survives "s1" sampleToolCall := by
  have happend : Appendable "s1" sampleToolCall :=
    { ints := by decide +kernel
      year := by decide +kernel
      reread := rfl }
  exact ⟨happend, (survives_iff happend).mpr rfl⟩

/-- The snapshot a rename journals does not survive. -/
theorem snapshot_times_lost :
    Appendable "s1" ⟨2, 1000, .snapshot ⟨sampleSummary, none⟩⟩ ∧
      ¬ Survives "s1" ⟨2, 1000, .snapshot ⟨sampleSummary, none⟩⟩ := by
  have happend : Appendable "s1" ⟨2, 1000, .snapshot ⟨sampleSummary, none⟩⟩ :=
    { ints := by decide +kernel
      year := by decide +kernel
      reread := rfl }
  exact ⟨happend, not_survives happend rfl⟩

end Slight
