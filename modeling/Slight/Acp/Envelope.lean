import Slight.Acp.Framing

/-!
# Slight.Acp.Envelope

The other way of the wire: the envelopes that the host writes, and that they are
classified as what they were written for.

Only the members of an envelope tell the four kinds apart: a `method` and an `id` that
is not `null`, a `method` alone, an `id` with an `error`, an `id` without one.  The
payloads are arbitrary, a `null` result and `null` params among them.
-/

namespace Slight

namespace Acp

open Support

/-! ## what is written -/

/-- What `serde_json` and the schema of the protocol write. -/
structure Writer (schema : Schema) where
  toString : Json → String
  error : schema.Error → Json
  request : RequestId → String → Option Json → Json
  notification : String → Option Json → Json
  result : RequestId → Json → Json
  failure : RequestId → schema.Error → Json

/-- An id as it stands in an envelope. -/
def RequestId.json : RequestId → Json
  | number n => .int n
  | str text => .str text
  | null => .null

/-- The numbers of `RequestId` are `i64`s. -/
def RequestId.IsI64 : RequestId → Prop
  | number n => -2 ^ 63 ≤ n ∧ n < 2 ^ 63
  | str _ | null => True

/-- An object of these members and no others, in any order. -/
def HasMembers (json : Json) (members : Fields) : Prop :=
  ∃ object, json = .obj object ∧ ∀ key, object.lookup key = members.lookup key

variable {schema : Schema}

/-- The objects of JSON-RPC 2.0. -/
structure Writer.Standard (writer : Writer schema) : Prop where
  request : ∀ id method params, HasMembers (writer.request id method (some params))
    [("jsonrpc", .str "2.0"), ("id", id.json), ("method", .str method), ("params", params)]
  notification : ∀ method params, HasMembers (writer.notification method (some params))
    [("jsonrpc", .str "2.0"), ("method", .str method), ("params", params)]
  result : ∀ id value, HasMembers (writer.result id value)
    [("jsonrpc", .str "2.0"), ("id", id.json), ("result", value)]
  failure : ∀ id error, HasMembers (writer.failure id error)
    [("jsonrpc", .str "2.0"), ("id", id.json), ("error", writer.error error)]

/-- `serde_json` reads the members of an object back from the text it wrote, which holds
no line ending. -/
structure Writer.Legible (writer : Writer schema) (message : Json) : Prop where
  readsBack : ∀ members, HasMembers message members →
    ∃ read, schema.fromStr (writer.toString message) = .ok read ∧ HasMembers read members
  oneLine : ∀ c ∈ (writer.toString message).toList, isLineEndChar c = false

variable (writer : Writer schema)

/-- A message on a line of its own. -/
def encodeLine (message : Json) : String :=
  writer.toString message ++ "\n"

/-- A request; its params are always there, if only as `null`. -/
def encodeRequest (id : RequestId) (method : String) (params : Json) : String :=
  encodeLine writer (writer.request id method (some params))

/-- A notification, which has no id. -/
def encodeNotification (method : String) (params : Json) : String :=
  encodeLine writer (writer.notification method (some params))

/-- The answer to a request that succeeded. -/
def encodeResult (id : RequestId) (result : Json) : String :=
  encodeLine writer (writer.result id result)

/-- The answer to a request that failed. -/
def encodeError (id : RequestId) (error : schema.Error) : String :=
  encodeLine writer (writer.failure id error)

/-! ## reading it back -/

variable {writer}

/-- The newline is the last character of the line. -/
theorem toList_encodeLine (message : Json) :
    (encodeLine writer message).toList = (writer.toString message).toList ++ ['\n'] := by
  rw [encodeLine, String.toList_append]
  rfl

/-- A message that holds no line ending loses nothing when the line is trimmed. -/
theorem Writer.Legible.rdropWhile {message : Json} (h : writer.Legible message) :
    (writer.toString message).toList.rdropWhile isLineEndChar =
      (writer.toString message).toList := by
  rw [List.rdropWhile_eq_self_iff]
  intro hne hlast
  rw [h.oneLine _ (List.getLast_mem hne)] at hlast
  contradiction

/-- Trimming the line gives the text of the message back. -/
theorem trimmed_encodeLine {message : Json} (h : writer.Legible message) :
    trimmed (encodeLine writer message) = writer.toString message := by
  rw [FrameReader.trimmed_newline (toList_encodeLine message), h.rdropWhile, String.ofList_toList]

/-- The reader reads a line that was written as the frame without its newline. -/
theorem readFrame_encodeLine {message : Json} (h : writer.Legible message)
    (hne : writer.toString message ≠ "")
    (hshort : (writer.toString message).utf8ByteSize < maxFrameBytes) (rest : List UInt8) :
    FrameReader.readFrame (utf8 (encodeLine writer message).toList ++ rest) =
      (.ok (some (trimmed (encodeLine writer message))), rest) := by
  have hnewline : 10 ∉ utf8 (writer.toString message).toList := by
    rw [newline_mem_utf8]
    intro hmem
    have hend := h.oneLine _ hmem
    contradiction
  have hread := FrameReader.readFrame_line rest hnewline
  rw [length_utf8, String.ofList_toList, if_neg (by omega), h.rdropWhile,
    if_neg (by simpa using hne), String.ofList_toList] at hread
  rw [trimmed_encodeLine h, toList_encodeLine, utf8_append, List.append_assoc]
  exact hread

/-- The order of the members does not matter. -/
theorem classifyObject_congr {object members : Fields}
    (h : ∀ key, object.lookup key = members.lookup key) :
    classifyObject schema object = classifyObject schema members := by
  simp only [classifyObject, nonNullId, h]

/-- A line is classified by the members of the envelope it was written for. -/
theorem classify_encodeLine {message : Json} {members : Fields} (h : writer.Legible message)
    (hmembers : HasMembers message (("jsonrpc", .str "2.0") :: members)) :
    classify schema (trimmed (encodeLine writer message)) =
      classifyObject schema (("jsonrpc", .str "2.0") :: members) := by
  obtain ⟨read, hread, object, rfl, hlookup⟩ := h.readsBack _ hmembers
  have hversion : object.lookup "jsonrpc" = some (.str "2.0") := by
    rw [hlookup, List.lookup_cons_self]
  rw [trimmed_encodeLine h, classify, hread]
  dsimp only
  rw [hversion]
  dsimp only
  rw [if_pos rfl, classifyObject_congr hlookup]

/-- An id is read back if its number is one of the wire's. -/
theorem parseRequestId_json {id : RequestId} (hid : id.IsI64) :
    parseRequestId id.json = .ok id := by
  cases id with
  | number n => exact if_pos hid
  | str text => rfl
  | null => rfl

theorem classify_encodeRequest (hstandard : writer.Standard) {id : RequestId} {method : String}
    {params : Json} (hid : id.IsI64) (hnull : id ≠ .null)
    (h : writer.Legible (writer.request id method (some params))) :
    classify schema (trimmed (encodeRequest writer id method params)) =
      .ok (.request id method (some params)) := by
  have hnonNull : nonNullId [("jsonrpc", .str "2.0"), ("id", id.json), ("method", .str method),
      ("params", params)] = some id.json := by
    cases id with
    | number n => rfl
    | str text => rfl
    | null => contradiction
  rw [encodeRequest, classify_encodeLine h (hstandard.request id method params), classifyObject,
    hnonNull]
  simp [List.lookup, parseRequestId_json hid, bind, Except.bind, pure, Except.pure]

theorem classify_encodeNotification (hstandard : writer.Standard) {method : String}
    {params : Json} (h : writer.Legible (writer.notification method (some params))) :
    classify schema (trimmed (encodeNotification writer method params)) =
      .ok (.notification method (some params)) := by
  rw [encodeNotification, classify_encodeLine h (hstandard.notification method params)]
  simp [classifyObject, nonNullId, List.lookup]

theorem classify_encodeResult (hstandard : writer.Standard) {id : RequestId} {result : Json}
    (hid : id.IsI64) (h : writer.Legible (writer.result id result)) :
    classify schema (trimmed (encodeResult writer id result)) =
      .ok (.response id (.ok result)) := by
  rw [encodeResult, classify_encodeLine h (hstandard.result id result)]
  simp [classifyObject, List.lookup, parseRequestId_json hid, bind, Except.bind, pure, Except.pure]

theorem classify_encodeError (hstandard : writer.Standard) {id : RequestId} {error : schema.Error}
    (hid : id.IsI64) (h : writer.Legible (writer.failure id error))
    (herror : schema.error (writer.error error) = .ok error) :
    classify schema (trimmed (encodeError writer id error)) =
      .ok (.response id (.error error)) := by
  rw [encodeError, classify_encodeLine h (hstandard.failure id error)]
  simp [classifyObject, List.lookup, parseRequestId_json hid, herror, Except.mapError, bind,
    Except.bind, pure, Except.pure]

/-! ## what is accepted -/

theorem method_or_id_of_classifyObject {object : Fields} {message : RawMessage schema}
    (h : classifyObject schema object = .ok message) :
    (∃ method, object.lookup "method" = some (.str method)) ∨
      ∃ id, object.lookup "id" = some id := by
  unfold classifyObject at h
  split at h
  · next method hmethod => exact .inl ⟨method, hmethod⟩
  · split at h
    · next id hid => exact .inr ⟨id, hid⟩
    · contradiction

theorem object_of_classify {line : String} {message : RawMessage schema}
    (h : classify schema line = .ok message) :
    ∃ object, schema.fromStr line = .ok (.obj object) ∧
      object.lookup "jsonrpc" = some (.str "2.0") ∧
      classifyObject schema object = .ok message := by
  unfold classify at h
  split at h
  · contradiction
  · next object hline =>
    split at h
    · next version hversion =>
      split at h
      · next htwo => exact ⟨object, hline, htwo ▸ hversion, h⟩
      · contradiction
    · contradiction
  · contradiction

/-- **Envelopes round-trip**: the line of a request, a notification, a result or an error
is classified as what was written, and what is classified at all is an object of JSON-RPC
2.0 with a method or an id. -/
theorem envelopes_roundtrip (hstandard : writer.Standard) :
    (∀ id method params, id.IsI64 → id ≠ .null →
      writer.Legible (writer.request id method (some params)) →
      classify schema (trimmed (encodeRequest writer id method params)) =
        .ok (.request id method (some params))) ∧
    (∀ method params, writer.Legible (writer.notification method (some params)) →
      classify schema (trimmed (encodeNotification writer method params)) =
        .ok (.notification method (some params))) ∧
    (∀ id result, id.IsI64 → writer.Legible (writer.result id result) →
      classify schema (trimmed (encodeResult writer id result)) =
        .ok (.response id (.ok result))) ∧
    (∀ id error, id.IsI64 → writer.Legible (writer.failure id error) →
      schema.error (writer.error error) = .ok error →
      classify schema (trimmed (encodeError writer id error)) =
        .ok (.response id (.error error))) ∧
    ∀ line message, classify schema line = .ok message →
      ∃ object, schema.fromStr line = .ok (.obj object) ∧
        object.lookup "jsonrpc" = some (.str "2.0") ∧
        ((∃ method, object.lookup "method" = some (.str method)) ∨
          ∃ id, object.lookup "id" = some id) := by
  refine ⟨?_, ?_, ?_, ?_, ?_⟩
  · exact fun id method params hid hnull h => classify_encodeRequest hstandard hid hnull h
  · exact fun method params h => classify_encodeNotification hstandard h
  · exact fun id result hid h => classify_encodeResult hstandard hid h
  · exact fun id error hid h herror => classify_encodeError hstandard hid h herror
  · intro line message h
    obtain ⟨object, hline, hversion, hobject⟩ := object_of_classify h
    exact ⟨object, hline, hversion, method_or_id_of_classifyObject hobject⟩

/-! ## sample envelopes -/

/-- A request with `null` params. -/
def requestText : String :=
  "\x7b\"jsonrpc\":\"2.0\",\"id\":7,\"method\":\"session/prompt\",\"params\":null\x7d"

/-- A notification with `null` params. -/
def notificationText : String :=
  "\x7b\"jsonrpc\":\"2.0\",\"method\":\"session/cancel\",\"params\":null\x7d"

/-- A `null` result, under an id that is a string. -/
def resultText : String :=
  "\x7b\"jsonrpc\":\"2.0\",\"id\":\"a\",\"result\":null\x7d"

/-- The error of a request whose id could not be read. -/
def errorText : String :=
  "\x7b\"jsonrpc\":\"2.0\",\"id\":null," ++
    "\"error\":\x7b\"code\":-32700,\"message\":\"Parse error\"\x7d\x7d"

def parseError : Json :=
  .obj [("code", .int (-32700)), ("message", .str "Parse error")]

/-- What the four texts say. -/
def envelopeOf (line : String) : Except String Json :=
  if line = requestText then
    .ok (.obj [("jsonrpc", .str "2.0"), ("id", .int 7), ("method", .str "session/prompt"),
      ("params", .null)])
  else if line = notificationText then
    .ok (.obj [("jsonrpc", .str "2.0"), ("method", .str "session/cancel"), ("params", .null)])
  else if line = resultText then
    .ok (.obj [("jsonrpc", .str "2.0"), ("id", .str "a"), ("result", .null)])
  else if line = errorText then
    .ok (.obj [("jsonrpc", .str "2.0"), ("id", .null), ("error", parseError)])
  else .error "expected value at line 1 column 1"

/-- The text of an envelope of the sample, by its members. -/
def textOf : Json → String
  | .obj object =>
      if (object.lookup "method").isSome then
        if (object.lookup "id").isSome then requestText else notificationText
      else if (object.lookup "error").isSome then errorText
      else resultText
  | _ => "null"

def envelopeSchema : Schema where
  Permission := Json
  Update := Json
  Cancel := Json
  Error := Int × String
  methodNotFound := (-32601, "Method not found")
  fromStr := envelopeOf
  permission := .ok
  update := .ok
  cancel := .ok
  error
    | .obj object =>
        match object.lookup "code", object.lookup "message" with
        | some (.int code), some (.str message) => .ok (code, message)
        | _, _ => .error "invalid error"
    | _ => .error "invalid error"

def envelopeWriter : Writer envelopeSchema where
  toString := textOf
  error error := .obj [("code", .int error.1), ("message", .str error.2)]
  request id method params :=
    .obj ([("jsonrpc", .str "2.0"), ("id", id.json), ("method", .str method)] ++
      params.toList.map fun params => ("params", params))
  notification method params :=
    .obj ([("jsonrpc", .str "2.0"), ("method", .str method)] ++
      params.toList.map fun params => ("params", params))
  result id value := .obj [("jsonrpc", .str "2.0"), ("id", id.json), ("result", value)]
  failure id error :=
    .obj [("jsonrpc", .str "2.0"), ("id", id.json),
      ("error", .obj [("code", .int error.1), ("message", .str error.2)])]

theorem envelopeWriter_standard : envelopeWriter.Standard where
  request _ _ _ := ⟨_, rfl, fun _ => rfl⟩
  notification _ _ := ⟨_, rfl, fun _ => rfl⟩
  result _ _ := ⟨_, rfl, fun _ => rfl⟩
  failure _ _ := ⟨_, rfl, fun _ => rfl⟩

/-- `oneLine` for a text at hand. -/
theorem oneLine_of_all {text : String} (h : (text.toList.all fun c => !isLineEndChar c) = true) :
    ∀ c ∈ text.toList, isLineEndChar c = false := by
  simpa using h

/-- `null` params, a `null` result and a `null` id of an error. -/
theorem envelopes_roundtrip_sample :
    classify envelopeSchema
        (trimmed (encodeRequest envelopeWriter (.number 7) "session/prompt" .null)) =
      .ok (.request (.number 7) "session/prompt" (some .null)) ∧
    classify envelopeSchema (trimmed (encodeNotification envelopeWriter "session/cancel" .null)) =
      .ok (.notification "session/cancel" (some .null)) ∧
    classify envelopeSchema (trimmed (encodeResult envelopeWriter (.str "a") .null)) =
      .ok (.response (.str "a") (.ok .null)) ∧
    classify envelopeSchema
        (trimmed (encodeError envelopeWriter .null (-32700, "Parse error"))) =
      .ok (.response .null (.error (-32700, "Parse error"))) := by
  obtain ⟨hrequest, hnotification, hresult, herror, -⟩ :=
    envelopes_roundtrip envelopeWriter_standard
  refine ⟨?_, ?_, ?_, ?_⟩
  · exact hrequest _ _ _ ⟨by decide, by decide⟩ nofun
      ⟨fun _ h => ⟨_, rfl, h⟩, oneLine_of_all (by decide +kernel)⟩
  · exact hnotification _ _ ⟨fun _ h => ⟨_, rfl, h⟩, oneLine_of_all (by decide +kernel)⟩
  · exact hresult _ _ trivial ⟨fun _ h => ⟨_, rfl, h⟩, oneLine_of_all (by decide +kernel)⟩
  · exact herror _ _ trivial ⟨fun _ h => ⟨_, rfl, h⟩, oneLine_of_all (by decide +kernel)⟩ rfl

end Acp

end Slight
