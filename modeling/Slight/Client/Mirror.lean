import Slight.Client.Payloads
import Slight.Protocol.Frames

/-!
# Slight.Client.Mirror

What the client reads of the host's values: a value written by the host, taken
through the client's untyped JSON value, decodes to the same value.

`Mirrored` says so of a type.  Integers are the exception: the client's numbers
are `Double`s, so an integer comes back as the nearest one, if that fits 64 bits.
-/

namespace Slight

/-! ## keys -/

/-- A single word is its own key. -/
@[simp] theorem convertFromSnakeCase_words :
    convertFromSnakeCase "agent" = "agent" ∧ convertFromSnakeCase "archived" = "archived" ∧
    convertFromSnakeCase "at" = "at" ∧ convertFromSnakeCase "blocks" = "blocks" ∧
    convertFromSnakeCase "category" = "category" ∧ convertFromSnakeCase "code" = "code" ∧
    convertFromSnakeCase "commands" = "commands" ∧ convertFromSnakeCase "content" = "content" ∧
    convertFromSnakeCase "description" = "description" ∧ convertFromSnakeCase "detail" = "detail" ∧
    convertFromSnakeCase "effort" = "effort" ∧ convertFromSnakeCase "entries" = "entries" ∧
    convertFromSnakeCase "event" = "event" ∧ convertFromSnakeCase "groups" = "groups" ∧
    convertFromSnakeCase "id" = "id" ∧ convertFromSnakeCase "kind" = "kind" ∧
    convertFromSnakeCase "label" = "label" ∧ convertFromSnakeCase "language" = "language" ∧
    convertFromSnakeCase "level" = "level" ∧ convertFromSnakeCase "line" = "line" := by
  decide +kernel

/-- More single words. -/
@[simp] theorem convertFromSnakeCase_more_words :
    convertFromSnakeCase "locations" = "locations" ∧ convertFromSnakeCase "message" = "message" ∧
    convertFromSnakeCase "model" = "model" ∧ convertFromSnakeCase "name" = "name" ∧
    convertFromSnakeCase "options" = "options" ∧ convertFromSnakeCase "path" = "path" ∧
    convertFromSnakeCase "payload" = "payload" ∧ convertFromSnakeCase "priority" = "priority" ∧
    convertFromSnakeCase "reason" = "reason" ∧ convertFromSnakeCase "recovery" = "recovery" ∧
    convertFromSnakeCase "role" = "role" ∧ convertFromSnakeCase "sequence" = "sequence" ∧
    convertFromSnakeCase "size" = "size" ∧ convertFromSnakeCase "state" = "state" ∧
    convertFromSnakeCase "status" = "status" ∧ convertFromSnakeCase "summary" = "summary" ∧
    convertFromSnakeCase "text" = "text" ∧ convertFromSnakeCase "title" = "title" ∧
    convertFromSnakeCase "type" = "type" ∧ convertFromSnakeCase "uri" = "uri" ∧
    convertFromSnakeCase "v" = "v" := by
  decide +kernel

/-- The compound keys the host writes. -/
@[simp] theorem convertFromSnakeCase_compounds :
    convertFromSnakeCase "created_at_ms" = "createdAtMs" ∧
    convertFromSnakeCase "current_mode_id" = "currentModeId" ∧
    convertFromSnakeCase "current_value" = "currentValue" ∧
    convertFromSnakeCase "current_value_id" = "currentValueId" ∧
    convertFromSnakeCase "data_base64" = "dataBase64" ∧
    convertFromSnakeCase "git_branch" = "gitBranch" ∧
    convertFromSnakeCase "input_hint" = "inputHint" ∧
    convertFromSnakeCase "last_activity_at_ms" = "lastActivityAtMs" ∧
    convertFromSnakeCase "last_sequence" = "lastSequence" ∧
    convertFromSnakeCase "mime_type" = "mimeType" ∧ convertFromSnakeCase "new_text" = "newText" ∧
    convertFromSnakeCase "old_text" = "oldText" ∧ convertFromSnakeCase "option_id" = "optionId" ∧
    convertFromSnakeCase "pending_permission" = "pendingPermission" ∧
    convertFromSnakeCase "raw_input" = "rawInput" ∧
    convertFromSnakeCase "raw_output" = "rawOutput" ∧
    convertFromSnakeCase "reasoning_ended_at_ms" = "reasoningEndedAtMs" ∧
    convertFromSnakeCase "reasoning_started_at_ms" = "reasoningStartedAtMs" ∧
    convertFromSnakeCase "session_id" = "sessionId" ∧
    convertFromSnakeCase "stop_reason" = "stopReason" ∧
    convertFromSnakeCase "terminal_id" = "terminalId" ∧
    convertFromSnakeCase "tool_call_id" = "toolCallId" ∧
    convertFromSnakeCase "value_id" = "valueId" ∧
    convertFromSnakeCase "working_directory_label" = "workingDirectoryLabel" := by
  decide +kernel

/-! ## mirrored types -/

/-- The client decodes what the host wrote as the value the host wrote. -/
class Mirrored (α : Type) [Serde α] [Decodable α] : Prop where
  decode_trip : ∀ a : α, decodeJSON (toJson a).trip = some a

export Mirrored (decode_trip)

attribute [simp] decode_trip

namespace Container

variable {α β : Type} [Decodable α] [Serde β] {key key' : String} (fields : Fields)

/-- A field under another key is passed over. -/
theorem lookup_trip_ne (h : convertFromSnakeCase key' ≠ key) (j : Json) :
    List.lookup key (trip ((key', j) :: fields)) = (trip fields).lookup key := by
  have hkey : (key == convertFromSnakeCase key') = false := by simpa using Ne.symm h
  simp [trip, List.lookup, hkey]

/-- A field is found under the key the client converts its name to. -/
theorem lookup_trip_self (h : convertFromSnakeCase key' = key) (j : Json) :
    List.lookup key (trip ((key', j) :: fields)) = some j.trip := by
  simp [trip, h]

@[simp] theorem decode_cons_ne (h : convertFromSnakeCase key' ≠ key) (j : Json) :
    (trip ((key', j) :: fields)).decode key = ((trip fields).decode key : Option α) := by
  rw [decode, lookup_trip_ne fields h, decode]

@[simp] theorem decode_cons_self (h : convertFromSnakeCase key' = key) (j : Json) :
    (trip ((key', j) :: fields)).decode key = (decodeJSON j.trip : Option α) := by
  rw [decode, lookup_trip_self fields h, Option.bind_some]

@[simp] theorem decodeIfPresent_cons_ne (h : convertFromSnakeCase key' ≠ key) (j : Json) :
    (trip ((key', j) :: fields)).decodeIfPresent key =
      ((trip fields).decodeIfPresent key : Option (Option α)) := by
  rw [decodeIfPresent, lookup_trip_ne fields h, decodeIfPresent]

/-- A field that is there and not `null` is present. -/
theorem decodeIfPresent_of_lookup {container : Container} {j : Json} (hj : j ≠ .null)
    (h : container.lookup key = some j) :
    container.decodeIfPresent key = (decodeJSON j : Option α).map some := by
  rw [decodeIfPresent, h]
  cases j with
  | null => exact absurd rfl hj
  | _ => rfl

@[simp] theorem decodeIfPresent_cons_null (h : convertFromSnakeCase key' = key) :
    (trip ((key', .null) :: fields)).decodeIfPresent key = some (none : Option α) := by
  rw [decodeIfPresent, lookup_trip_self fields h]
  rfl

/-- The same of the field in front. -/
theorem decodeIfPresent_cons_value (h : convertFromSnakeCase key' = key) {j : Json}
    (hj : j ≠ .null) :
    (trip ((key', j) :: fields)).decodeIfPresent key =
      (decodeJSON j.trip : Option α).map some :=
  decodeIfPresent_of_lookup (fun hnull => hj (Json.trip_eq_null.mp hnull))
    (lookup_trip_self fields h j)

/-! Fields that may be `null` or left out. -/

@[simp] theorem decodeIfPresent_nil :
    (trip []).decodeIfPresent key = some (none : Option α) := by
  simp only [decodeIfPresent, trip, List.map, List.lookup]

@[simp] theorem decodeIfPresent_skipNone_ne (h : convertFromSnakeCase key' ≠ key) (b : Option β) :
    (trip (skipNone key' b fields)).decodeIfPresent key =
      ((trip fields).decodeIfPresent key : Option (Option α)) := by
  cases b with
  | none => rfl
  | some b => exact decodeIfPresent_cons_ne fields h _

@[simp] theorem decodeIfPresent_skipEmpty_ne (h : convertFromSnakeCase key' ≠ key)
    (bs : List β) :
    (trip (skipEmpty key' bs fields)).decodeIfPresent key =
      ((trip fields).decodeIfPresent key : Option (Option α)) := by
  cases bs with
  | nil => rfl
  | cons b bs => exact decodeIfPresent_cons_ne fields h _

@[simp] theorem decodeOr_cons_ne (h : convertFromSnakeCase key' ≠ key) (j : Json) (dflt : α) :
    (trip ((key', j) :: fields)).decodeOr key dflt = (trip fields).decodeOr key dflt := by
  rw [decodeOr, decodeIfPresent_cons_ne fields h, decodeOr]

@[simp] theorem decodeOr_nil (dflt : α) : (trip []).decodeOr key dflt = some dflt := by
  rw [decodeOr, decodeIfPresent_nil]
  rfl

@[simp] theorem decodeOr_skipNone_ne (h : convertFromSnakeCase key' ≠ key) (b : Option β)
    (dflt : α) :
    (trip (skipNone key' b fields)).decodeOr key dflt = (trip fields).decodeOr key dflt := by
  rw [decodeOr, decodeIfPresent_skipNone_ne fields h, decodeOr]

@[simp] theorem decodeOr_skipEmpty_ne (h : convertFromSnakeCase key' ≠ key) (bs : List β)
    (dflt : α) :
    (trip (skipEmpty key' bs fields)).decodeOr key dflt = (trip fields).decodeOr key dflt := by
  rw [decodeOr, decodeIfPresent_skipEmpty_ne fields h, decodeOr]

section

variable {f : β → Option α}

/-- An `Option` field is `nil` when it is `None`, and else what its value decodes
to. -/
theorem decodeIfPresent_cons_of (h : convertFromSnakeCase key' = key)
    (hread : ∀ b : β, decodeJSON (toJson b).trip = f b) (hne : ∀ b : β, toJson b ≠ .null)
    (b : Option β) : (trip ((key', toJson b) :: fields)).decodeIfPresent key = b.mapM f := by
  cases b with
  | none => exact decodeIfPresent_cons_null fields h
  | some b =>
      have hvalue : (trip ((key', toJson b) :: fields)).decodeIfPresent key =
          (decodeJSON (toJson b).trip : Option α).map some :=
        decodeIfPresent_cons_value fields h (hne b)
      rwa [hread b] at hvalue

/-- The same of a field left out when it is `None`, if nothing after it has its
key. -/
theorem decodeIfPresent_skipNone_of (h : convertFromSnakeCase key' = key)
    (hread : ∀ b : β, decodeJSON (toJson b).trip = f b) (hne : ∀ b : β, toJson b ≠ .null)
    (b : Option β) (hrest : (trip fields).decodeIfPresent key = some (none : Option α)) :
    (trip (skipNone key' b fields)).decodeIfPresent key = b.mapM f := by
  cases b with
  | none => exact hrest
  | some b => exact decodeIfPresent_cons_of fields h hread hne (some b)

end

section

variable [Serde α] [LawfulSerde α] [Mirrored α]

@[simp] theorem decodeIfPresent_cons_self (h : convertFromSnakeCase key' = key) (a : Option α) :
    (trip ((key', toJson a) :: fields)).decodeIfPresent key = some a := by
  rw [decodeIfPresent_cons_of fields h decode_trip toJson_ne_null]
  cases a <;> rfl

@[simp] theorem decodeIfPresent_cons_some (h : convertFromSnakeCase key' = key) (a : α) :
    (trip ((key', toJson a) :: fields)).decodeIfPresent key = some (some a) :=
  decodeIfPresent_cons_self fields h (some a)

@[simp] theorem decodeOr_cons_self (h : convertFromSnakeCase key' = key) (a dflt : α) :
    (trip ((key', toJson a) :: fields)).decodeOr key dflt = some a := by
  rw [decodeOr, decodeIfPresent_cons_some fields h]
  rfl

@[simp] theorem decodeIfPresent_skipNone_self (h : convertFromSnakeCase key' = key)
    (a : Option α) (hrest : (trip fields).decodeIfPresent key = some (none : Option α)) :
    (trip (skipNone key' a fields)).decodeIfPresent key = some a := by
  rw [decodeIfPresent_skipNone_of fields h decode_trip toJson_ne_null a hrest]
  cases a <;> rfl

end

/-! The tag of a variant. -/

@[simp] theorem decodeJSON_str (s : String) : decodeJSON (.str s) = some s := rfl

@[simp] theorem decodeIfPresent_cons_tag (h : convertFromSnakeCase key' = key)
    (variant : String) :
    (trip ((key', .str variant) :: fields)).decodeIfPresent key = some (some variant) :=
  decodeIfPresent_cons_value fields h Json.noConfusion

@[simp] theorem decodeOr_cons_tag (h : convertFromSnakeCase key' = key) (variant dflt : String) :
    (trip ((key', .str variant) :: fields)).decodeOr key dflt = some variant := by
  rw [decodeOr, decodeIfPresent_cons_tag fields h]
  rfl

end Container

instance : Mirrored Bool := ⟨fun _ => rfl⟩

instance : Mirrored String := ⟨fun _ => rfl⟩

instance : Mirrored SessionStatus := ⟨fun s => by cases s <;> rfl⟩

instance : Mirrored PermissionOptionKind := ⟨fun k => by cases k <;> rfl⟩

instance : Mirrored ToolCallStatus := ⟨fun s => by cases s <;> rfl⟩

instance : Mirrored ContentKind := ⟨fun k => by cases k <;> rfl⟩

instance : Mirrored MessageRole := ⟨fun r => by cases r <;> rfl⟩

theorem toJson_list_ne_null {α : Type} [Serde α] (as : List α) : toJson as ≠ .null :=
  Json.noConfusion

/-- A list is decoded element by element. -/
theorem decode_trip_list {α β : Type} [Serde α] [Decodable β] {f : α → Option β}
    (hread : ∀ a : α, decodeJSON (toJson a).trip = f a) (as : List α) :
    decodeJSON (toJson as).trip = as.mapM f := by
  change decodeJSON (Json.arr (as.map toJson)).trip = as.mapM f
  rw [Json.trip_arr, List.map_map]
  change (as.map fun a => (toJson a).trip).mapM decodeJSON = as.mapM f
  induction as with
  | nil => rfl
  | cons a as ih => rw [List.map_cons, List.mapM_cons, List.mapM_cons, hread, ih]

@[simp] theorem mapM_some {α β : Type} (f : α → β) (as : List α) :
    as.mapM (fun a => some (f a)) = some (as.map f) := by
  induction as with
  | nil => rfl
  | cons a as ih =>
      rw [List.mapM_cons, ih]
      rfl

@[simp] theorem optionMapM_some {α β : Type} (f : α → β) (a : Option α) :
    a.mapM (fun a => some (f a)) = some (a.map f) := by
  cases a <;> rfl

instance {α : Type} [Serde α] [Decodable α] [Mirrored α] : Mirrored (List α) where
  decode_trip as := by
    rw [decode_trip_list decode_trip, mapM_some, List.map_id']

/-- A struct is decoded from its fields. -/
theorem decode_trip_record {α β : Type} [Record α] [Keyed β] (a : α) :
    (decodeJSON (toJson a).trip : Option β) = ofContainer (Container.trip (toFields a)) := by
  change (Json.container (Json.trip (.obj (toFields a)))).bind ofContainer = _
  rw [Json.container_trip_obj, Option.bind_some]

instance : Mirrored PermissionOption where
  decode_trip o := by
    rw [decode_trip_record]
    simp [toFields, ofContainer]

instance : Mirrored PlanEntrySummary where
  decode_trip e := by
    rw [decode_trip_record]
    simp [toFields, ofContainer]

instance : Mirrored AvailableCommandSummary where
  decode_trip c := by
    rw [decode_trip_record]
    simp [toFields, ofContainer]

instance : Mirrored AcpConfigChoice where
  decode_trip c := by
    rw [decode_trip_record]
    simp [toFields, ofContainer]

instance : Mirrored AcpConfigGroup where
  decode_trip g := by
    rw [decode_trip_record]
    simp [toFields, ofContainer]

instance : Mirrored AcpConfigKind where
  decode_trip k := by
    rw [decode_trip_record]
    cases k <;> simp [toFields, ofContainer]

instance : Mirrored SessionRecoveryState where
  decode_trip r := by
    rw [decode_trip_record]
    cases r <;> simp [toFields, ofContainer]

instance : Mirrored StatusPayload where
  decode_trip p := by
    rw [decode_trip_record]
    simp [toFields, ofContainer]

instance : Mirrored PermissionRequestPayload where
  decode_trip p := by
    rw [decode_trip_record]
    simp [toFields, ofContainer]

instance : Mirrored PermissionResolvedPayload where
  decode_trip p := by
    rw [decode_trip_record]
    simp [toFields, ofContainer]

instance : Mirrored PlanPayload where
  decode_trip p := by
    rw [decode_trip_record]
    simp [toFields, ofContainer]

instance : Mirrored ModePayload where
  decode_trip p := by
    rw [decode_trip_record]
    simp [toFields, ofContainer]

instance : Mirrored CommandsPayload where
  decode_trip p := by
    rw [decode_trip_record]
    simp [toFields, ofContainer]

/-! ## what differs -/

/-- A category spelled like a known one is decoded as the known one. -/
theorem AcpConfigCategory.decode_trip_reread (category : AcpConfigCategory) :
    decodeJSON (toJson category).trip = some category.reread := rfl

/-- An option arrives as the host itself would read it back. -/
theorem AcpConfigOption.decode_trip_reread (option : AcpConfigOption) :
    decodeJSON (toJson option).trip = some option.reread := by
  have hcategory := Container.decodeIfPresent_cons_of [("kind", toJson option.kind)]
    (show convertFromSnakeCase "category" = "category" by simp)
    AcpConfigCategory.decode_trip_reread AcpConfigCategory.toJson_ne_null option.category
  rw [decode_trip_record]
  simp [toFields, ofContainer, hcategory, reread]

/-- What an integer comes back as: the nearest `Double`, if it fits 64 bits. -/
def received (n : Int) : Option Int := int64? (Int.trip n)

/-- An integer arrives as far as the client's numbers carry it. -/
theorem decode_trip_int (n : Int) : decodeJSON (toJson n).trip = received n := by
  change decodeJSON (Json.int n).trip = received n
  rw [Json.trip_int, decode_trip_float, if_pos (den_doubleOfInt n)]
  rfl

/-- Below 2^53 nothing is rounded. -/
theorem received_of_lt {n : Int} (hn : n.natAbs < 2 ^ 53) : received n = some n := by
  rw [received, Int.trip_of_lt hn, int64?, if_pos (by omega)]

/-- A bounded integer is not touched. -/
theorem decode_trip_uint32 (n : UInt32) : decodeJSON (toJson n).trip = some (n.toNat : Int) := by
  have hlt := n.toNat_lt
  exact (decode_trip_int n.toNat).trans (received_of_lt (by omega))

/-- An `i32` always arrives. -/
theorem decode_trip_int32 (n : Int32) : decodeJSON (toJson n).trip = some n.toInt := by
  have hlt := n.toInt_lt
  have hle := n.le_toInt
  exact (decode_trip_int n.toInt).trans (received_of_lt (by omega))

/-- What a content block is decoded as. -/
def ContentBlock.received (block : ContentBlock) : Option ContentBlock :=
  (block.size.mapM Slight.received).map fun size => { block with size }

/-- Of a block only the size can be lost, and with it the block. -/
theorem ContentBlock.ofContainer_received (block : ContentBlock) :
    ofContainer (Container.trip (toFields block)) = block.received := by
  have hsize := Container.decodeIfPresent_skipNone_of []
    (show convertFromSnakeCase "size" = "size" by simp) decode_trip_int toJson_ne_null block.size
    (by simp)
  simp [toFields, ofContainer, hsize, received]
  cases block.size.mapM Slight.received <;> rfl

/-- A tag in front of its fields does not matter to a content block. -/
theorem ContentBlock.ofContainer_type (j : Json) (fields : Fields) :
    (ofContainer (Container.trip (("type", j) :: fields)) : Option ContentBlock) =
      ofContainer (Container.trip fields) := by
  simp [ofContainer]

/-- What a piece of tool output is decoded as. -/
def ToolCallContentPayload.received :
    ToolCallContentPayload → Option ToolCallContentPayload
  | .content block => block.received.map .content
  | .diff path oldText newText => some (.diff path oldText newText)
  | .terminal terminalId => some (.terminal terminalId)

/-- A block inside a tool call arrives as it would alone; the other variants are copied. -/
theorem ToolCallContentPayload.decode_trip_received (content : ToolCallContentPayload) :
    decodeJSON (toJson content).trip = content.received := by
  rw [decode_trip_record]
  cases content with
  | content block =>
      change (ofContainer (Container.trip (("type", .str "content") :: toFields block))) = _
      simp only [ofContainer]
      rw [Container.decode_cons_self _ (by simp), Json.trip_str, Container.decodeJSON_str]
      show (ofContainer (Container.trip (("type", .str "content") :: toFields block))).map
        ToolCallContentPayload.content = _
      rw [ContentBlock.ofContainer_type, ContentBlock.ofContainer_received]
      rfl
  | diff path oldText newText => simp [toFields, ofContainer, received]
  | terminal terminalId => simp [toFields, ofContainer, received]

/-- The location the client reads. -/
def Client.ToolLocation.ofHost (location : ToolCallLocationPayload) : Client.ToolLocation where
  path := location.path
  line := location.line.map fun line => (line.toNat : Int)

/-- A location arrives: its line is a `u32`. -/
theorem Client.ToolLocation.decode_trip_ofHost (location : ToolCallLocationPayload) :
    decodeJSON (toJson location).trip = some (Client.ToolLocation.ofHost location) := by
  have hline := Container.decodeIfPresent_cons_of []
    (show convertFromSnakeCase "line" = "line" by simp) decode_trip_uint32 toJson_ne_null
    location.line
  rw [decode_trip_record]
  simp [toFields, ofContainer, hline, ofHost]

/-- The raw value the client reads: absent when it is `null`. -/
def receivedRaw (raw : Option Json) : Option JSONValue :=
  (rereadRaw raw).map fun j => .decode j.trip

/-- A raw value is read as it is after the detour. -/
theorem decodeIfPresent_raw {key key' : String} (fields : Fields)
    (h : convertFromSnakeCase key' = key) (raw : Option Json)
    (hrest : (Container.trip fields).decodeIfPresent key = some (none : Option JSONValue)) :
    (Container.trip (skipNone key' raw fields)).decodeIfPresent key = some (receivedRaw raw) := by
  cases raw with
  | none => exact hrest
  | some j =>
      by_cases hnull : j = .null
      · subst hnull
        exact Container.decodeIfPresent_cons_null fields h
      · have hraw : rereadRaw (some j) = some j := by
          cases j <;> first | rfl | exact absurd rfl hnull
        rw [receivedRaw, hraw]
        exact Container.decodeIfPresent_cons_value fields h hnull

/-- A field that is always written is decoded as its value. -/
theorem decodeOr_value {α β : Type} [Serde α] [Decodable β] {f : α → Option β}
    {key key' : String} (fields : Fields) (h : convertFromSnakeCase key' = key)
    (hread : ∀ a : α, decodeJSON (toJson a).trip = f a) (hne : ∀ a : α, toJson a ≠ .null) (a : α)
    (dflt : β) : (Container.trip ((key', toJson a) :: fields)).decodeOr key dflt = f a := by
  have hvalue := Container.decodeIfPresent_cons_value (α := β) fields h (hne a)
  rw [Container.decodeOr, hvalue, hread]
  cases f a <;> rfl

/-- A list that is always written is decoded element by element. -/
theorem decodeOr_list {α β : Type} [Serde α] [Decodable β] {f : α → Option β}
    {key key' : String} (fields : Fields) (h : convertFromSnakeCase key' = key)
    (hread : ∀ a : α, decodeJSON (toJson a).trip = f a) (as : List α) :
    (Container.trip ((key', toJson as) :: fields)).decodeOr key [] = as.mapM f :=
  decodeOr_value fields h (decode_trip_list hread) toJson_list_ne_null as []

/-- The same of a list left out when it is empty, if nothing after it has its key. -/
theorem decodeOr_skipEmpty {α β : Type} [Serde α] [Decodable β] {f : α → Option β}
    {key key' : String} (fields : Fields) (h : convertFromSnakeCase key' = key)
    (hread : ∀ a : α, decodeJSON (toJson a).trip = f a) (as : List α)
    (hrest : (Container.trip fields).decodeIfPresent key = some (none : Option (List β))) :
    (Container.trip (skipEmpty key' as fields)).decodeOr key [] = as.mapM f := by
  cases as with
  | nil =>
      change ((Container.trip fields).decodeIfPresent key).map _ = _
      rw [hrest]
      rfl
  | cons a as => exact decodeOr_list fields h hread (a :: as)

/-! ## payloads -/

/-- What the payload of a message is decoded as. -/
def MessagePayload.received (payload : MessagePayload) : Option Client.MessagePayload :=
  (payload.blocks.mapM ContentBlock.received).map fun blocks =>
    { role := payload.role, text := payload.text, blocks, id := none, isStreaming := false,
      append := false }

/-- The same of a block on its own. -/
theorem ContentBlock.decode_trip_received (block : ContentBlock) :
    decodeJSON (toJson block).trip = block.received := by
  rw [decode_trip_record, ofContainer_received]

/-- A message arrives unless one of its blocks is lost; none that arrives is streaming. -/
theorem MessagePayload.decode_trip_received (payload : MessagePayload) :
    decodeJSON (toJson payload).trip = payload.received := by
  have hblocks := decodeOr_list [] (show convertFromSnakeCase "blocks" = "blocks" by simp)
    ContentBlock.decode_trip_received payload.blocks
  rw [decode_trip_record]
  simp [toFields, ofContainer, hblocks, received]
  cases payload.blocks.mapM ContentBlock.received <;> rfl

/-- What the payload of a tool call is decoded as. -/
def ToolCallPayload.received (payload : ToolCallPayload) : Option Client.ToolCallPayload :=
  (payload.content.mapM ToolCallContentPayload.received).map fun content =>
    { id := payload.id, title := payload.title, kind := payload.kind, status := payload.status,
      detail := payload.detail, content, locations := payload.locations.map .ofHost,
      rawInput := receivedRaw payload.rawInput, rawOutput := receivedRaw payload.rawOutput }

/-- A tool call arrives unless one of its content blocks is lost. -/
theorem ToolCallPayload.decode_trip_received (payload : ToolCallPayload) :
    decodeJSON (toJson payload).trip = payload.received := by
  have hcontent := decodeOr_skipEmpty
    (skipEmpty "locations" payload.locations
      (skipNone "raw_input" payload.rawInput (skipNone "raw_output" payload.rawOutput [])))
    (show convertFromSnakeCase "content" = "content" by simp)
    ToolCallContentPayload.decode_trip_received payload.content (by simp)
  have hlocations := decodeOr_skipEmpty
    (skipNone "raw_input" payload.rawInput (skipNone "raw_output" payload.rawOutput []))
    (show convertFromSnakeCase "locations" = "locations" by simp)
    Client.ToolLocation.decode_trip_ofHost payload.locations (by simp)
  have hinput := decodeIfPresent_raw (skipNone "raw_output" payload.rawOutput [])
    (show convertFromSnakeCase "raw_input" = "rawInput" by simp) payload.rawInput (by simp)
  have houtput := decodeIfPresent_raw []
    (show convertFromSnakeCase "raw_output" = "rawOutput" by simp) payload.rawOutput (by simp)
  rw [decode_trip_record]
  simp [toFields, ofContainer, hcontent, hlocations, hinput, houtput, received]
  cases payload.content.mapM ToolCallContentPayload.received <;> rfl

/-- What the payload of a turn's end is decoded as. -/
def TurnEndedPayload.received (payload : TurnEndedPayload) : Option TurnEndedPayload := do
  let reasoningStartedAtMs ← payload.reasoningStartedAtMs.mapM Slight.received
  let reasoningEndedAtMs ← payload.reasoningEndedAtMs.mapM Slight.received
  some { payload with reasoningStartedAtMs, reasoningEndedAtMs }

/-- The end of a turn arrives unless one of its two times is lost. -/
theorem TurnEndedPayload.decode_trip_received (payload : TurnEndedPayload) :
    decodeJSON (toJson payload).trip = payload.received := by
  have hended := Container.decodeIfPresent_cons_of []
    (show convertFromSnakeCase "reasoning_ended_at_ms" = "reasoningEndedAtMs" by simp)
    decode_trip_int toJson_ne_null payload.reasoningEndedAtMs
  have hstarted := Container.decodeIfPresent_cons_of
    [("reasoning_ended_at_ms", toJson payload.reasoningEndedAtMs)]
    (show convertFromSnakeCase "reasoning_started_at_ms" = "reasoningStartedAtMs" by simp)
    decode_trip_int toJson_ne_null payload.reasoningStartedAtMs
  rw [decode_trip_record]
  simp [toFields, ofContainer, hstarted, hended, received]

/-- The exit the client reads. -/
def Client.ExitPayload.ofHost (payload : Slight.ExitPayload) : Client.ExitPayload where
  code := payload.code.map (·.toInt)
  reason := payload.reason

/-- The end of a process arrives: its code is an `i32`. -/
theorem Client.ExitPayload.decode_trip_ofHost (payload : Slight.ExitPayload) :
    decodeJSON (toJson payload).trip = some (Client.ExitPayload.ofHost payload) := by
  have hcode := Container.decodeIfPresent_cons_of [("reason", toJson payload.reason)]
    (show convertFromSnakeCase "code" = "code" by simp) decode_trip_int32 toJson_ne_null
    payload.code
  rw [decode_trip_record]
  simp [toFields, ofContainer, hcode, ofHost]

/-- The raw value of a level. -/
def DiagnosticLevel.rawValue : DiagnosticLevel → String
  | debug => "debug"
  | info => "info"
  | warning => "warning"
  | error => "error"

/-- The diagnostics the client reads. -/
def Client.DiagnosticsPayload.ofHost (payload : Slight.DiagnosticsPayload) :
    Client.DiagnosticsPayload where
  level := payload.level.rawValue
  message := payload.message

/-- A diagnostic arrives, its level as text. -/
theorem Client.DiagnosticsPayload.decode_trip_ofHost (payload : Slight.DiagnosticsPayload) :
    decodeJSON (toJson payload).trip = some (Client.DiagnosticsPayload.ofHost payload) := by
  have hlevel : (decodeJSON (toJson payload.level).trip : Option String) =
      some payload.level.rawValue := by
    cases payload.level <;> rfl
  rw [decode_trip_record]
  simp [toFields, ofContainer, hlevel, ofHost]

/-- The options arrive in their order. -/
theorem ConfigOptionsPayload.decode_trip_reread (payload : ConfigOptionsPayload) :
    decodeJSON (toJson payload).trip =
      some (⟨payload.options.map .reread⟩ : ConfigOptionsPayload) := by
  have hoptions := decode_trip_list AcpConfigOption.decode_trip_reread payload.options
  rw [decode_trip_record]
  simp [toFields, ofContainer, hoptions]

/-- The summary the client reads in a snapshot: the host writes its times under
`created_at_ms` and `last_activity_at_ms`, which the client does not know. -/
def SessionSummary.received (summary : SessionSummary) : Option Client.SessionSummary :=
  (Slight.received summary.lastSequence).map fun lastSequence =>
    { id := summary.id, title := summary.title, agent := summary.agent, model := summary.model,
      effort := summary.effort, workingDirectoryLabel := summary.workingDirectoryLabel,
      gitBranch := summary.gitBranch, status := summary.status, createdAt := none,
      lastActivityAt := none, lastSequence, recovery := summary.recovery,
      archived := summary.archived }

/-- A counter of the host's arrives as any integer does. -/
theorem decode_trip_nat (n : Nat) :
    decodeJSON (toJson n).trip = received n := decode_trip_int n

/-- A summary arrives without its times, which the host writes under other keys. -/
theorem SessionSummary.decode_trip_received (summary : SessionSummary) :
    decodeJSON (toJson summary).trip = summary.received := by
  have hsequence := decodeOr_value
    [("recovery", toJson summary.recovery), ("archived", toJson summary.archived)]
    (show convertFromSnakeCase "last_sequence" = "lastSequence" by simp) decode_trip_nat
    toJson_ne_null summary.lastSequence 0
  rw [decode_trip_record]
  generalize hcontainer : Container.trip (toFields summary) = container
  have hid : container.decode "id" = some summary.id := by
    simp [← hcontainer, toFields]
  have htitle : container.decode "title" = some summary.title := by
    simp [← hcontainer, toFields]
  have hagent : container.decode "agent" = some summary.agent := by
    simp [← hcontainer, toFields]
  have hmodel : container.decodeIfPresent "model" = some summary.model := by
    simp [← hcontainer, toFields]
  have heffort : container.decodeIfPresent "effort" = some summary.effort := by
    simp [← hcontainer, toFields]
  have hdirectory : container.decode "workingDirectoryLabel" = some summary.workingDirectoryLabel := by
    simp [← hcontainer, toFields]
  have hbranch : container.decodeIfPresent "gitBranch" = some summary.gitBranch := by
    simp [← hcontainer, toFields]
  have hstatus : container.decodeOr "status" .failed = some summary.status := by
    simp [← hcontainer, toFields]
  have hcreated : container.decodeIfPresent "createdAt" = some (none : Option Date) := by
    simp [← hcontainer, toFields]
  have hactivity : container.decodeIfPresent "lastActivityAt" = some (none : Option Date) := by
    simp [← hcontainer, toFields]
  have hlast : container.decodeOr "lastSequence" 0 = Slight.received summary.lastSequence := by
    simp [← hcontainer, toFields, hsequence]
  have hrecovery : container.decodeOr "recovery" .live = some summary.recovery := by
    simp [← hcontainer, toFields]
  have harchived : container.decodeOr "archived" false = some summary.archived := by
    simp [← hcontainer, toFields]
  simp only [ofContainer, hid, htitle, hagent, hmodel, heffort, hdirectory, hbranch, hstatus,
    hcreated, hactivity, hlast, hrecovery, harchived, received]
  cases Slight.received summary.lastSequence <;> rfl

/-- What the payload of a snapshot is decoded as. -/
def SnapshotPayload.received (payload : SnapshotPayload) : Option Client.SnapshotPayload :=
  payload.summary.received.map fun summary =>
    { summary, pendingPermission := payload.pendingPermission }

/-- A snapshot arrives if its summary does. -/
theorem SnapshotPayload.decode_trip_received (payload : SnapshotPayload) :
    decodeJSON (toJson payload).trip = payload.received := by
  rw [decode_trip_record]
  simp [toFields, ofContainer, SessionSummary.decode_trip_received, received]
  cases payload.summary.received <;> rfl

end Slight
