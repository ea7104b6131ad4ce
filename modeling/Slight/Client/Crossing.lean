import Slight.Client.Connection
import Slight.Client.Frames
import Slight.Client.Results

/-!
# Slight.Client.Crossing

What a frame is on the other side.

A frame of the host's arrives at the client with all it says, unless a number in it has
no room in 64 bits with a sign or the time of an event is not a date: then nothing of
the frame arrives.  A frame of the client's arrives at the host unless its version is no
`u32` or its cursor is negative, in whatever order its fields are written.
-/

namespace Slight

open Gateway (Wire.Frame)

/-! ## fields of a container -/

/-- The client has room for the number. -/
def FitsInt64 (n : UInt64) : Prop := n.toNat < 2 ^ 63

instance (n : UInt64) : Decidable (FitsInt64 n) := inferInstanceAs (Decidable (_ < _))

/-- There is no number, or room for it. -/
def Fits : Option UInt64 → Prop
  | none => True
  | some n => FitsInt64 n

instance : (n : Option UInt64) → Decidable (Fits n)
  | none => inferInstanceAs (Decidable True)
  | some n => inferInstanceAs (Decidable (FitsInt64 n))

/-- The number an optional `u64` is. -/
def ofU64 (n : Option UInt64) : Option Int := n.map fun n => (n.toNat : Int)

namespace Container

section

variable {α : Type} [Decodable α] {key key' : String} (container : Container)

theorem lookup_there (h : key' ≠ key) (j : Json) :
    List.lookup key ((key', j) :: container) = container.lookup key :=
  Fields.lookup_cons_ne container (Ne.symm h) j

@[simp] theorem decode_there (h : key' ≠ key) (j : Json) :
    decode ((key', j) :: container) key = (decode container key : Option α) := by
  rw [decode, lookup_there container h, decode]

@[simp] theorem decodeIfPresent_there (h : key' ≠ key) (j : Json) :
    decodeIfPresent ((key', j) :: container) key =
      (decodeIfPresent container key : Option (Option α)) := by
  rw [decodeIfPresent, lookup_there container h, decodeIfPresent]

@[simp] theorem decodeOr_there (h : key' ≠ key) (j : Json) (dflt : α) :
    decodeOr ((key', j) :: container) key dflt = decodeOr container key dflt := by
  rw [decodeOr, decodeIfPresent_there container h, decodeOr]

@[simp] theorem decode_here (j : Json) :
    decode ((key, j) :: container) key = (decodeJSON j : Option α) := by
  simp [decode]

/-- An `Option` field is `nil` when it is `None`, and else what its value decodes to. -/
theorem decodeIfPresent_here {β : Type} [Serde β] {f : β → Option α}
    (hread : ∀ b : β, decodeJSON (toJson b) = f b) (hne : ∀ b : β, toJson b ≠ .null)
    (b : Option β) : decodeIfPresent ((key, toJson b) :: container) key = b.mapM f := by
  cases b with
  | none => simp [decodeIfPresent, toJson]
  | some b =>
      have hlookup : List.lookup key ((key, toJson (some b)) :: container) = some (toJson b) := by
        simp [toJson]
      rw [decodeIfPresent_of_lookup (hne b) hlookup, hread b]
      rfl

/-- A field with a default that is there. -/
theorem decodeOr_here {j : Json} (hne : j ≠ .null) (dflt : α) :
    decodeOr ((key, j) :: container) key dflt = decodeJSON j := by
  rw [decodeOr, decodeIfPresent_of_lookup hne (show List.lookup key _ = some j by simp)]
  cases (decodeJSON j : Option α) <;> rfl

end

/-! Values as the host writes them. -/

section

variable {key : String} (container : Container)

theorem decode_uint32 (n : UInt32) : decodeJSON (toJson n) = some (n.toNat : Int) := by
  have hlt := n.toNat_lt
  change int64? n.toNat = _
  rw [int64?, if_pos (by omega)]

theorem decode_uint64 (n : UInt64) :
    decodeJSON (toJson n) = if FitsInt64 n then some (n.toNat : Int) else none := by
  change int64? n.toNat = _
  by_cases hn : FitsInt64 n
  · rw [if_pos hn, int64?, if_pos ⟨by omega, by exact_mod_cast hn⟩]
  · rw [if_neg hn, int64?, if_neg fun h => hn (by exact_mod_cast h.2)]

@[simp] theorem decode_str (s : String) : decodeJSON (toJson s) = some s := rfl

@[simp] theorem decodeIfPresent_str (s : Option String) :
    decodeIfPresent ((key, toJson s) :: container) key = some s := by
  rw [decodeIfPresent_here container (f := some) (fun _ => rfl) toJson_ne_null]
  cases s <;> rfl

@[simp] theorem decodeIfPresent_date (s : Option String) :
    decodeIfPresent ((key, toJson s) :: container) key = s.mapM parseTimestamp :=
  decodeIfPresent_here container (fun _ => rfl) toJson_ne_null s

@[simp] theorem decodeIfPresent_uint64 (n : Option UInt64) :
    decodeIfPresent ((key, toJson n) :: container) key =
      if Fits n then some (ofU64 n) else none := by
  rw [decodeIfPresent_here container decode_uint64 toJson_ne_null]
  cases n with
  | none => rfl
  | some n => by_cases hn : FitsInt64 n <;> simp [Fits, ofU64, hn]

@[simp] theorem decodeOr_uint32 (n : UInt32) (dflt : Int) :
    decodeOr ((key, toJson n) :: container) key dflt = some (n.toNat : Int) := by
  rw [decodeOr_here container (toJson_ne_null n), decode_uint32]

@[simp] theorem decodeOr_str (s dflt : String) :
    decodeOr ((key, toJson s) :: container) key dflt = some s :=
  decodeOr_here container (toJson_ne_null s) dflt

@[simp] theorem decodeOr_bool (b dflt : Bool) :
    decodeOr ((key, toJson b) :: container) key dflt = some b :=
  decodeOr_here container (toJson_ne_null b) dflt

@[simp] theorem decodeIfPresent_untyped (j : Option Json) :
    decodeIfPresent ((key, toJson j) :: container) key =
      some ((Gateway.Wire.given j).map JSONValue.decode) := by
  cases j with
  | none => simp [decodeIfPresent, toJson, Gateway.Wire.given]
  | some j =>
      have hlookup : List.lookup key ((key, toJson (some j)) :: container) = some j := by
        simp [toJson]
      cases j with
      | null =>
          rw [decodeIfPresent, hlookup]
          rfl
      | _ =>
          rw [decodeIfPresent_of_lookup Json.noConfusion hlookup]
          rfl

end

end Container

/-! ## what arrives at the client -/

namespace Client

/-- The keys of the frames. -/
@[simp] theorem convertFromSnakeCase_frames :
    convertFromSnakeCase "client_id" = "clientId" ∧
    convertFromSnakeCase "client_name" = "clientName" ∧
    convertFromSnakeCase "client_version" = "clientVersion" ∧
    convertFromSnakeCase "command" = "command" ∧
    convertFromSnakeCase "connection_id" = "connectionId" ∧
    convertFromSnakeCase "credential" = "credential" ∧
    convertFromSnakeCase "device_id" = "deviceId" ∧
    convertFromSnakeCase "heartbeat_interval_ms" = "heartbeatIntervalMs" ∧
    convertFromSnakeCase "host_admin" = "hostAdmin" ∧
    convertFromSnakeCase "host_id" = "hostId" ∧
    convertFromSnakeCase "last_event_sequence" = "lastEventSequence" ∧
    convertFromSnakeCase "max_event_journal" = "maxEventJournal" ∧
    convertFromSnakeCase "max_replay_events" = "maxReplayEvents" := by
  decide +kernel

/-- More keys of the frames. -/
@[simp] theorem convertFromSnakeCase_more_frames :
    convertFromSnakeCase "nonce" = "nonce" ∧
    convertFromSnakeCase "oldest_available_sequence" = "oldestAvailableSequence" ∧
    convertFromSnakeCase "params" = "params" ∧
    convertFromSnakeCase "permission_options" = "permissionOptions" ∧
    convertFromSnakeCase "resume" = "resume" ∧
    convertFromSnakeCase "resync_reason" = "resyncReason" ∧
    convertFromSnakeCase "resync_required" = "resyncRequired" ∧
    convertFromSnakeCase "server_name" = "serverName" ∧
    convertFromSnakeCase "server_version" = "serverVersion" ∧
    convertFromSnakeCase "supports_raw_acp" = "supportsRawAcp" ∧
    convertFromSnakeCase "supports_replay" = "supportsReplay" := by
  decide +kernel

def ResumeRequest.ofHost (r : Gateway.ResumeRequest) : ResumeRequest where
  sessionId := r.sessionId
  lastEventSequence := ofU64 r.lastEventSequence

def GatewayCapabilities.ofHost (c : Gateway.ServerCapabilities) : GatewayCapabilities where
  supportsReplay := c.supportsReplay
  maxReplayEvents := ofU64 c.maxReplayEvents
  maxEventJournal := ofU64 c.maxEventJournal
  supportsRawAcp := c.supportsRawAcp
  permissionOptions := c.permissionOptions
  hostAdmin := c.hostAdmin

/-- What the client is told by a frame of the host's. -/
def GatewayFrame.ofHost : Wire.Frame → GatewayFrame
  | .hello h => .hello
      { protocolVersion := h.protocolVersion.toNat, clientId := h.clientId
        clientName := h.clientName, clientVersion := h.clientVersion, deviceId := h.deviceId
        credential := h.credential, resume := h.resume.map .ofHost }
  | .welcome w => .welcome
      { protocolVersion := w.protocolVersion.toNat, connectionId := w.connectionId
        serverName := w.serverName, serverVersion := w.serverVersion, hostId := w.hostId
        capabilities := .ofHost w.capabilities
        heartbeatIntervalMs := ofU64 w.heartbeatIntervalMs
        resyncRequired := w.resyncRequired, resyncReason := w.resyncReason }
  | .command c => .command
      { protocolVersion := c.protocolVersion.toNat, requestId := c.requestId
        command := c.command, sessionId := c.sessionId
        params := (Gateway.Wire.given c.params).map .decode }
  | .ack a => .ack
      { protocolVersion := a.protocolVersion.toNat, requestId := a.requestId, ok := a.ok
        result := (Gateway.Wire.given a.result).map .decode, error := a.error.map .ofHost }
  | .event e => .event
      { protocolVersion := e.protocolVersion.toNat, sessionId := e.sessionId
        sequence := e.sequence.toNat, event := e.event, at_ := e.at_.bind parseTimestamp
        payload := (Gateway.Wire.given e.payload).map .decode }
  | .ping p => .ping { protocolVersion := p.protocolVersion.toNat, nonce := p.nonce }
  | .pong p => .pong { protocolVersion := p.protocolVersion.toNat, nonce := p.nonce }
  | .resyncRequired r => .resyncRequired
      { protocolVersion := r.protocolVersion.toNat, reason := r.reason, sessionId := r.sessionId
        oldestAvailableSequence := ofU64 r.oldestAvailableSequence }
  | .error e => .error
      { protocolVersion := e.protocolVersion.toNat, code := e.code, message := e.message
        requestId := e.requestId, retryable := e.retryable }

/-- What the client can take in: there is room for its numbers, and the time of an event
is a date. -/
def Readable : Wire.Frame → Prop
  | .hello h => Fits (h.resume.bind (·.lastEventSequence))
  | .welcome w => (Fits w.capabilities.maxReplayEvents ∧ Fits w.capabilities.maxEventJournal) ∧
      Fits w.heartbeatIntervalMs
  | .event e => FitsInt64 e.sequence ∧ ∀ text ∈ e.at_, (parseTimestamp text).isSome
  | .resyncRequired r => Fits r.oldestAvailableSequence
  | _ => True

/-- A frame is read by its type. -/
theorem decode_frame {j : Json} {container : Container} {type : String}
    (hcontainer : j.container = some container) (htype : container.decode "type" = some type) :
    decodeJSON j = GatewayFrame.ofType type container j := by
  change (j.container.bind fun container => _) = _
  rw [hcontainer, Option.bind_some]
  change ((container.decode "type").bind fun type => _) = _
  rw [htype, Option.bind_some]

theorem decode_resume (r : Gateway.ResumeRequest) :
    (decodeJSON (toJson r) : Option ResumeRequest) =
      if Fits r.lastEventSequence then some (.ofHost r) else none := by
  have hcontainer : (toJson r).container = some [("sessionId", toJson r.sessionId),
      ("lastEventSequence", toJson r.lastEventSequence)] := by
    simp [Json.container, toJson, toFields]
  have hread : (decodeJSON (toJson r) : Option ResumeRequest) =
      (toJson r).container.bind ofContainer := rfl
  rw [hread, hcontainer, Option.bind_some]
  by_cases hfits : Fits r.lastEventSequence <;> simp [ofContainer, hfits, ResumeRequest.ofHost]

theorem decode_capabilities (c : Gateway.ServerCapabilities) :
    (decodeJSON (toJson c) : Option GatewayCapabilities) =
      if Fits c.maxReplayEvents ∧ Fits c.maxEventJournal then some (.ofHost c) else none := by
  have hcontainer : (toJson c).container = some [("supportsReplay", toJson c.supportsReplay),
      ("maxReplayEvents", toJson c.maxReplayEvents), ("maxEventJournal", toJson c.maxEventJournal),
      ("supportsRawAcp", toJson c.supportsRawAcp),
      ("permissionOptions", toJson c.permissionOptions), ("hostAdmin", toJson c.hostAdmin)] := by
    simp [Json.container, toJson, toFields]
  have hread : (decodeJSON (toJson c) : Option GatewayCapabilities) =
      (toJson c).container.bind ofContainer := rfl
  rw [hread, hcontainer, Option.bind_some]
  by_cases hreplay : Fits c.maxReplayEvents <;> by_cases hjournal : Fits c.maxEventJournal <;>
    simp [ofContainer, hreplay, hjournal, GatewayCapabilities.ofHost]

/-- The container of a frame. -/
def frameContainer (frame : Wire.Frame) : Container :=
  (toFields frame).map fun field => (convertFromSnakeCase field.1, field.2)

theorem container_frame (frame : Wire.Frame) :
    (toJson frame).container = some (frameContainer frame) := rfl

/-- **What arrives**: all a frame says, if it is readable, and else nothing. -/
theorem decode_frame_iff (frame : Wire.Frame) (got : GatewayFrame) :
    decodeJSON (toJson frame) = some got ↔ Readable frame ∧ got = .ofHost frame := by
  have htype : (frameContainer frame).decode "type" = some frame.frameType := by
    simp [frameContainer, toFields]
  rw [decode_frame (container_frame frame) htype]
  have hopen : frameContainer frame = ("type", .str frame.frameType) ::
      frame.body.map fun field => (convertFromSnakeCase field.1, field.2) := by
    simp [frameContainer, toFields]
  rw [hopen]
  cases frame with
  | hello h =>
      have hresume : Container.decodeIfPresent [("resume", toJson h.resume)] "resume" = _ :=
        Container.decodeIfPresent_here [] decode_resume toJson_ne_null h.resume
      simp [Wire.Frame.body, toFields, Wire.Frame.frameType, GatewayFrame.ofType, ofContainer,
        GatewayFrame.ofHost, Readable, hresume]
      cases h.resume with
      | none => simp [Fits, eq_comm]
      | some r => by_cases hfits : Fits r.lastEventSequence <;> simp [hfits, eq_comm]
  | welcome w =>
      have hcapabilities (container : Container) :
          Container.decodeOr (("capabilities", toJson w.capabilities) :: container) "capabilities"
            GatewayCapabilities.default = _ :=
        Container.decodeOr_here container (toJson_ne_null w.capabilities) _
      simp [Wire.Frame.body, toFields, Wire.Frame.frameType, GatewayFrame.ofType, ofContainer,
        GatewayFrame.ofHost, Readable, hcapabilities, decode_capabilities]
      by_cases hlimits : Fits w.capabilities.maxReplayEvents ∧ Fits w.capabilities.maxEventJournal
      · by_cases hbeat : Fits w.heartbeatIntervalMs <;> simp [hlimits, hbeat, eq_comm]
      · simp [hlimits]
  | command c =>
      simp [Wire.Frame.body, toFields, Wire.Frame.frameType, GatewayFrame.ofType, ofContainer,
        GatewayFrame.ofHost, Readable, eq_comm]
  | ack a =>
      have herror : Container.decodeIfPresent [("error", toJson a.error)] "error" = _ :=
        Container.decodeIfPresent_here [] decode_errorBody toJson_ne_null a.error
      simp [Wire.Frame.body, toFields, Wire.Frame.frameType, GatewayFrame.ofType, ofContainer,
        GatewayFrame.ofHost, Readable, herror, eq_comm]
  | event e =>
      simp [Wire.Frame.body, toFields, Wire.Frame.frameType, GatewayFrame.ofType, ofContainer,
        GatewayFrame.ofHost, Readable, Container.decode_uint64]
      by_cases hnumber : FitsInt64 e.sequence
      · cases e.at_ with
        | none =>
            simp [hnumber]
            exact eq_comm
        | some text =>
            cases hdate : parseTimestamp text with
            | none => simp [hnumber, hdate]
            | some date =>
                simp [hnumber, hdate]
                exact eq_comm
      · simp [hnumber]
  | ping p =>
      simp [Wire.Frame.body, toFields, Wire.Frame.frameType, GatewayFrame.ofType, ofContainer,
        GatewayFrame.ofHost, Readable, eq_comm]
  | pong p =>
      simp [Wire.Frame.body, toFields, Wire.Frame.frameType, GatewayFrame.ofType, ofContainer,
        GatewayFrame.ofHost, Readable, eq_comm]
  | resyncRequired r =>
      simp [Wire.Frame.body, toFields, Wire.Frame.frameType, GatewayFrame.ofType, ofContainer,
        GatewayFrame.ofHost, Readable]
      by_cases hfits : Fits r.oldestAvailableSequence <;> simp [hfits, eq_comm]
  | error e =>
      simp [Wire.Frame.body, toFields, Wire.Frame.frameType, GatewayFrame.ofType, ofContainer,
        GatewayFrame.ofHost, Readable, eq_comm]

end Client

namespace Client

/-- The types the client knows. -/
def frameTypes : List String :=
  ["hello", "welcome", "command", "ack", "event", "ping", "pong", "resync_required", "error"]

/-- A frame of another type is kept as it is. -/
theorem decode_unknown {j : Json} {container : Container} {type : String}
    (hcontainer : j.container = some container) (htype : container.decode "type" = some type)
    (hunknown : type ∉ frameTypes) :
    decodeJSON j = some (GatewayFrame.unknown type (.decode j)) := by
  rw [decode_frame hcontainer htype]
  unfold GatewayFrame.ofType
  split <;> first | rfl | exact absurd (by decide) hunknown

/-- **The frames of the host**: one arrives with all it says if there is room for its
numbers and its time is a date, and else not at all.  A frame of a type that the client
does not know arrives as it is. -/
theorem host_frame_arrives :
    (∀ (frame : Wire.Frame) (got : GatewayFrame),
      decodeJSON (toJson frame) = some got ↔ Readable frame ∧ got = .ofHost frame) ∧
      ∀ (j : Json) (container : Container) (type : String), j.container = some container →
        container.decode "type" = some type → type ∉ frameTypes →
          decodeJSON j = some (GatewayFrame.unknown type (.decode j)) :=
  ⟨decode_frame_iff, fun _ _ _ => decode_unknown⟩

end Client

/-! ## what arrives at the host -/

/-- The keys the client writes. -/
@[simp] theorem convertToSnakeCase_frames :
    convertToSnakeCase "clientId" = "client_id" ∧
    convertToSnakeCase "clientName" = "client_name" ∧
    convertToSnakeCase "clientVersion" = "client_version" ∧
    convertToSnakeCase "command" = "command" ∧
    convertToSnakeCase "credential" = "credential" ∧
    convertToSnakeCase "deviceId" = "device_id" ∧
    convertToSnakeCase "lastEventSequence" = "last_event_sequence" ∧
    convertToSnakeCase "nonce" = "nonce" ∧ convertToSnakeCase "params" = "params" ∧
    convertToSnakeCase "requestId" = "request_id" ∧ convertToSnakeCase "resume" = "resume" ∧
    convertToSnakeCase "sessionId" = "session_id" ∧ convertToSnakeCase "type" = "type" ∧
    convertToSnakeCase "v" = "v" := by
  decide +kernel

namespace Fields

section

variable {α β : Type} [Encodable α] [Serde β] {key key' : String} (fields : Fields)

@[simp] theorem required_encodeField_ne (h : key ≠ convertToSnakeCase key') (a : α) :
    (required (encodeField key' a fields) key : Option β) = fields.required key :=
  required_cons_ne fields h _

@[simp] theorem defaulted_encodeField_ne (h : key ≠ convertToSnakeCase key') (a : α) (dflt : β) :
    defaulted (encodeField key' a fields) key dflt = fields.defaulted key dflt :=
  defaulted_cons_ne fields h _ dflt

@[simp] theorem optional_encodeField_ne (h : key ≠ convertToSnakeCase key') (a : α) :
    (optional (encodeField key' a fields) key : Option (Option β)) = fields.optional key :=
  optional_cons_ne fields h _

@[simp] theorem optional_encodeIfPresent_ne (h : key ≠ convertToSnakeCase key')
    (a : Option α) :
    (optional (encodeIfPresent key' a fields) key : Option (Option β)) = fields.optional key := by
  cases a with
  | none => rfl
  | some a => exact optional_encodeField_ne fields h a

theorem required_encodeField (h : convertToSnakeCase key' = key) (a : α) :
    required (encodeField key' a fields) key = (ofJson (encodeJSON a) : Option β) := by
  simp [required, encodeField, h]

theorem defaulted_encodeField (h : convertToSnakeCase key' = key) (a : α) (dflt : β) :
    defaulted (encodeField key' a fields) key dflt = ofJson (encodeJSON a) := by
  simp [defaulted, encodeField, h]

/-- A field that may be left out is read as what its value is read as. -/
theorem optional_encodeIfPresent {f : α → Option β} (h : convertToSnakeCase key' = key)
    (hread : ∀ a : α, ofJson (encodeJSON a) = f a) (hne : ∀ a : α, encodeJSON a ≠ .null)
    (a : Option α) (hrest : (fields.optional key : Option (Option β)) = some none) :
    optional (encodeIfPresent key' a fields) key = a.mapM f := by
  cases a with
  | none => exact hrest
  | some a =>
      have hlookup : List.lookup key (encodeIfPresent key' (some a) fields) =
          some (encodeJSON a) := by
        simp [encodeIfPresent, encodeField, h]
      have hvalue : (ofJson (encodeJSON a) : Option (Option β)) =
          (ofJson (encodeJSON a) : Option β).map some := by
        cases hj : encodeJSON a with
        | null => exact absurd hj (hne a)
        | _ => rfl
      rw [optional, defaulted, hlookup]
      dsimp only
      rw [hvalue, hread]
      rfl

end

section

variable {key key' : String} (fields : Fields)

@[simp] theorem required_encodeField_str (h : convertToSnakeCase key' = key) (s : String) :
    required (encodeField key' s fields) key = some s :=
  required_encodeField fields h s

@[simp] theorem defaulted_encodeField_str (h : convertToSnakeCase key' = key) (s dflt : String) :
    defaulted (encodeField key' s fields) key dflt = some s :=
  defaulted_encodeField fields h s dflt

@[simp] theorem optional_encodeIfPresent_str (h : convertToSnakeCase key' = key)
    (s : Option String) (hrest : (fields.optional key : Option (Option String)) = some none) :
    optional (encodeIfPresent key' s fields) key = some s := by
  rw [optional_encodeIfPresent fields (f := some) h (fun _ => rfl) (fun _ => Json.noConfusion)
    s hrest]
  cases s <;> rfl

@[simp] theorem optional_encodeIfPresent_untyped (h : convertToSnakeCase key' = key)
    (value : Option JSONValue) (hrest : (fields.optional key : Option (Option Json)) = some none) :
    optional (encodeIfPresent key' value fields) key =
      some (Gateway.Wire.given (value.map JSONValue.encode)) := by
  cases value with
  | none => exact hrest
  | some value =>
      have hlookup : List.lookup key (encodeIfPresent key' (some value) fields) =
          some value.encode := by
        simp [encodeIfPresent, encodeField, h, encodeJSON]
      rw [optional, defaulted, hlookup]
      exact Gateway.Wire.ofJson_given (some value.encode)

end

end Fields

namespace Client

/-- The version is a `u32`. -/
def IsU32 (n : Int) : Prop := 0 ≤ n ∧ n < 2 ^ 32

instance (n : Int) : Decidable (IsU32 n) := inferInstanceAs (Decidable (_ ∧ _))

/-- There is no cursor, or it is a `u64`. -/
def IsU64 : Option Int → Prop
  | none => True
  | some n => 0 ≤ n ∧ n < 2 ^ 64

instance : (n : Option Int) → Decidable (IsU64 n)
  | none => inferInstanceAs (Decidable True)
  | some _ => inferInstanceAs (Decidable (_ ∧ _))

/-- The cursor the host reads. -/
def toU64 (n : Option Int) : Option UInt64 := n.map fun n => UInt64.ofNat n.toNat

def ResumeRequest.toHost (r : ResumeRequest) : Gateway.ResumeRequest where
  sessionId := r.sessionId
  lastEventSequence := toU64 r.lastEventSequence

namespace Outgoing

/-- What the host is told by a frame of the client's. -/
def toHost : Outgoing → Wire.Frame
  | hello h => .hello
      { protocolVersion := .ofNat h.protocolVersion.toNat, clientId := h.clientId
        clientName := h.clientName, clientVersion := h.clientVersion, deviceId := h.deviceId
        credential := h.credential, resume := h.resume.map ResumeRequest.toHost }
  | command c => .command
      { protocolVersion := .ofNat c.protocolVersion.toNat, requestId := c.requestId
        command := c.command, sessionId := c.sessionId
        params := Gateway.Wire.given (c.params.map JSONValue.encode) }
  | pong p => .pong { protocolVersion := .ofNat p.protocolVersion.toNat, nonce := p.nonce }

/-- What the host can take in. -/
def Acceptable : Outgoing → Prop
  | hello h => IsU32 h.protocolVersion ∧ IsU64 (h.resume.bind (·.lastEventSequence))
  | command c => IsU32 c.protocolVersion
  | pong p => IsU32 p.protocolVersion

end Outgoing

@[simp] theorem read_version (fields : Fields) (n : Int) (dflt : UInt32) :
    Fields.defaulted (encodeField "v" n fields) "v" dflt =
      if IsU32 n then some (.ofNat n.toNat) else none :=
  Fields.defaulted_encodeField fields (by simp) n dflt

theorem read_cursor (fields : Fields) (n : Option Int)
    (hrest : (fields.optional "last_event_sequence" : Option (Option UInt64)) = some none) :
    Fields.optional (encodeIfPresent "lastEventSequence" n fields) "last_event_sequence" =
      if IsU64 n then some (toU64 n) else none := by
  rw [Fields.optional_encodeIfPresent fields
    (f := fun n : Int => if 0 ≤ n ∧ n < 2 ^ 64 then some (UInt64.ofNat n.toNat) else none)
    (by simp) (fun _ => rfl) (fun _ => Json.noConfusion) n hrest]
  cases n with
  | none => rfl
  | some n =>
      by_cases hn : 0 ≤ n ∧ n < 2 ^ 64
      · rw [if_pos (show IsU64 (some n) from hn)]
        exact congrArg (Option.map some) (if_pos hn)
      · rw [if_neg (show ¬ IsU64 (some n) from hn)]
        exact congrArg (Option.map some) (if_neg hn)

theorem read_resume (r : ResumeRequest) :
    (ofJson (encodeJSON r) : Option Gateway.ResumeRequest) =
      if IsU64 r.lastEventSequence then some r.toHost else none := by
  have hread : (ofJson (encodeJSON r) : Option Gateway.ResumeRequest) =
      ofFields (encodeFields r) := rfl
  have hcursor := read_cursor [] r.lastEventSequence (by simp)
  rw [hread]
  simp [ofFields, encodeFields, hcursor]
  by_cases hfits : IsU64 r.lastEventSequence <;> simp [hfits, ResumeRequest.toHost]

/-- No name occurs twice in what the client writes. -/
theorem Outgoing.nodup_encode (sent : Outgoing) : (sent.encode.map Prod.fst).Nodup := by
  cases sent with
  | hello h =>
      obtain ⟨_, _, _, _, deviceId, credential, resume⟩ := h
      cases deviceId <;> cases credential <;> cases resume <;>
        simp [encode, encodeFields, encodeField, encodeIfPresent]
  | command c =>
      obtain ⟨_, _, _, sessionId, params⟩ := c
      cases sessionId <;> cases params <;>
        simp [encode, encodeFields, encodeField, encodeIfPresent]
  | pong p => simp [encode, encodeFields, encodeField]

theorem Outgoing.read_encode (sent : Outgoing) (got : Wire.Frame) :
    ofFields sent.encode = some got ↔ sent.Acceptable ∧ got = sent.toHost := by
  cases sent with
  | hello h =>
      have hresume : Fields.optional (encodeIfPresent "resume" h.resume []) "resume" = _ :=
        Fields.optional_encodeIfPresent [] (by simp) read_resume (fun _ => Json.noConfusion)
          h.resume (by simp)
      simp [ofFields, Fields.tag, encode, encodeFields, Wire.Frame.ofBody, Acceptable, toHost,
        hresume]
      by_cases hversion : IsU32 h.protocolVersion
      · cases h.resume with
        | none => simp [hversion, IsU64, eq_comm]
        | some r => by_cases hcursor : IsU64 r.lastEventSequence <;> simp [hversion, hcursor, eq_comm]
      · simp [hversion]
  | command c =>
      simp [ofFields, Fields.tag, encode, encodeFields, Wire.Frame.ofBody, Acceptable, toHost]
      by_cases hversion : IsU32 c.protocolVersion <;> simp [hversion, eq_comm]
  | pong p =>
      simp [ofFields, Fields.tag, encode, encodeFields, Wire.Frame.ofBody, Acceptable, toHost]
      by_cases hversion : IsU32 p.protocolVersion <;> simp [hversion, eq_comm]

/-- **The frames of the client**: one arrives with all it says, whatever the order of its
fields, if its version is a `u32` and its cursor a `u64`, and else not at all. -/
theorem client_frame_arrives {sent : Outgoing} {fields : Fields}
    (hperm : fields.Perm sent.encode) (got : Wire.Frame) :
    ofJson (.obj fields) = some got ↔ sent.Acceptable ∧ got = sent.toHost := by
  have hread : (ofJson (.obj fields) : Option Wire.Frame) = ofFields fields := rfl
  rw [hread, Gateway.Wire.ofFields_perm hperm sent.nodup_encode]
  exact sent.read_encode got

/-- A pong, its fields in another order than they are declared in. -/
theorem client_frame_arrives_pong :
    ofJson (.obj [("nonce", .str "n-1"), ("type", .str "pong"), ("v", .int 1)]) =
      some (Wire.Frame.pong ⟨1, "n-1"⟩) := by
  have hencode : (Outgoing.pong ⟨1, "n-1"⟩).encode =
      [("type", .str "pong"), ("v", .int 1), ("nonce", .str "n-1")] := by
    simp [Outgoing.encode, encodeFields, encodeField, encodeJSON]
  have hperm : List.Perm [("nonce", .str "n-1"), ("type", .str "pong"), ("v", .int 1)]
      (Outgoing.pong ⟨1, "n-1"⟩).encode := by
    rw [hencode]
    exact .trans (.swap _ _ _) (.cons _ (.swap _ _ _))
  exact (client_frame_arrives hperm _).mpr ⟨show IsU32 1 by decide, rfl⟩

/-- A cursor the client was told is one the host accepts, and reads as the number it told. -/
theorem cursor_returns (n : UInt64) :
    IsU64 (ofU64 (some n)) ∧ toU64 (ofU64 (some n)) = some n := by
  have hlt : (n.toNat : Int) < 2 ^ 64 := by exact_mod_cast n.toNat_lt
  refine ⟨⟨Int.natCast_nonneg _, hlt⟩, ?_⟩
  simp [ofU64, toU64]

/-- The answer to a ping. -/
def PingFrame.answer (ping : PingFrame) : PongFrame where
  protocolVersion := gatewayVersion
  nonce := ping.nonce

/-- A ping of the host's is answered with its nonce. -/
theorem ping_returns (ping : Gateway.PingFrame) :
    ∃ got : PingFrame, decodeJSON (toJson (Wire.Frame.ping ping)) = some (GatewayFrame.ping got) ∧
      ofFields (Outgoing.pong got.answer).encode =
        some (Wire.Frame.pong ⟨Gateway.protocolVersion, ping.nonce⟩) := by
  refine ⟨⟨ping.protocolVersion.toNat, ping.nonce⟩,
    (decode_frame_iff _ _).mpr ⟨trivial, rfl⟩, ?_⟩
  exact (Outgoing.read_encode _ _).mpr ⟨show IsU32 1 by decide, rfl⟩

end Client

/-! ## the commands of a connection -/

/-- The frame of a command; `name` spells the ids that a connection draws. -/
def GatewayCommand.sent (name : RequestId → String) (command : GatewayCommand) :
    Client.Outgoing :=
  .command
    { protocolVersion := Client.gatewayVersion
      requestId := name command.requestId
      command := command.command
      sessionId := command.sessionId
      params := command.params.map .decode }

/-- A command arrives at the host with all it says, its params as the client writes them. -/
theorem GatewayCommand.arrives (name : RequestId → String) (command : GatewayCommand) :
    ∃ got : Gateway.Command, ofFields (command.sent name).encode = some (Wire.Frame.command got) ∧
      got.requestId = name command.requestId ∧ got.command = command.command ∧
      got.sessionId = command.sessionId ∧ ∀ (α : Type) [Serde α],
        got.paramsAs α = { command with params := command.params.map Json.trip }.paramsAs α := by
  refine ⟨_, (Client.Outgoing.read_encode _ _).mpr ⟨show Client.IsU32 1 by decide, rfl⟩, rfl, rfl,
    rfl, fun α _ => ?_⟩
  rw [Gateway.Command.paramsAs, Gateway.Wire.getD_given, GatewayCommand.paramsAs, Option.map_map]
  rfl

/-- Where a client asks to continue from is lost on the way: the host reads no sequence
number in the params of a replay. -/
theorem GatewayConnection.replay_arrives (name : RequestId → String) (requestId : RequestId)
    (sessionId : String) (fromSequence received : Nat) :
    ∃ got : Gateway.Command,
      ofFields ((replayCommand requestId sessionId fromSequence received).sent name).encode =
        some (Wire.Frame.command got) ∧
      got.command = commandName.eventsReplay ∧ got.sessionId = some sessionId ∧
      got.paramsAs AttachSessionParams = some ⟨none⟩ := by
  obtain ⟨got, hread, -, hcommand, hsession, hparams⟩ :=
    (replayCommand requestId sessionId fromSequence received).arrives name
  refine ⟨got, hread, hcommand, hsession, (hparams _).trans ?_⟩
  simp only [replayCommand, GatewayCommand.paramsAs, Option.map_some, Option.getD_some,
    Json.trip_obj, List.map_cons, List.map_nil]
  rfl

end Slight
