import Slight.Gateway.Protocol

/-!
# Slight.Gateway.Wire

The frames as they stand on the wire: what the host's `Serialize` writes and its
`Deserialize` reads.  A frame is one JSON object, its type a field next to the
fields of its body.  What the host reads is such a frame; what it sends is a
frame of `Gateway.Protocol`, and `Frame.wire` is the one it stands for.

Integers are those of the source: a number that does not fit is not read.  Of
two fields with one name, which no writer produces, the first is read.

A value that is there but `null` is read as none (`settled`); that is all a
frame loses on its way.
-/

namespace Slight

/-- `u64`, and `usize` on the hosts. -/
instance : Serde UInt64 where
  toJson n := .int n.toNat
  ofJson
    | .int n => if 0 ≤ n ∧ n < 2 ^ 64 then some (UInt64.ofNat n.toNat) else none
    | _ => none

instance : LawfulSerde UInt64 where
  ofJson_toJson n := by
    have hlt : (n.toNat : Int) < 2 ^ 64 := by exact_mod_cast n.toNat_lt
    simp only [ofJson, toJson]
    rw [if_pos ⟨Int.natCast_nonneg _, hlt⟩, Int.toNat_natCast, UInt64.ofNat_toNat]
  toJson_ne_null _ := Json.noConfusion

namespace Gateway

instance : Record GatewayErrorBody where
  toFields body := [("code", toJson body.code), ("message", toJson body.message),
    ("retryable", toJson body.retryable)]
  ofFields fields := do
    let code ← fields.required "code"
    let message ← fields.required "message"
    let retryable ← fields.defaulted "retryable" false
    pure { code, message, retryable }

namespace Wire

def defaultClientName : String := "unknown"

def defaultClientVersion : String := "0"

/-! ## the bodies -/

instance : Record ResumeRequest where
  toFields r := [("session_id", toJson r.sessionId),
    ("last_event_sequence", toJson r.lastEventSequence)]
  ofFields fields := do
    let sessionId ← fields.optional "session_id"
    let lastEventSequence ← fields.optional "last_event_sequence"
    pure { sessionId, lastEventSequence }

instance : Record ClientHello where
  toFields h := [("v", toJson h.protocolVersion), ("client_id", toJson h.clientId),
    ("client_name", toJson h.clientName), ("client_version", toJson h.clientVersion),
    ("device_id", toJson h.deviceId), ("credential", toJson h.credential),
    ("resume", toJson h.resume)]
  ofFields fields := do
    let protocolVersion ← fields.defaulted "v" protocolVersion
    let clientId ← fields.required "client_id"
    let clientName ← fields.defaulted "client_name" defaultClientName
    let clientVersion ← fields.defaulted "client_version" defaultClientVersion
    let deviceId ← fields.optional "device_id"
    let credential ← fields.optional "credential"
    let resume ← fields.optional "resume"
    pure { protocolVersion, clientId, clientName, clientVersion, deviceId, credential, resume }

instance : Record ServerCapabilities where
  toFields c := [("supports_replay", toJson c.supportsReplay),
    ("max_replay_events", toJson c.maxReplayEvents),
    ("max_event_journal", toJson c.maxEventJournal),
    ("supports_raw_acp", toJson c.supportsRawAcp),
    ("permission_options", toJson c.permissionOptions), ("host_admin", toJson c.hostAdmin)]
  ofFields fields := do
    let supportsReplay ← fields.required "supports_replay"
    let maxReplayEvents ← fields.optional "max_replay_events"
    let maxEventJournal ← fields.optional "max_event_journal"
    let supportsRawAcp ← fields.required "supports_raw_acp"
    let permissionOptions ← fields.required "permission_options"
    let hostAdmin ← fields.required "host_admin"
    pure { supportsReplay, maxReplayEvents, maxEventJournal, supportsRawAcp, permissionOptions,
           hostAdmin }

instance : Record ServerWelcome where
  toFields w := [("v", toJson w.protocolVersion), ("connection_id", toJson w.connectionId),
    ("server_name", toJson w.serverName), ("server_version", toJson w.serverVersion),
    ("host_id", toJson w.hostId), ("capabilities", toJson w.capabilities),
    ("heartbeat_interval_ms", toJson w.heartbeatIntervalMs),
    ("resync_required", toJson w.resyncRequired), ("resync_reason", toJson w.resyncReason)]
  ofFields fields := do
    let protocolVersion ← fields.defaulted "v" protocolVersion
    let connectionId ← fields.required "connection_id"
    let serverName ← fields.required "server_name"
    let serverVersion ← fields.required "server_version"
    let hostId ← fields.optional "host_id"
    let capabilities ← fields.defaulted "capabilities" .default
    let heartbeatIntervalMs ← fields.optional "heartbeat_interval_ms"
    let resyncRequired ← fields.defaulted "resync_required" false
    let resyncReason ← fields.optional "resync_reason"
    pure { protocolVersion, connectionId, serverName, serverVersion, hostId, capabilities,
           heartbeatIntervalMs, resyncRequired, resyncReason }

instance : Record Command where
  toFields c := [("v", toJson c.protocolVersion), ("request_id", toJson c.requestId),
    ("command", toJson c.command), ("session_id", toJson c.sessionId),
    ("params", toJson c.params)]
  ofFields fields := do
    let protocolVersion ← fields.defaulted "v" protocolVersion
    let requestId ← fields.required "request_id"
    let command ← fields.required "command"
    let sessionId ← fields.optional "session_id"
    let params ← fields.optional "params"
    pure { protocolVersion, requestId, command, sessionId, params }

structure GatewayAck where
  protocolVersion : UInt32
  requestId : String
  ok : Bool
  result : Option Json
  error : Option GatewayErrorBody

instance : Record GatewayAck where
  toFields a := [("v", toJson a.protocolVersion), ("request_id", toJson a.requestId),
    ("ok", toJson a.ok), ("result", toJson a.result), ("error", toJson a.error)]
  ofFields fields := do
    let protocolVersion ← fields.defaulted "v" protocolVersion
    let requestId ← fields.required "request_id"
    let ok ← fields.required "ok"
    let result ← fields.optional "result"
    let error ← fields.optional "error"
    pure { protocolVersion, requestId, ok, result, error }

structure GatewayEvent where
  protocolVersion : UInt32
  sessionId : String
  sequence : UInt64
  event : String
  at_ : Option String
  payload : Option Json

instance : Record GatewayEvent where
  toFields e := [("v", toJson e.protocolVersion), ("session_id", toJson e.sessionId),
    ("sequence", toJson e.sequence), ("event", toJson e.event), ("at", toJson e.at_),
    ("payload", toJson e.payload)]
  ofFields fields := do
    let protocolVersion ← fields.defaulted "v" protocolVersion
    let sessionId ← fields.required "session_id"
    let sequence ← fields.required "sequence"
    let event ← fields.required "event"
    let at_ ← fields.optional "at"
    let payload ← fields.optional "payload"
    pure { protocolVersion, sessionId, sequence, event, at_, payload }

instance : Record PingFrame where
  toFields p := [("v", toJson p.protocolVersion), ("nonce", toJson p.nonce)]
  ofFields fields := do
    let protocolVersion ← fields.defaulted "v" protocolVersion
    let nonce ← fields.required "nonce"
    pure { protocolVersion, nonce }

instance : Record PongFrame where
  toFields p := [("v", toJson p.protocolVersion), ("nonce", toJson p.nonce)]
  ofFields fields := do
    let protocolVersion ← fields.defaulted "v" protocolVersion
    let nonce ← fields.required "nonce"
    pure { protocolVersion, nonce }

instance : Record ResyncRequired where
  toFields r := [("v", toJson r.protocolVersion), ("reason", toJson r.reason),
    ("session_id", toJson r.sessionId),
    ("oldest_available_sequence", toJson r.oldestAvailableSequence)]
  ofFields fields := do
    let protocolVersion ← fields.defaulted "v" protocolVersion
    let reason ← fields.required "reason"
    let sessionId ← fields.optional "session_id"
    let oldestAvailableSequence ← fields.optional "oldest_available_sequence"
    pure { protocolVersion, reason, sessionId, oldestAvailableSequence }

instance : Record GatewayProtocolError where
  toFields e := [("v", toJson e.protocolVersion), ("code", toJson e.code),
    ("message", toJson e.message), ("request_id", toJson e.requestId),
    ("retryable", toJson e.retryable)]
  ofFields fields := do
    let protocolVersion ← fields.defaulted "v" protocolVersion
    let code ← fields.required "code"
    let message ← fields.required "message"
    let requestId ← fields.optional "request_id"
    let retryable ← fields.defaulted "retryable" false
    pure { protocolVersion, code, message, requestId, retryable }

/-! ## the frame union -/

inductive Frame where
  | hello (hello : ClientHello)
  | welcome (welcome : ServerWelcome)
  | command (command : Command)
  | ack (ack : GatewayAck)
  | event (event : GatewayEvent)
  | ping (ping : PingFrame)
  | pong (pong : PongFrame)
  | resyncRequired (resync : ResyncRequired)
  | error (error : GatewayProtocolError)

def Frame.frameType : Frame → String
  | .hello _ => "hello"
  | .welcome _ => "welcome"
  | .command _ => "command"
  | .ack _ => "ack"
  | .event _ => "event"
  | .ping _ => "ping"
  | .pong _ => "pong"
  | .resyncRequired _ => "resync_required"
  | .error _ => "error"

/-- The fields of a frame but for its type. -/
def Frame.body : Frame → Fields
  | .hello value => toFields value
  | .welcome value => toFields value
  | .command value => toFields value
  | .ack value => toFields value
  | .event value => toFields value
  | .ping value => toFields value
  | .pong value => toFields value
  | .resyncRequired value => toFields value
  | .error value => toFields value

/-- The frame a type names. -/
def Frame.ofBody (frameType : String) (fields : Fields) : Option Frame :=
  match frameType with
  | "hello" => (ofFields fields).map .hello
  | "welcome" => (ofFields fields).map .welcome
  | "command" => (ofFields fields).map .command
  | "ack" => (ofFields fields).map .ack
  | "event" => (ofFields fields).map .event
  | "ping" => (ofFields fields).map .ping
  | "pong" => (ofFields fields).map .pong
  | "resync_required" => (ofFields fields).map .resyncRequired
  | "error" => (ofFields fields).map .error
  | _ => none

instance : Record Frame where
  toFields frame := ("type", .str frame.frameType) :: frame.body
  ofFields fields := (fields.tag "type").bind (Frame.ofBody · fields)

/-! ## untyped values -/

/-- An untyped value as it is read. -/
def given : Option Json → Option Json
  | some .null => none
  | j => j

/-- A frame as it is read. -/
def Frame.settled : Frame → Frame
  | .command value => .command { value with params := given value.params }
  | .ack value => .ack { value with result := given value.result }
  | .event value => .event { value with payload := given value.payload }
  | frame => frame

theorem ofJson_given (j : Option Json) : (ofJson (toJson j) : Option (Option Json)) =
    some (given j) := by
  cases j with
  | none => rfl
  | some j => cases j <;> rfl

theorem given_of_read {j : Json} {value : Option Json}
    (h : (ofJson j : Option (Option Json)) = some value) : given value = value := by
  cases j <;> cases h <;> rfl

/-- Who takes a missing value for `null` sees no difference. -/
theorem getD_given (j : Option Json) : (given j).getD .null = j.getD .null := by
  cases j with
  | none => rfl
  | some j => cases j <;> rfl

/-! ## reading what was written -/

/-- The fields hold what was written, each under its name; they may hold more. -/
def Holds (fields written : Fields) : Prop :=
  ∀ field ∈ written, fields.lookup field.1 = some field.2

/-- If no name occurs twice, a field is found just when it is there. -/
theorem lookup_eq_some_iff_mem {fields : Fields} (hnames : (fields.map Prod.fst).Nodup)
    {key : String} {j : Json} : fields.lookup key = some j ↔ (key, j) ∈ fields := by
  constructor
  · intro h
    obtain ⟨front, back, rfl, -⟩ := List.lookup_eq_some_iff.mp h
    simp
  · intro h
    induction fields with
    | nil => cases h
    | cons first fields ih =>
        rw [List.map_cons, List.nodup_cons] at hnames
        cases h with
        | head => simp [List.lookup]
        | tail _ hrest =>
            have hne : key ≠ first.1 := fun heq =>
              hnames.1 (heq ▸ List.mem_map_of_mem hrest)
            rw [Fields.lookup_cons_ne fields hne, ih hnames.2 hrest]

/-- Fields hold what is among them, if no name occurs twice. -/
theorem holds_of_subset {fields written : Fields} (hnames : (fields.map Prod.fst).Nodup)
    (hsubset : written ⊆ fields) : Holds fields written :=
  fun _ hmem => (lookup_eq_some_iff_mem hnames).mpr (hsubset hmem)

/-- The order of fields does not matter, if no name occurs twice. -/
theorem lookup_perm {fields fields' : Fields} (hperm : fields.Perm fields')
    (hnames : (fields'.map Prod.fst).Nodup) (key : String) :
    fields.lookup key = fields'.lookup key := by
  have hnames' : (fields.map Prod.fst).Nodup := (hperm.map Prod.fst).nodup_iff.mpr hnames
  apply Option.ext
  intro j
  rw [lookup_eq_some_iff_mem hnames', lookup_eq_some_iff_mem hnames, hperm.mem_iff]

instance : LawfulRecord GatewayErrorBody :=
  ⟨fun _ => by simp [toFields, ofFields], fun _ _ => by simp [tagged, toFields, ofFields]⟩

instance : LawfulRecord ResumeRequest :=
  ⟨fun _ => by simp [toFields, ofFields], fun _ _ => by simp [tagged, toFields, ofFields]⟩

instance : LawfulRecord ServerCapabilities :=
  ⟨fun _ => by simp [toFields, ofFields], fun _ _ => by simp [tagged, toFields, ofFields]⟩

/-- A body is read off the names of its own fields. -/
theorem ofBody_congr (frame : Frame) {fields fields' : Fields}
    (h : ∀ field ∈ toFields frame, fields.lookup field.1 = fields'.lookup field.1) :
    Frame.ofBody frame.frameType fields = Frame.ofBody frame.frameType fields' := by
  cases frame <;>
    (simp only [toFields, Frame.body, List.forall_mem_cons] at h
     simp only [Frame.frameType, Frame.ofBody, ofFields, Fields.required, Fields.optional,
       Fields.defaulted, h])

/-- A frame is read off its fields, whatever their order. -/
theorem ofFields_perm {fields fields' : Fields} (hperm : fields.Perm fields')
    (hnames : (fields'.map Prod.fst).Nodup) :
    (ofFields fields : Option Frame) = ofFields fields' := by
  simp only [ofFields, Fields.tag, Frame.ofBody, Fields.required, Fields.optional,
    Fields.defaulted, lookup_perm hperm hnames]

@[simp] theorem optional_given (fields : Fields) (key : String) (j : Option Json) :
    Fields.optional ((key, toJson j) :: fields) key = some (given j) :=
  Fields.optional_cons_of fields (ofJson_given j)

theorem ofBody_toFields (frame : Frame) :
    Frame.ofBody frame.frameType (toFields frame) = some frame.settled := by
  cases frame <;>
    simp [Frame.frameType, Frame.ofBody, Frame.body, Frame.settled, toFields, ofFields]

/-- No name occurs twice in a frame. -/
theorem nodup_toFields (frame : Frame) : ((toFields frame).map Prod.fst).Nodup := by
  cases frame <;> simp [toFields, Frame.body]

/-- **A frame is read** from any fields that hold its own. -/
theorem ofFields_of_holds {fields : Fields} {frame : Frame} (h : Holds fields (toFields frame)) :
    ofFields fields = some frame.settled := by
  have hself : Holds (toFields frame) (toFields frame) :=
    holds_of_subset (nodup_toFields frame) (List.Subset.refl _)
  have htag : fields.tag "type" = some frame.frameType := by
    rw [Fields.tag, Fields.required, h _ (.head _)]
    rfl
  have hbody : Frame.ofBody frame.frameType fields = some frame.settled := by
    rw [ofBody_congr frame fun field hmem => (h field hmem).trans (hself field hmem).symm,
      ofBody_toFields]
  change (fields.tag "type").bind (Frame.ofBody · fields) = _
  rw [htag, Option.bind_some, hbody]

/-- An untyped field is never read as `null`. -/
theorem given_of_optional {fields : Fields} {key : String} {value : Option Json}
    (h : fields.optional key = some value) : given value = value := by
  unfold Fields.optional Fields.defaulted at h
  cases hlookup : fields.lookup key with
  | none =>
      rw [hlookup] at h
      cases h
      rfl
  | some j =>
      rw [hlookup] at h
      exact given_of_read h

/-- What is read is settled. -/
theorem settled_of_ofBody {frameType : String} {fields : Fields} {frame : Frame}
    (h : Frame.ofBody frameType fields = some frame) : frame.settled = frame := by
  unfold Frame.ofBody at h
  split at h <;> simp only [Option.map_eq_some_iff, reduceCtorEq] at h
  all_goals
    obtain ⟨value, hvalue, rfl⟩ := h
    try rfl
  -- the three bodies with an untyped field
  all_goals
    simp only [ofFields, Option.bind_eq_bind, Option.bind_eq_some_iff] at hvalue
  · obtain ⟨_, -, _, -, _, -, _, -, params, hparams, hvalue⟩ := hvalue
    cases hvalue
    rw [Frame.settled, given_of_optional hparams]
  · obtain ⟨_, -, _, -, _, -, result, hresult, _, -, hvalue⟩ := hvalue
    cases hvalue
    rw [Frame.settled, given_of_optional hresult]
  · obtain ⟨_, -, _, -, _, -, _, -, _, -, payload, hpayload, hvalue⟩ := hvalue
    cases hvalue
    rw [Frame.settled, given_of_optional hpayload]

/-! ## the round trip -/

/-- The result decoded as `α`; a missing value counts as `null`. -/
def GatewayAck.resultAs (α : Type) [Serde α] (ack : GatewayAck) : Option α :=
  ofJson (ack.result.getD .null)

/-- The frame is one that an agent of `frame` takes for `frame`: it differs at most in
the spelling of a missing value, and decoding it gives the same. -/
structure Frame.ReadsAs (frame read : Frame) : Prop where
  read_eq : read = frame.settled
  params : ∀ command, frame = .command command → ∃ command', read = .command command' ∧
    ∀ (α : Type) [Serde α], command'.paramsAs α = command.paramsAs α
  result : ∀ ack, frame = .ack ack → ∃ ack', read = .ack ack' ∧
    ∀ (α : Type) [Serde α], ack'.resultAs α = ack.resultAs α

theorem Frame.readsAs_settled (frame : Frame) : frame.ReadsAs frame.settled where
  read_eq := rfl
  params := by
    rintro command rfl
    refine ⟨_, rfl, fun α _ => ?_⟩
    rw [Command.paramsAs, getD_given, Command.paramsAs]
  result := by
    rintro ack rfl
    refine ⟨_, rfl, fun α _ => ?_⟩
    rw [GatewayAck.resultAs, getD_given, GatewayAck.resultAs]

/-- **The round trip of a frame**: an object that has the fields of a written frame, in
any order and among any others, is read as that frame, up to the spelling of a missing
value.  And what is read of any object is written to be read again as the same. -/
theorem frame_round_trip {frame : Frame} {fields : Fields}
    (hnames : (fields.map Prod.fst).Nodup) (hsubset : toFields frame ⊆ fields) :
    (∃ read, ofJson (.obj fields) = some read ∧ frame.ReadsAs read) ∧
      ∀ (j : Json) (other : Frame), ofJson j = some other →
        ofJson (toJson other) = some other := by
  refine ⟨⟨_, ofFields_of_holds (holds_of_subset hnames hsubset), frame.readsAs_settled⟩, ?_⟩
  intro j other hread
  obtain ⟨read, -, hother⟩ := Option.bind_eq_some_iff.mp hread
  obtain ⟨frameType, -, hbody⟩ := Option.bind_eq_some_iff.mp hother
  have hholds : Holds (toFields other) (toFields other) :=
    holds_of_subset (nodup_toFields other) (List.Subset.refl _)
  have hagain : ofFields (toFields other) = some other.settled := ofFields_of_holds hholds
  rw [settled_of_ofBody hbody] at hagain
  exact hagain

/-- An acknowledgement without a value, its fields out of order and among others. -/
theorem frame_round_trip_sample :
    ∃ read, ofJson (.obj [("ok", .bool true), ("later", .int 3), ("type", .str "ack"),
      ("error", .null), ("result", .null), ("v", .int 1), ("request_id", .str "req-1")]) =
        some read ∧ (Frame.ack ⟨1, "req-1", true, some .null, none⟩).ReadsAs read := by
  have hsubset : toFields (Frame.ack ⟨1, "req-1", true, some .null, none⟩) ⊆
      [("ok", .bool true), ("later", .int 3), ("type", .str "ack"), ("error", .null),
        ("result", .null), ("v", .int 1), ("request_id", .str "req-1")] := by
    simp [toFields, Frame.body, Frame.frameType, toJson]
  exact (frame_round_trip (by decide) hsubset).1

end Wire

end Gateway

/-! ## the event frames of a session -/

/-- An event as it stands on the wire. -/
def GatewayEvent.wire (event : GatewayEvent) : Gateway.Wire.GatewayEvent where
  protocolVersion := Gateway.protocolVersion
  sessionId := event.sessionId
  sequence := .ofNat event.sequence
  event := event.event
  at_ := event.at_
  payload := event.payload

/-- The frame of an event is the frame on the wire, as long as its number is a `u64`. -/
theorem GatewayEvent.frame_eq (event : GatewayEvent) (hlt : event.sequence < 2 ^ 64) :
    event.frame = toJson (Gateway.Wire.Frame.event event.wire) := by
  have hnumber : (UInt64.ofNat event.sequence).toNat = event.sequence :=
    UInt64.toNat_ofNat_of_lt hlt
  simp [GatewayEvent.frame, GatewayEvent.wire, toJson, toFields, Gateway.Wire.Frame.body,
    Gateway.Wire.Frame.frameType, Gateway.protocolVersion, hnumber]

/-! ## what the connections send -/

namespace Gateway

section

variable (encode : CommandResult → Json)

/-- The acknowledgement as it is sent; `encode` is what `serde_json::to_value` makes of a
result, `null` for a command without one. -/
def CommandAck.wire (ack : CommandAck) : Wire.GatewayAck where
  protocolVersion := protocolVersion
  requestId := ack.requestId
  ok := ack.ok
  result := ack.outcome.toOption.map encode
  error :=
    match ack.outcome with
    | .ok _ => none
    | .error body => some body

/-- The frame as it is sent. -/
def Frame.wire : Frame → Wire.Frame
  | .hello value => .hello value
  | .welcome value => .welcome value
  | .command value => .command value
  | .ack value => .ack (value.wire encode)
  | .event value => .event value.wire
  | .ping value => .ping value
  | .pong value => .pong value
  | .resyncRequired value => .resyncRequired value
  | .error value => .error value

@[simp] theorem Frame.frameType_wire (frame : Frame) :
    (frame.wire encode).frameType = frame.frameType := by
  cases frame <;> rfl

/-- A frame that is sent is read as what was sent. -/
theorem Frame.ofJson_wire (frame : Frame) :
    (ofJson (toJson (frame.wire encode)) : Option Wire.Frame) =
      some (frame.wire encode).settled :=
  Wire.ofFields_of_holds
    (Wire.holds_of_subset (Wire.nodup_toFields _) (List.Subset.refl _))

end

end Gateway

end Slight
