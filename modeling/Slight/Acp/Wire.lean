import Slight.Acp.Gate

/-!
# Slight.Acp.Wire

The JSON-RPC frames an agent sends to the host: a line is classified as a request,
a notification or a response, and routed by its method.

A request with the id it carries on the wire is a `RequestFrame`, whatever its
method and params.  The classification makes a message of it only if the id fits
an `i64` and, for `session/request_permission`, the params are read.
-/

namespace Slight

namespace Acp

/-- The id of a JSON-RPC request. -/
inductive RequestId where
  | number (n : Int)
  | str (text : String)
  | null
  deriving DecidableEq

/-- Why a frame cannot be sent or read. -/
inductive WireError where
  | io
  | json (text : String)
  | malformed (text : String)
  deriving DecidableEq

/-- What `serde_json` and the schema of the protocol read. -/
structure Schema where
  Permission : Type
  Update : Type
  Cancel : Type
  Error : Type
  methodNotFound : Error
  fromStr : String → Except String Json
  permission : Json → Except String Permission
  update : Json → Except String Update
  cancel : Json → Except String Cancel
  error : Json → Except String Error

variable (schema : Schema)

/-! ## classification -/

/-- An envelope whose params and result are not looked at yet. -/
inductive RawMessage where
  | request (id : RequestId) (method : String) (params : Option Json)
  | notification (method : String) (params : Option Json)
  | response (id : RequestId) (outcome : Except schema.Error Json)

/-- Integers that are no `i64` are refused. -/
def parseRequestId : Json → Except WireError RequestId
  | .int n =>
      if -2 ^ 63 ≤ n ∧ n < 2 ^ 63 then .ok (.number n)
      else .error (.malformed "request id is not an integer")
  | .float _ => .error (.malformed "request id is not an integer")
  | .str text => .ok (.str text)
  | .null => .ok .null
  | .bool _ | .arr _ | .obj _ =>
      .error (.malformed "request id must be a string, integer, or null")

/-- The id of a request; a `null` id makes a notification. -/
def nonNullId (object : Fields) : Option Json :=
  match object.lookup "id" with
  | some .null | none => none
  | some id => some id

/-- A frame with a method is a request or a notification, whatever else it holds; one
without is a response if it has an id. -/
def classifyObject (object : Fields) : Except WireError (RawMessage schema) :=
  match object.lookup "method" with
  | some (.str method) =>
      match nonNullId object with
      | some id => do
          let id ← parseRequestId id
          return .request id method (object.lookup "params")
      | none => .ok (.notification method (object.lookup "params"))
  | _ =>
      match object.lookup "id" with
      | some id => do
          let id ← parseRequestId id
          match object.lookup "error" with
          | some error =>
              let error ← (schema.error error).mapError .json
              return .response id (.error error)
          | none => return .response id (.ok ((object.lookup "result").getD .null))
      | none => .error (.malformed "frame is neither a request, response, nor notification")

/-- Only version 2.0 of JSON-RPC is read. -/
def classify (line : String) : Except WireError (RawMessage schema) :=
  match schema.fromStr line with
  | .error text => .error (.json text)
  | .ok (.obj object) =>
      match object.lookup "jsonrpc" with
      | some (.str version) =>
          if version = "2.0" then classifyObject schema object
          else .error (.malformed ("unsupported jsonrpc version: " ++ version))
      | _ => .error (.malformed "missing required jsonrpc field")
  | .ok _ => .error (.malformed "frame is not a JSON object")

/-! ## routing -/

/-- What an agent may ask of the host; the method of `other` is one the host has not. -/
inductive AgentToClientRequest where
  | requestPermission (request : schema.Permission)
  | other (method : String) (params : Option Json)

/-- What an agent may tell the host. -/
inductive AgentToClientNotification where
  | sessionUpdate (notification : schema.Update)
  | cancelRequest (notification : schema.Cancel)
  | other (method : String) (params : Option Json)

/-- A frame of the agent's, typed. -/
inductive AcpMessage where
  | request (id : RequestId) (request : AgentToClientRequest schema)
  | notification (notification : AgentToClientNotification schema)
  | response (id : RequestId) (outcome : Except schema.Error Json)

/-- The params of a method, `null` where there are none. -/
def parseParams {α : Type} (read : Json → Except String α) (params : Option Json)
    (method : String) : Except WireError α :=
  (read (params.getD .null)).mapError fun text =>
    .malformed ("invalid params for " ++ method ++ ": " ++ text)

/-- Of the requests only the one for a permission is typed. -/
def routeRequest (method : String) (params : Option Json) :
    Except WireError (AgentToClientRequest schema) :=
  if method = "session/request_permission" then do
    let request ← parseParams schema.permission params method
    return .requestPermission request
  else .ok (.other method params)

/-- Of the notifications two are typed. -/
def routeNotification (method : String) (params : Option Json) :
    Except WireError (AgentToClientNotification schema) :=
  if method = "session/update" then do
    let notification ← parseParams schema.update params method
    return .sessionUpdate notification
  else if method = "$/cancel_request" then do
    let notification ← parseParams schema.cancel params method
    return .cancelRequest notification
  else .ok (.other method params)

/-- A line of the agent's as a message. -/
def classifyInbound (line : String) : Except WireError (AcpMessage schema) := do
  match ← classify schema line with
  | .response id outcome => return .response id outcome
  | .notification method params => return .notification (← routeNotification schema method params)
  | .request id method params => return .request id (← routeRequest schema method params)

/-! ## request frames -/

/-- A request as it stands on the wire. -/
structure RequestFrame where
  id : Json
  method : String
  params : Option Json

/-- The ids a request may have. -/
def isStringOrInteger : Json → Bool
  | .str _ | .int _ => true
  | _ => false

/-- The request that a line holds: JSON-RPC 2.0 with a string or integer id. -/
def requestOf (line : String) : Option RequestFrame :=
  match schema.fromStr line with
  | .ok (.obj object) =>
      match object.lookup "jsonrpc", object.lookup "method", object.lookup "id" with
      | some (.str version), some (.str method), some id =>
          if version = "2.0" ∧ isStringOrInteger id then
            some { id, method, params := object.lookup "params" }
          else none
      | _, _, _ => none
  | _ => none

/-- What the host needs of a request to make a message of it: an integer id fits 64
bits, and a permission request has its params. -/
structure RequestFrame.Readable (frame : RequestFrame) : Prop where
  id : ∀ n, frame.id = .int n → -2 ^ 63 ≤ n ∧ n < 2 ^ 63
  params : frame.method = "session/request_permission" →
    ∃ request, schema.permission (frame.params.getD .null) = .ok request

variable {schema}

/-- How a line that holds a request is classified. -/
theorem classifyInbound_of_request {line : String} {frame : RequestFrame}
    (h : requestOf schema line = some frame) :
    isStringOrInteger frame.id = true ∧ classifyInbound schema line = (do
      let id ← parseRequestId frame.id
      let request ← routeRequest schema frame.method frame.params
      return .request id request) := by
  unfold requestOf at h
  split at h
  · next object hline =>
    split at h
    · next version method id hversion hmethod hid =>
      split at h
      · next hvalid =>
        cases h
        obtain ⟨rfl, hkind⟩ := hvalid
        have hnonNull : nonNullId object = some id := by
          rw [nonNullId, hid]
          cases id <;> first | rfl | contradiction
        have hclassify : classify schema line = (do
            let id ← parseRequestId id
            return .request id method (object.lookup "params")) := by
          rw [classify, hline]
          dsimp only
          rw [hversion]
          dsimp only
          rw [if_pos rfl, classifyObject, hmethod]
          dsimp only
          rw [hnonNull]
        refine ⟨hkind, ?_⟩
        rw [classifyInbound, hclassify]
        cases parseRequestId id <;> rfl
      · contradiction
    · contradiction
  · contradiction

/-- An id that is read and is not `null` is a string or an integer. -/
theorem isStringOrInteger_of_nonNullId {object : Fields} {json : Json} {id : RequestId}
    (hjson : nonNullId object = some json) (hid : parseRequestId json = .ok id) :
    object.lookup "id" = some json ∧ isStringOrInteger json = true := by
  unfold nonNullId at hjson
  split at hjson
  · contradiction
  · contradiction
  · next other hnull hlookup =>
    cases hjson
    refine ⟨hlookup, ?_⟩
    cases json with
    | str | int => rfl
    | null => exact absurd rfl hnull
    | bool | float | arr | obj => contradiction

/-- What is classified as a request has the members of one. -/
theorem request_of_classifyObject {object : Fields} {id : RequestId} {method : String}
    {params : Option Json} (h : classifyObject schema object = .ok (.request id method params)) :
    ∃ json, object.lookup "method" = some (.str method) ∧ object.lookup "id" = some json ∧
      isStringOrInteger json = true := by
  unfold classifyObject at h
  split at h
  · next name hmethod =>
    split at h
    · next json hjson =>
      cases hid : parseRequestId json with
      | error error =>
          rw [hid] at h
          contradiction
      | ok id' =>
          rw [hid] at h
          cases h
          exact ⟨json, hmethod, isStringOrInteger_of_nonNullId hjson hid⟩
    · cases h
  · split at h
    · next json hjson =>
      cases hid : parseRequestId json with
      | error error =>
          rw [hid] at h
          contradiction
      | ok id' =>
          rw [hid] at h
          simp only [bind, Except.bind] at h
          split at h
          · split at h <;> cases h
          · cases h
    · contradiction

/-- The same of a line. -/
theorem request_of_classify {line : String} {id : RequestId} {method : String}
    {params : Option Json} (h : classify schema line = .ok (.request id method params)) :
    (requestOf schema line).isSome = true := by
  unfold classify at h
  split at h
  · contradiction
  · next object hline =>
    split at h
    · next version hversion =>
      split at h
      · next htwo =>
        obtain ⟨json, hmethod, hid, hkind⟩ := request_of_classifyObject h
        rw [requestOf, hline]
        dsimp only
        rw [hversion, hmethod, hid]
        dsimp only
        rw [if_pos ⟨htwo, hkind⟩]
        rfl
      · contradiction
    · contradiction
  · contradiction

/-- A line that is classified as a request holds one. -/
theorem request_of_classifyInbound {line : String} {id : RequestId}
    {request : AgentToClientRequest schema}
    (h : classifyInbound schema line = .ok (.request id request)) :
    (requestOf schema line).isSome = true := by
  unfold classifyInbound at h
  cases hclassify : classify schema line with
  | error error =>
      rw [hclassify] at h
      contradiction
  | ok message =>
      rw [hclassify] at h
      cases message with
      | request id' method params => exact request_of_classify hclassify
      | notification method params =>
          simp only [bind, Except.bind] at h
          split at h <;> cases h
      | response id' outcome => cases h

/-- An id is read back as itself, if it is in the range of the wire. -/
theorem parseRequestId_ok_iff {frame : RequestFrame} (hid : isStringOrInteger frame.id = true) :
    (∃ id, parseRequestId frame.id = .ok id) ↔
      ∀ n, frame.id = .int n → -2 ^ 63 ≤ n ∧ n < 2 ^ 63 := by
  cases hjson : frame.id with
  | int n =>
      rw [parseRequestId]
      by_cases hn : -2 ^ 63 ≤ n ∧ n < 2 ^ 63
      · rw [if_pos hn]
        exact ⟨fun _ m hm => Json.int.inj hm ▸ hn, fun _ => ⟨_, rfl⟩⟩
      · rw [if_neg hn]
        refine ⟨fun hsome => ?_, fun hfits => absurd (hfits n rfl) hn⟩
        obtain ⟨_, herror⟩ := hsome
        contradiction
  | str text => simp [parseRequestId]
  | null | bool | float | arr | obj =>
      rw [hjson] at hid
      contradiction

/-- A request is routed unless its params do not decode. -/
theorem routeRequest_ok_iff (method : String) (params : Option Json) :
    (∃ request, routeRequest schema method params = .ok request) ↔
      (method = "session/request_permission" →
        ∃ request, schema.permission (params.getD .null) = .ok request) := by
  unfold routeRequest
  split
  · next hmethod =>
    cases hread : schema.permission (params.getD .null) with
    | ok request => simp [parseParams, hread, hmethod, Except.mapError, bind, Except.bind, pure,
        Except.pure]
    | error text => simp [parseParams, hread, hmethod, Except.mapError, bind, Except.bind]
  · next hmethod => simp [hmethod]

/-- **Readable requests**: a line that holds a request becomes a message if and only
if the request is readable. -/
theorem classifyInbound_ok_iff {line : String} {frame : RequestFrame}
    (h : requestOf schema line = some frame) :
    (∃ id request, parseRequestId frame.id = .ok id ∧
      classifyInbound schema line = .ok (.request id request)) ↔ frame.Readable schema := by
  obtain ⟨hkind, hclassify⟩ := classifyInbound_of_request h
  rw [hclassify]
  constructor
  · rintro ⟨id, request, hid, hmessage⟩
    rw [hid] at hmessage
    refine ⟨(parseRequestId_ok_iff hkind).mp ⟨id, hid⟩, (routeRequest_ok_iff _ _).mp ?_⟩
    cases hroute : routeRequest schema frame.method frame.params with
    | ok request => exact ⟨request, rfl⟩
    | error error =>
        rw [hroute] at hmessage
        contradiction
  · intro hreadable
    obtain ⟨id, hid⟩ := (parseRequestId_ok_iff hkind).mpr hreadable.id
    obtain ⟨request, hroute⟩ := (routeRequest_ok_iff _ _).mpr hreadable.params
    exact ⟨id, request, hid, by rw [hid, hroute]; rfl⟩

/-- A line that holds a request and is classified is classified as that request. -/
theorem readable_of_classifyInbound {line : String} {frame : RequestFrame}
    {message : AcpMessage schema} (h : requestOf schema line = some frame)
    (hmessage : classifyInbound schema line = .ok message) :
    ∃ id request, message = .request id request ∧ parseRequestId frame.id = .ok id ∧
      frame.Readable schema := by
  obtain ⟨-, hclassify⟩ := classifyInbound_of_request h
  rw [hclassify] at hmessage
  cases hid : parseRequestId frame.id with
  | error error =>
      rw [hid] at hmessage
      contradiction
  | ok id =>
      rw [hid] at hmessage
      cases hroute : routeRequest schema frame.method frame.params with
      | error error =>
          rw [hroute] at hmessage
          contradiction
      | ok request =>
          rw [hroute] at hmessage
          cases hmessage
          refine ⟨id, request, rfl, rfl, (classifyInbound_ok_iff h).mp ⟨id, request, hid, ?_⟩⟩
          rw [hclassify, hid, hroute]
          rfl

end Acp

end Slight
