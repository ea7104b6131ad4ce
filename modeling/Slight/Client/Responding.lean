import Slight.Client.Mirror
import Slight.Client.SessionView
import Slight.Gateway.Server
import Slight.Gateway.Wire
import Slight.Session.Failures

/-!
# Slight.Client.Responding

A permission prompt that is answered on a client, from the view to the manager of the
host and back.  An error goes through four mappings: the manager's error, the
protocol's, the code on the wire, and the code the view looks for.

The manager refuses an answer as stale just when the session has no pending
permission or another one (`answerPermission_stale_iff`).  The host tells it with the
code `invalid_command`; the view drops a prompt at `invalid_frame`, which no error of
the host has.
-/

namespace Slight

open Support Program

variable {S C A : Type}

/-! ## the manager's reasons -/

/-- No permission is pending, or a different one is. -/
def SessionError.isStale : SessionError → Bool
  | noPendingPermission _ | permissionMismatch _ _ _ => true
  | _ => false

/-- The session has no pending permission, or one with another id. -/
def World.IsStale (world : World S C) (sessionId : SessionId) (permissionId : String) : Prop :=
  ∃ session, world.inner.sessions.lookup sessionId = some session ∧
    session.pendingPermission.map (·.id) ≠ some permissionId

namespace Manager

section

variable {sessionId : SessionId} {permissionId optionId : String} {world : World S C}
  {error : SessionError}

/-- A request to an agent fails for want of the session, or with the agent's error. -/
theorem error_call {α : Type} {request : C → Except AcpError α × C}
    (h : (call sessionId request : Manager S C α).result world = .error error) :
    error.isStale = false := by
  cases hlookup : world.inner.sessions.lookup sessionId with
  | none =>
      rw [result, exec_call_none hlookup] at h
      rw [← Except.error.inj h]
      rfl
  | some session =>
      rw [result, exec_call hlookup request] at h
      cases houtcome : (request session.connection).1 with
      | ok a =>
          rw [houtcome] at h
          cases h
      | error agentError =>
          rw [houtcome] at h
          rw [← Except.error.inj h]
          rfl

variable [SessionStore S] [AcpSession C]

/-- **An answer is stale** by the manager's account just when the session is in that
state. -/
theorem respondPermission_stale_iff :
    (∃ error, (respondPermission sessionId permissionId optionId : Manager S C Unit).result world =
        .error error ∧ error.isStale = true) ↔
      world.IsStale sessionId permissionId := by
  cases hlookup : world.inner.sessions.lookup sessionId with
  | none =>
      have hresult : (respondPermission sessionId permissionId optionId :
          Manager S C Unit).result world = .error (.unknownSession sessionId) := by
        rw [respondPermission, result, exec_bind, exec_requireSession_none hlookup]
      simp [hresult, World.IsStale, hlookup, SessionError.isStale]
  | some session =>
      have hexec := exec_requireSession hlookup
      rw [respondPermission, result, exec_bind, hexec]
      dsimp only
      cases hpending : session.pendingPermission with
      | none => simp [World.IsStale, hlookup, hpending, SessionError.isStale]
      | some pending =>
          dsimp only
          by_cases hid : pending.id = permissionId
          · rw [if_neg (not_not.mpr hid)]
            constructor
            · rintro ⟨error, hresult, hstale⟩
              have hfailed := failed_call_bind (fun _ => completes_bind
                (completes_modifySession _) fun _ => completes_append_append _ _) hresult
              rw [error_call hfailed.1] at hstale
              cases hstale
            · rintro ⟨other, hother, hne⟩
              rw [← Option.some.inj (hlookup.symm.trans hother), hpending] at hne
              exact absurd (congrArg some hid) hne
          · rw [if_pos hid]
            simp [World.IsStale, hlookup, hpending, hid, SessionError.isStale]

/-- The same of the public operation: the pump that follows does not fail. -/
theorem answerPermission_stale_iff :
    (∃ error, (answerPermission sessionId permissionId optionId : Manager S C Unit).result world =
        .error error ∧ error.isStale = true) ↔
      world.IsStale sessionId permissionId := by
  refine Iff.trans ?_ (respondPermission_stale_iff (S := S) (C := C) : (∃ error,
    (respondPermission sessionId permissionId optionId : Manager S C Unit).result world =
      .error error ∧ error.isStale = true) ↔ _)
  constructor
  · rintro ⟨error, hresult, hstale⟩
    exact ⟨error, (failed_bind_of_completes
      (fun _ => completes_discard completes_pumpAll) hresult).1, hstale⟩
  · rintro ⟨error, hresult, hstale⟩
    refine ⟨error, ?_, hstale⟩
    rw [answerPermission, result, exec_bind]
    rw [result] at hresult
    match hexec : (respondPermission sessionId permissionId optionId : Manager S C Unit).exec
        world with
    | (.ok a, t) =>
        rw [hexec] at hresult
        cases hresult
    | (.error other, t) =>
        rw [hexec] at hresult
        exact congrArg _ (Except.error.inj hresult)

end

end Manager

/-! ## on the wire -/

namespace Gateway

/-- The frame of an acknowledgement with an error, as it is written. -/
def errorAckFrame (requestId : String) (body : GatewayErrorBody) : Json :=
  toJson (Wire.Frame.ack
    { protocolVersion, requestId, ok := false, result := none, error := some body })

end Gateway

namespace Client

structure GatewayErrorBody where
  code : String
  message : String
  retryable : Bool
  deriving DecidableEq

instance : Keyed GatewayErrorBody where
  ofContainer container := do
    let code ← container.decodeOr "code" "unknown"
    let message ← container.decodeOr "message" ""
    let retryable ← container.decodeOr "retryable" false
    pure { code, message, retryable }

structure GatewayAck where
  protocolVersion : Int
  requestId : String
  ok : Bool
  result : Option JSONValue
  error : Option GatewayErrorBody

instance : Keyed GatewayAck where
  ofContainer container := do
    let protocolVersion ← container.decodeOr "v" 1
    let requestId ← container.decode "requestId"
    let ok ← container.decodeOr "ok" false
    let result ← container.decodeIfPresent "result"
    let error ← container.decodeIfPresent "error"
    pure { protocolVersion, requestId, ok, result, error }

/-- `GatewayFrame` on a frame of type `ack`. -/
def decodeAckFrame (j : Json) : Option GatewayAck := do
  let container ← j.container
  let type : String ← container.decode "type"
  if type = "ack" then decodeJSON j else none

/-- The error body the client reads. -/
def GatewayErrorBody.ofHost (body : Gateway.GatewayErrorBody) : GatewayErrorBody where
  code := body.code
  message := body.message
  retryable := body.retryable

/-- The keys of an acknowledgement. -/
@[simp] theorem convertFromSnakeCase_ack :
    convertFromSnakeCase "error" = "error" ∧ convertFromSnakeCase "ok" = "ok" ∧
    convertFromSnakeCase "request_id" = "requestId" ∧
    convertFromSnakeCase "result" = "result" ∧
    convertFromSnakeCase "retryable" = "retryable" := by
  decide +kernel

theorem decode_errorBody (body : Gateway.GatewayErrorBody) :
    decodeJSON (toJson body) = some (GatewayErrorBody.ofHost body) := by
  have hcontainer : (toJson body).container =
      some [("code", .str body.code), ("message", .str body.message),
        ("retryable", .bool body.retryable)] := by
    simp [Json.container, toJson, toFields]
  change ((toJson body).container).bind ofContainer = _
  rw [hcontainer]
  rfl

theorem decodeAckFrame_errorAckFrame (requestId : String) (body : Gateway.GatewayErrorBody) :
    decodeAckFrame (Gateway.errorAckFrame requestId body) =
      some
        { protocolVersion := 1, requestId, ok := false, result := none
          error := some (.ofHost body) } := by
  have hcontainer : (Gateway.errorAckFrame requestId body).container =
      some [("type", .str "ack"), ("v", .int 1), ("requestId", .str requestId),
        ("ok", .bool false), ("result", .null), ("error", toJson body)] := by
    have hframe : Gateway.errorAckFrame requestId body =
        .obj [("type", .str "ack"), ("v", .int 1), ("request_id", .str requestId),
          ("ok", .bool false), ("result", .null), ("error", toJson body)] := rfl
    simp [hframe, Json.container]
  generalize hfields : [("type", Json.str "ack"), ("v", .int 1), ("requestId", .str requestId),
    ("ok", .bool false), ("result", .null), ("error", toJson body)] = fields at hcontainer
  have htype : Container.decode fields "type" = some "ack" := by
    rw [← hfields]
    rfl
  have hversion : Container.decodeOr fields "v" (1 : Int) = some 1 := by
    rw [← hfields]
    rfl
  have hrequest : Container.decode fields "requestId" = some requestId := by
    rw [← hfields]
    rfl
  have hok : Container.decodeOr fields "ok" false = some false := by
    rw [← hfields]
    rfl
  have hresult : Container.decodeIfPresent fields "result" = some (none : Option JSONValue) := by
    rw [← hfields]
    rfl
  have herror : Container.decodeIfPresent fields "error" =
      some (some (GatewayErrorBody.ofHost body)) := by
    rw [Container.decodeIfPresent_of_lookup Json.noConfusion (by rw [← hfields]; rfl),
      decode_errorBody]
    rfl
  have hack : decodeJSON (Gateway.errorAckFrame requestId body) =
      (some
        { protocolVersion := 1, requestId, ok := false, result := none
          error := some (.ofHost body) } : Option GatewayAck) := by
    change ((Gateway.errorAckFrame requestId body).container).bind ofContainer = _
    rw [hcontainer, Option.bind_some]
    simp only [ofContainer, hversion, hrequest, hok, hresult, herror]
    rfl
  simp only [decodeAckFrame, hcontainer, Option.bind_eq_bind, Option.bind_some, htype, if_true, hack]

/-! ## the view -/

/-- What a command of the view ends with instead of a result. -/
inductive CommandError where
  | commandFailed (command code message : String)
  | other (message : String)
  deriving DecidableEq

def CommandError.userMessage : CommandError → String
  | commandFailed _ _ message => message
  | other message => message

/-- `perform`, from its acknowledgement on. -/
def GatewayAck.outcome (ack : GatewayAck) (command : String) :
    Except CommandError (Option JSONValue) :=
  if ack.ok then .ok ack.result
  else
    let error := ack.error.getD
      { code := "command_failed", message := command ++ " failed", retryable := false }
    .error (.commandFailed command error.code error.message)

/-- The view with the prompts that are being answered, and how many loads of the snapshot
were started for stale ones. -/
structure Responder where
  view : SessionViewModel
  respondingPermissionIds : Finset String := ∅
  loads : Nat := 0

def permissionRespond : String := "session.permission.respond"

namespace Responder

/-- `respond` up to its wait: the command that answers the prompt, unless it is being
answered. -/
def respond (responder : Responder) (request : PermissionRequestPayload)
    (option : PermissionOption) (requestId : String) : Option (Responder × Gateway.Command) :=
  if request.id ∈ responder.respondingPermissionIds then none
  else
    some
      ({ responder with
          respondingPermissionIds := insert request.id responder.respondingPermissionIds },
        { protocolVersion := Gateway.protocolVersion
          requestId
          command := permissionRespond
          sessionId := some responder.view.sessionId
          params := some (.obj
            [("permission_id", .str request.id), ("option_id", .str option.optionId)]) })

/-- The prompt is not shown any more. -/
def dropping (responder : Responder) (request : PermissionRequestPayload) : Responder :=
  { responder with
    view := { responder.view with
      permissionRequests := responder.view.permissionRequests.filter (·.id ≠ request.id) } }

def failing (responder : Responder) (lastError : Option String) : Responder :=
  { responder with view := { responder.view with lastError } }

/-- `respond` from its wait on. -/
def responded (responder : Responder) (request : PermissionRequestPayload)
    (outcome : Except CommandError (Option JSONValue)) : Responder :=
  let responder := { responder with
    respondingPermissionIds := responder.respondingPermissionIds.erase request.id }
  match outcome with
  | .ok _ => (responder.dropping request).failing none
  | .error error =>
      let responder :=
        match error with
        | .commandFailed _ code _ =>
            -- the prompt may have outlived the host's
            if code = "invalid_frame" then
              { responder.dropping request with loads := responder.loads + 1 }
            else responder
        | .other _ => responder
      responder.failing (some error.userMessage)

/-- The view after the host's rejection arrived. -/
def rejected (responder : Responder) (request : PermissionRequestPayload) (requestId : String)
    (body : Gateway.GatewayErrorBody) : Option Responder :=
  (decodeAckFrame (Gateway.errorAckFrame requestId body)).map fun ack =>
    responder.responded request (ack.outcome permissionRespond)

/-- **A rejection** with another code than the one the view looks for leaves the prompts. -/
theorem rejected_of_ne (responder : Responder) (request : PermissionRequestPayload)
    (requestId : String) {body : Gateway.GatewayErrorBody} (h : body.code ≠ "invalid_frame") :
    ∃ after, responder.rejected request requestId body = some after ∧
      after.view.permissionRequests = responder.view.permissionRequests ∧
      after.loads = responder.loads := by
  refine ⟨_, by rw [rejected, decodeAckFrame_errorAckFrame]; rfl, ?_⟩
  have houtcome : GatewayAck.outcome
      { protocolVersion := 1, requestId, ok := false, result := none
        error := some (.ofHost body) } permissionRespond =
          .error (.commandFailed permissionRespond body.code body.message) := rfl
  dsimp only
  rw [houtcome, responded]
  dsimp only
  rw [if_neg h]
  exact ⟨rfl, rfl⟩

/-- A stale prompt is dropped and a load started; any other stays. -/
def Settles (before after : Responder) (request : PermissionRequestPayload) (stale : Prop) :
    Prop :=
  (stale → (∀ other ∈ after.view.permissionRequests, other.id ≠ request.id) ∧
    after.loads = before.loads + 1) ∧
  (¬ stale → request ∈ after.view.permissionRequests)

end Responder

end Client

/-! ## the host -/

namespace Gateway

/-- No error of the host has the code. -/
theorem ProtocolError.code_ne (error : ProtocolError) : error.body.code ≠ "invalid_frame" := by
  cases error <;> simp [body, code]

variable [SessionStore S] [AcpSession C] [AcpDiscovery C] [HostAdmin S C A]

/-- The command of the view that answers a prompt. -/
structure Answers (command : Command) (sessionId : SessionId) (permissionId optionId : String) :
    Prop where
  name : command.command = Client.permissionRespond
  session : command.sessionId = some sessionId
  params : command.params = some (.obj
    [("permission_id", .str permissionId), ("option_id", .str optionId)])

/-- **The command** is answered by the manager. -/
theorem dispatch_permissionRespond (config : GatewayConfig) (connected : Connected S C A)
    {command : Command} {sessionId : SessionId} {permissionId optionId : String}
    (h : Answers command sessionId permissionId optionId) :
    (dispatch config connected command).1.outcome =
      (((Manager.answerPermission sessionId permissionId optionId : Manager S C Unit).result
        connected.server.world).map fun _ => CommandResult.unit).mapError
          fun error => (sessionError error).body := by
  have hname : CommandName.ofName command.command = some .sessionPermissionRespond := by
    rw [h.name]
    decide +kernel
  have hparams : command.paramsAs RespondPermissionParams = some ⟨permissionId, optionId⟩ := by
    rw [Command.paramsAs, h.params]
    rfl
  have hcommand : (Dispatch.command config command .sessionPermissionRespond :
      Dispatch S C A CommandResult) = Dispatch.manager (do
        Manager.answerPermission sessionId permissionId optionId
        pure .unit) := by
    rw [Dispatch.command, Dispatch.onSession, Dispatch.sessionOf, h.session, Dispatch.params,
      hparams]
    rfl
  rw [dispatch, hname]
  dsimp only
  rw [hcommand, Dispatch.exec_manager, result, exec_bind]
  dsimp only
  rw [result]
  rcases (Manager.answerPermission sessionId permissionId optionId : Manager S C Unit).exec
    connected.server.world with ⟨outcome, world⟩
  cases outcome <;> rfl

/-- The host rejects the answer for what the session is waiting for. -/
def RejectsAsStale (config : GatewayConfig) (connected : Connected S C A) (command : Command)
    (sessionId : SessionId) (permissionId optionId : String) : Prop :=
  (∃ context, (processCommand config connected command).2.handling = .dispatched context) ∧
    ∃ error, (Manager.answerPermission sessionId permissionId optionId : Manager S C Unit).result
      connected.server.world = .error error ∧ error.isStale = true

/-- The connection may answer prompts. -/
def MayRespond (connected : Connected S C A) : Prop :=
  connected.state.welcomeSent = true ∧
    (connected.state.authed.getD (.all "unauthenticated" "unauthenticated")).has
      .respondPermission = true

/-- **A rejection as stale** comes of a session that waits for nothing, or for another
answer, on a connection that may answer. -/
theorem rejectsAsStale_iff (config : GatewayConfig) {connected : Connected S C A}
    {command : Command} {sessionId : SessionId} {permissionId optionId : String}
    (hfresh : connected.state.completedCommands.recalled command.requestId = none)
    (h : Answers command sessionId permissionId optionId) :
    RejectsAsStale config connected command sessionId permissionId optionId ↔
      MayRespond connected ∧ connected.server.world.IsStale sessionId permissionId := by
  rw [RejectsAsStale, Manager.answerPermission_stale_iff]
  refine and_congr_left fun _ => ?_
  have hscope : (CommandName.ofName command.command).bind CommandName.scope? =
      some .respondPermission := by
    rw [h.name]
    decide +kernel
  unfold processCommand MayRespond
  dsimp only
  by_cases hwelcomed : connected.state.welcomeSent = true
  · rw [if_pos hwelcomed, hfresh]
    dsimp only
    rw [authorize, hscope]
    dsimp only
    by_cases hhas : (connected.state.authed.getD
        (.all "unauthenticated" "unauthenticated")).has .respondPermission = true
    · rw [if_pos hhas]
      exact ⟨fun _ => ⟨hwelcomed, hhas⟩, fun _ => ⟨_, rfl⟩⟩
    · rw [if_neg hhas]
      exact ⟨fun ⟨_, hhandling⟩ => (nomatch hhandling), fun ⟨_, hpos⟩ => absurd hpos hhas⟩
  · rw [if_neg hwelcomed]
    exact ⟨fun ⟨_, hhandling⟩ => (nomatch hhandling), fun ⟨hpos, _⟩ => absurd hpos hwelcomed⟩

/-- **Every rejection** of a new command has the body of one of the host's errors. -/
theorem rejection_is_error (config : GatewayConfig) {connected : Connected S C A}
    {command : Command} {sessionId : SessionId} {permissionId optionId : String}
    {body : GatewayErrorBody}
    (hfresh : connected.state.completedCommands.recalled command.requestId = none)
    (h : Answers command sessionId permissionId optionId)
    (hrejected : (processCommand config connected command).2.ack.outcome = .error body) :
    ∃ error : ProtocolError, body = error.body := by
  have hbody : ∀ {error : ProtocolError} {requestId : String},
      (CommandAck.error requestId error).outcome = .error body →
        ∃ error : ProtocolError, body = error.body :=
    fun hacked => ⟨_, (Except.error.inj hacked).symm⟩
  unfold processCommand at hrejected
  dsimp only at hrejected
  by_cases hwelcomed : connected.state.welcomeSent = true
  · rw [if_pos hwelcomed, hfresh] at hrejected
    dsimp only at hrejected
    split at hrejected
    · exact hbody hrejected
    · dsimp only at hrejected
      rw [dispatch_permissionRespond config connected h] at hrejected
      cases hresult : (Manager.answerPermission sessionId permissionId optionId :
          Manager S C Unit).result connected.server.world with
      | ok _ =>
          rw [hresult] at hrejected
          cases hrejected
      | error error =>
          rw [hresult] at hrejected
          exact ⟨sessionError error, (Except.error.inj hrejected).symm⟩
  · rw [if_neg hwelcomed] at hrejected
    exact hbody hrejected

/-- A rejection as stale is a rejection. -/
theorem outcome_of_rejectsAsStale (config : GatewayConfig) {connected : Connected S C A}
    {command : Command} {sessionId : SessionId} {permissionId optionId : String}
    (hfresh : connected.state.completedCommands.recalled command.requestId = none)
    (h : Answers command sessionId permissionId optionId)
    (hstale : RejectsAsStale config connected command sessionId permissionId optionId) :
    ∃ error : SessionError, error.isStale = true ∧
      (processCommand config connected command).2.ack.outcome =
        .error (sessionError error).body := by
  obtain ⟨⟨context, hhandling⟩, error, hresult, hstale⟩ := hstale
  refine ⟨error, hstale, ?_⟩
  have hdispatched := dispatch_permissionRespond config connected h
  rw [hresult] at hdispatched
  unfold processCommand at hhandling ⊢
  dsimp only at hhandling ⊢
  by_cases hwelcomed : connected.state.welcomeSent = true
  · rw [if_pos hwelcomed, hfresh] at hhandling ⊢
    dsimp only at hhandling ⊢
    split at hhandling
    · cases hhandling
    · exact hdispatched
  · rw [if_neg hwelcomed] at hhandling
    cases hhandling

end Gateway

/-! ## a prompt and its rejection -/

section

open Gateway Client

variable [SessionStore S] [AcpSession C] [AcpDiscovery C] [HostAdmin S C A]

/-- The command `respond` makes answers the prompt. -/
theorem Client.Responder.answers_of_respond {responder responder' : Responder}
    {request : PermissionRequestPayload} {option : PermissionOption} {requestId : String}
    {command : Gateway.Command}
    (h : responder.respond request option requestId = some (responder', command)) :
    Answers command responder.view.sessionId request.id option.optionId ∧
      command.requestId = requestId := by
  rw [Responder.respond] at h
  split at h
  · cases h
  · obtain ⟨-, rfl⟩ := Prod.mk.inj (Option.some.inj h)
    exact ⟨⟨rfl, rfl, rfl⟩, rfl⟩

/-- **The view settles a prompt** whose answer was rejected just when the rejection was not
for a stale one: it never drops one. -/
theorem settles_iff_not_rejectsAsStale (config : GatewayConfig) {connected : Connected S C A}
    {asking asked responder : Responder} {request : PermissionRequestPayload}
    {option : PermissionOption} {requestId : String} {command : Gateway.Command}
    {body : Gateway.GatewayErrorBody}
    (hfresh : connected.state.completedCommands.recalled requestId = none)
    (hasked : asking.respond request option requestId = some (asked, command))
    (hrejected : (processCommand config connected command).2.ack.outcome = .error body)
    (hshown : request ∈ responder.view.permissionRequests) (stale : Prop) :
    (∃ after, responder.rejected request requestId body = some after ∧
      responder.Settles after request stale) ↔ ¬ stale := by
  obtain ⟨hanswers, hid⟩ := Responder.answers_of_respond hasked
  rw [← hid] at hfresh
  obtain ⟨error, rfl⟩ := rejection_is_error config hfresh hanswers hrejected
  obtain ⟨after, hafter, hprompts, hloads⟩ :=
    responder.rejected_of_ne request requestId error.code_ne
  rw [hafter]
  constructor
  · rintro ⟨other, hother, hdropped, -⟩ hstale
    obtain ⟨hgone, -⟩ := hdropped hstale
    rw [← Option.some.inj hother, hprompts] at hgone
    exact hgone request hshown rfl
  · intro hfresh
    exact ⟨after, rfl, fun hstale => absurd hstale hfresh, fun _ => hprompts.symm ▸ hshown⟩

/-- **Stale prompts** are dropped by the client just when the host does not reject them: the
view settles a prompt whose answer was rejected exactly when the connection may not answer,
or the session is unknown or waits for this answer. -/
theorem stale_prompt_dropped_iff (config : GatewayConfig) {connected : Connected S C A}
    {asking asked responder : Responder} {request : PermissionRequestPayload}
    {option : PermissionOption} {requestId : String} {command : Gateway.Command}
    {body : Gateway.GatewayErrorBody}
    (hfresh : connected.state.completedCommands.recalled requestId = none)
    (hasked : asking.respond request option requestId = some (asked, command))
    (hrejected : (processCommand config connected command).2.ack.outcome = .error body)
    (hshown : request ∈ responder.view.permissionRequests) :
    (∃ after, responder.rejected request requestId body = some after ∧
      responder.Settles after request (RejectsAsStale config connected command
        asking.view.sessionId request.id option.optionId)) ↔
      ¬ (MayRespond connected ∧
        connected.server.world.IsStale asking.view.sessionId request.id) := by
  obtain ⟨hanswers, hid⟩ := Responder.answers_of_respond hasked
  rw [settles_iff_not_rejectsAsStale config hfresh hasked hrejected hshown,
    rejectsAsStale_iff config (hid ▸ hfresh) hanswers]

end

/-! ## a prompt that outlived the host's -/

section

open Gateway Client

/-- A prompt on the view that the host does not know. -/
def samplePrompt : PermissionRequestPayload where
  id := "p"
  title := "Run"
  detail := none
  toolCallId := none
  options := []

def sampleOption : PermissionOption where
  optionId := "allow"
  label := "Allow"
  kind := .allow

def sampleResponder : Responder where
  view := { sessionId := "uuu", permissionRequests := [samplePrompt] }

/-- A connection to a host with one session, which waits for nothing. -/
def sampleConnected (welcomed : Bool) : Connected SqliteStore ScriptedAgent TestHost where
  server :=
    { world := sampleManager.after (.createSession sampleRequest), admin := { shutdown := false } }
  state := { ConnState.new with welcomeSent := welcomed }

/-- What the view asks the host. -/
def sampleAsked : Responder × Gateway.Command :=
  ({ sampleResponder with respondingPermissionIds := {"p"} },
    { protocolVersion
      requestId := "r1"
      command := permissionRespond
      sessionId := some "uuu"
      params := some (.obj [("permission_id", .str "p"), ("option_id", .str "allow")]) })

theorem respond_sampleResponder :
    sampleResponder.respond samplePrompt sampleOption "r1" = some sampleAsked := rfl

/-- A connection without a welcome is refused, and the prompt stays. -/
theorem stale_prompt_dropped_iff_sample :
    ∃ after, sampleResponder.rejected samplePrompt "r1"
        (ProtocolError.unauthenticated "hello required").body = some after ∧
      sampleResponder.Settles after samplePrompt (RejectsAsStale TestHost.config
        (sampleConnected false) sampleAsked.2 "uuu" "p" "allow") := by
  have hrefused : (processCommand TestHost.config (sampleConnected false)
      sampleAsked.2).2.ack.outcome =
        .error (ProtocolError.unauthenticated "hello required").body := rfl
  exact (stale_prompt_dropped_iff TestHost.config (by rfl) respond_sampleResponder hrefused
    (List.mem_cons_self)).mpr fun h => absurd h.1.1 Bool.false_ne_true

/-- The answer to a prompt that the host does not know is rejected, and the prompt stays. -/
theorem stale_prompt_stays :
    ¬ ∀ (connected : Connected SqliteStore ScriptedAgent TestHost)
        (asking asked responder : Responder) (request : PermissionRequestPayload)
        (option : PermissionOption) (requestId : String) (command : Gateway.Command)
        (body : Gateway.GatewayErrorBody),
      connected.state.completedCommands.recalled requestId = none →
      asking.respond request option requestId = some (asked, command) →
      (processCommand TestHost.config connected command).2.ack.outcome = .error body →
      request ∈ responder.view.permissionRequests →
      ∃ after, responder.rejected request requestId body = some after ∧
        responder.Settles after request (RejectsAsStale TestHost.config connected command
          asking.view.sessionId request.id option.optionId) := by
  intro hsettles
  have hunasked : (Manager.answerPermission "uuu" "p" "allow" :
      Manager SqliteStore ScriptedAgent Unit).result
        (sampleManager.after (.createSession sampleRequest)) =
      .error (.noPendingPermission "uuu") := by
    decide +kernel
  have hfresh : (sampleConnected true).state.completedCommands.recalled "r1" = none := rfl
  have hanswers : Answers sampleAsked.2 "uuu" "p" "allow" := ⟨rfl, rfl, rfl⟩
  have hstale : RejectsAsStale TestHost.config (sampleConnected true) sampleAsked.2 "uuu" "p"
      "allow" :=
    (rejectsAsStale_iff TestHost.config hfresh hanswers).mpr
      ⟨⟨rfl, rfl⟩, Manager.answerPermission_stale_iff.mp ⟨_, hunasked, rfl⟩⟩
  obtain ⟨error, -, hrejected⟩ := outcome_of_rejectsAsStale TestHost.config hfresh hanswers hstale
  exact (settles_iff_not_rejectsAsStale TestHost.config hfresh respond_sampleResponder hrejected
    List.mem_cons_self _).mp (hsettles _ _ _ sampleResponder _ _ _ _ _ hfresh
      respond_sampleResponder hrejected List.mem_cons_self) hstale

end

end Slight
