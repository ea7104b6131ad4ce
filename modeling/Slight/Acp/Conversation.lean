import Slight.Acp.Serving
import Slight.Support.Automaton

/-!
# Slight.Acp.Conversation

What the host asks of an agent over the life of a session's worker.

`acp` is the protocol from the host's side, as an automaton over requests and their
answers: a version is agreed on before anything else is asked, an optional method is
called only if the agent advertised it, and a request that names a session names one
that was opened before.  `conversation_conforms` says that the worker's requests are a
trace of it, whatever the agent sends and whichever commands come; and that no command
is held back which the protocol allows.

* the client checks most of this, but neither `session/set_mode` nor the session of
  `session/set_config_option`: that both name an open session comes from the worker.
-/

namespace Slight

namespace Acp

open Support Program

/-! ## the protocol -/

/-- What the two sides have agreed on. -/
structure Standing where
  capabilities : Option AgentCapabilities := none
  sessions : Finset String := ∅

namespace Standing

/-- The requests that may be made. -/
def Permits {Implementation : Type} (standing : Standing) : HostRequest Implementation → Prop
  | .initializeAgent _ => True
  | .newSession _ => standing.capabilities.isSome
  | .listSessions .. => standing.capabilities.any (·.sessionList)
  | .loadSession .. => standing.capabilities.any (·.loadSession)
  | .resumeSession .. => standing.capabilities.any (·.sessionResume)
  | .setConfigOption sessionId .. | .setMode sessionId _ | .prompt sessionId _ =>
      standing.capabilities.isSome ∧ sessionId ∈ standing.sessions

def opening (standing : Standing) (sessionId : String) : Standing :=
  { standing with sessions := insert sessionId standing.sessions }

/-- What an answer that can be read agrees on. -/
def answered (api : Api) (standing : Standing) (value : Json) :
    HostRequest api.Implementation → Standing
  | .initializeAgent _ =>
      match api.initialized value with
      | .ok response =>
          if response.protocolVersion = protocolV1 then
            { standing with capabilities := some response.agentCapabilities }
          else standing
      | .error _ => standing
  | .newSession _ =>
      match api.created value with
      | .ok response => standing.opening response.sessionId
      | .error _ => standing
  | .loadSession sessionId _ | .resumeSession sessionId _ =>
      match api.opened value with
      | .ok _ => standing.opening sessionId
      | .error _ => standing
  | .listSessions .. | .setConfigOption .. | .setMode .. | .prompt .. => standing

end Standing

/-- The host's side of the protocol. -/
def acp (api : Api) : Automaton Standing (Asked api) where
  allows standing asked := standing.Permits asked.request
  next standing asked :=
    (asked.answer.map fun value => standing.answered api value asked.request).getD standing

/-! ## what is written -/

def Outbound.isRequest {schema : Schema} : Outbound schema → Bool
  | .request .. => true
  | _ => false

/-- The frames of some requests, numbered from one. -/
def requestFrames {api : Api} (asked : List (Asked api)) : List (Outbound api.toSchema) :=
  asked.mapIdx fun k made =>
    .request (.number (k + 1)) made.request.method (api.params made.request)

theorem requestFrames_concat {api : Api} (asked : List (Asked api)) (made : Asked api) :
    requestFrames (asked ++ [made]) = requestFrames asked ++
      [.request (.number (asked.length + 1)) made.request.method (api.params made.request)] :=
  List.mapIdx_concat

section Clients

variable {schema : Schema} {H : Type} {client client' : AcpClient schema H}

def AcpClient.requestsSent (client : AcpClient schema H) : List (Outbound schema) :=
  client.transport.sent.filter (·.isRequest)

/-- The host asks nothing on its own. -/
structure Quiet (client client' : AcpClient schema H) : Prop where
  requests : client'.requestsSent = client.requestsSent
  nextId : client'.nextId = client.nextId
  room : client'.transport.room = none ↔ client.transport.room = none

theorem Quiet.trans {client'' : AcpClient schema H} (h : Quiet client client')
    (h' : Quiet client' client'') : Quiet client client'' where
  requests := h'.requests.trans h.requests
  nextId := h'.nextId.trans h.nextId
  room := h'.room.trans h.room

/-- The writer takes a frame, or it is full and nothing changes. -/
theorem sendRaw_room (client : AcpClient schema H) (frame : Outbound schema) :
    ((AcpClient.sendRaw frame).exec client = (.error (.wire .io), client) ∧
        client.transport.room ≠ none) ∨
      ∃ room, (room = none ↔ client.transport.room = none) ∧
        (AcpClient.sendRaw frame).exec client = (.ok (),
          { client with
            transport := { client.transport with
              sent := client.transport.sent ++ [frame]
              room := room } }) := by
  unfold AcpClient.sendRaw
  rw [exec_bind, exec_get]
  dsimp only
  split
  · next hfull => exact .inl ⟨rfl, by rw [hfull]; exact nofun⟩
  · next room hroom => exact .inr ⟨_, Option.map_eq_none_iff, rfl⟩

theorem isRequest_reply (id : RequestId) (outcome : Except schema.Error Json) :
    (Outbound.reply id outcome).isRequest = false := by
  cases outcome <;> rfl

theorem quiet_serve [ClientHandler schema H] (id : RequestId)
    (request : AgentToClientRequest schema) :
    (AcpClient.serve id request : Calling schema H Unit).Performs Quiet := by
  refine performs_of_step fun client => ?_
  unfold final AcpClient.serve
  rw [exec_bind, exec_get]
  dsimp only
  rcases ClientHandler.handleRequest client.handler id request with ⟨outcome, handler⟩
  dsimp only
  rw [exec_bind, exec_set]
  cases outcome with
  | respond outcome =>
      dsimp only
      rw [exec_bind]
      rcases sendRaw_room { client with handler } (.reply id outcome) with
        ⟨hsend, -⟩ | ⟨room, hroom, hsend⟩
      · rw [hsend]
        exact ⟨rfl, rfl, .rfl⟩
      · rw [hsend]
        refine ⟨?_, rfl, hroom⟩
        show (client.transport.sent ++ [Outbound.reply id outcome]).filter (·.isRequest) = _
        rw [List.filter_append, List.filter_singleton, isRequest_reply]
        exact List.append_nil _
  | defer => exact ⟨rfl, rfl, .rfl⟩

theorem quiet_nextMessage [ClientHandler schema H] :
    (AcpClient.nextMessage : Calling schema H (Option (AcpMessage schema))).Performs Quiet := by
  have hrecv : (AcpClient.recvInbound : Calling schema H _).Performs Quiet := by
    refine performs_of_step fun client => ?_
    rw [final, exec_recvInbound]
    exact ⟨rfl, rfl, .rfl⟩
  refine performs_bind hrecv fun message => ?_
  cases message with
  | none => exact performs_pure _
  | some message =>
      cases message with
      | request id request => exact performs_bind (quiet_serve id request) fun _ => performs_pure _
      | notification notification =>
          exact performs_bind (performs_of_step fun _ => ⟨rfl, rfl, .rfl⟩) fun _ => performs_pure _
      | response id outcome => exact performs_pure _

theorem quiet_waitRounds [ClientHandler schema H] (id : RequestId) (rounds : Nat) :
    (AcpClient.waitRounds id rounds : Calling schema H Json).Performs Quiet := by
  induction rounds with
  | zero => exact performs_throw _
  | succ rounds ih =>
      refine performs_bind quiet_nextMessage fun message => ?_
      cases message with
      | none => exact performs_throw _
      | some message =>
          cases message with
          | request id' request => exact ih
          | notification notification => exact ih
          | response got outcome =>
              dsimp only
              split
              · cases outcome with
                | ok value => exact performs_pure _
                | error error => exact performs_throw _
              · exact performs_bind (performs_of_step fun _ => ⟨rfl, rfl, .rfl⟩) fun _ => ih

/-- **One request** is written, under the next id, and nothing else is asked. -/
theorem request_writes [ClientHandler schema H] (method : String) (params : Json)
    {outcome : Except (ClientError schema) Json}
    (h : (AcpClient.request .ok method params).exec client = (outcome, client')) :
    client'.nextId = client.nextId + 1 ∧
      (client'.transport.room = none ↔ client.transport.room = none) ∧
      ((client'.requestsSent = client.requestsSent ∧ client.transport.room ≠ none) ∨
        client'.requestsSent = client.requestsSent ++
          [.request (.number (client.nextId + 1)) method params]) := by
  unfold AcpClient.request AcpClient.nextRequestId at h
  rw [exec_bind, exec_bind, exec_get] at h
  dsimp only at h
  rw [exec_bind, exec_set] at h
  dsimp only [exec_pure] at h
  rw [exec_bind] at h
  rcases sendRaw_room { client with nextId := client.nextId + 1 }
    (.request (.number (client.nextId + 1)) method params) with
      ⟨hsend, hfull⟩ | ⟨room, hroom, hsend⟩
  · rw [hsend] at h
    cases h
    exact ⟨rfl, .rfl, .inl ⟨rfl, hfull⟩⟩
  · rw [hsend] at h
    dsimp only at h
    generalize hwaiting : ({ client with
      nextId := client.nextId + 1
      transport := { client.transport with
        sent := client.transport.sent ++
          [.request (.number (client.nextId + 1)) method params]
        room := room } } : AcpClient schema H) = waiting at h
    have hwait : (AcpClient.waitForResponse (.number (client.nextId + 1)) >>= fun value =>
        (pure value : Calling schema H Json)).Performs Quiet :=
      performs_bind (performs_bind performs_get fun _ => quiet_waitRounds _ _) fun _ =>
        performs_pure _
    have hquiet : Quiet waiting client' := by
      have hfinal : (AcpClient.waitForResponse (.number (client.nextId + 1)) >>= fun value =>
          (pure value : Calling schema H Json)).final waiting = client' := congrArg Prod.snd h
      rw [← hfinal]
      exact hwait.preserves (fun _ _ hstep hsofar => hsofar.trans hstep) ⟨rfl, rfl, .rfl⟩
    subst hwaiting
    refine ⟨hquiet.nextId, hquiet.room.trans hroom, .inr ?_⟩
    rw [hquiet.requests]
    exact List.filter_append _ _

end Clients

/-! ## the calls of the client -/

namespace Peer

variable {api : Api} {H : Type} {peer peer' : Peer api H}

def standing (peer : Peer api H) : Standing where
  capabilities := peer.agentCapabilities
  sessions := peer.sessions

/-- What the client keeps is what was agreed on, and its request frames are those of the
requests it made. -/
structure Abides (peer : Peer api H) : Prop where
  initialized : peer.initialized = peer.agentCapabilities.isSome
  opened : ∀ sessionId ∈ peer.sessions, peer.agentCapabilities.isSome = true
  nextId : peer.client.nextId = peer.asked.length
  requests : peer.client.requestsSent.Sublist (requestFrames peer.asked)
  written : peer.client.transport.room = none →
    peer.client.requestsSent = requestFrames peer.asked

/-- The request was made, and its answer changed what is agreed on. -/
structure Asks (peer peer' : Peer api H) (request : HostRequest api.Implementation) : Prop where
  abides : peer'.Abides
  asked : ∃ answer, peer'.asked = peer.asked ++ [⟨request, answer⟩] ∧
    peer'.standing = (acp api).next peer.standing ⟨request, answer⟩

/-- The client after a request came back. -/
def told (peer : Peer api H) (client : AcpClient api.toSchema H)
    (request : HostRequest api.Implementation) (answer : Option Json) : Peer api H :=
  { peer with client, asked := peer.asked ++ [⟨request, answer⟩] }

/-! ### what is checked first -/

theorem exec_ensureInitialized_bind {β : Type} (habides : peer.Abides)
    (next : Unit → Talking api H β) :
    (ensureInitialized >>= next).exec peer =
      if peer.agentCapabilities.isSome then (next ()).exec peer
      else (.error .notInitialized, peer) := by
  rw [exec_bind, ensureInitialized, exec_bind, exec_get]
  dsimp only
  rw [habides.initialized]
  cases peer.agentCapabilities <;> rfl

theorem exec_ensureSupported_bind {β : Type} (supported : AgentCapabilities → Bool)
    (capability : String) (next : Unit → Talking api H β) :
    (ensureSupported supported capability >>= next).exec peer =
      if peer.agentCapabilities.any supported then (next ()).exec peer
      else (.error (.unsupportedCapability capability), peer) := by
  rw [exec_bind, ensureSupported, exec_bind, exec_get]
  dsimp only
  cases peer.agentCapabilities.any supported <;> rfl

theorem isSome_of_any {capabilities : Option AgentCapabilities}
    {supported : AgentCapabilities → Bool} (h : capabilities.any supported = true) :
    capabilities.isSome = true := by
  cases capabilities with
  | none => contradiction
  | some capabilities => rfl

variable [ClientHandler api.toSchema H]

/-- A request comes back with a result that can be read, and the call goes on with it; or
the call ends there. -/
theorem request_bind_cases {α β : Type} (habides : peer.Abides)
    (read : Json → Except String α) (made : HostRequest api.Implementation)
    (next : α → Talking api H β) :
    ∃ client answer, (peer.told client made answer).Abides ∧
      ((∃ error, (Peer.request read made >>= next).exec peer =
          (.error error, peer.told client made answer) ∧
          ∀ value a, answer = some value → read value ≠ .ok a) ∨
        ∃ value a, answer = some value ∧ read value = .ok a ∧
          (Peer.request read made >>= next).exec peer =
            (next a).exec (peer.told client made answer)) := by
  unfold Peer.request
  rw [exec_bind, exec_bind, exec_get]
  dsimp only
  rcases hcall : (AcpClient.request .ok made.method (api.params made) :
    Calling api.toSchema H Json).exec peer.client with ⟨outcome, client⟩
  dsimp only
  rw [exec_bind, exec_set]
  obtain ⟨hnextId, hroom, hsent⟩ := request_writes _ _ hcall
  have htold : (peer.told client made outcome.toOption).Abides := by
    have hframes := requestFrames_concat peer.asked ⟨made, outcome.toOption⟩
    rw [← habides.nextId] at hframes
    refine ⟨habides.initialized, habides.opened, ?_, ?_, ?_⟩
    · show client.nextId = ((peer.asked ++ [_]).length : Nat)
      rw [hnextId, habides.nextId, List.length_append, List.length_singleton]
      rfl
    · show client.requestsSent.Sublist (requestFrames (peer.asked ++ [_]))
      rw [hframes]
      rcases hsent with ⟨hsame, -⟩ | hmore
      · rw [hsame]
        exact habides.requests.trans (List.sublist_append_left _ _)
      · rw [hmore]
        exact habides.requests.append (List.Sublist.refl _)
    · intro hnone
      show client.requestsSent = requestFrames (peer.asked ++ [_])
      rw [hframes]
      rcases hsent with ⟨-, hfull⟩ | hmore
      · exact absurd (hroom.mp hnone) hfull
      · rw [hmore, habides.written (hroom.mp hnone)]
  refine ⟨client, outcome.toOption, htold, ?_⟩
  cases outcome with
  | error error => exact .inl ⟨.client error, rfl, nofun⟩
  | ok value =>
      dsimp only
      cases hread : read value with
      | error text =>
          refine .inl ⟨.client (.decode text), rfl, fun other a hother => ?_⟩
          cases hother
          rw [hread]
          exact nofun
      | ok a => exact .inr ⟨value, a, rfl, hread, rfl⟩

/-- A request whose answer agrees on nothing. -/
theorem asks_request {α : Type} (habides : peer.Abides) {read : Json → Except String α}
    {made : HostRequest api.Implementation} {outcome : Except (CallError api) α}
    (hsame : ∀ value, peer.standing.answered api value made = peer.standing)
    (h : (Peer.request read made).exec peer = (outcome, peer')) : peer.Asks peer' made := by
  obtain ⟨client, answer, htold, hcases⟩ := request_bind_cases habides read made pure
  have hpeer : peer' = peer.told client made answer := by
    rw [bind_pure, h] at hcases
    rcases hcases with ⟨error, herror, -⟩ | ⟨value, a, -, -, hok⟩
    · exact congrArg Prod.snd herror
    · exact congrArg Prod.snd hok
  rw [hpeer]
  refine ⟨htold, answer, rfl, ?_⟩
  cases answer with
  | none => rfl
  | some value => exact (hsame value).symm

/-- A request whose answer opens a session. -/
theorem asks_opening {α : Type} (habides : peer.Abides)
    (hagreed : peer.agentCapabilities.isSome = true) {read : Json → Except String α}
    {made : HostRequest api.Implementation} {sessionId : α → String}
    {outcome : Except (CallError api) α}
    (hread : ∀ value a, read value = .ok a →
      peer.standing.answered api value made = peer.standing.opening (sessionId a))
    (hunread : ∀ value, (∀ a, read value ≠ .ok a) →
      peer.standing.answered api value made = peer.standing)
    (h : (do
      let response ← Peer.request read made
      remember (sessionId response)
      return response : Talking api H α).exec peer = (outcome, peer')) :
    peer.Asks peer' made ∧ ∀ a, outcome = .ok a → sessionId a ∈ peer'.sessions := by
  obtain ⟨client, answer, htold, ⟨error, herror, hnone⟩ | ⟨value, a, rfl, ha, hok⟩⟩ :=
    request_bind_cases habides read made fun response => do
      remember (sessionId response)
      return response
  · rw [herror] at h
    cases h
    refine ⟨⟨htold, answer, rfl, ?_⟩, nofun⟩
    cases answer with
    | none => rfl
    | some value => exact (hunread value fun a => hnone value a rfl).symm
  · rw [hok] at h
    cases h
    refine ⟨⟨⟨htold.initialized, fun _ _ => hagreed, htold.nextId, htold.requests,
      htold.written⟩, some value, rfl, (hread value a ha).symm⟩, ?_⟩
    intro b hb
    cases hb
    exact Finset.mem_insert_self _ _

/-- A call makes its request exactly if the protocol permits it. -/
structure Conducts {α : Type} (peer : Peer api H) (made : HostRequest api.Implementation)
    (outcome : Except (CallError api) α) (peer' : Peer api H) : Prop where
  asks : peer.standing.Permits made → peer.Asks peer' made
  refuses : ¬ peer.standing.Permits made → peer' = peer ∧ ∃ error, outcome = .error error

/-! ### one call after the other -/

theorem conducts_initializeAgent (habides : peer.Abides) (clientInfo : api.Implementation)
    {outcome : Except (CallError api) InitializeResponse}
    (h : (initializeAgent clientInfo).exec peer = (outcome, peer')) :
    peer.Conducts (.initializeAgent clientInfo) outcome peer' := by
  refine ⟨fun _ => ?_, fun hrefused => absurd trivial hrefused⟩
  unfold initializeAgent at h
  obtain ⟨client, answer, htold, ⟨error, herror, hnone⟩ | ⟨value, response, rfl, hread, hok⟩⟩ :=
    request_bind_cases habides api.initialized (.initializeAgent clientInfo) fun response => do
      if response.protocolVersion ≠ protocolV1 then
        throw (.unsupportedProtocol response.protocolVersion)
      modify fun peer => { peer with
        initialized := true
        agentCapabilities := some response.agentCapabilities }
      return response
  · rw [herror] at h
    cases h
    refine ⟨htold, answer, rfl, ?_⟩
    cases answer with
    | none => rfl
    | some value =>
        refine Eq.symm ?_
        show peer.standing.answered api value (.initializeAgent clientInfo) = peer.standing
        rw [Standing.answered]
        cases hread : api.initialized value with
        | ok response => exact absurd hread (hnone value response rfl)
        | error text => rfl
  · rw [hok] at h
    have hanswered : peer.standing.answered api value (.initializeAgent clientInfo) =
        if response.protocolVersion = protocolV1 then
          { peer.standing with capabilities := some response.agentCapabilities }
        else peer.standing := by
      rw [Standing.answered, hread]
    by_cases hversion : response.protocolVersion = protocolV1
    · rw [if_pos hversion] at hanswered
      rw [if_neg (not_not_intro hversion)] at h
      cases h
      exact ⟨⟨rfl, fun _ _ => rfl, htold.nextId, htold.requests, htold.written⟩, some value, rfl,
        hanswered.symm⟩
    · rw [if_neg hversion] at hanswered
      rw [if_pos hversion] at h
      cases h
      exact ⟨htold, some value, rfl, hanswered.symm⟩

theorem conducts_newSession (habides : peer.Abides) (cwd : String)
    {outcome : Except (CallError api) NewSessionResponse}
    (h : (newSession cwd).exec peer = (outcome, peer')) :
    peer.Conducts (.newSession cwd) outcome peer' ∧
      ∀ response, outcome = .ok response → response.sessionId ∈ peer'.sessions := by
  unfold newSession at h
  rw [exec_ensureInitialized_bind habides] at h
  by_cases hagreed : peer.agentCapabilities.isSome = true
  · rw [if_pos hagreed] at h
    obtain ⟨hasks, hopened⟩ := asks_opening habides hagreed (fun value response hread => by
      rw [Standing.answered, hread]) (fun value hnone => by
      rw [Standing.answered]
      cases hread : api.created value with
      | ok response => exact absurd hread (hnone response)
      | error text => rfl) h
    exact ⟨⟨fun _ => hasks, fun hrefused => absurd hagreed hrefused⟩, hopened⟩
  · rw [if_neg hagreed] at h
    cases h
    exact ⟨⟨fun hpermits => absurd hpermits hagreed, fun _ => ⟨rfl, _, rfl⟩⟩, nofun⟩

/-- `session/load` and `session/resume`. -/
theorem conducts_opened (habides : peer.Abides) {supported : AgentCapabilities → Bool}
    {capability sessionId : String} {made : HostRequest api.Implementation}
    (hpermits : peer.standing.Permits made ↔ peer.agentCapabilities.any supported = true)
    (hread : ∀ value response, api.opened value = .ok response →
      peer.standing.answered api value made = peer.standing.opening sessionId)
    (hunread : ∀ value text, api.opened value = .error text →
      peer.standing.answered api value made = peer.standing)
    {outcome : Except (CallError api) OpenedSession}
    (h : (do
      ensureInitialized
      ensureSupported supported capability
      let response ← Peer.request api.opened made
      remember sessionId
      return response : Talking api H OpenedSession).exec peer = (outcome, peer')) :
    peer.Conducts made outcome peer' ∧
      ∀ response, outcome = .ok response → sessionId ∈ peer'.sessions := by
  rw [exec_ensureInitialized_bind habides] at h
  by_cases hsupported : peer.agentCapabilities.any supported = true
  · have hagreed := isSome_of_any hsupported
    rw [if_pos hagreed, exec_ensureSupported_bind, if_pos hsupported] at h
    obtain ⟨hasks, hopened⟩ := asks_opening habides hagreed hread (fun value hnone => by
      cases hopens : api.opened value with
      | ok response => exact absurd hopens (hnone response)
      | error text => exact hunread value text hopens) h
    exact ⟨⟨fun _ => hasks, fun hrefused => absurd (hpermits.mpr hsupported) hrefused⟩, hopened⟩
  · have hrefused : peer' = peer ∧ ∃ error, outcome = .error error := by
      by_cases hagreed : peer.agentCapabilities.isSome = true
      · rw [if_pos hagreed, exec_ensureSupported_bind, if_neg hsupported] at h
        cases h
        exact ⟨rfl, _, rfl⟩
      · rw [if_neg hagreed] at h
        cases h
        exact ⟨rfl, _, rfl⟩
    refine ⟨⟨fun hmay => absurd (hpermits.mp hmay) hsupported, fun _ => hrefused⟩, ?_⟩
    obtain ⟨-, error, rfl⟩ := hrefused
    exact nofun

theorem conducts_loadSession (habides : peer.Abides) (sessionId cwd : String)
    {outcome : Except (CallError api) OpenedSession}
    (h : (loadSession sessionId cwd).exec peer = (outcome, peer')) :
    peer.Conducts (.loadSession sessionId cwd) outcome peer' ∧
      ∀ response, outcome = .ok response → sessionId ∈ peer'.sessions :=
  conducts_opened habides .rfl (fun value response hread => by rw [Standing.answered, hread])
    (fun value text hread => by rw [Standing.answered, hread]) h

theorem conducts_resumeSession (habides : peer.Abides) (sessionId cwd : String)
    {outcome : Except (CallError api) OpenedSession}
    (h : (resumeSession sessionId cwd).exec peer = (outcome, peer')) :
    peer.Conducts (.resumeSession sessionId cwd) outcome peer' ∧
      ∀ response, outcome = .ok response → sessionId ∈ peer'.sessions :=
  conducts_opened habides .rfl (fun value response hread => by rw [Standing.answered, hread])
    (fun value text hread => by rw [Standing.answered, hread]) h

theorem conducts_listSessions (habides : peer.Abides) (cwd cursor : Option String)
    {outcome : Except (CallError api) ListSessionsResponse}
    (h : (listSessions cwd cursor).exec peer = (outcome, peer')) :
    peer.Conducts (.listSessions cwd cursor) outcome peer' := by
  unfold listSessions at h
  rw [exec_ensureInitialized_bind habides] at h
  by_cases hsupported : peer.agentCapabilities.any (·.sessionList) = true
  · rw [if_pos (isSome_of_any hsupported), exec_ensureSupported_bind, if_pos hsupported] at h
    exact ⟨fun _ => asks_request habides (fun _ => rfl) h,
      fun hrefused => absurd hsupported hrefused⟩
  · refine ⟨fun hpermits => absurd hpermits hsupported, fun _ => ?_⟩
    by_cases hagreed : peer.agentCapabilities.isSome = true
    · rw [if_pos hagreed, exec_ensureSupported_bind, if_neg hsupported] at h
      cases h
      exact ⟨rfl, _, rfl⟩
    · rw [if_neg hagreed] at h
      cases h
      exact ⟨rfl, _, rfl⟩

theorem conducts_prompt (habides : peer.Abides) (sessionId text : String)
    {outcome : Except (CallError api) StopReason}
    (h : (Peer.prompt sessionId text).exec peer = (outcome, peer')) :
    peer.Conducts (.prompt sessionId text) outcome peer' := by
  unfold Peer.prompt at h
  rw [exec_ensureInitialized_bind habides] at h
  by_cases hagreed : peer.agentCapabilities.isSome = true
  · rw [if_pos hagreed, exec_bind, exec_get] at h
    dsimp only at h
    by_cases hopen : sessionId ∈ peer.sessions
    · rw [if_neg (not_not_intro hopen)] at h
      exact ⟨fun _ => asks_request habides (fun _ => rfl) h,
        fun hrefused => absurd ⟨hagreed, hopen⟩ hrefused⟩
    · rw [if_pos hopen] at h
      cases h
      exact ⟨fun hpermits => absurd hpermits.2 hopen, fun _ => ⟨rfl, _, rfl⟩⟩
  · rw [if_neg hagreed] at h
    cases h
    exact ⟨fun hpermits => absurd hpermits.1 hagreed, fun _ => ⟨rfl, _, rfl⟩⟩

/-- For an open session, which the call does not check. -/
theorem conducts_setConfigOption (habides : peer.Abides) {sessionId : String}
    (hopen : sessionId ∈ peer.sessions) (configId valueId : String)
    {outcome : Except (CallError api) (List SessionConfigOption)}
    (h : (setConfigOption sessionId configId valueId).exec peer = (outcome, peer')) :
    peer.Conducts (.setConfigOption sessionId configId valueId) outcome peer' := by
  have hagreed := habides.opened sessionId hopen
  unfold setConfigOption at h
  rw [exec_ensureInitialized_bind habides, if_pos hagreed] at h
  exact ⟨fun _ => asks_request habides (fun _ => rfl) h,
    fun hrefused => absurd ⟨hagreed, hopen⟩ hrefused⟩

theorem conducts_setMode (habides : peer.Abides) {sessionId : String}
    (hopen : sessionId ∈ peer.sessions) (modeId : String)
    {outcome : Except (CallError api) Unit}
    (h : (setMode sessionId modeId).exec peer = (outcome, peer')) :
    peer.Conducts (.setMode sessionId modeId) outcome peer' :=
  ⟨fun _ => asks_request habides (fun _ => rfl) h,
    fun hrefused => absurd ⟨habides.opened sessionId hopen, hopen⟩ hrefused⟩

end Peer

/-! ## the worker -/

/-- The request a command stands for. -/
def WorkerCommand.request? {api : Api} (agentSessionId : Option String) :
    WorkerCommand api → Option (HostRequest api.Implementation)
  | .initializeAgent client => some (.initializeAgent client)
  | .newSession cwd => some (.newSession cwd)
  | .listSessions cwd cursor => some (.listSessions cwd cursor)
  | .loadSession sessionId cwd => some (.loadSession sessionId cwd)
  | .resumeSession sessionId cwd => some (.resumeSession sessionId cwd)
  | .prompt text => agentSessionId.map fun sessionId => .prompt sessionId text
  | .setMode modeId => agentSessionId.map fun sessionId => .setMode sessionId modeId
  | .setConfigOption configId valueId =>
      agentSessionId.map fun sessionId => .setConfigOption sessionId configId valueId
  | .shutdown => none

inductive WorkerLabel (api : Api) where
  /-- The agent sends lines. -/
  | arrive (lines : List String)
  /-- The worker takes a command. -/
  | work (command : WorkerCommand api)

namespace WorkerThread

variable {api : Api} {worker worker' : WorkerThread api}

def arrive (lines : List String) (worker : WorkerThread api) : WorkerThread api :=
  { worker with peer := { worker.peer with client := { worker.peer.client with
      transport := { worker.peer.client.transport with
        lines := worker.peer.client.transport.lines ++ lines } } } }

def next (worker : WorkerThread api) : WorkerLabel api → Option (WorkerThread api)
  | .arrive lines => some (worker.arrive lines)
  | .work command => if worker.stopped then none else some (worker.work command)

/-- All runs of a worker, whatever the agent sends and whichever commands come. -/
def system (api : Api) : System (WorkerThread api) (WorkerLabel api) := .ofNext Fresh next

/-- The worker's commands are for a session that is open. -/
structure Sound (worker : WorkerThread api) : Prop where
  abides : worker.peer.Abides
  isOpen : ∀ sessionId, worker.agentSessionId = some sessionId →
    sessionId ∈ worker.peer.sessions

/-- What the worker asks for a command: the request it stands for, if the protocol
permits it. -/
structure Proceeds (worker : WorkerThread api) (made : Option (HostRequest api.Implementation))
    (worker' : WorkerThread api) : Prop where
  sound : worker'.Sound
  asks : ∀ request, made = some request → worker.peer.standing.Permits request →
    worker.peer.Asks worker'.peer request
  silent : (∀ request, made = some request → ¬ worker.peer.standing.Permits request) →
    worker'.peer.asked = worker.peer.asked ∧ worker'.peer.standing = worker.peer.standing

theorem sessions_subset_next (standing : Standing) (asked : Asked api) :
    standing.sessions ⊆ ((acp api).next standing asked).sessions := by
  obtain ⟨request, answer⟩ := asked
  cases answer with
  | none => exact Finset.Subset.refl _
  | some value =>
      show standing.sessions ⊆ (standing.answered api value request).sessions
      unfold Standing.answered
      split
      · split
        · split <;> exact Finset.Subset.refl _
        · exact Finset.Subset.refl _
      · split
        · exact Finset.subset_insert _ _
        · exact Finset.Subset.refl _
      · split
        · exact Finset.subset_insert _ _
        · exact Finset.Subset.refl _
      · split
        · exact Finset.subset_insert _ _
        · exact Finset.Subset.refl _
      all_goals exact Finset.Subset.refl _

/-- The call of a command decides what the worker asks. -/
theorem proceeds_of_conducts (h : worker.Sound) {α : Type}
    {made : HostRequest api.Implementation} {outcome : Except (CallError api) α}
    (hconducts : worker.peer.Conducts made outcome worker'.peer)
    (hopen : ∀ sessionId, worker'.agentSessionId = some sessionId →
      worker.agentSessionId = some sessionId ∨ sessionId ∈ worker'.peer.sessions) :
    worker.Proceeds (some made) worker' := by
  have hkept : worker.peer.sessions ⊆ worker'.peer.sessions ∧ worker'.peer.Abides := by
    by_cases hpermits : worker.peer.standing.Permits made
    · obtain ⟨habides, answer, -, hstanding⟩ := hconducts.asks hpermits
      refine ⟨?_, habides⟩
      have hnext := sessions_subset_next worker.peer.standing ⟨made, answer⟩
      rw [← hstanding] at hnext
      exact hnext
    · obtain ⟨hsame, -⟩ := hconducts.refuses hpermits
      rw [hsame]
      exact ⟨Finset.Subset.refl _, h.abides⟩
  refine ⟨⟨hkept.2, fun sessionId hid => ?_⟩, fun request hrequest hpermits => ?_,
    fun hnone => ?_⟩
  · rcases hopen sessionId hid with hbefore | hnow
    · exact hkept.1 (h.isOpen sessionId hbefore)
    · exact hnow
  · cases hrequest
    exact hconducts.asks hpermits
  · obtain ⟨hsame, -⟩ := hconducts.refuses (hnone made rfl)
    rw [hsame]
    exact ⟨rfl, rfl⟩

/-- A command that stands for no request. -/
theorem proceeds_of_same (h : worker.Sound) (hid : worker'.agentSessionId = worker.agentSessionId)
    (habides : worker'.peer.Abides) (hasked : worker'.peer.asked = worker.peer.asked)
    (hstanding : worker'.peer.standing = worker.peer.standing) : worker.Proceeds none worker' where
  sound := ⟨habides, fun sessionId hopen => by
    have hsessions : worker'.peer.sessions = worker.peer.sessions :=
      congrArg Standing.sessions hstanding
    rw [hsessions]
    rw [hid] at hopen
    exact h.isOpen sessionId hopen⟩
  asks _ hrequest := by cases hrequest
  silent _ := ⟨hasked, hstanding⟩

theorem proceeds_replying (h : worker.Sound) {α β : Type}
    {call : Talking api NormalizingHandler α} {made : HostRequest api.Implementation}
    (summary : α → β) (reply : Except AcpError β → WorkerReply)
    (hcall : ∀ outcome peer', call.exec worker.peer = (outcome, peer') →
      worker.peer.Conducts made outcome peer') :
    worker.Proceeds (some made) (worker.replying call summary reply) := by
  unfold replying
  rcases hexec : call.exec worker.peer with ⟨outcome, peer'⟩
  exact proceeds_of_conducts h (hcall outcome peer' hexec) fun _ hid => .inl hid

theorem proceeds_opening (h : worker.Sound) {α : Type} {call : Talking api NormalizingHandler α}
    {made : HostRequest api.Implementation} (metadata : α → SessionMetadata)
    (hcall : ∀ outcome peer', call.exec worker.peer = (outcome, peer') →
      worker.peer.Conducts made outcome peer' ∧
        ∀ a, outcome = .ok a → (metadata a).agentSessionId ∈ peer'.sessions) :
    worker.Proceeds (some made) (worker.opening call metadata) := by
  unfold opening
  rcases hexec : call.exec worker.peer with ⟨outcome, peer'⟩
  obtain ⟨hconducts, hopened⟩ := hcall outcome peer' hexec
  cases outcome with
  | error error => exact proceeds_of_conducts h hconducts fun _ hid => .inl hid
  | ok a =>
      refine proceeds_of_conducts h hconducts fun sessionId hid => .inr ?_
      cases hid
      exact hopened a rfl

theorem proceeds_replyingOpen (h : worker.Sound) {α β : Type}
    {call : String → Talking api NormalizingHandler α}
    {made : String → HostRequest api.Implementation}
    (summary : α → β) (reply : Except AcpError β → WorkerReply)
    (hcall : ∀ sessionId ∈ worker.peer.sessions, ∀ outcome peer',
      (call sessionId).exec worker.peer = (outcome, peer') →
        worker.peer.Conducts (made sessionId) outcome peer') :
    worker.Proceeds (worker.agentSessionId.map made)
      (worker.replyingOpen call summary reply) := by
  unfold replyingOpen
  cases hid : worker.agentSessionId with
  | none => exact proceeds_of_same h hid.symm h.abides rfl rfl
  | some sessionId =>
      exact proceeds_replying h summary reply (hcall sessionId (h.isOpen sessionId hid))

/-- Sending an event asks nothing. -/
theorem Proceeds.send {made : Option (HostRequest api.Implementation)}
    (h : worker.Proceeds made worker') (event : AgentEvent) :
    worker.Proceeds made (worker'.send event) where
  sound := ⟨⟨h.sound.abides.initialized, h.sound.abides.opened, h.sound.abides.nextId,
    h.sound.abides.requests, h.sound.abides.written⟩, h.sound.isOpen⟩
  asks request hrequest hpermits := by
    obtain ⟨habides, hasked⟩ := h.asks request hrequest hpermits
    exact ⟨⟨habides.initialized, habides.opened, habides.nextId, habides.requests,
      habides.written⟩, hasked⟩
  silent hnone := h.silent hnone

theorem proceeds_prompted {made : Option (HostRequest api.Implementation)}
    (h : worker.Proceeds made worker') (outcome : Except (CallError api) StopReason) :
    worker.Proceeds made (worker'.prompted outcome) := by
  unfold prompted
  split
  · exact h.send _
  · obtain ⟨hsound, hasks, hsilent⟩ := h.send (.exited none "agent connection closed")
    exact ⟨⟨hsound.abides, hsound.isOpen⟩, hasks, hsilent⟩
  · exact h.send _

/-- **One command**: the worker asks for it exactly what the protocol permits. -/
theorem proceeds_work (h : worker.Sound) (command : WorkerCommand api) :
    worker.Proceeds (command.request? worker.agentSessionId) (worker.work command) := by
  cases command with
  | initializeAgent client =>
      exact proceeds_replying h _ _ fun _ _ => Peer.conducts_initializeAgent h.abides client
  | newSession cwd =>
      show worker.Proceeds (some (.newSession cwd)) (worker.opening (Peer.newSession cwd) _)
      refine proceeds_opening h _ fun outcome peer' hexec => ?_
      exact Peer.conducts_newSession h.abides cwd hexec
  | listSessions cwd cursor =>
      exact proceeds_replying h _ _ fun _ _ => Peer.conducts_listSessions h.abides cwd cursor
  | loadSession sessionId cwd =>
      show worker.Proceeds (some (.loadSession sessionId cwd))
        (worker.opening (Peer.loadSession sessionId cwd) _)
      refine proceeds_opening h _ fun outcome peer' hexec => ?_
      exact Peer.conducts_loadSession h.abides sessionId cwd hexec
  | resumeSession sessionId cwd =>
      show worker.Proceeds (some (.resumeSession sessionId cwd))
        (worker.opening (Peer.resumeSession sessionId cwd) _)
      refine proceeds_opening h _ fun outcome peer' hexec => ?_
      exact Peer.conducts_resumeSession h.abides sessionId cwd hexec
  | prompt text =>
      show worker.Proceeds _ (worker.prompt text)
      unfold WorkerThread.prompt WorkerCommand.request?
      cases hid : worker.agentSessionId with
      | none => exact (proceeds_of_same h rfl h.abides rfl rfl).send _
      | some sessionId =>
          dsimp only
          rcases hexec : (Peer.prompt sessionId text : Talking api NormalizingHandler StopReason).exec
            worker.peer with ⟨outcome, peer'⟩
          have hconducts := Peer.conducts_prompt h.abides sessionId text hexec
          exact proceeds_prompted
            (proceeds_of_conducts h hconducts fun _ hopen => .inl (hid.trans hopen)) outcome
  | setMode modeId =>
      exact proceeds_replyingOpen h _ _ fun sessionId hopen _ _ =>
        Peer.conducts_setMode h.abides hopen modeId
  | setConfigOption configId valueId =>
      exact proceeds_replyingOpen h _ _ fun sessionId hopen _ _ =>
        Peer.conducts_setConfigOption h.abides hopen configId valueId
  | shutdown => exact proceeds_of_same h rfl h.abides rfl rfl

theorem sound_of_reachable (h : (system api).Reachable worker) : worker.Sound := by
  refine System.invariant_of_step ?_ ?_ h
  · intro start hfresh
    have hrequests : start.peer.client.requestsSent = [] := by
      rw [AcpClient.requestsSent, hfresh.sent]
      rfl
    refine ⟨⟨?_, ?_, ?_, ?_, fun _ => ?_⟩, ?_⟩
    · rw [hfresh.initialized, hfresh.agentCapabilities]
      rfl
    · rw [hfresh.sessions]
      exact fun _ hmem => absurd hmem (Finset.notMem_empty _)
    · rw [hfresh.nextId, hfresh.asked]
      rfl
    · rw [hrequests, hfresh.asked]
      exact List.Sublist.refl _
    · rw [hrequests, hfresh.asked]
      rfl
    · rw [hfresh.agentSessionId]
      exact nofun
  · intro worker label worker' hsound _ hstep
    cases label with
    | arrive lines =>
        cases hstep
        exact ⟨⟨hsound.abides.initialized, hsound.abides.opened, hsound.abides.nextId,
          hsound.abides.requests, hsound.abides.written⟩, hsound.isOpen⟩
    | work command =>
        have hwork : (if worker.stopped then none else some (worker.work command)) =
            some worker' := hstep
        split at hwork
        · contradiction
        · cases hwork
          exact (proceeds_work hsound command).sound

/-- **The conversation**: in every run the requests the worker makes, with their answers,
are a trace of the protocol, and they lead to what the client believes was agreed on.
The request frames it writes are theirs, in order and with consecutive ids, up to those
the writer did not take.  And each command is asked for exactly if the protocol permits
it where it comes. -/
theorem conversation_conforms (h : (system api).Reachable worker) :
    (acp api).Tracks {} worker.peer.asked worker.peer.standing ∧
      worker.peer.client.requestsSent.Sublist (requestFrames worker.peer.asked) ∧
      (worker.peer.client.transport.room = none →
        worker.peer.client.requestsSent = requestFrames worker.peer.asked) ∧
      ∀ command : WorkerCommand api,
        (∀ request, command.request? worker.agentSessionId = some request →
          worker.peer.standing.Permits request →
            ∃ answer, (worker.work command).peer.asked =
              worker.peer.asked ++ [⟨request, answer⟩]) ∧
          ((∀ request, command.request? worker.agentSessionId = some request →
            ¬ worker.peer.standing.Permits request) →
              (worker.work command).peer.asked = worker.peer.asked) := by
  have hsound := sound_of_reachable h
  refine ⟨?_, hsound.abides.requests, hsound.abides.written, fun command => ⟨?_, ?_⟩⟩
  · refine Automaton.tracks_of_reachable (fun worker : WorkerThread api => worker.peer.asked)
      (fun worker => worker.peer.standing) ?_ ?_ h
    · intro start hfresh
      refine ⟨hfresh.asked, ?_⟩
      rw [Peer.standing, hfresh.agentCapabilities, hfresh.sessions]
    · intro worker label worker' hreach hstep
      have hbefore := sound_of_reachable hreach
      cases label with
      | arrive lines =>
          cases hstep
          exact ⟨[], (List.append_nil _).symm, .nil _⟩
      | work command =>
          have hwork : (if worker.stopped then none else some (worker.work command)) =
              some worker' := hstep
          split at hwork
          · contradiction
          · cases hwork
            have hproceeds := proceeds_work hbefore command
            by_cases hmade : ∃ request, command.request? worker.agentSessionId = some request ∧
                worker.peer.standing.Permits request
            · obtain ⟨request, hrequest, hpermits⟩ := hmade
              obtain ⟨-, answer, hasked, hstanding⟩ := hproceeds.asks request hrequest hpermits
              exact ⟨_, hasked, Automaton.tracks_singleton.mpr ⟨hpermits, hstanding.symm⟩⟩
            · obtain ⟨hasked, hstanding⟩ := hproceeds.silent fun request hrequest hpermits =>
                hmade ⟨request, hrequest, hpermits⟩
              refine ⟨[], ?_, ?_⟩
              · rw [hasked, List.append_nil]
              · rw [hstanding]
                exact .nil _
  · intro request hrequest hpermits
    obtain ⟨-, answer, hasked, -⟩ :=
      (proceeds_work hsound command).asks request hrequest hpermits
    exact ⟨answer, hasked⟩
  · exact fun hnone => ((proceeds_work hsound command).silent hnone).1

end WorkerThread

/-! ## an agent that advertises nothing -/

def handshakeLine : String :=
  "\x7b\"jsonrpc\":\"2.0\",\"id\":1,\"result\":\x7b\"protocolVersion\":1\x7d\x7d\n"

def handshakeResult : Json := .obj [("protocolVersion", .int 1)]

/-- What the line says. -/
def handshakeFromStr (line : String) : Except String Json :=
  if line = trimmed handshakeLine then
    .ok (.obj [("jsonrpc", .str "2.0"), ("id", .int 1), ("result", handshakeResult)])
  else .error "expected value at line 1 column 1"

/-- Capabilities that are left out are not advertised. -/
def handshakeResponse : Json → Except String InitializeResponse
  | .obj fields =>
      match fields.lookup "protocolVersion", fields.lookup "agentCapabilities" with
      | some (.int version), none =>
          .ok { protocolVersion := version.toNat
                agentCapabilities := ⟨false, false, false⟩
                agentInfo := none }
      | _, _ => .error "invalid type"
  | _ => .error "invalid type"

def handshakeParams : HostRequest (String × String) → Json
  | .initializeAgent (name, version) =>
      .obj [("protocolVersion", .int 1),
        ("clientCapabilities", .obj
          [("fs", .obj [("readTextFile", .bool false), ("writeTextFile", .bool false)]),
            ("terminal", .bool false),
            ("session", .obj [("configOptions", .obj [("boolean", .obj [])])])]),
        ("clientInfo", .obj [("name", .str name), ("version", .str version)])]
  | .loadSession sessionId cwd =>
      .obj [("sessionId", .str sessionId), ("cwd", .str cwd), ("mcpServers", .arr [])]
  | _ => .null

def handshakeApi : Api where
  toSchema := { sampleSchema with fromStr := handshakeFromStr }
  Implementation := String × String
  params := handshakeParams
  initialized := handshakeResponse
  created _ := .error "missing field"
  listed _ := .error "missing field"
  opened _ := .error "missing field"
  configured _ := .error "missing field"
  modeSet _ := .ok ()
  prompted _ := .error "missing field"
  permissionRequest _ := { toolCall := { toolCallId := "", fields := {} }, options := [] }
  sessionUpdate _ := .other
  errorCode := Prod.fst
  errorMessage := Prod.snd
  ioError := "broken pipe"
  pretty _ := "\x7b\x7d"

def handshakeWorker : WorkerThread handshakeApi where
  peer := { client := { transport := { lines := [] }, handler := { decisions := fun _ => .cancelled } } }

/-- The agent answers `initialize`, and a session is not loaded from it. -/
theorem conversation_conforms_sample :
    ∃ worker : WorkerThread handshakeApi,
      WorkerThread.next (handshakeWorker.arrive [handshakeLine])
        (.work (.initializeAgent ("slight-test", "0.1.0"))) = some worker ∧
      worker.peer.asked =
        [⟨.initializeAgent ("slight-test", "0.1.0"), some handshakeResult⟩] ∧
      (acp handshakeApi).Tracks {} worker.peer.asked worker.peer.standing ∧
      (worker.work (.loadSession "s-1" "/tmp")).peer.asked = worker.peer.asked := by
  obtain ⟨worker, hnext, hasked, hnone⟩ : ∃ worker : WorkerThread handshakeApi,
      WorkerThread.next (handshakeWorker.arrive [handshakeLine])
        (.work (.initializeAgent ("slight-test", "0.1.0"))) = some worker ∧
      worker.peer.asked = [⟨.initializeAgent ("slight-test", "0.1.0"), some handshakeResult⟩] ∧
      worker.peer.agentCapabilities = some ⟨false, false, false⟩ := ⟨_, rfl, rfl, rfl⟩
  have hfresh : handshakeWorker.Fresh := ⟨rfl, rfl, rfl, rfl, rfl, rfl, rfl, rfl, rfl⟩
  have hreach : (WorkerThread.system handshakeApi).Reachable worker :=
    .step (.step (.init hfresh) trivial (a := .arrive [handshakeLine]) rfl) trivial hnext
  obtain ⟨htracks, -, -, hcommands⟩ := WorkerThread.conversation_conforms hreach
  refine ⟨worker, hnext, hasked, htracks, (hcommands (.loadSession "s-1" "/tmp")).2 ?_⟩
  intro request hrequest hpermits
  cases hrequest
  have hload : worker.peer.agentCapabilities.any (·.loadSession) = true := hpermits
  rw [hnone] at hload
  contradiction

end Acp

end Slight
