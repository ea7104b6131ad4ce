import Slight.Gateway.Discipline
import Slight.Session.Journal

/-!
# Slight.Gateway.Scopes

What a context may do.  The protocol gives every command a scope
(`requiredScope`); the server's own table has one name less, and it looks for a
remembered answer before it looks at the table.

`ScopeSafe` is the condition under which a command respects the scopes, and
`scopes_enforced` says so of every connection.
-/

namespace Slight

open Support Program

namespace Gateway

variable {S C A : Type}

/-! ## what a command leaves untouched -/

/-- Sessions, store, pairings, devices and the host's life are what they were; a
channel may have been opened. -/
structure Server.Untouched (server server' : Server S C A) : Prop where
  admin : server'.admin = server.admin
  store : server'.world.inner.store = server.world.inner.store
  recovered : server'.world.inner.recovered = server.world.inner.recovered
  sessions : ∀ id, (server'.world.inner.sessions.lookup id).map Session.product =
    (server.world.inner.sessions.lookup id).map Session.product
  channels : ∀ id, server.world.channels id <+: server'.world.channels id

namespace Server.Untouched

theorem refl (server : Server S C A) : server.Untouched server where
  admin := rfl
  store := rfl
  recovered := rfl
  sessions _ := rfl
  channels _ := List.prefix_refl _

theorem trans {server server' server'' : Server S C A} (h : server.Untouched server')
    (h' : server'.Untouched server'') : server.Untouched server'' where
  admin := h'.admin.trans h.admin
  store := h'.store.trans h.store
  recovered := h'.recovered.trans h.recovered
  sessions id := (h'.sessions id).trans (h.sessions id)
  channels id := (h.channels id).trans (h'.channels id)

/-- Reading the sessions. -/
theorem of_reads (server : Server S C A) {world : World S C} (h : server.world.Reads world) :
    server.Untouched { server with world } := by
  have hworld : world = { server.world with ticks := world.ticks } := h
  rw [hworld]
  exact ⟨rfl, rfl, rfl, fun _ => rfl, fun _ => List.prefix_refl _⟩

/-- Another connection to an agent. -/
theorem setConnection (server : Server S C A) {sessionId : SessionId} {session : Session C}
    (hlookup : server.world.inner.sessions.lookup sessionId = some session) (connection : C) :
    server.Untouched { server with
      world := server.world.setSession sessionId { session with connection } } := by
  refine ⟨rfl, rfl, rfl, fun id => ?_, fun _ => List.prefix_refl _⟩
  show ((server.world.inner.sessions.insert sessionId _).lookup id).map Session.product = _
  by_cases hid : id = sessionId
  · subst hid
    rw [AList.lookup_insert, hlookup]
    rfl
  · rw [AList.lookup_insert_ne hid]

/-- A new channel. -/
theorem subscribed (server : Server S C A) (sessionId : SessionId) :
    server.Untouched { server with world := server.world.subscribed sessionId } := by
  refine ⟨rfl, rfl, rfl, fun _ => rfl, fun id => ?_⟩
  show _ <+: ((server.world.inner.subscribers.insert sessionId _).lookup id).getD []
  by_cases hid : id = sessionId
  · subst hid
    rw [AList.lookup_insert]
    exact List.prefix_append _ _
  · rw [AList.lookup_insert_ne hid]
    exact List.prefix_refl _

end Server.Untouched

/-! ### reading commands -/

/-- The server is untouched between two states of a connection. -/
def Connected.Spares (connected connected' : Connected S C A) : Prop :=
  connected.server.Untouched connected'.server

theorem Connected.Spares.of_performs {α : Type} {m : Dispatch S C A α}
    (h : m.Performs Connected.Spares) (connected : Connected S C A) :
    connected.server.Untouched (m.final connected).server :=
  h.preserves (I := fun connected' => connected.server.Untouched connected'.server)
    (fun _ _ hstep hspares => hspares.trans hstep) (.refl _)

namespace Dispatch

theorem spares_manager {α : Type} {m : Manager S C α} (h : m.Performs World.Reads) :
    (manager m : Dispatch S C A α).Performs Connected.Spares :=
  performs_of_step fun connected =>
    .of_reads connected.server (.of_performs h connected.server.world)

theorem spares_sessionOf (command : Command) :
    (sessionOf command : Dispatch S C A SessionId).Performs Connected.Spares := by
  unfold sessionOf
  split
  · exact performs_pure _
  · exact performs_throw _

theorem spares_params {α : Type} [Serde α] (command : Command) :
    (params α command : Dispatch S C A α).Performs Connected.Spares := by
  unfold params
  split
  · exact performs_pure _
  · exact performs_bind performs_get fun _ => performs_throw _

theorem spares_modifyState (change : ConnState → ConnState) :
    (modifyState change : Dispatch S C A Unit).Performs Connected.Spares :=
  performs_of_step fun connected => .refl connected.server

theorem spares_subscribe (sessionId : SessionId) :
    (subscribe sessionId : Dispatch S C A Unit).Performs Connected.Spares := by
  refine performs_bind (performs_attempt (performs_of_step fun connected => ?_)) fun outcome => ?_
  · by_cases hmem : sessionId ∈ connected.server.world.inner.sessions
    · have hfinal : ((manager (Manager.subscribe sessionId)).final connected).server =
          { connected.server with world := connected.server.world.subscribed sessionId } := by
        show { connected.server with
          world := ((Manager.subscribe sessionId).exec connected.server.world).2 } = _
        rw [Manager.exec_subscribe hmem]
      rw [Connected.Spares, hfinal]
      exact .subscribed connected.server sessionId
    · have hlookup := AList.lookup_eq_none.mpr hmem
      have hfinal : ((manager (Manager.subscribe sessionId)).final connected).server =
          connected.server := by
        show { connected.server with
          world := ((Manager.subscribe sessionId).exec connected.server.world).2 } = _
        rw [Manager.subscribe, exec_bind, Manager.exec_requireSession_none hlookup]
      rw [Connected.Spares, hfinal]
      exact .refl _
  · cases outcome with
    | ok channel => exact spares_modifyState _
    | error error => exact performs_pure _

theorem spares_attach (command : Command) :
    (attach command : Dispatch S C A _).Performs Connected.Spares := by
  refine performs_bind (spares_sessionOf command) fun sessionId => ?_
  refine performs_bind (spares_manager (Manager.reads_attach _ _)) fun result => ?_
  exact performs_bind (spares_subscribe sessionId) fun _ => performs_pure _

end Dispatch

/-! ## the table -/

/-- The scope the protocol gives a command. -/
def CommandName.requiredScope : CommandName → Scope
  | .sessionList | .sessionWorkingDirectories | .sessionAttach | .sessionDetach | .sessionInspect
  | .sessionHistory | .sessionResume | .eventsReplay | .agentSessionsList => .readSessions
  | .sessionCreate | .agentSessionImport => .createSession
  | .sessionInput | .sessionCancel | .sessionRename | .sessionArchive | .sessionSetMode
  | .sessionSetConfigOption => .sendInput
  | .sessionPermissionRespond => .respondPermission
  | .hostStatus | .hostStart | .hostStop | .hostRestart | .hostConfiguration | .hostDiagnostics
  | .hostShutdown | .deviceList | .deviceRevoke | .pairingCreate | .pairingList => .manageHost

/-- **The table** has every name but one. -/
theorem CommandName.scope?_eq (name : CommandName) :
    name.scope? = if name = .sessionSetConfigOption then none else some name.requiredScope := by
  cases name <;> rfl

theorem authorize_ofName (context : AuthContext) {command : String} {name : CommandName}
    (hname : CommandName.ofName command = some name) (hother : name ≠ .sessionSetConfigOption) :
    authorize context command =
      if context.has name.requiredScope then .ok ()
      else .error (.unauthorized (command ++ " requires " ++ name.requiredScope.name)) := by
  have hscope : (CommandName.ofName command).bind CommandName.scope? = some name.requiredScope := by
    rw [hname, Option.bind_some, CommandName.scope?_eq, if_neg hother]
  unfold authorize
  rw [hscope]

theorem authorize_setConfigOption (context : AuthContext) {command : String}
    (hname : CommandName.ofName command = some .sessionSetConfigOption) :
    authorize context command = .ok () := by
  have hscope : (CommandName.ofName command).bind CommandName.scope? = none := by
    rw [hname]
    rfl
  unfold authorize
  rw [hscope]

theorem authorize_unknown (context : AuthContext) {command : String}
    (hname : CommandName.ofName command = none) : authorize context command = .ok () := by
  unfold authorize
  rw [hname]
  rfl

section

variable [SessionStore S] [AcpSession C] [AcpDiscovery C] [HostAdmin S C A]

/-- **Reading commands** leave the server untouched. -/
theorem Dispatch.spares_command (config : GatewayConfig) (request : Command) {name : CommandName}
    (hname : name.requiredScope = .readSessions) :
    (Dispatch.command config request name : Dispatch S C A _).Performs Connected.Spares := by
  have hmanager : ∀ {α : Type} {m : Manager S C α} (result : α → CommandResult),
      m.Performs World.Reads →
      (do let a ← manager m
          pure (result a) : Dispatch S C A _).Performs Connected.Spares :=
    fun result h => performs_bind (spares_manager h) fun _ => performs_pure _
  cases name with
  | sessionList => exact hmanager _ Manager.reads_listSessions
  | sessionWorkingDirectories => exact hmanager _ (Manager.reads_workspacePaths 20)
  | agentSessionsList =>
      refine performs_bind (spares_params request) fun _ => performs_bind performs_get fun _ => ?_
      refine performs_bind (spares_manager (Manager.reads_listAgentSessions _ _ _)) fun _ => ?_
      exact hmanager _ (Manager.reads_importedAgentSessionIds _)
  | sessionAttach => exact performs_bind (spares_attach request) fun _ => performs_pure _
  | sessionResume => exact performs_bind (spares_attach request) fun _ => performs_pure _
  | eventsReplay => exact performs_bind (spares_attach request) fun _ => performs_pure _
  | sessionHistory =>
      exact performs_bind (spares_sessionOf request) fun _ =>
        hmanager _ (Manager.reads_history _ _ _)
  | sessionInspect =>
      exact performs_bind (spares_sessionOf request) fun _ =>
        hmanager _ (Manager.reads_inspectSession _)
  | sessionDetach =>
      unfold command
      dsimp only
      split
      · exact performs_bind (spares_modifyState _) fun _ => performs_pure _
      · exact performs_pure _
  | _ => contradiction

/-! ## the command that is not in the table -/

/-- A `session.set_config_option` that takes effect: it names a live session, its
params decode, and the session's agent grants the change. -/
def Server.GrantsConfigOption (server : Server S C A) (command : Command) : Prop :=
  ∃ sessionId params session, command.sessionId = some sessionId ∧
    command.paramsAs SetSessionConfigOptionParams = some params ∧
    server.world.inner.sessions.lookup sessionId = some session ∧
    (AcpSession.setConfigOption session.connection params.configId params.valueId).1.toBool = true

end

end Gateway

namespace Manager

variable {S C : Type} [SessionStore S] [AcpSession C]
variable {world : World S C} {sessionId : SessionId} {session : Session C}

/-- A change the agent refuses. -/
theorem exec_setConfigOption_refused
    (hlookup : world.inner.sessions.lookup sessionId = some session) {configId valueId : String}
    {error : AcpError}
    (hrefused : (AcpSession.setConfigOption session.connection configId valueId).1 = .error error) :
    (setConfigOption sessionId configId valueId : Manager S C Unit).exec world =
      (.error (.agent error), world.setSession sessionId { session with
        connection := (AcpSession.setConfigOption session.connection configId valueId).2 }) := by
  rw [setConfigOption, exec_bind, exec_call hlookup, hrefused]
  rfl

/-- A change the agent grants. -/
theorem result_setConfigOption_granted
    (hlookup : world.inner.sessions.lookup sessionId = some session) {configId valueId : String}
    {options : List AcpConfigOption}
    (hgranted : (AcpSession.setConfigOption session.connection configId valueId).1 = .ok options) :
    (setConfigOption sessionId configId valueId : Manager S C Unit).result world = .ok () := by
  have hexists : ∀ (world' : World S C) (session' : Session C),
      world'.inner.sessions.lookup sessionId = some session' →
      (do modifySession sessionId fun session => { session with configOptions := options }
          let _ ← append sessionId (.configOptions ⟨options⟩) : Manager S C Unit).result world' =
        .ok () := by
    intro world' session' hlookup'
    rw [result, modifySession, exec_bind, exec_bind, exec_lookupSession]
    dsimp only
    rw [hlookup']
    dsimp only
    rw [exec_setSession]
    dsimp only
    rw [exec_bind, exec_append (AList.lookup_insert _)]
    rfl
  rw [result, setConfigOption, exec_bind, exec_call hlookup, hgranted]
  exact hexists _ _ (AList.lookup_insert _)

end Manager

namespace Gateway

/-- A command to one session whose session or params are missing. -/
theorem Dispatch.exec_onSession_undecoded {α : Type} [Serde α] {command : Command}
    (run : SessionId → α → Manager S C CommandResult) (connected : Connected S C A)
    (h : command.sessionId = none ∨ command.paramsAs α = none) :
    ∃ error, (onSession α command run).exec connected = (.error error, connected) := by
  unfold onSession sessionOf
  cases hsession : command.sessionId with
  | none => exact ⟨_, rfl⟩
  | some sessionId =>
      have hparams : command.paramsAs α = none := by
        rw [hsession] at h
        exact h.resolve_left (Option.some_ne_none sessionId)
      unfold params
      rw [hparams]
      exact ⟨_, rfl⟩

theorem Dispatch.exec_onSession {α : Type} [Serde α] {command : Command} {sessionId : SessionId}
    {params : α} (run : SessionId → α → Manager S C CommandResult) (connected : Connected S C A)
    (hsession : command.sessionId = some sessionId) (hparams : command.paramsAs α = some params) :
    (onSession α command run).exec connected =
      (manager (run sessionId params)).exec connected := by
  unfold onSession sessionOf Dispatch.params
  rw [hsession, hparams]
  rfl

section

variable [SessionStore S] [AcpSession C] [AcpDiscovery C] [HostAdmin S C A]

/-- What is acknowledged and changed by a command of which the program is known. -/
theorem dispatch_eq (config : GatewayConfig) {connected connected' : Connected S C A}
    {command : Command} {name : CommandName} {outcome : Except ProtocolError CommandResult}
    (hname : CommandName.ofName command.command = some name)
    (hexec : (Dispatch.command config command name).exec connected = (outcome, connected')) :
    dispatch config connected command =
      ({ requestId := command.requestId, outcome := outcome.mapError ProtocolError.body },
        connected') := by
  unfold dispatch
  rw [hname]
  dsimp only
  rw [hexec]

/-- **A granted change** is acknowledged. -/
theorem dispatch_granted (config : GatewayConfig) {connected : Connected S C A} {command : Command}
    (hname : CommandName.ofName command.command = some .sessionSetConfigOption)
    (hgrants : connected.server.GrantsConfigOption command) :
    (dispatch config connected command).1.ok = true := by
  obtain ⟨sessionId, params, session, hsession, hparams, hlookup, hgranted⟩ := hgrants
  obtain ⟨options, hoptions⟩ : ∃ options,
      (AcpSession.setConfigOption session.connection params.configId params.valueId).1 =
        .ok options := by
    cases houtcome :
        (AcpSession.setConfigOption session.connection params.configId params.valueId).1 with
    | ok options => exact ⟨options, rfl⟩
    | error error =>
        rw [houtcome] at hgranted
        contradiction
  have hresult := Manager.result_setConfigOption_granted hlookup hoptions
  have hrun : (do Manager.setConfigOption sessionId params.configId params.valueId
                  pure .unit : Manager S C CommandResult).result connected.server.world =
      .ok .unit := by
    rw [result] at hresult ⊢
    rw [exec_bind]
    split
    · rfl
    · next heq =>
        rw [heq] at hresult
        contradiction
  have hexec := Dispatch.exec_onSession (fun sessionId (params : SetSessionConfigOptionParams) => do
    Manager.setConfigOption sessionId params.configId params.valueId
    pure .unit) connected hsession hparams
  rw [Dispatch.exec_manager, hrun] at hexec
  rw [dispatch_eq config hname hexec]
  rfl

/-- **A change that is not granted** is refused, and changes nothing. -/
theorem dispatch_refused (config : GatewayConfig) {connected : Connected S C A} {command : Command}
    (hname : CommandName.ofName command.command = some .sessionSetConfigOption)
    (hgrants : ¬ connected.server.GrantsConfigOption command) :
    (dispatch config connected command).1.ok = false ∧
      connected.server.Untouched (dispatch config connected command).2.server := by
  by_cases hundecoded : command.sessionId = none ∨
      command.paramsAs SetSessionConfigOptionParams = none
  · obtain ⟨error, hexec⟩ := Dispatch.exec_onSession_undecoded
      (fun sessionId (params : SetSessionConfigOptionParams) => do
        Manager.setConfigOption sessionId params.configId params.valueId
        pure .unit) connected hundecoded
    rw [dispatch_eq config hname hexec]
    exact ⟨rfl, .refl _⟩
  · obtain ⟨hsession, hparams⟩ := not_or.mp hundecoded
    obtain ⟨sessionId, hsession⟩ := Option.ne_none_iff_exists'.mp hsession
    obtain ⟨params, hparams⟩ := Option.ne_none_iff_exists'.mp hparams
    have hexec := Dispatch.exec_onSession (fun sessionId (params : SetSessionConfigOptionParams) => do
      Manager.setConfigOption sessionId params.configId params.valueId
      pure .unit) connected hsession hparams
    rw [Dispatch.exec_manager] at hexec
    rw [dispatch_eq config hname hexec]
    dsimp only
    cases hlookup : connected.server.world.inner.sessions.lookup sessionId with
    | none =>
        have hrun : (do Manager.setConfigOption sessionId params.configId params.valueId
                        pure .unit : Manager S C CommandResult).exec connected.server.world =
            (.error (.unknownSession sessionId), connected.server.world) := by
          rw [Manager.setConfigOption, exec_bind, exec_bind, Manager.call, exec_bind,
            Manager.exec_requireSession_none hlookup]
        rw [result, final, hrun]
        exact ⟨rfl, .refl _⟩
    | some session =>
        cases houtcome :
            (AcpSession.setConfigOption session.connection params.configId params.valueId).1 with
        | ok options =>
            refine absurd ⟨sessionId, params, session, hsession, hparams, hlookup, ?_⟩ hgrants
            rw [houtcome]
            rfl
        | error error =>
            have hrun : (do Manager.setConfigOption sessionId params.configId params.valueId
                            pure .unit : Manager S C CommandResult).exec connected.server.world =
                (.error (.agent error), connected.server.world.setSession sessionId { session with
                  connection := (AcpSession.setConfigOption session.connection params.configId
                    params.valueId).2 }) := by
              rw [exec_bind, Manager.exec_setConfigOption_refused hlookup houtcome]
            rw [result, final, hrun]
            exact ⟨rfl, .setConnection connected.server hlookup _⟩

/-! ## scopes over a connection -/

/-- The command respects the scopes of the context it arrives under: without the
scope it changes nothing and does not succeed, and a context that may only read
changes nothing with any command. -/
structure RespectsScopes (config : GatewayConfig) (connected : Connected S C A)
    (command : Command) : Prop where
  enforced : ∀ context name, connected.state.authed = some context →
    CommandName.ofName command.command = some name → context.has name.requiredScope = false →
    connected.server.Untouched (processCommand config connected command).1.server ∧
      (processCommand config connected command).2.ack.ok = false
  readOnly : ∀ context, connected.state.authed = some context →
    (∀ scope ∈ context.scopes, scope = .readSessions) →
    connected.server.Untouched (processCommand config connected command).1.server

/-- The command arrives under a context with its scope; or no success is
remembered under its request id, and it is not a configuration change that would
be granted. -/
def ScopeSafe (connected : Connected S C A) (command : Command) : Prop :=
  ∀ context name, connected.state.authed = some context →
    CommandName.ofName command.command = some name → context.has name.requiredScope = false →
    match connected.state.completedCommands.recalled command.requestId with
    | some ack => ack.ok = false
    | none => name = .sessionSetConfigOption → ¬ connected.server.GrantsConfigOption command

theorem processCommand_authorized (config : GatewayConfig) {connected : Connected S C A}
    {command : Command} {context : AuthContext} (hwelcome : connected.state.welcomeSent = true)
    (hauthed : connected.state.authed = some context)
    (hrecall : connected.state.completedCommands.recalled command.requestId = none)
    (hok : authorize context command.command = .ok ()) :
    processCommand config connected command =
      ((dispatch config connected command).2.remember (dispatch config connected command).1,
        { command
          ack := (dispatch config connected command).1
          handling := .dispatched context }) := by
  unfold processCommand
  rw [if_pos hwelcome]
  dsimp only
  rw [hrecall, hauthed]
  dsimp only [Option.getD_some]
  rw [hok]

theorem processCommand_unauthorized (config : GatewayConfig) {connected : Connected S C A}
    {command : Command} {context : AuthContext} (hwelcome : connected.state.welcomeSent = true)
    (hauthed : connected.state.authed = some context)
    (hrecall : connected.state.completedCommands.recalled command.requestId = none)
    {error : ProtocolError} (herror : authorize context command.command = .error error) :
    processCommand config connected command =
      (connected.remember (.error command.requestId error),
        { command, ack := .error command.requestId error, handling := .refused }) := by
  unfold processCommand
  rw [if_pos hwelcome]
  dsimp only
  rw [hrecall, hauthed]
  dsimp only [Option.getD_some]
  rw [herror]

variable {link : Link S C A}

/-- **Without the scope**: a safe command changes nothing and does not succeed. -/
theorem ScopeSafe.enforced (h : Disciplined link) (config : GatewayConfig) {command : Command}
    (hsafe : ScopeSafe link.connected command) {context : AuthContext} {name : CommandName}
    (hauthed : link.connected.state.authed = some context)
    (hname : CommandName.ofName command.command = some name)
    (hlacks : context.has name.requiredScope = false) :
    link.connected.server.Untouched (processCommand config link.connected command).1.server ∧
      (processCommand config link.connected command).2.ack.ok = false := by
  have hwelcome := h.welcomed_of_authed hauthed
  have hcase := hsafe context name hauthed hname hlacks
  cases hrecall : link.connected.state.completedCommands.recalled command.requestId with
  | some ack =>
      rw [hrecall] at hcase
      rw [processCommand_recalled config command hwelcome hrecall]
      exact ⟨.refl _, hcase⟩
  | none =>
      rw [hrecall] at hcase
      by_cases hset : name = .sessionSetConfigOption
      · subst hset
        rw [processCommand_authorized config hwelcome hauthed hrecall
          (authorize_setConfigOption context hname)]
        exact (dispatch_refused config hname (hcase rfl)).symm
      · have herror := authorize_ofName context hname hset
        rw [hlacks] at herror
        rw [processCommand_unauthorized config hwelcome hauthed hrecall herror]
        exact ⟨.refl _, rfl⟩

/-- **With nothing but the scope to read**: a safe command changes nothing. -/
theorem ScopeSafe.readOnly (h : Disciplined link) (config : GatewayConfig) {command : Command}
    (hsafe : ScopeSafe link.connected command) {context : AuthContext}
    (hauthed : link.connected.state.authed = some context)
    (hread : ∀ scope ∈ context.scopes, scope = .readSessions) :
    link.connected.server.Untouched (processCommand config link.connected command).1.server := by
  have hwelcome := h.welcomed_of_authed hauthed
  cases hrecall : link.connected.state.completedCommands.recalled command.requestId with
  | some ack =>
      rw [processCommand_recalled config command hwelcome hrecall]
      exact .refl _
  | none =>
      cases hname : CommandName.ofName command.command with
      | none =>
          rw [processCommand_authorized config hwelcome hauthed hrecall
            (authorize_unknown context hname)]
          show link.connected.server.Untouched (dispatch config link.connected command).2.server
          unfold dispatch
          rw [hname]
          exact .refl _
      | some name =>
          by_cases hlacks : context.has name.requiredScope = false
          · exact (hsafe.enforced h config hauthed hname hlacks).1
          · have hhas : context.has name.requiredScope = true := Bool.not_eq_false _ ▸ hlacks
            have hscope := hread _ (List.contains_iff_mem.mp hhas)
            have hother : name ≠ .sessionSetConfigOption := by
              rintro rfl
              contradiction
            have hok := authorize_ofName context hname hother
            rw [if_pos hhas] at hok
            rw [processCommand_authorized config hwelcome hauthed hrecall hok]
            show link.connected.server.Untouched (dispatch config link.connected command).2.server
            unfold dispatch
            rw [hname]
            exact Connected.Spares.of_performs
              (Dispatch.spares_command config command hscope) link.connected

/-- **One command**: the scopes are respected exactly if the command is safe. -/
theorem Disciplined.respectsScopes_iff (h : Disciplined link) (config : GatewayConfig)
    (command : Command) :
    RespectsScopes config link.connected command ↔ ScopeSafe link.connected command := by
  constructor
  · intro hrespects context name hauthed hname hlacks
    have hwelcome := h.welcomed_of_authed hauthed
    have hfails := (hrespects.enforced context name hauthed hname hlacks).2
    cases hrecall : link.connected.state.completedCommands.recalled command.requestId with
    | some ack =>
        rw [processCommand_recalled config command hwelcome hrecall] at hfails
        exact hfails
    | none =>
        rintro rfl hgrants
        rw [processCommand_authorized config hwelcome hauthed hrecall
          (authorize_setConfigOption context hname)] at hfails
        rw [dispatch_granted config hname hgrants] at hfails
        contradiction
  · intro hsafe
    exact ⟨fun context name hauthed hname hlacks => hsafe.enforced h config hauthed hname hlacks,
      fun context hauthed hread => hsafe.readOnly h config hauthed hread⟩

/-- **Scopes over a connection**: in every run all commands respect the scopes if
and only if all of them are safe where they arrive. -/
theorem scopes_enforced [Authenticator A] (config : GatewayConfig) (server : Server S C A)
    (steps : List (LinkStep S C A)) :
    (∀ done command rest, steps = done ++ .incoming (.ok (.command command)) :: rest →
      RespectsScopes config ((Link.new server).run config done).connected command) ↔
    (∀ done command rest, steps = done ++ .incoming (.ok (.command command)) :: rest →
      ScopeSafe ((Link.new server).run config done).connected command) := by
  have hstep : ∀ done command,
      RespectsScopes config ((Link.new server).run config done).connected command ↔
        ScopeSafe ((Link.new server).run config done).connected command :=
    fun done command =>
      ((Disciplined.new server).run config done).respectsScopes_iff config command
  constructor
  · intro h done command rest hsteps
    exact (hstep done command).mp (h done command rest hsteps)
  · intro h done command rest hsteps
    exact (hstep done command).mpr (h done command rest hsteps)

end

/-! ## a change without the scope -/

/-- A session is created, and the connection goes on under a context that may only
read. -/
def TestHost.downgraded : List (LinkStep SqliteStore ScriptedAgent TestHost) :=
  [.incoming (.ok (hello "test")), .incoming (.ok (create "r1")), .incoming (.ok (hello "read"))]

def TestHost.configChange (requestId : String) : Command where
  protocolVersion := protocolVersion
  requestId := requestId
  command := "session.set_config_option"
  sessionId := some "uuuu"
  params := some (.obj [("config_id", .str "model"), ("value_id", .str "opus")])

/-- **The configuration is changed without the scope**, and the change is appended
to the session's journal. -/
theorem config_changed_without_scope :
    let link := (Link.new TestHost.server).run TestHost.config TestHost.downgraded
    let changed := processCommand TestHost.config link.connected (TestHost.configChange "r2")
    link.connected.state.authed.map (·.scopes) = some [.readSessions] ∧
    changed.2.ack.ok = true ∧
    (link.connected.server.world.inner.sessions.lookup "uuuu").map
      (·.summary.lastSequence) = some 1 ∧
    (changed.1.server.world.inner.sessions.lookup "uuuu").map (·.summary.lastSequence) = some 2 ∧
    ¬ RespectsScopes TestHost.config link.connected (TestHost.configChange "r2") := by
  intro link changed
  have hok : changed.2.ack.ok = true := by decide +kernel
  have hauthed : link.connected.state.authed = some {
      deviceId := "device-read"
      deviceLabel := "read-only device"
      scopes := [.readSessions] } := by decide +kernel
  refine ⟨by decide +kernel, hok, by decide +kernel, by decide +kernel, fun hrespects => ?_⟩
  have hfails := (hrespects.enforced _ .sessionSetConfigOption hauthed rfl rfl).2
  exact Bool.false_ne_true (hfails.symm.trans hok)

end Gateway

end Slight
