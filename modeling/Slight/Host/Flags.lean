import Slight.Gateway.Scopes
import Slight.Host.Hosting

/-!
# Slight.Host.Flags

What a connection may do to the flags of the host: nothing, unless a device that may manage
the host asks it to stop.

* `Heeds` — the flags are left alone, but that the one to stop is set when it was asked for;
* `heeds_command`, `heeds_receive` — of a command, and of a read.
-/

namespace Slight

namespace HostService

open Gateway Support Support.Program

variable {W M S C A : Type}

/-! ## what a command does to the flags -/

/-- The commands that ask the host to stop. -/
def stopsHost (name : CommandName) : Bool :=
  name = .hostStop ∨ name = .hostShutdown ∨ name = .hostRestart

/-- The flags are left alone, but that `asked` sets the one that stops the host. -/
def Heeds (asked : Bool) (connected connected' : Connected S C (HostAdminImpl A)) : Prop :=
  connected'.server.admin.running = connected.server.admin.running ∧
    connected'.server.admin.shutdown = (connected.server.admin.shutdown || asked)

namespace Heeds

variable {connected connected' connected'' : Connected S C (HostAdminImpl A)}

theorem of_flags (hrunning : connected'.server.admin.running = connected.server.admin.running)
    (hshutdown : connected'.server.admin.shutdown = connected.server.admin.shutdown) :
    Heeds false connected connected' :=
  ⟨hrunning, by rw [hshutdown, Bool.or_false]⟩

theorem of_admin (h : connected'.server.admin = connected.server.admin) :
    Heeds false connected connected' :=
  of_flags (by rw [h]) (by rw [h])

theorem trans {asked : Bool} (h : Heeds asked connected connected')
    (h' : Heeds false connected' connected'') : Heeds asked connected connected'' :=
  ⟨h'.1.trans h.1, by rw [h'.2, h.2, Bool.or_false]⟩

theorem of_performs {α : Type} {m : Dispatch S C (HostAdminImpl A) α}
    (h : m.Performs (Heeds false)) (connected : Connected S C (HostAdminImpl A)) :
    Heeds false connected (m.final connected) :=
  h.preserves (I := fun connected' => Heeds false connected connected')
    (fun _ _ hstep hheeds => hheeds.trans hstep) (.of_admin rfl)

end Heeds

theorem heeds_manager {α : Type} (m : Manager S C α) :
    (Dispatch.manager m : Dispatch S C (HostAdminImpl A) α).Performs (Heeds false) :=
  performs_of_step fun _ => .of_admin rfl

theorem heeds_sessionOf (command : Command) :
    (Dispatch.sessionOf command : Dispatch S C (HostAdminImpl A) SessionId).Performs
      (Heeds false) := by
  unfold Dispatch.sessionOf
  split
  · exact performs_pure _
  · exact performs_throw _

theorem heeds_params {α : Type} [Serde α] (command : Command) :
    (Dispatch.params α command : Dispatch S C (HostAdminImpl A) α).Performs (Heeds false) := by
  unfold Dispatch.params
  split
  · exact performs_pure _
  · exact performs_bind performs_get fun _ => performs_throw _

theorem heeds_onSession {α : Type} [Serde α] (command : Command)
    (run : SessionId → α → Manager S C CommandResult) :
    (Dispatch.onSession α command run : Dispatch S C (HostAdminImpl A) _).Performs
      (Heeds false) :=
  performs_bind (heeds_sessionOf command) fun _ =>
    performs_bind (heeds_params command) fun _ => heeds_manager _

theorem heeds_attach (command : Command) :
    (Dispatch.attach command : Dispatch S C (HostAdminImpl A) _).Performs (Heeds false) := by
  refine performs_bind (heeds_sessionOf command) fun sessionId => ?_
  refine performs_bind (heeds_manager _) fun result => ?_
  refine performs_bind ?_ fun _ => performs_pure _
  refine performs_bind (performs_attempt (heeds_manager _)) fun outcome => ?_
  cases outcome with
  | ok channel => exact performs_of_step fun _ => .of_admin rfl
  | error error => exact performs_pure _

/-- A request that the rest of the administration answers. -/
theorem heeds_ask {request : HostAdminImpl A → World S C → Except ProtocolError Json ×
    HostAdminImpl A} (h : ∀ host world, (request host world).2.running = host.running ∧
      (request host world).2.shutdown = host.shutdown) :
    (Dispatch.admin request).Performs (Heeds false) :=
  performs_of_step fun connected =>
    .of_flags (h connected.server.admin connected.server.world).1
      (h connected.server.admin connected.server.world).2

/-- A request to stop. -/
theorem heeds_stop {request : HostAdminImpl A → World S C → Except ProtocolError Json ×
    HostAdminImpl A} (h : ∀ host world, (request host world).2.running = host.running ∧
      (request host world).2.shutdown = true) (connected : Connected S C (HostAdminImpl A)) :
    Heeds true connected ((Dispatch.admin request).final connected) := by
  obtain ⟨hrunning, hshutdown⟩ := h connected.server.admin connected.server.world
  rw [Heeds, Bool.or_true]
  exact ⟨hrunning, hshutdown⟩

section

variable [SessionStore S] [AcpSession C] [AcpDiscovery C] [HostAdmin S C A] [HostLog A]

/-- The commands that do not ask the host to stop. -/
theorem heeds_other (config : GatewayConfig) (request : Command) {name : CommandName}
    (h : stopsHost name = false) :
    (Dispatch.command config request name : Dispatch S C (HostAdminImpl A) _).Performs
      (Heeds false) := by
  have hmanager : ∀ {α : Type} (m : Manager S C α) (result : α → CommandResult),
      (do let a ← Dispatch.manager m
          pure (result a) : Dispatch S C (HostAdminImpl A) _).Performs (Heeds false) :=
    fun m result => performs_bind (heeds_manager m) fun _ => performs_pure _
  cases name with
  | sessionList => exact hmanager _ _
  | sessionWorkingDirectories => exact hmanager _ _
  | sessionCreate => exact performs_bind (heeds_params request) fun _ => hmanager _ _
  | agentSessionsList =>
      refine performs_bind (heeds_params request) fun _ => performs_bind performs_get fun _ => ?_
      exact performs_bind (heeds_manager _) fun _ => hmanager _ _
  | agentSessionImport => exact performs_bind (heeds_params request) fun _ => hmanager _ _
  | sessionAttach => exact performs_bind (heeds_attach request) fun _ => performs_pure _
  | sessionResume => exact performs_bind (heeds_attach request) fun _ => performs_pure _
  | eventsReplay => exact performs_bind (heeds_attach request) fun _ => performs_pure _
  | sessionHistory => exact performs_bind (heeds_sessionOf request) fun _ => hmanager _ _
  | sessionDetach =>
      unfold Dispatch.command
      dsimp only
      split
      · exact performs_bind (performs_of_step fun _ => .of_admin rfl) fun _ => performs_pure _
      · exact performs_pure _
  | sessionInput => exact heeds_onSession _ _
  | sessionCancel => exact performs_bind (heeds_sessionOf request) fun _ => hmanager _ _
  | sessionRename => exact heeds_onSession _ _
  | sessionArchive => exact heeds_onSession _ _
  | sessionSetMode => exact heeds_onSession _ _
  | sessionSetConfigOption => exact heeds_onSession _ _
  | sessionPermissionRespond => exact heeds_onSession _ _
  | sessionInspect => exact performs_bind (heeds_sessionOf request) fun _ => hmanager _ _
  | hostStatus => exact heeds_ask fun _ _ => ⟨rfl, rfl⟩
  | hostStart => exact heeds_ask fun _ _ => ⟨rfl, rfl⟩
  | hostStop => contradiction
  | hostRestart => contradiction
  | hostConfiguration => exact heeds_ask fun _ _ => ⟨rfl, rfl⟩
  | hostDiagnostics => exact heeds_ask fun _ _ => ⟨rfl, rfl⟩
  | hostShutdown => contradiction
  | deviceList => exact heeds_ask fun _ _ => ⟨rfl, rfl⟩
  | deviceRevoke =>
      exact performs_bind (heeds_params request) fun _ => heeds_ask fun _ _ => ⟨rfl, rfl⟩
  | pairingCreate => exact heeds_ask fun _ _ => ⟨rfl, rfl⟩
  | pairingList => exact heeds_ask fun _ _ => ⟨rfl, rfl⟩

/-- **A command** to the host with its flags. -/
theorem heeds_command (config : GatewayConfig) (request : Command) (name : CommandName)
    (connected : Connected S C (HostAdminImpl A)) :
    Heeds (stopsHost name) connected
      ((Dispatch.command config request name).final connected) := by
  cases hstops : stopsHost name with
  | false => exact .of_performs (heeds_other config request hstops) connected
  | true =>
      rcases of_decide_eq_true hstops with rfl | rfl | rfl
      · exact heeds_stop (fun _ _ => ⟨rfl, rfl⟩) connected
      · exact heeds_stop (fun _ _ => ⟨rfl, rfl⟩) connected
      · exact heeds_stop (fun _ _ => ⟨rfl, rfl⟩) connected

end

/-! ## what a payload does to the flags -/

/-- A context is there if and only if the welcome was sent. -/
def Welcomed (state : ConnState) : Prop := state.welcomeSent = state.authed.isSome

theorem heeds_processHello [Authenticator A] (config : GatewayConfig)
    {connected : Connected S C (HostAdminImpl A)} (hwelcomed : Welcomed connected.state)
    (hello : ClientHello) :
    Heeds false connected (processHello config connected hello).connected ∧
      Welcomed (processHello config connected hello).connected.state := by
  unfold processHello
  split
  · exact ⟨.of_admin rfl, hwelcomed⟩
  · dsimp only
    split
    · exact ⟨.of_flags rfl rfl, rfl⟩
    · exact ⟨.of_flags rfl rfl, hwelcomed⟩

/-- A command to stop, from a device that may manage the host, that is not remembered. -/
def commandAsksToStop (state : ConnState) (command : Command) : Bool :=
  (CommandName.ofName command.command).any stopsHost &&
    (state.completedCommands.recalled command.requestId).isNone &&
    state.authed.any (·.has .manageHost)

def asksToStop (state : ConnState) : Payload → Bool
  | .ok (.command command) => commandAsksToStop state command
  | _ => false

/-- Who may ask the host to stop. -/
theorem authorize_stops (context : AuthContext) {command : String} {name : CommandName}
    (hname : CommandName.ofName command = some name) (hstops : stopsHost name = true) :
    authorize context command =
      if context.has .manageHost then .ok ()
      else .error (.unauthorized (command ++ " requires " ++ Scope.manageHost.name)) := by
  have hscope : name ≠ .sessionSetConfigOption ∧ name.requiredScope = .manageHost := by
    rcases of_decide_eq_true hstops with rfl | rfl | rfl
    · exact ⟨by decide, rfl⟩
    · exact ⟨by decide, rfl⟩
    · exact ⟨by decide, rfl⟩
  rw [authorize_ofName context hname hscope.1, hscope.2]

/-- A command to stop is dispatched for a device that may manage the host only. -/
theorem stops_of_authorize {context : AuthContext} {command : String}
    {outcome : Except ProtocolError Unit} (h : authorize context command = outcome) :
    ((CommandName.ofName command).any stopsHost && context.has .manageHost) =
      ((CommandName.ofName command).any stopsHost && outcome.isOk) := by
  cases hname : CommandName.ofName command with
  | none => rfl
  | some name =>
      cases hstops : stopsHost name with
      | false => rw [Option.any_some, hstops, Bool.false_and, Bool.false_and]
      | true =>
          rw [authorize_stops context hname hstops] at h
          rw [← h]
          cases context.has .manageHost with
          | false => rfl
          | true => rfl

section

variable [SessionStore S] [AcpSession C] [AcpDiscovery C] [HostAdmin S C A] [HostLog A]

theorem heeds_dispatch (config : GatewayConfig) (connected : Connected S C (HostAdminImpl A))
    (command : Command) :
    Heeds ((CommandName.ofName command.command).any stopsHost) connected
      (dispatch config connected command).2 := by
  unfold dispatch
  cases CommandName.ofName command.command with
  | none => exact .of_admin rfl
  | some name => exact heeds_command config command name connected

/-- **A command to a connection.** -/
theorem heeds_processCommand (config : GatewayConfig)
    {connected : Connected S C (HostAdminImpl A)} (hwelcomed : Welcomed connected.state)
    (command : Command) :
    Heeds (commandAsksToStop connected.state command) connected
        (processCommand config connected command).1 ∧
      Welcomed (processCommand config connected command).1.state := by
  unfold commandAsksToStop
  cases hauthed : connected.state.authed with
  | none =>
      have hwelcome : connected.state.welcomeSent = false := by
        rw [hwelcomed, hauthed]
        rfl
      rw [processCommand_unwelcomed config command hwelcome, Option.any_none, Bool.and_false]
      exact ⟨.of_admin rfl, hwelcomed⟩
  | some context =>
      have hwelcome : connected.state.welcomeSent = true := by
        rw [hwelcomed, hauthed]
        rfl
      cases hrecall : connected.state.completedCommands.recalled command.requestId with
      | some ack =>
          rw [processCommand_recalled config command hwelcome hrecall, Option.isNone_some,
            Bool.and_false, Bool.false_and]
          exact ⟨.of_admin rfl, hwelcomed⟩
      | none =>
          rw [Option.isNone_none, Bool.and_true, Option.any_some]
          cases hauthorize : authorize context command.command with
          | error error =>
              rw [processCommand_unauthorized config hwelcome hauthed hrecall hauthorize,
                stops_of_authorize hauthorize]
              refine ⟨?_, hwelcomed⟩
              rw [Except.isOk, Except.toBool, Bool.and_false]
              exact .of_admin rfl
          | ok granted =>
              rw [processCommand_authorized config hwelcome hauthed hrecall hauthorize,
                stops_of_authorize hauthorize, Except.isOk, Except.toBool, Bool.and_true]
              refine ⟨heeds_dispatch config connected command, ?_⟩
              have hkeeps := (dispatch_keeps config connected command).2
              show (dispatch config connected command).2.state.welcomeSent =
                (dispatch config connected command).2.state.authed.isSome
              rw [Connected.Keeps] at hkeeps
              rw [hkeeps]
              exact hwelcomed

variable [Authenticator A]

/-- **A payload** sets the flag if and only if it asks to. -/
theorem heeds_dispatchIncoming (config : GatewayConfig)
    {connected : Connected S C (HostAdminImpl A)} (hwelcomed : Welcomed connected.state)
    (payload : Payload) :
    Heeds (asksToStop connected.state payload) connected
        (dispatchIncoming config connected payload).connected ∧
      Welcomed (dispatchIncoming config connected payload).connected.state := by
  cases payload with
  | error error => exact ⟨.of_admin rfl, hwelcomed⟩
  | ok frame =>
      cases frame with
      | hello hello => exact heeds_processHello config hwelcomed hello
      | command command => exact heeds_processCommand config hwelcomed command
      | welcome _ => exact ⟨.of_admin rfl, hwelcomed⟩
      | ack _ => exact ⟨.of_admin rfl, hwelcomed⟩
      | event _ => exact ⟨.of_admin rfl, hwelcomed⟩
      | ping _ => exact ⟨.of_admin rfl, hwelcomed⟩
      | pong _ => exact ⟨.of_admin rfl, hwelcomed⟩
      | error _ => exact ⟨.of_admin rfl, hwelcomed⟩
      | resyncRequired _ => exact ⟨.of_admin rfl, hwelcomed⟩

end

/-! ## what a round of a connection does to the flags -/

section

variable [WebSocket W M]

/-- What is read asks the host to stop. -/
def readAsksToStop (socket : W) (state : ConnState) : Bool :=
  match (WebSocket.read socket).1 with
  | .ok (.text payload) | .ok (.binary payload) => asksToStop state payload
  | _ => false

theorem heeds_receive [SessionStore S] [AcpSession C] [AcpDiscovery C] [HostAdmin S C A]
    [Authenticator A] [HostLog A] (config : GatewayConfig)
    {handler : Handler W S C (HostAdminImpl A)}
    (hwelcomed : Welcomed handler.connected.state) :
    Heeds (readAsksToStop handler.socket handler.connected.state) handler.connected
        (handler.receive config).connected ∧
      Welcomed (handler.receive config).connected.state := by
  unfold Handler.receive readAsksToStop
  rcases hread : WebSocket.read handler.socket with ⟨result, socket⟩
  dsimp only
  cases result with
  | error error => exact ⟨.of_admin rfl, hwelcomed⟩
  | ok incoming =>
      cases incoming with
      | text payload => exact heeds_dispatchIncoming config hwelcomed payload
      | binary payload => exact heeds_dispatchIncoming config hwelcomed payload
      | ping => exact ⟨.of_admin rfl, hwelcomed⟩
      | pong => exact ⟨.of_admin rfl, hwelcomed⟩
      | frame => exact ⟨.of_admin rfl, hwelcomed⟩
      | close => exact ⟨.of_admin rfl, hwelcomed⟩

theorem heeds_drainEvents {handler : Handler W S C (HostAdminImpl A)}
    (hwelcomed : Welcomed handler.connected.state) (order : List SessionId) :
    Heeds false handler.connected (handler.drainEvents order).connected ∧
      Welcomed (handler.drainEvents order).connected.state := by
  have hserver : ∀ connected : Connected S C (HostAdminImpl A),
      (drainSubscriptions connected order).1.server = connected.server := by
    induction order with
    | nil => exact fun _ => rfl
    | cons sessionId order ih => exact fun connected => ih _
  have hkeeps := (drainSubscriptions_keeps handler.connected order).1
  refine ⟨.of_admin ?_, ?_⟩
  · show (drainSubscriptions handler.connected order).1.server.admin = _
    rw [hserver]
  · show Welcomed (drainSubscriptions handler.connected order).1.state
    rw [Connected.Keeps] at hkeeps
    rw [hkeeps]
    exact hwelcomed

theorem heeds_sendHeartbeat {handler : Handler W S C (HostAdminImpl A)}
    (hwelcomed : Welcomed handler.connected.state) (config : GatewayConfig) (due : Bool) :
    Heeds false handler.connected (handler.sendHeartbeat config due).connected ∧
      Welcomed (handler.sendHeartbeat config due).connected.state := by
  unfold Handler.sendHeartbeat
  split
  · split
    · exact ⟨.of_admin rfl, hwelcomed⟩
    · exact ⟨.of_admin rfl, hwelcomed⟩
  · exact ⟨.of_admin rfl, hwelcomed⟩

theorem connected_write (encode : Frame → Except ProtocolError M)
    (handler : Handler W S C (HostAdminImpl A)) :
    (handler.write encode).connected = handler.connected := by
  unfold Handler.write
  dsimp only
  split
  · rfl
  · rfl
  · rfl

end

end HostService

end Slight
