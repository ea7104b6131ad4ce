import Slight.Gateway.Server

/-!
# Slight.Gateway.Discipline

How a connection answers commands, over any sequence of payloads.  A `Link` is a
connection with the history of what went through it; `Disciplined` is what every
step keeps of it.

Every command is acknowledged once and in turn, nothing is dispatched without an
accepted hello, and an answered request id is remembered until 256 others were.
-/

namespace Slight

namespace Gateway

open Support Program

variable {S C A : Type}

/-! ## what a dispatch leaves alone -/

/-- Of the connection's own state a dispatch changes the subscriptions only. -/
def Connected.Keeps (connected connected' : Connected S C A) : Prop :=
  connected'.state =
    { connected.state with subscriptions := connected'.state.subscriptions }

namespace Dispatch

theorem keeps_manager {α : Type} (m : Manager S C α) :
    (manager m : Dispatch S C A α).Performs Connected.Keeps :=
  performs_of_step fun _ => rfl

theorem keeps_admin (request : A → World S C → Except ProtocolError Json × A) :
    (admin request).Performs Connected.Keeps :=
  performs_of_step fun _ => rfl

theorem keeps_sessionOf (command : Command) :
    (sessionOf command : Dispatch S C A SessionId).Performs Connected.Keeps := by
  unfold sessionOf
  split
  · exact performs_pure _
  · exact performs_throw _

theorem keeps_params {α : Type} [Serde α] (command : Command) :
    (params α command : Dispatch S C A α).Performs Connected.Keeps := by
  unfold params
  split
  · exact performs_pure _
  · exact performs_bind performs_get fun _ => performs_throw _

theorem keeps_onSession {α : Type} [Serde α] (command : Command)
    (run : SessionId → α → Manager S C CommandResult) :
    (onSession α command run : Dispatch S C A _).Performs Connected.Keeps :=
  performs_bind (keeps_sessionOf command) fun _ =>
    performs_bind (keeps_params command) fun _ => keeps_manager _

theorem keeps_attach (command : Command) :
    (attach command : Dispatch S C A _).Performs Connected.Keeps := by
  refine performs_bind (keeps_sessionOf command) fun sessionId => ?_
  refine performs_bind (keeps_manager _) fun result => ?_
  refine performs_bind ?_ fun _ => performs_pure _
  refine performs_bind (performs_attempt (keeps_manager _)) fun outcome => ?_
  cases outcome with
  | ok channel => exact performs_of_step fun _ => rfl
  | error error => exact performs_pure _

section

variable [SessionStore S] [AcpSession C] [AcpDiscovery C] [HostAdmin S C A]

theorem keeps_command (config : GatewayConfig) (request : Command) (name : CommandName) :
    (command config request name : Dispatch S C A _).Performs Connected.Keeps := by
  have hmanager : ∀ {α : Type} (m : Manager S C α) (result : α → CommandResult),
      (do let a ← manager m
          pure (result a) : Dispatch S C A _).Performs Connected.Keeps :=
    fun m result => performs_bind (keeps_manager m) fun _ => performs_pure _
  cases name with
  | sessionList => exact hmanager _ _
  | sessionWorkingDirectories => exact hmanager _ _
  | sessionCreate => exact performs_bind (keeps_params request) fun _ => hmanager _ _
  | agentSessionsList =>
      refine performs_bind (keeps_params request) fun _ => performs_bind performs_get fun _ => ?_
      exact performs_bind (keeps_manager _) fun _ => hmanager _ _
  | agentSessionImport => exact performs_bind (keeps_params request) fun _ => hmanager _ _
  | sessionAttach => exact performs_bind (keeps_attach request) fun _ => performs_pure _
  | sessionResume => exact performs_bind (keeps_attach request) fun _ => performs_pure _
  | eventsReplay => exact performs_bind (keeps_attach request) fun _ => performs_pure _
  | sessionHistory => exact performs_bind (keeps_sessionOf request) fun _ => hmanager _ _
  | sessionDetach =>
      unfold command
      dsimp only
      split
      · exact performs_bind (performs_of_step fun _ => rfl) fun _ => performs_pure _
      · exact performs_pure _
  | sessionInput => exact keeps_onSession _ _
  | sessionCancel => exact performs_bind (keeps_sessionOf request) fun _ => hmanager _ _
  | sessionRename => exact keeps_onSession _ _
  | sessionArchive => exact keeps_onSession _ _
  | sessionSetMode => exact keeps_onSession _ _
  | sessionSetConfigOption => exact keeps_onSession _ _
  | sessionPermissionRespond => exact keeps_onSession _ _
  | sessionInspect => exact performs_bind (keeps_sessionOf request) fun _ => hmanager _ _
  | hostStatus => exact keeps_admin _
  | hostStart => exact keeps_admin _
  | hostStop => exact keeps_admin _
  | hostRestart => exact keeps_admin _
  | hostConfiguration => exact keeps_admin _
  | hostDiagnostics => exact keeps_admin _
  | hostShutdown => exact keeps_admin _
  | deviceList => exact keeps_admin _
  | deviceRevoke => exact performs_bind (keeps_params request) fun _ => keeps_admin _
  | pairingCreate => exact keeps_admin _
  | pairingList => exact keeps_admin _

end

end Dispatch

/-! ## connections with their history -/

/-- A connection with the history of what went through it: the commands that
arrived, the frames it queued, the answers it gave, the contexts of the hellos it
accepted. -/
structure Link (S C A : Type) where
  connected : Connected S C A
  received : List Command
  outbound : List Frame
  answers : List Answer
  welcomed : List AuthContext

def Link.new (server : Server S C A) : Link S C A where
  connected := { server, state := .new }
  received := []
  outbound := []
  answers := []
  welcomed := []

/-- A payload arrives, the connection receives from its channels, sends a
heartbeat, or something else changes the server. -/
inductive LinkStep (S C A : Type) where
  | incoming (payload : Payload)
  | drain (sessionIds : List SessionId)
  | heartbeat
  | others (server : Server S C A)

/-- The command a payload is. -/
def commandOf : Payload → Option Command
  | .ok (.command command) => some command
  | _ => none

/-- The answer is kept for when the command comes again. -/
def Answer.remembered (answer : Answer) : Bool :=
  match answer.handling with
  | .refused | .dispatched _ => true
  | .unwelcomed | .recalled => false

/-- The log of the answers that were to be remembered. -/
def rememberedLog (answers : List Answer) : List (String × CommandAck) :=
  (answers.filter Answer.remembered).map fun answer => (answer.ack.requestId, answer.ack)

section

variable [SessionStore S] [AcpSession C] [AcpDiscovery C] [HostAdmin S C A] [Authenticator A]

def Link.next (config : GatewayConfig) (link : Link S C A) : LinkStep S C A → Link S C A
  | .incoming payload =>
      let processed := dispatchIncoming config link.connected payload
      { connected := processed.connected
        received := link.received ++ (commandOf payload).toList
        outbound := link.outbound ++ processed.outbound
        answers := link.answers ++ processed.answer.toList
        welcomed := link.welcomed ++ processed.welcomedAs.toList }
  | .drain sessionIds =>
      let (connected, frames) := drainSubscriptions link.connected sessionIds
      { link with connected, outbound := link.outbound ++ frames }
  | .heartbeat =>
      let (connected, frames) := heartbeat link.connected
      { link with connected, outbound := link.outbound ++ frames }
  | .others server => { link with connected := { link.connected with server } }

def Link.run (config : GatewayConfig) (link : Link S C A) (steps : List (LinkStep S C A)) :
    Link S C A :=
  steps.foldl (Link.next config) link

end

/-! ## what answering a command comes to -/

namespace Connected.Keeps

theorem refl (connected : Connected S C A) : connected.Keeps connected := rfl

theorem trans {connected connected' connected'' : Connected S C A} (h : connected.Keeps connected')
    (h' : connected'.Keeps connected'') : connected.Keeps connected'' := by
  rw [Connected.Keeps] at h h' ⊢
  rw [h', h]

theorem of_performs {α : Type} {m : Dispatch S C A α} (h : m.Performs Connected.Keeps)
    (connected : Connected S C A) : connected.Keeps (m.final connected) :=
  h.preserves (I := fun connected' => connected.Keeps connected')
    (fun _ _ hstep hkeeps => hkeeps.trans hstep) (.refl connected)

end Connected.Keeps

section

variable [SessionStore S] [AcpSession C] [AcpDiscovery C] [HostAdmin S C A]
variable (config : GatewayConfig) (connected : Connected S C A) (command : Command)

/-- **Dispatching** answers the request and leaves the connection's own state alone,
but for the subscriptions. -/
theorem dispatch_keeps :
    (dispatch config connected command).1.requestId = command.requestId ∧
      connected.Keeps (dispatch config connected command).2 := by
  unfold dispatch
  cases CommandName.ofName command.command with
  | none => exact ⟨rfl, .refl connected⟩
  | some name =>
      exact ⟨rfl, .of_performs (Dispatch.keeps_command config command name) connected⟩

variable {connected}

theorem processCommand_unwelcomed (h : connected.state.welcomeSent = false) :
    processCommand config connected command =
      (connected, { command
                    ack := .error command.requestId (.unauthenticated "hello required")
                    handling := .unwelcomed }) := by
  unfold processCommand
  rw [h]
  rfl

theorem processCommand_recalled (h : connected.state.welcomeSent = true) {ack : CommandAck}
    (hrecall : connected.state.completedCommands.recalled command.requestId = some ack) :
    processCommand config connected command =
      (connected, { command, ack, handling := .recalled }) := by
  unfold processCommand
  rw [if_pos h]
  dsimp only
  rw [hrecall]

/-- **A command that is not remembered** is refused or dispatched, and remembered. -/
theorem processCommand_anew (h : connected.state.welcomeSent = true)
    (hrecall : connected.state.completedCommands.recalled command.requestId = none) :
    ∃ (before : Connected S C A) (answer : Answer),
      processCommand config connected command = (before.remember answer.ack, answer) ∧
      connected.Keeps before ∧ answer.command = command ∧
      answer.ack.requestId = command.requestId ∧
      (answer.handling = .refused ∧ before.server = connected.server ∨ answer.handling = .dispatched
        (connected.state.authed.getD (.all "unauthenticated" "unauthenticated"))) := by
  unfold processCommand
  rw [if_pos h]
  dsimp only
  rw [hrecall]
  dsimp only
  split
  · next error _ =>
      exact ⟨connected, ⟨command, .error command.requestId error, .refused⟩, rfl, .refl connected,
        rfl, rfl, .inl ⟨rfl, rfl⟩⟩
  · obtain ⟨hid, hkeeps⟩ := dispatch_keeps config connected command
    exact ⟨(dispatch config connected command).2,
      ⟨command, (dispatch config connected command).1, .dispatched _⟩, rfl, hkeeps, rfl, hid,
      .inr rfl⟩

end

/-- **Draining** queues events and changes the subscriptions only. -/
theorem drainSubscriptions_keeps (connected : Connected S C A) (sessionIds : List SessionId) :
    connected.Keeps (drainSubscriptions connected sessionIds).1 ∧
      (drainSubscriptions connected sessionIds).2.filterMap Frame.ack? = [] := by
  induction sessionIds generalizing connected with
  | nil => exact ⟨.refl connected, rfl⟩
  | cons sessionId sessionIds ih =>
      have hone : connected.Keeps { connected with
            state := (drainSubscription connected sessionId).1 } ∧
          (drainSubscription connected sessionId).2.filterMap Frame.ack? = [] := by
        unfold drainSubscription
        split
        · exact ⟨.refl connected, rfl⟩
        · refine ⟨rfl, List.filterMap_eq_nil_iff.mpr fun frame hframe => ?_⟩
          obtain ⟨event, -, rfl⟩ := List.mem_map.mp hframe
          rfl
      obtain ⟨hkeeps, hframes⟩ := ih { connected with
        state := (drainSubscription connected sessionId).1 }
      unfold drainSubscriptions
      refine ⟨hone.1.trans hkeeps, ?_⟩
      dsimp only
      rw [List.filterMap_append, hone.2, hframes, List.append_nil]

/-! ## the discipline -/

/-- What every step keeps of a connection. -/
structure Disciplined (link : Link S C A) : Prop where
  received : link.answers.map (·.command) = link.received
  acks : link.outbound.filterMap Frame.ack? = link.answers.map (·.ack)
  own : ∀ answer ∈ link.answers, answer.ack.requestId = answer.command.requestId
  authed : link.connected.state.authed = link.welcomed.getLast?
  welcomeSent : link.connected.state.welcomeSent = link.connected.state.authed.isSome
  dispatched : ∀ answer ∈ link.answers, ∀ context, answer.handling = .dispatched context →
    context ∈ link.welcomed
  follows : Memo.Follows completedCommandLimit (rememberedLog link.answers)
    link.connected.state.completedCommands

theorem rememberedLog_concat (answers : List Answer) (answer : Answer) :
    rememberedLog (answers ++ [answer]) =
      if answer.remembered then
        rememberedLog answers ++ [(answer.ack.requestId, answer.ack)]
      else rememberedLog answers := by
  unfold rememberedLog
  rw [List.filter_append, List.map_append]
  split
  · next h => rw [List.filter_cons_of_pos h, List.filter_nil, List.map_singleton]
  · next h => rw [List.filter_cons_of_neg h, List.filter_nil, List.map_nil, List.append_nil]

namespace Disciplined

variable {link : Link S C A}

theorem new (server : Server S C A) : Disciplined (Link.new server) where
  received := rfl
  acks := rfl
  own _ h := absurd h List.not_mem_nil
  authed := rfl
  welcomeSent := rfl
  dispatched _ h := absurd h List.not_mem_nil
  follows := .empty

/-- A remembered answer is one to the same request. -/
theorem recalled (h : Disciplined link) {requestId : String} {ack : CommandAck}
    (hrecall : link.connected.state.completedCommands.recalled requestId = some ack) :
    ack.requestId = requestId := by
  have hmem := (h.follows.recalled requestId ack).mp hrecall
  have hlog : (requestId, ack) ∈ rememberedLog link.answers := (rtake_suffix _ _).subset hmem
  obtain ⟨answer, -, heq⟩ := List.mem_map.mp hlog
  obtain ⟨hid, hack⟩ := Prod.mk.inj heq
  rw [← hack, hid]

/-- A connection that was welcomed has a context of its own. -/
theorem context (h : Disciplined link) (hwelcome : link.connected.state.welcomeSent = true) :
    ∃ context ∈ link.welcomed, link.connected.state.authed = some context := by
  rw [h.welcomeSent] at hwelcome
  obtain ⟨context, hcontext⟩ := Option.isSome_iff_exists.mp hwelcome
  refine ⟨context, ?_, hcontext⟩
  rw [h.authed] at hcontext
  exact List.mem_of_getLast? hcontext

theorem welcomed_of_authed (h : Disciplined link) {context : AuthContext}
    (hauthed : link.connected.state.authed = some context) :
    link.connected.state.welcomeSent = true := by
  rw [h.welcomeSent, hauthed]
  rfl

/-- Frames that are no acknowledgements, and another server. -/
theorem replies (h : Disciplined link) (connected : Connected S C A) (frames : List Frame)
    (hkeeps : link.connected.Keeps connected) (hframes : frames.filterMap Frame.ack? = []) :
    Disciplined { link with connected, outbound := link.outbound ++ frames } := by
  have hstate : connected.state = { link.connected.state with
      subscriptions := connected.state.subscriptions } := hkeeps
  constructor
  · exact h.received
  · show (link.outbound ++ frames).filterMap Frame.ack? = _
    rw [List.filterMap_append, hframes, List.append_nil, h.acks]
  · exact h.own
  · show connected.state.authed = _
    rw [hstate]
    exact h.authed
  · show connected.state.welcomeSent = connected.state.authed.isSome
    rw [hstate]
    exact h.welcomeSent
  · exact h.dispatched
  · show Memo.Follows _ _ connected.state.completedCommands
    rw [hstate]
    exact h.follows

/-- An answer that follows the rules, given in a state that remembers it if it is
to be remembered. -/
theorem answer (h : Disciplined link) (connected : Connected S C A) (answer : Answer)
    (hauthed : connected.state.authed = link.connected.state.authed)
    (hwelcome : connected.state.welcomeSent = link.connected.state.welcomeSent)
    (hown : answer.ack.requestId = answer.command.requestId)
    (hdispatched : ∀ context, answer.handling = .dispatched context → context ∈ link.welcomed)
    (hfollows : Memo.Follows completedCommandLimit (rememberedLog (link.answers ++ [answer]))
      connected.state.completedCommands) :
    Disciplined { connected
                  received := link.received ++ [answer.command]
                  outbound := link.outbound ++ [.ack answer.ack]
                  answers := link.answers ++ [answer]
                  welcomed := link.welcomed } := by
  constructor
  · show (link.answers ++ [answer]).map (·.command) = _
    rw [List.map_append, h.received, List.map_singleton]
  · show (link.outbound ++ [Frame.ack answer.ack]).filterMap Frame.ack? = _
    rw [List.filterMap_append, h.acks, List.map_append]
    rfl
  · intro other hmem
    rcases List.mem_append.mp hmem with hold | hnew
    · exact h.own other hold
    · rw [List.mem_singleton.mp hnew]
      exact hown
  · show connected.state.authed = _
    rw [hauthed]
    exact h.authed
  · show connected.state.welcomeSent = connected.state.authed.isSome
    rw [hauthed, hwelcome]
    exact h.welcomeSent
  · intro other hmem context hcontext
    rcases List.mem_append.mp hmem with hold | hnew
    · exact h.dispatched other hold context hcontext
    · rw [List.mem_singleton.mp hnew] at hcontext
      exact hdispatched context hcontext
  · exact hfollows

/-- Between two answers to one request that were to be remembered, 256 others were. -/
theorem spaced (h : Disciplined link) {before between after : List Answer} {first second : Answer}
    (hanswers : link.answers = before ++ first :: between ++ second :: after)
    (hfirst : first.remembered = true) (hsecond : second.remembered = true)
    (hid : first.command.requestId = second.command.requestId) :
    completedCommandLimit ≤
      ((((between.filter Answer.remembered).map (·.command.requestId)).toFinset).erase
        first.command.requestId).card := by
  have hkeys : (rememberedLog link.answers).map Prod.fst =
      (link.answers.filter Answer.remembered).map (·.command.requestId) := by
    unfold rememberedLog
    rw [List.map_map]
    refine List.map_congr_left fun answer hmem => ?_
    exact h.own answer (List.mem_of_mem_filter hmem)
  have hlog : (rememberedLog link.answers).map Prod.fst =
      (before.filter Answer.remembered).map (·.command.requestId) ++
        first.command.requestId :: (between.filter Answer.remembered).map (·.command.requestId) ++
        first.command.requestId :: (after.filter Answer.remembered).map (·.command.requestId) := by
    rw [hkeys, hanswers, List.filter_append, List.filter_append, List.filter_cons_of_pos hfirst,
      List.filter_cons_of_pos hsecond]
    simp only [List.map_append, List.map_cons, hid]
  exact h.follows.spaced.le_card hlog

/-! ### steps -/

variable [SessionStore S] [AcpSession C] [AcpDiscovery C] [HostAdmin S C A] [Authenticator A]

/-- **A command**: unwelcomed, remembered or new. -/
theorem command (h : Disciplined link) (config : GatewayConfig) (command : Command) :
    Disciplined (link.next config (.incoming (.ok (.command command)))) := by
  have hnext : link.next config (.incoming (.ok (.command command))) =
      { connected := (processCommand config link.connected command).1
        received := link.received ++ [command]
        outbound := link.outbound ++ [.ack (processCommand config link.connected command).2.ack]
        answers := link.answers ++ [(processCommand config link.connected command).2]
        welcomed := link.welcomed } := by
    show Link.mk _ _ _ _ (link.welcomed ++ []) = _
    rw [List.append_nil]
    rfl
  rw [hnext]
  cases hwelcome : link.connected.state.welcomeSent with
  | false =>
      rw [processCommand_unwelcomed config command hwelcome]
      refine h.answer link.connected
        ⟨command, .error command.requestId (.unauthenticated "hello required"), .unwelcomed⟩
        rfl rfl rfl (fun context hcontext => by contradiction) ?_
      rw [rememberedLog_concat]
      exact h.follows
  | true =>
      cases hrecall : link.connected.state.completedCommands.recalled command.requestId with
      | some ack =>
          rw [processCommand_recalled config command hwelcome hrecall]
          refine h.answer link.connected ⟨command, ack, .recalled⟩ rfl rfl (h.recalled hrecall)
            (fun context hcontext => by contradiction) ?_
          rw [rememberedLog_concat]
          exact h.follows
      | none =>
          obtain ⟨before, answer, hprocess, hkeeps, hcommand, hid, hhandling⟩ :=
            processCommand_anew config command hwelcome hrecall
          have hstate : before.state = { link.connected.state with
              subscriptions := before.state.subscriptions } := hkeeps
          have hremembered : answer.remembered = true := by
            unfold Answer.remembered
            rcases hhandling with ⟨hrefused, -⟩ | hdispatched
            · rw [hrefused]
            · rw [hdispatched]
          have hnew : command.requestId ∉ before.state.completedCommands.entries := by
            rw [hstate]
            exact AList.lookup_eq_none.mp hrecall
          rw [hprocess, ← hcommand]
          refine h.answer _ answer ?_ ?_ ?_ ?_ ?_
          · show before.state.authed = _
            rw [hstate]
          · show before.state.welcomeSent = _
            rw [hstate]
          · rw [hid, hcommand]
          · intro context hcontext
            obtain ⟨own, hown, hauthed⟩ := h.context hwelcome
            rw [hauthed, Option.getD_some] at hhandling
            rcases hhandling with ⟨hrefused, -⟩ | hdispatched
            · rw [hrefused] at hcontext
              contradiction
            · rw [hdispatched] at hcontext
              rw [← Handling.dispatched.inj hcontext]
              exact hown
          · have hfollows : Memo.Follows completedCommandLimit (rememberedLog link.answers)
                before.state.completedCommands := by
              rw [hstate]
              exact h.follows
            have hlog := hfollows.remember answer.ack.requestId answer.ack
            rw [Memo.logged, if_neg (hid ▸ hnew)] at hlog
            rw [rememberedLog_concat, if_pos hremembered]
            exact hlog

/-- A payload that is no command and no accepted hello. -/
theorem replied (h : Disciplined link) (config : GatewayConfig) {payload : Payload}
    (connected : Connected S C A) (frames : List Frame) (hcommand : commandOf payload = none)
    (hprocess : dispatchIncoming config link.connected payload = .replied connected frames)
    (hkeeps : link.connected.Keeps connected) (hframes : frames.filterMap Frame.ack? = []) :
    Disciplined (link.next config (.incoming payload)) := by
  have hnext : link.next config (.incoming payload) =
      { link with connected, outbound := link.outbound ++ frames } := by
    unfold Link.next
    dsimp only
    rw [hcommand, hprocess]
    simp only [Processed.replied, Option.toList_none, List.append_nil]
  rw [hnext]
  exact h.replies _ _ hkeeps hframes

/-- **A hello**: one that is accepted sets the context. -/
theorem hello (h : Disciplined link) (config : GatewayConfig) (hello : ClientHello) :
    Disciplined (link.next config (.incoming (.ok (.hello hello)))) := by
  by_cases hversion : hello.protocolVersion ≠ protocolVersion
  · refine h.replied config link.connected
      [.error ((ProtocolError.invalidVersion hello.protocolVersion protocolVersion).toWire none)] rfl ?_
      (.refl link.connected) rfl
    show processHello config link.connected hello = _
    rw [processHello, if_pos hversion]
  · cases houtcome : (Authenticator.authenticate link.connected.server.admin hello).1 with
    | error error =>
        refine h.replied config { link.connected with
          server := { link.connected.server with
            admin := (Authenticator.authenticate link.connected.server.admin hello).2 } }
          [.error (error.toWire none)] rfl ?_ rfl rfl
        show processHello config link.connected hello = _
        rw [processHello, if_neg hversion]
        dsimp only
        rw [houtcome]
    | ok context =>
        have hprocess : ∃ connected frames, processHello config link.connected hello =
            { connected, outbound := frames, answer := none, welcomedAs := some context } ∧
            connected.state =
              { link.connected.state with welcomeSent := true, authed := some context } ∧
            frames.filterMap Frame.ack? = [] := by
          rw [processHello, if_neg hversion]
          dsimp only
          rw [houtcome]
          exact ⟨_, _, rfl, rfl, rfl⟩
        obtain ⟨connected, frames, hprocess, hstate, hframes⟩ := hprocess
        have hnext : link.next config (.incoming (.ok (.hello hello))) =
            { connected
              received := link.received
              outbound := link.outbound ++ frames
              answers := link.answers
              welcomed := link.welcomed ++ [context] } := by
          show Link.mk (processHello config link.connected hello).connected _ _ _ _ = _
          simp only [commandOf, dispatchIncoming, processFrame, hprocess, Option.toList_none,
            Option.toList_some, List.append_nil]
        rw [hnext]
        constructor
        · exact h.received
        · show (link.outbound ++ frames).filterMap Frame.ack? = _
          rw [List.filterMap_append, hframes, List.append_nil, h.acks]
        · exact h.own
        · show connected.state.authed = (link.welcomed ++ [context]).getLast?
          rw [hstate, List.getLast?_concat]
        · show connected.state.welcomeSent = connected.state.authed.isSome
          rw [hstate]
          rfl
        · intro answer hmem own hown
          exact List.mem_append_left _ (h.dispatched answer hmem own hown)
        · show Memo.Follows _ _ connected.state.completedCommands
          rw [hstate]
          exact h.follows

/-- **Every step** keeps the discipline. -/
theorem next (h : Disciplined link) (config : GatewayConfig) (step : LinkStep S C A) :
    Disciplined (link.next config step) := by
  cases step with
  | incoming payload =>
      match payload with
      | .error error => exact h.replied config _ _ rfl rfl (.refl link.connected) rfl
      | .ok (.hello hello) => exact h.hello config hello
      | .ok (.command command) => exact h.command config command
      | .ok (.ping nonce) => exact h.replied config _ _ rfl rfl (.refl link.connected) rfl
      | .ok (.pong nonce) => exact h.replied config _ _ rfl rfl (.refl link.connected) rfl
      | .ok (.welcome welcome) => exact h.replied config _ _ rfl rfl (.refl link.connected) rfl
      | .ok (.ack ack) => exact h.replied config _ _ rfl rfl (.refl link.connected) rfl
      | .ok (.event event) => exact h.replied config _ _ rfl rfl (.refl link.connected) rfl
      | .ok (.resyncRequired resync) => exact h.replied config _ _ rfl rfl (.refl link.connected) rfl
      | .ok (.error error) => exact h.replied config _ _ rfl rfl (.refl link.connected) rfl
  | drain sessionIds =>
      obtain ⟨hkeeps, hframes⟩ := drainSubscriptions_keeps link.connected sessionIds
      exact h.replies _ _ hkeeps hframes
  | heartbeat => exact h.replies _ _ rfl rfl
  | others server =>
      have hsame := h.replies { link.connected with server } [] rfl rfl
      rw [List.append_nil] at hsame
      exact hsame

theorem run (h : Disciplined link) (config : GatewayConfig) (steps : List (LinkStep S C A)) :
    Disciplined (link.run config steps) := by
  induction steps generalizing link with
  | nil => exact h
  | cons step steps ih => exact ih (h.next config step)

end Disciplined

/-! ## the discipline of every connection -/

section

variable [SessionStore S] [AcpSession C] [AcpDiscovery C] [HostAdmin S C A] [Authenticator A]

/-- **Command discipline**: whatever arrives on a connection and whatever becomes
of the server meanwhile,

* the commands are acknowledged one by one, in turn, each under its own request id;
* what is dispatched is dispatched under the context of an accepted hello;
* the remembered answers and their order hold the same request ids, each once and
  at most 256;
* between two dispatches under one request id 256 other request ids were
  remembered. -/
theorem command_discipline (config : GatewayConfig) (server : Server S C A)
    (steps : List (LinkStep S C A)) :
    let link := (Link.new server).run config steps
    let memo := link.connected.state.completedCommands
    (link.outbound.filterMap Frame.ack?).map (·.requestId) = link.received.map (·.requestId) ∧
    link.answers.map (·.command) = link.received ∧
    (∀ answer ∈ link.answers, ∀ context, answer.handling = .dispatched context →
      context ∈ link.welcomed) ∧
    (link.connected.state.welcomeSent = link.connected.state.authed.isSome) ∧
    (∀ requestId, requestId ∈ memo.entries ↔ requestId ∈ memo.order) ∧
    memo.order.Nodup ∧ memo.order.length ≤ 256 ∧
    (∀ before between after first second context context',
      link.answers = before ++ first :: between ++ second :: after →
      first.handling = .dispatched context → second.handling = .dispatched context' →
      first.command.requestId = second.command.requestId →
      256 ≤ ((((between.filter Answer.remembered).map (·.command.requestId)).toFinset).erase
        first.command.requestId).card) := by
  intro link memo
  have h : Disciplined link := (Disciplined.new server).run config steps
  refine ⟨?_, h.received, h.dispatched, h.welcomeSent, h.follows.mem_entries, h.follows.nodup,
    h.follows.length, ?_⟩
  · rw [h.acks, ← h.received, List.map_map, List.map_map]
    exact List.map_congr_left fun answer hmem => h.own answer hmem
  · intro before between after first second context context' hanswers hfirst hsecond hid
    refine h.spaced hanswers ?_ ?_ hid
    · rw [Answer.remembered, hfirst]
    · rw [Answer.remembered, hsecond]

end

end Gateway

end Slight
