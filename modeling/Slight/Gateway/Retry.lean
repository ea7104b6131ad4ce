import Slight.Gateway.Discipline
import Slight.Support.System

/-!
# Slight.Gateway.Retry

Commands that are sent again.  A `Hub` is a server with all its connections: they
open, drop, and answer what arrives, each on its own.  `replies` is the history of
all answers, with the connection and the device they were given to.

`Idempotent` says that a command of a device is executed at most once and answered
by that execution from then on.  It holds as long as a command comes back to the
connection that executed it, before 256 others were remembered there.
-/

namespace Slight

namespace Gateway

open Support Program

variable {S C A : Type}

/-! ## a server with its connections -/

/-- An answer a connection gave, and the device it had then. -/
structure Reply where
  connection : Nat
  device : Option String
  answer : Answer

namespace Reply

/-- The command was dispatched. -/
def executed (reply : Reply) : Bool :=
  match reply.answer.handling with
  | .dispatched _ => true
  | _ => false

/-- The replies answer the same request of the same device. -/
def SameRequest (reply reply' : Reply) : Prop :=
  reply.device = reply'.device ∧
    reply.answer.command.requestId = reply'.answer.command.requestId

end Reply

structure Hub (S C A : Type) where
  server : Server S C A
  connections : AList fun _ : Nat => ConnState
  opened : Nat
  replies : List Reply

inductive HubStep (S C A : Type) where
  | open
  | drop (connection : Nat)
  | incoming (connection : Nat) (payload : Payload)
  | drain (connection : Nat) (sessionIds : List SessionId)
  | others (server : Server S C A)

namespace Hub

/-- The answers a connection gave. -/
def answersOf (hub : Hub S C A) (connection : Nat) : List Answer :=
  (hub.replies.filter fun reply => reply.connection = connection).map (·.answer)

/-- The last 256 replies that a connection was to remember. -/
def recent (hub : Hub S C A) (connection : Nat) : List Reply :=
  (hub.replies.filter fun reply =>
    decide (reply.connection = connection) && reply.answer.remembered).rtake completedCommandLimit

variable [SessionStore S] [AcpSession C] [AcpDiscovery C] [HostAdmin S C A] [Authenticator A]

/-- What a payload makes of the hub, on a connection in state `state`. -/
def process (hub : Hub S C A) (config : GatewayConfig) (connection : Nat) (state : ConnState)
    (payload : Payload) : Hub S C A :=
  let processed := dispatchIncoming config { server := hub.server, state } payload
  { server := processed.connected.server
    connections := hub.connections.insert connection processed.connected.state
    opened := hub.opened
    replies := hub.replies ++ processed.answer.toList.map fun answer =>
      { connection, device := state.authed.map (·.deviceId), answer } }

def next (config : GatewayConfig) (hub : Hub S C A) : HubStep S C A → Option (Hub S C A)
  | .open =>
      some { hub with
        connections := hub.connections.insert hub.opened .new
        opened := hub.opened + 1 }
  | .drop connection => some { hub with connections := hub.connections.erase connection }
  | .incoming connection payload => do
      let state ← hub.connections.lookup connection
      pure (hub.process config connection state payload)
  | .drain connection sessionIds => do
      let state ← hub.connections.lookup connection
      let (connected, _) := drainSubscriptions { server := hub.server, state } sessionIds
      pure { hub with connections := hub.connections.insert connection connected.state }
  | .others server => some { hub with server }

end Hub

section

variable [SessionStore S] [AcpSession C] [AcpDiscovery C] [HostAdmin S C A] [Authenticator A]

/-- All connections of a server, from a start without any. -/
def hubSystem (config : GatewayConfig) : System (Hub S C A) (HubStep S C A) :=
  .ofNext (fun hub => hub.connections = ∅ ∧ hub.replies = []) (Hub.next config)

/-! ## the connections of a hub -/

/-- Every connection of the hub is one that was only ever talked to alone. -/
structure Hub.Disciplined (hub : Hub S C A) : Prop where
  opened : ∀ reply ∈ hub.replies, reply.connection < hub.opened
  executed : ∀ reply ∈ hub.replies, reply.executed = true → reply.device.isSome
  link : ∀ connection state, hub.connections.lookup connection = some state →
    connection < hub.opened ∧
    ∃ link : Link S C A, Gateway.Disciplined link ∧
      link.connected = { server := hub.server, state } ∧ link.answers = hub.answersOf connection

omit [SessionStore S] [AcpSession C] [AcpDiscovery C] [HostAdmin S C A] [Authenticator A] in
/-- Draining one connection leaves the server alone. -/
theorem drainSubscriptions_server (connected : Connected S C A) (sessionIds : List SessionId) :
    (drainSubscriptions connected sessionIds).1.server = connected.server := by
  induction sessionIds generalizing connected with
  | nil => rfl
  | cons sessionId sessionIds ih =>
      unfold drainSubscriptions
      exact ih _

omit [SessionStore S] [AcpSession C] [AcpDiscovery C] [HostAdmin S C A] [Authenticator A] in
theorem Hub.answersOf_append {hub hub' : Hub S C A} {replies : List Reply}
    (hreplies : hub'.replies = hub.replies ++ replies) (connection : Nat) :
    hub'.answersOf connection = hub.answersOf connection ++
      (replies.filter fun reply => reply.connection = connection).map (·.answer) := by
  unfold Hub.answersOf
  rw [hreplies, List.filter_append, List.map_append]

/-- What answers is a command. -/
theorem answer_of_incoming (config : GatewayConfig) (connected : Connected S C A)
    (payload : Payload) :
    (dispatchIncoming config connected payload).answer = none ∨
      ∃ command, payload = .ok (.command command) ∧
        (dispatchIncoming config connected payload).answer =
          some (processCommand config connected command).2 := by
  match payload with
  | .ok (.command command) => exact .inr ⟨command, rfl, rfl⟩
  | .ok (.hello hello) =>
      left
      show (processHello config connected hello).answer = none
      unfold processHello
      split
      · rfl
      · dsimp only
        split <;> rfl
  | .error _ => exact .inl rfl
  | .ok (.ping _) => exact .inl rfl
  | .ok (.pong _) => exact .inl rfl
  | .ok (.welcome _) => exact .inl rfl
  | .ok (.ack _) => exact .inl rfl
  | .ok (.event _) => exact .inl rfl
  | .ok (.resyncRequired _) => exact .inl rfl
  | .ok (.error _) => exact .inl rfl

omit [Authenticator A] in
/-- Only a connection that was welcomed dispatches. -/
theorem welcomed_of_dispatched (config : GatewayConfig) {connected : Connected S C A}
    {command : Command} {context : AuthContext}
    (h : (processCommand config connected command).2.handling = .dispatched context) :
    connected.state.welcomeSent = true := by
  cases hwelcome : connected.state.welcomeSent with
  | true => rfl
  | false =>
      rw [processCommand_unwelcomed config command hwelcome] at h
      contradiction

omit [Authenticator A] in
theorem command_of_processCommand (config : GatewayConfig) (connected : Connected S C A)
    (command : Command) : (processCommand config connected command).2.command = command := by
  cases hwelcome : connected.state.welcomeSent with
  | false => rw [processCommand_unwelcomed config command hwelcome]
  | true =>
      cases hrecall : connected.state.completedCommands.recalled command.requestId with
      | some ack => rw [processCommand_recalled config command hwelcome hrecall]
      | none =>
          obtain ⟨before, answer, hprocess, -, hcommand, -⟩ :=
            processCommand_anew config command hwelcome hrecall
          rw [hprocess]
          exact hcommand

omit [Authenticator A] in
/-- What is not dispatched leaves the server alone. -/
theorem server_of_processCommand (config : GatewayConfig) (connected : Connected S C A)
    (command : Command)
    (h : ∀ context, (processCommand config connected command).2.handling ≠ .dispatched context) :
    (processCommand config connected command).1.server = connected.server := by
  cases hwelcome : connected.state.welcomeSent with
  | false => rw [processCommand_unwelcomed config command hwelcome]
  | true =>
      cases hrecall : connected.state.completedCommands.recalled command.requestId with
      | some ack => rw [processCommand_recalled config command hwelcome hrecall]
      | none =>
          obtain ⟨before, answer, hprocess, -, -, -, hhandling⟩ :=
            processCommand_anew config command hwelcome hrecall
          rw [hprocess] at h ⊢
          rcases hhandling with ⟨-, hserver⟩ | hdispatched
          · exact hserver
          · exact absurd hdispatched (h _)

omit [Authenticator A] in
/-- What is recalled is remembered. -/
theorem recalled_of_handling (config : GatewayConfig) {connected : Connected S C A}
    {command : Command}
    (h : (processCommand config connected command).2.handling = .recalled) :
    ∃ ack, connected.state.completedCommands.recalled command.requestId = some ack ∧
      (processCommand config connected command).2.ack = ack := by
  cases hwelcome : connected.state.welcomeSent with
  | false =>
      rw [processCommand_unwelcomed config command hwelcome] at h
      contradiction
  | true =>
      cases hrecall : connected.state.completedCommands.recalled command.requestId with
      | some ack =>
          rw [processCommand_recalled config command hwelcome hrecall]
          exact ⟨ack, rfl, rfl⟩
      | none =>
          obtain ⟨before, answer, hprocess, -, -, -, hhandling⟩ :=
            processCommand_anew config command hwelcome hrecall
          rw [hprocess] at h
          rcases hhandling with ⟨hrefused, -⟩ | hdispatched
          · rw [hrefused] at h
            contradiction
          · rw [hdispatched] at h
            contradiction

namespace Hub.Disciplined

variable {hub hub' : Hub S C A}

omit [SessionStore S] [AcpSession C] [AcpDiscovery C] [HostAdmin S C A] [Authenticator A] in
theorem welcomed (h : hub.Disciplined) {connection : Nat} {state : ConnState}
    (hlookup : hub.connections.lookup connection = some state) (hauthed : state.authed.isSome) :
    state.welcomeSent = true := by
  obtain ⟨-, link, hlink, hconnected, -⟩ := h.link connection state hlookup
  have hwelcome := hlink.welcomeSent
  rw [hconnected] at hwelcome
  exact hwelcome.trans hauthed

/-- A payload on one connection. -/
theorem process (h : hub.Disciplined) (config : GatewayConfig) {connection : Nat}
    {state : ConnState} (hlookup : hub.connections.lookup connection = some state)
    (payload : Payload) : (hub.process config connection state payload).Disciplined := by
  obtain ⟨hopened, link, hlink, hconnected, hanswers⟩ := h.link connection state hlookup
  have hreplies : (hub.process config connection state payload).replies = hub.replies ++
      (dispatchIncoming config link.connected payload).answer.toList.map fun answer =>
        { connection, device := state.authed.map (·.deviceId), answer } := by
    rw [hconnected]
    rfl
  constructor
  · intro reply hmem
    rw [hreplies] at hmem
    rcases List.mem_append.mp hmem with hold | hnew
    · exact h.opened reply hold
    · obtain ⟨answer, -, rfl⟩ := List.mem_map.mp hnew
      exact hopened
  · intro reply hmem hexecuted
    rw [hreplies] at hmem
    rcases List.mem_append.mp hmem with hold | hnew
    · exact h.executed reply hold hexecuted
    · obtain ⟨answer, hanswer, rfl⟩ := List.mem_map.mp hnew
      rcases answer_of_incoming config link.connected payload with hnone | ⟨command, -, hsome⟩
      · rw [hnone] at hanswer
        exact absurd hanswer List.not_mem_nil
      · rw [hsome] at hanswer
        rw [List.mem_singleton.mp hanswer, Reply.executed] at hexecuted
        dsimp only at hexecuted
        split at hexecuted
        · next context hhandling =>
            have hwelcome := welcomed_of_dispatched config hhandling
            rw [hlink.welcomeSent, hconnected] at hwelcome
            show (state.authed.map (·.deviceId)).isSome = true
            rw [Option.isSome_map]
            exact hwelcome
        · contradiction
  · intro other state' hother
    show other < hub.opened ∧ _
    by_cases heq : other = connection
    · subst heq
      refine ⟨hopened, link.next config (.incoming payload), hlink.next config _, ?_, ?_⟩
      · rw [show (hub.process config other state payload).connections =
          hub.connections.insert other _ from rfl, AList.lookup_insert] at hother
        rw [← Option.some.inj hother]
        show (dispatchIncoming config link.connected payload).connected = _
        rw [hconnected]
        rfl
      · rw [Hub.answersOf_append hreplies, ← hanswers]
        show link.answers ++ _ = _
        congr 1
        rw [List.filter_eq_self.mpr fun reply hreply => ?_, List.map_map]
        · exact (List.map_id _).symm
        · obtain ⟨answer, -, rfl⟩ := List.mem_map.mp hreply
          exact decide_eq_true rfl
    · rw [show (hub.process config connection state payload).connections =
        hub.connections.insert connection _ from rfl, AList.lookup_insert_ne heq] at hother
      obtain ⟨hopened', link', hlink', hconnected', hanswers'⟩ := h.link other state' hother
      refine ⟨hopened', link'.next config
        (.others (hub.process config connection state payload).server), hlink'.next config _, ?_, ?_⟩
      · show Connected.mk _ link'.connected.state = _
        rw [hconnected']
      · rw [Hub.answersOf_append hreplies, List.filter_eq_nil_iff.mpr fun reply hreply => ?_]
        · rw [List.map_nil, List.append_nil]
          exact hanswers'
        · obtain ⟨answer, -, rfl⟩ := List.mem_map.mp hreply
          simpa using Ne.symm heq

/-- **Every step** keeps each connection one that was talked to alone. -/
theorem next (h : hub.Disciplined) (config : GatewayConfig) {step : HubStep S C A}
    (hstep : hub.next config step = some hub') : hub'.Disciplined := by
  cases step with
  | «open» =>
      rw [← Option.some.inj hstep]
      refine ⟨fun reply hmem => (h.opened reply hmem).trans (Nat.lt_succ_self _), h.executed, ?_⟩
      intro connection state hlookup
      rcases lookup_insert_eq_some hlookup with ⟨rfl, rfl⟩ | ⟨-, hold⟩
      · refine ⟨Nat.lt_succ_self _, Link.new hub.server, .new hub.server, rfl, ?_⟩
        show [] = (hub.replies.filter _).map _
        rw [List.filter_eq_nil_iff.mpr fun reply hmem => ?_, List.map_nil]
        have hlt := h.opened reply hmem
        simp only [decide_eq_true_eq]
        omega
      · obtain ⟨hopened, hlink⟩ := h.link connection state hold
        exact ⟨hopened.trans (Nat.lt_succ_self _), hlink⟩
  | drop connection =>
      rw [← Option.some.inj hstep]
      refine ⟨h.opened, h.executed, fun other state hlookup => ?_⟩
      have hne : other ≠ connection := by
        rintro rfl
        rw [show (hub.connections.erase other).lookup other = none from AList.lookup_erase _ _]
          at hlookup
        contradiction
      exact h.link other state ((AList.lookup_erase_ne hne).symm.trans hlookup)
  | incoming connection payload =>
      obtain ⟨state, hlookup, hhub⟩ := Option.bind_eq_some_iff.mp hstep
      rw [← Option.some.inj hhub]
      exact h.process config hlookup payload
  | drain connection sessionIds =>
      obtain ⟨state, hlookup, hhub⟩ := Option.bind_eq_some_iff.mp hstep
      rw [← Option.some.inj hhub]
      refine ⟨h.opened, h.executed, fun other state' hother => ?_⟩
      rcases lookup_insert_eq_some hother with ⟨rfl, rfl⟩ | ⟨-, hold⟩
      · obtain ⟨hopened, link, hlink, hconnected, hanswers⟩ := h.link other state hlookup
        refine ⟨hopened, link.next config (.drain sessionIds), hlink.next config _, ?_, hanswers⟩
        show (drainSubscriptions link.connected sessionIds).1 = _
        rw [hconnected]
        exact congrArg (fun server => Connected.mk server _)
          (drainSubscriptions_server { server := hub.server, state } sessionIds)
      · exact h.link other state' hold
  | others server =>
      rw [← Option.some.inj hstep]
      refine ⟨h.opened, h.executed, fun other state hlookup => ?_⟩
      obtain ⟨hopened, link, hlink, hconnected, hanswers⟩ := h.link other state hlookup
      refine ⟨hopened, link.next config (.others server), hlink.next config _, ?_, hanswers⟩
      show Connected.mk server link.connected.state = _
      rw [hconnected]

end Hub.Disciplined

/-! ## executed at most once -/

/-- Every command of a device is executed at most once and from then on answered by
that execution, and what is answered from memory was answered to the same request
of the same device before. -/
structure Idempotent (replies : List Reply) : Prop where
  once : replies.Pairwise fun earlier later => earlier.executed = true →
    earlier.SameRequest later → later.executed = false ∧ later.answer.ack = earlier.answer.ack
  repeated : ∀ reply ∈ replies, reply.answer.handling = .recalled →
    ∃ earlier ∈ replies, earlier.answer.remembered = true ∧ earlier.SameRequest reply ∧
      earlier.answer.ack = reply.answer.ack

/-- The connection the command arrives on remembers the execution of the command, if
there was one, and no answer to another device under its request id. -/
def Hub.Remembers (hub : Hub S C A) (connection : Nat) (command : Command) : Prop :=
  match hub.connections.lookup connection with
  | none => True
  | some state =>
      (∀ reply ∈ hub.replies, reply.executed = true →
        reply.device = state.authed.map (·.deviceId) →
        reply.answer.command.requestId = command.requestId → reply ∈ hub.recent connection) ∧
      ∀ reply ∈ hub.recent connection, reply.answer.command.requestId = command.requestId →
        reply.device = state.authed.map (·.deviceId)

/-- The command that arrives, and the connection it arrives on. -/
def HubStep.arrival : HubStep S C A → Option (Nat × Command)
  | .incoming connection payload => (commandOf payload).map fun command => (connection, command)
  | _ => none

/-- Commands only arrive where they are remembered. -/
def Hub.Meets (hub : Hub S C A) (step : HubStep S C A) : Prop :=
  ∀ arrival ∈ step.arrival, hub.Remembers arrival.1 arrival.2

namespace Hub.Disciplined

variable {hub hub' : Hub S C A}

omit [SessionStore S] [AcpSession C] [AcpDiscovery C] [HostAdmin S C A] [Authenticator A] in
/-- **The memory of a connection** is what it answered last. -/
theorem recall_iff (h : hub.Disciplined) {connection : Nat} {state : ConnState}
    (hlookup : hub.connections.lookup connection = some state) (requestId : String)
    (ack : CommandAck) :
    state.completedCommands.recalled requestId = some ack ↔
      ∃ reply ∈ hub.recent connection,
        reply.answer.command.requestId = requestId ∧ reply.answer.ack = ack := by
  obtain ⟨-, link, hlink, hconnected, hanswers⟩ := h.link connection state hlookup
  have hlog : rememberedLog link.answers = (hub.replies.filter fun reply =>
      decide (reply.connection = connection) && reply.answer.remembered).map fun reply =>
        (reply.answer.ack.requestId, reply.answer.ack) := by
    rw [hanswers, rememberedLog, Hub.answersOf, List.filter_map, List.filter_filter, List.map_map]
    simp only [Function.comp_def, Bool.and_comm]
  have hrecent : (rememberedLog link.answers).rtake completedCommandLimit =
      (hub.recent connection).map fun reply =>
        (reply.answer.ack.requestId, reply.answer.ack) := by
    rw [hlog, ← map_rtake]
    rfl
  have hown : ∀ reply ∈ hub.recent connection,
      reply.answer.ack.requestId = reply.answer.command.requestId := by
    intro reply hmem
    obtain ⟨hreply, htest⟩ := List.mem_filter.mp ((rtake_suffix _ _).subset hmem)
    refine hlink.own reply.answer ?_
    rw [hanswers]
    refine List.mem_map_of_mem (List.mem_filter.mpr ⟨hreply, ?_⟩)
    exact (Bool.and_eq_true_iff.mp htest).1
  have hfollows := hlink.follows.recalled requestId ack
  rw [hconnected, hrecent, List.mem_map] at hfollows
  rw [hfollows]
  constructor
  · rintro ⟨reply, hmem, heq⟩
    obtain ⟨hid, hack⟩ := Prod.mk.inj heq
    exact ⟨reply, hmem, (hown reply hmem).symm.trans hid, hack⟩
  · rintro ⟨reply, hmem, hid, hack⟩
    exact ⟨reply, hmem, Prod.ext ((hown reply hmem).trans hid) hack⟩

/-- **One command** that arrives where it is remembered. -/
theorem idempotent_command (h : hub.Disciplined) (hidempotent : Idempotent hub.replies)
    (config : GatewayConfig) {connection : Nat} {state : ConnState} {command : Command}
    (hlookup : hub.connections.lookup connection = some state)
    (hremembers : hub.Remembers connection command) :
    Idempotent (hub.process config connection state (.ok (.command command))).replies := by
  rw [Hub.Remembers, hlookup] at hremembers
  obtain ⟨hexecution, hdevice⟩ := hremembers
  have hrecall := h.recall_iff hlookup command.requestId
  have hcommand := command_of_processCommand config ({ server := hub.server, state } : Connected S C A)
    command
  show Idempotent (hub.replies ++ [{
    connection
    device := state.authed.map (·.deviceId)
    answer := (processCommand config { server := hub.server, state } command).2 }])
  constructor
  · refine List.pairwise_append.mpr ⟨hidempotent.once, List.pairwise_singleton _ _, ?_⟩
    intro earlier hearlier later hlater hexecuted hsame
    rw [List.mem_singleton.mp hlater] at hsame ⊢
    obtain ⟨hsameDevice, hsameId⟩ := hsame
    have hid : earlier.answer.command.requestId = command.requestId :=
      hsameId.trans (congrArg Command.requestId hcommand)
    have hrecalled := (hrecall earlier.answer.ack).mpr
      ⟨earlier, hexecution earlier hearlier hexecuted hsameDevice hid, hid, rfl⟩
    have hauthed : state.authed.isSome := by
      have hsome := h.executed earlier hearlier hexecuted
      rw [hsameDevice, Option.isSome_map] at hsome
      exact hsome
    rw [processCommand_recalled config command (h.welcomed hlookup hauthed) hrecalled]
    exact ⟨rfl, rfl⟩
  · intro reply hmem hhandling
    rcases List.mem_append.mp hmem with hold | hnew
    · obtain ⟨earlier, hearlier, hrest⟩ := hidempotent.repeated reply hold hhandling
      exact ⟨earlier, List.mem_append_left _ hearlier, hrest⟩
    · rw [List.mem_singleton.mp hnew] at hhandling ⊢
      obtain ⟨ack, hack, hanswer⟩ := recalled_of_handling config hhandling
      obtain ⟨earlier, hearlier, hid, hsame⟩ := (hrecall ack).mp hack
      obtain ⟨hreply, htest⟩ := List.mem_filter.mp ((rtake_suffix _ _).subset hearlier)
      refine ⟨earlier, List.mem_append_left _ hreply, (Bool.and_eq_true_iff.mp htest).2,
        ⟨hdevice earlier hearlier hid, ?_⟩, ?_⟩
      · exact hid.trans (congrArg Command.requestId hcommand).symm
      · rw [hanswer, hsame]

/-- **Every step** of a run in which commands only arrive where they are remembered. -/
theorem idempotent_next (h : hub.Disciplined) (hidempotent : Idempotent hub.replies)
    (config : GatewayConfig) {step : HubStep S C A} (hmeets : hub.Meets step)
    (hstep : hub.next config step = some hub') : Idempotent hub'.replies := by
  cases step with
  | «open» =>
      rw [← Option.some.inj hstep]
      exact hidempotent
  | drop connection =>
      rw [← Option.some.inj hstep]
      exact hidempotent
  | incoming connection payload =>
      obtain ⟨state, hlookup, hhub⟩ := Option.bind_eq_some_iff.mp hstep
      rw [← Option.some.inj hhub]
      rcases answer_of_incoming config { server := hub.server, state } payload with
        hnone | ⟨command, rfl, -⟩
      · show Idempotent (hub.replies ++ _)
        rw [hnone, Option.toList_none, List.map_nil, List.append_nil]
        exact hidempotent
      · exact h.idempotent_command hidempotent config hlookup (hmeets (connection, command) rfl)
  | drain connection sessionIds =>
      obtain ⟨state, hlookup, hhub⟩ := Option.bind_eq_some_iff.mp hstep
      rw [← Option.some.inj hhub]
      exact hidempotent
  | others server =>
      rw [← Option.some.inj hstep]
      exact hidempotent

end Hub.Disciplined

/-- **Retries**: in a run in which commands only arrive where they are remembered,
every command of a device is executed at most once, all its later answers repeat
that execution's, and what is not executed leaves the server as it is. -/
theorem executed_at_most_once {config : GatewayConfig} {hub : Hub S C A}
    (h : (hubSystem config).ReachUnder Hub.Meets hub) :
    Idempotent hub.replies ∧
    ∀ connection state command, hub.connections.lookup connection = some state →
      (∀ context, (processCommand config { server := hub.server, state } command).2.handling ≠
        .dispatched context) →
      (hub.process config connection state (.ok (.command command))).server = hub.server := by
  have hboth : hub.Disciplined ∧ Idempotent hub.replies := by
    refine System.invariant_of_step (I := fun hub => hub.Disciplined ∧ Idempotent hub.replies)
      (fun hub hinit => ?_) (fun hub step hub' hinv hmeets hstep => ?_) h
    · obtain ⟨hconnections, hreplies⟩ := hinit
      refine ⟨⟨?_, ?_, fun connection state hlookup => ?_⟩, ?_, ?_⟩
      · rw [hreplies]
        exact fun reply hmem => absurd hmem List.not_mem_nil
      · rw [hreplies]
        exact fun reply hmem => absurd hmem List.not_mem_nil
      · rw [hconnections, AList.lookup_empty] at hlookup
        contradiction
      · rw [hreplies]
        exact List.Pairwise.nil
      · rw [hreplies]
        exact fun reply hmem => absurd hmem List.not_mem_nil
    · exact ⟨hinv.1.next config hstep, hinv.1.idempotent_next hinv.2 config hmeets hstep⟩
  exact ⟨hboth.2, fun connection state command _ hhandling =>
    server_of_processCommand config { server := hub.server, state } command hhandling⟩

end

/-! ## retries on one connection, and on two -/

/-- All replies so far are ones that the connection remembers, given to the device
that it has. -/
def Hub.Single (hub : Hub S C A) (step : HubStep S C A) : Prop :=
  ∀ arrival ∈ step.arrival, hub.replies.length ≤ completedCommandLimit ∧
    ∀ reply ∈ hub.replies, reply.connection = arrival.1 ∧ reply.answer.remembered = true ∧
      reply.device = (hub.connections.lookup arrival.1).bind fun state =>
        state.authed.map (·.deviceId)

instance decidableSingle (hub : Hub S C A) (step : HubStep S C A) : Decidable (hub.Single step) :=
  inferInstanceAs (Decidable (∀ arrival ∈ step.arrival, _ ∧ ∀ reply ∈ hub.replies, _))

theorem Hub.Single.meets {hub : Hub S C A} {step : HubStep S C A} (h : hub.Single step) :
    hub.Meets step := by
  intro (connection, command) harrival
  obtain ⟨hlength, hreplies⟩ := h (connection, command) harrival
  unfold Hub.Remembers
  dsimp only
  cases hlookup : hub.connections.lookup connection with
  | none => trivial
  | some state =>
      have hdevice : ∀ reply ∈ hub.replies, reply.device = state.authed.map (·.deviceId) := by
        intro reply hmem
        rw [(hreplies reply hmem).2.2, hlookup, Option.bind_some]
      have hall : hub.recent connection = hub.replies := by
        unfold Hub.recent
        rw [List.filter_eq_self.mpr fun reply hmem => ?_, List.rtake,
          Nat.sub_eq_zero_of_le hlength, List.drop_zero]
        obtain ⟨hconnection, hremembered, -⟩ := hreplies reply hmem
        rw [hremembered, Bool.and_true]
        exact decide_eq_true hconnection
      dsimp only
      rw [hall]
      exact ⟨fun reply hmem _ _ _ => hmem, fun reply hmem _ => hdevice reply hmem⟩

namespace TestHost

def hub : Hub SqliteStore ScriptedAgent TestHost where
  server := server
  connections := ∅
  opened := 0
  replies := []

/-- A device creates a session on connection 0, and sends the same command again on
connection `again`. -/
def createTwice (again : List (HubStep SqliteStore ScriptedAgent TestHost)) (connection : Nat) :
    List (HubStep SqliteStore ScriptedAgent TestHost) :=
  [.open, .incoming 0 (.ok (hello "test")), .incoming 0 (.ok (create "r1"))] ++ again ++
    [.incoming connection (.ok (create "r1"))]

end TestHost

theorem executed_at_most_once_resent :
    ∃ hub : Hub SqliteStore ScriptedAgent TestHost,
      (hubSystem TestHost.config).ReachUnder Hub.Meets hub ∧
      hub.server.world.inner.sessions.keys.length = 1 ∧
      hub.replies.map (·.executed) = [true, false] ∧ Idempotent hub.replies := by
  have hrun : (System.runs (Hub.next TestHost.config) TestHost.hub
      (TestHost.createTwice [] 0)).map (fun hub =>
        (hub.server.world.inner.sessions.keys.length, hub.replies.map (·.executed))) =
      some (1, [true, false]) := by decide +kernel
  have hsingle : System.runsUnder (Hub.next TestHost.config) Hub.Single TestHost.hub
      (TestHost.createTwice [] 0) := by decide +kernel
  obtain ⟨hub, hhub, heq⟩ := Option.map_eq_some_iff.mp hrun
  have hreach : (hubSystem TestHost.config).ReachUnder Hub.Meets hub :=
    (System.reachUnder_of_runs _ ⟨rfl, rfl⟩ hsingle hhub).mono fun _ _ h => h.meets
  obtain ⟨hsessions, hexecuted⟩ := Prod.mk.inj heq
  exact ⟨hub, hreach, hsessions, hexecuted, (executed_at_most_once hreach).1⟩

/-- **A retry on a new connection is executed again**: the device's one request
creates two sessions. -/
theorem retry_executed_twice :
    ∃ hub : Hub SqliteStore ScriptedAgent TestHost,
      (hubSystem TestHost.config).Reachable hub ∧
      hub.server.world.inner.sessions.keys.length = 2 ∧
      hub.replies.map (fun reply => (reply.device, reply.answer.command.requestId, reply.executed)) =
        [(some "device-test", "r1", true), (some "device-test", "r1", true)] ∧
      ¬ Idempotent hub.replies := by
  have hrun : (System.runs (Hub.next TestHost.config) TestHost.hub
      (TestHost.createTwice [.drop 0, .open, .incoming 1 (.ok (TestHost.hello "test"))] 1)).map
        (fun hub => (hub.server.world.inner.sessions.keys.length, hub.replies.map fun reply =>
          (reply.device, reply.answer.command.requestId, reply.executed))) =
      some (2, [(some "device-test", "r1", true), (some "device-test", "r1", true)]) := by
    decide +kernel
  obtain ⟨hub, hhub, heq⟩ := Option.map_eq_some_iff.mp hrun
  obtain ⟨hsessions, hreplies⟩ := Prod.mk.inj heq
  refine ⟨hub, System.reachable_of_runs _ ⟨rfl, rfl⟩ hhub, hsessions, hreplies, fun hidempotent => ?_⟩
  have hlength : hub.replies.length = 2 := by
    have hmap := congrArg List.length hreplies
    rw [List.length_map] at hmap
    exact hmap
  obtain ⟨first, second, hlist⟩ := List.length_eq_two.mp hlength
  have honce := hidempotent.once
  rw [hlist] at hreplies honce
  simp only [List.map_cons, List.map_nil, List.cons.injEq, Prod.mk.injEq, and_true] at hreplies
  obtain ⟨⟨hdevice, hid, hfirst⟩, hdevice', hid', hsecond⟩ := hreplies
  have hfalse := ((List.pairwise_cons.mp honce).1 second (List.mem_singleton_self _) hfirst
    ⟨hdevice.trans hdevice'.symm, hid.trans hid'.symm⟩).1
  rw [hsecond] at hfalse
  contradiction

end Gateway

end Slight
