import Slight.Client.CatchUp
import Slight.Client.Crossing
import Slight.Client.Reading
import Slight.Gateway.Stream
import Slight.Session.Sources

/-!
# Slight.Gateway.Agreement

A host, its connections, and a client on the other side of a network.

`Network` interleaves the turns of the manager, the sections of any number of connections,
and everything that may happen to the client.  The network may lose what was sent, deliver
it late, more than once, or out of order, and connections break at any time.  Still, what
the client shows of a session is of the session's history, in order, each event once, and
without a hole that it does not know of.
-/

namespace Slight

namespace Gateway

open Support Program

variable {S C : Type}

/-! ## the network -/

/-- A connection of the host, and the attach it is about to subscribe for, with the number
of events its acknowledgement may carry. -/
structure Peer where
  state : ConnState
  attaching : Option (SessionId × AttachResult × Nat) := none

/-- A host with its connections, the frames that were sent on any of them so far, and a
client. -/
structure Network (S C : Type) where
  world : World S C
  peers : AList fun _ : Nat => Peer
  sent : List Frame
  client : Holding

/-- What happens: a turn of the manager; on a connection, an attach takes the first lock,
then the second, the channel of a session is drained, a session is detached; at the
client, anything. -/
inductive NetworkStep where
  | turn (turn : Turn)
  | newUuid
  | opened (peer : Nat)
  | dropped (peer : Nat)
  | attach (peer : Nat) (sessionId : SessionId) (afterSequence : Option Nat) (limit : Nat)
  | subscribe (peer : Nat) (requestId : String)
  | drain (peer : Nat) (sessionId : SessionId)
  | detach (peer : Nat) (sessionId : SessionId)
  | act (action : Holding.Action)

/-- The frame was sent on some connection. -/
def Delivers (sent : List Frame) : Holding.Action → Prop
  | .eventFrame event => .event event ∈ sent
  | .ackFrame ack =>
      ∀ attach ∈ ack.result, ∃ requestId, .ack ⟨requestId, .ok (.attached attach)⟩ ∈ sent
  | _ => True

namespace Network

/-- The host and one of its connections. -/
def connected (network : Network S C) (p : Peer) : Connected S C Unit :=
  ⟨⟨network.world, ()⟩, p.state⟩

def Steps [SessionStore S] [AcpSession C] (network : Network S C) (step : NetworkStep)
    (network' : Network S C) : Prop :=
  match step with
  | .turn turn =>
      ∃ world, network.world.Turns turn world ∧ network' = { network with world }
  | .newUuid =>
      network' =
        { network with world := { network.world with ticks := network.world.ticks + 1 } }
  | .opened peer =>
      peer ∉ network.peers ∧
        network' = { network with peers := network.peers.insert peer { state := .new } }
  | .dropped peer => network' = { network with peers := network.peers.erase peer }
  | .attach peer sessionId afterSequence limit =>
      ∃ p result connected, network.peers.lookup peer = some p ∧ p.attaching = none ∧
        (Dispatch.manager (Manager.attach sessionId afterSequence)).exec (network.connected p) =
          (.ok result, connected) ∧
        network' =
          { network with
            world := connected.world
            peers := network.peers.insert peer
              { state := connected.state, attaching := some (sessionId, result, limit) } }
  | .subscribe peer requestId =>
      ∃ p sessionId result limit connected, network.peers.lookup peer = some p ∧
        p.attaching = some (sessionId, result, limit) ∧
        (Dispatch.subscribe sessionId).final (network.connected p) = connected ∧
        network' =
          { network with
            world := connected.world
            peers := network.peers.insert peer { state := connected.state }
            sent := network.sent ++
              [.ack ⟨requestId, .ok (.attached (attachResult sessionId result limit))⟩] }
  | .drain peer sessionId =>
      ∃ p, network.peers.lookup peer = some p ∧ p.attaching = none ∧
        network' =
          { network with
            peers := network.peers.insert peer
              { state := (drainSubscription (network.connected p) sessionId).1 }
            sent := network.sent ++ (drainSubscription (network.connected p) sessionId).2 }
  | .detach peer sessionId =>
      ∃ p, network.peers.lookup peer = some p ∧ p.attaching = none ∧
        network' =
          { network with
            peers := network.peers.insert peer
              { state :=
                  { p.state with subscriptions := p.state.subscriptions.erase sessionId } } }
  | .act action =>
      ∃ client, Delivers network.sent action ∧ network.client.next action = some client ∧
        network' = { network with client }

/-- A host that has started, without a connection, and a client without a transport. -/
def system [SessionStore S] [AcpSession C] (start : World S C) :
    System (Network S C) NetworkStep where
  init network := ∃ client, Holding.Begins client ∧
    network = { world := start, peers := ∅, sent := [], client }
  step := Network.Steps

/-- The history of a session as the host would send it. -/
def log (network : Network S C) (start : World S C) (sessionId : SessionId) : List GatewayEvent :=
  (World.fullHistory start network.world sessionId).map (gatewayEvent sessionId)

/-- How far that goes. -/
def last (network : Network S C) (start : World S C) (sessionId : SessionId) : Nat :=
  World.lastIn start network.world sessionId

/-! ## the invariant -/

/-- What the host may say of the session. -/
def Says (network : Network S C) (start : World S C) (sessionId : SessionId)
    (attach : SessionAttachResult) : Prop :=
  GatewayConnection.Speaks sessionId (network.log start sessionId)
    (network.last start sessionId) attach

/-- Whatever the host is about to send, has sent, or the client makes of it, speaks of the
history of the session. -/
structure Agrees (network : Network S C) (start : World S C) (restored : SessionId → Prop)
    (journalLimit : Nat) (sessionId : SessionId) : Prop where
  undrawn : network.world.Undrawn
  grown : ∀ id, World.Extends id start network.world
  journaled : Journaled restored journalLimit network.world
  attaching : ∀ peer p, network.peers.lookup peer = some p →
    ∀ id result limit, p.attaching = some (id, result, limit) →
      network.Says start sessionId (attachResult id result limit)
  events : ∀ event, .event event ∈ network.sent →
    GatewayConnection.Logged sessionId (network.log start sessionId) event
  acks : ∀ requestId attach, .ack ⟨requestId, .ok (.attached attach)⟩ ∈ network.sent →
    network.Says start sessionId attach
  client : network.client.connection.Follows sessionId (network.log start sessionId)
    (network.last start sessionId)

/-- What a start has to be for its hosts and clients to agree. -/
structure Starts (start : World S C) (restored : SessionId → Prop) (journalLimit : Nat)
    (sessionId : SessionId) : Prop where
  undrawn : start.Undrawn
  named : ∀ id, start.NamedAt id
  begins : start.Begins sessionId
  journaled : Journaled restored journalLimit start

section

variable {network network' : Network S C} {start : World S C} {restored : SessionId → Prop}
  {journalLimit : Nat} {sessionId : SessionId}

theorem Says.mono {attach : SessionAttachResult} (h : network.Says start sessionId attach)
    (hlog : network.log start sessionId ⊆ network'.log start sessionId)
    (hlast : network.last start sessionId ≤ network'.last start sessionId) :
    network'.Says start sessionId attach where
  replayed := fun event hmem hsession => hlog (h.replayed event hmem hsession)
  latest := fun hid => Nat.le_trans (h.latest hid) hlast
  oldest := fun hid oldest hmem => Nat.le_trans (h.oldest hid oldest hmem) hlast

/-- The log of a session is in order, and its own. -/
theorem recorded (hstart : Starts start restored journalLimit sessionId)
    (h : network.Agrees start restored journalLimit sessionId) :
    Recorded sessionId (network.log start sessionId) (network.last start sessionId) := by
  have hbounded := ((h.grown sessionId).ordered hstart.begins).2
  constructor
  · intro event hmem
    obtain ⟨sequenced, -, rfl⟩ := List.mem_map.mp hmem
    rfl
  · intro event hmem
    obtain ⟨sequenced, -, rfl⟩ := List.mem_map.mp hmem
    exact gatewayEvent_event_ne sessionId sequenced
  · intro event hmem
    obtain ⟨sequenced, hsequenced, rfl⟩ := List.mem_map.mp hmem
    exact hbounded sequenced hsequenced

/-- **An attach speaks of the history**: it replays nothing else, and its sequences are
not past it. -/
theorem says_of_attach (hstart : Starts start restored journalLimit sessionId)
    (h : network.Agrees start restored journalLimit sessionId) {id : SessionId}
    {afterSequence : Option Nat} {result : AttachResult}
    (hresult : (Manager.attach id afterSequence : Manager S C AttachResult).result
      network.world = .ok result) (limit : Nat) :
    network.Says start sessionId (attachResult id result limit) := by
  have hgrown := h.grown sessionId
  obtain ⟨hretained, hlast⟩ := hgrown.retained hstart.begins.effects
  rcases World.exec_attach network.world id afterSequence with ⟨summary, hsummary, hexec⟩ | hexec
  · rw [Program.result, hexec] at hresult
    have hid : summary.id = id := by
      obtain ⟨-, -, -, -, -, hnamed⟩ := h.grown id
      exact hnamed (hstart.named id) summary hsummary
    rw [← Except.ok.inj hresult]
    constructor
    · intro event hmem hsession
      obtain ⟨sequenced, hsequenced, rfl⟩ := List.mem_map.mp hmem
      obtain rfl : id = sessionId := hsession
      exact List.mem_map_of_mem (hretained (List.mem_filter.mp (List.mem_of_mem_take hsequenced)).1)
    · intro hsession
      obtain rfl : id = sessionId := hid ▸ hsession
      show summary.lastSequence ≤ World.lastIn start network.world id
      rw [← hlast, World.lastOf, hsummary]
      exact Nat.le_refl _
    · intro hsession oldest hmem
      obtain rfl : id = sessionId := hid ▸ hsession
      obtain ⟨first, hfirst, rfl⟩ := Option.map_eq_some_iff.mp hmem
      have hbounded := (hgrown.ordered hstart.begins).2 first
        (hretained (List.mem_of_mem_head? hfirst))
      exact Nat.le_trans (Nat.sub_le _ _) hbounded
  · rw [Program.result, hexec] at hresult
    cases hresult

/-- What is unread in a channel of a session was appended to the session. -/
theorem appended_of_unread {id : SessionId} {effects : List Effect}
    {channels : List (List SequencedEvent)} (h : Channels id effects channels)
    {receiver : Receiver} {event : SequencedEvent} (hmem : event ∈ receiver.unread channels) :
    event ∈ appendedTo id effects := by
  have hchannel := List.mem_of_mem_drop hmem
  rw [List.getD_eq_getElem?_getD] at hchannel
  cases hsent : channels[receiver.channel]? with
  | none =>
      rw [hsent] at hchannel
      cases hchannel
  | some sent =>
      rw [hsent, Option.getD_some] at hchannel
      obtain ⟨before, after, heffects, -, hafter⟩ := h.since receiver.channel sent hsent
      rw [heffects, appendedTo_append]
      rw [hafter] at hchannel
      exact List.mem_append_right _ hchannel

/-! ## what changes at one party -/

namespace Agrees

variable [SessionStore S] [AcpSession C]

omit [SessionStore S] [AcpSession C] in
/-- The host goes on. -/
theorem grow (h : network.Agrees start restored journalLimit sessionId) {world : World S C}
    (hundrawn : world.Undrawn) (hextends : ∀ id, World.Extends id network.world world)
    (hjournaled : Journaled restored journalLimit world) :
    { network with world }.Agrees start restored journalLimit sessionId := by
  obtain ⟨hhistory, hlast⟩ := (hextends sessionId).fullHistory_subset start
  have hlog : network.log start sessionId ⊆ { network with world }.log start sessionId :=
    List.map_subset _ hhistory
  constructor
  · exact hundrawn
  · exact fun id => (h.grown id).trans (hextends id)
  · exact hjournaled
  · intro peer p hlookup id result limit hattaching
    exact (h.attaching peer p hlookup id result limit hattaching).mono hlog hlast
  · exact fun event hmem hsession => hlog (h.events event hmem hsession)
  · exact fun requestId attach hmem => (h.acks requestId attach hmem).mono hlog hlast
  · exact h.client.mono hlog hlast

/-- A turn of the manager. -/
theorem turn (h : network.Agrees start restored journalLimit sessionId) {turn : Turn}
    {world : World S C} (hturn : network.world.Turns turn world) :
    { network with world }.Agrees start restored journalLimit sessionId := by
  obtain ⟨hundrawn, hextends⟩ := h.undrawn.turn hturn
  exact h.grow hundrawn hextends (h.journaled.turn hturn)

omit [SessionStore S] [AcpSession C] in
/-- An id is drawn for something else. -/
theorem newUuid (h : network.Agrees start restored journalLimit sessionId) :
    { network with world := { network.world with ticks := network.world.ticks + 1 } }.Agrees
      start restored journalLimit sessionId := by
  refine h.grow ?_ (fun id => ?_) ?_
  · exact h.undrawn.of_keys rfl (Nat.le_succ _) (fun _ hmem => hmem) fun _ hmem => hmem
  · exact .of_same (List.append_nil _).symm rfl rfl rfl
  · exact h.journaled.quiet
      ⟨rfl, rfl, rfl, rfl, Nat.le_succ _, [], (List.append_nil _).symm, by simp⟩

omit [SessionStore S] [AcpSession C] in
/-- A connection of the host changes. -/
theorem insert (h : network.Agrees start restored journalLimit sessionId) (peer : Nat) {p : Peer}
    (hp : ∀ id result limit, p.attaching = some (id, result, limit) →
      network.Says start sessionId (attachResult id result limit)) :
    { network with peers := network.peers.insert peer p }.Agrees start restored journalLimit
      sessionId := by
  refine { h with attaching := fun other p' hlookup => ?_ }
  rcases lookup_insert_eq_some hlookup with ⟨-, rfl⟩ | ⟨-, hlookup⟩
  · exact hp
  · exact h.attaching other p' hlookup

omit [SessionStore S] [AcpSession C] in
/-- A connection of the host that attaches to nothing. -/
theorem insertIdle (h : network.Agrees start restored journalLimit sessionId) (peer : Nat)
    (state : ConnState) :
    { network with peers := network.peers.insert peer { state } }.Agrees start restored
      journalLimit sessionId := by
  refine h.insert peer fun id result limit hattaching => ?_
  cases hattaching

omit [SessionStore S] [AcpSession C] in
theorem erase (h : network.Agrees start restored journalLimit sessionId) (peer : Nat) :
    { network with peers := network.peers.erase peer }.Agrees start restored journalLimit
      sessionId := by
  refine { h with attaching := fun other p hlookup => ?_ }
  by_cases hpeer : other = peer
  · rw [hpeer, AList.lookup_erase] at hlookup
    cases hlookup
  · rw [AList.lookup_erase_ne hpeer] at hlookup
    exact h.attaching other p hlookup

omit [SessionStore S] [AcpSession C] in
/-- The host sends frames. -/
theorem send (h : network.Agrees start restored journalLimit sessionId) {frames : List Frame}
    (hevents : ∀ event, .event event ∈ frames →
      GatewayConnection.Logged sessionId (network.log start sessionId) event)
    (hacks : ∀ requestId attach, .ack ⟨requestId, .ok (.attached attach)⟩ ∈ frames →
      network.Says start sessionId attach) :
    { network with sent := network.sent ++ frames }.Agrees start restored journalLimit
      sessionId := by
  refine { h with events := fun event hmem => ?_, acks := fun requestId attach hmem => ?_ }
  · rcases List.mem_append.mp hmem with hmem | hmem
    · exact h.events event hmem
    · exact hevents event hmem
  · rcases List.mem_append.mp hmem with hmem | hmem
    · exact h.acks requestId attach hmem
    · exact hacks requestId attach hmem

/-! ## steps -/

theorem attach (hstart : Starts start restored journalLimit sessionId)
    (h : network.Agrees start restored journalLimit sessionId) {peer : Nat} {id : SessionId}
    {afterSequence : Option Nat} {limit : Nat}
    (hstep : network.Steps (.attach peer id afterSequence limit) network') :
    network'.Agrees start restored journalLimit sessionId := by
  obtain ⟨p, result, connected, -, -, hexec, rfl⟩ := hstep
  rw [Dispatch.exec_manager, show (network.connected p).server.world = network.world from rfl]
    at hexec
  rcases World.exec_attach network.world id afterSequence with ⟨summary, -, hattach⟩ | hattach
  · have hresult : (Manager.attach id afterSequence : Manager S C AttachResult).result
        network.world =
          .ok (attachJournal summary (network.world.journalOf id) afterSequence) := by
      rw [Program.result, hattach]
    have hsays := says_of_attach hstart h hresult limit
    rw [hresult, Program.final, hattach] at hexec
    cases hexec
    refine h.insert peer fun id' result' limit' hattaching => ?_
    cases hattaching
    exact hsays
  · rw [Program.result, hattach] at hexec
    cases hexec

/-- Subscribing is a turn of the manager. -/
theorem turns_subscribe (network : Network S C) (p : Peer) (id : SessionId) :
    network.world.Turns (.operation (.subscribe id))
      ((Dispatch.subscribe id).final (network.connected p)).world := by
  have hworld : ((Dispatch.subscribe id).final (network.connected p)).world =
      (Manager.subscribe id : Manager S C Nat).final network.world := by
    rw [Dispatch.subscribe, final_bind, exec_attempt]
    dsimp only
    cases (Dispatch.manager (Manager.subscribe id) : Dispatch S C Unit Nat).result
      (network.connected p) <;> rfl
  rw [hworld]
  exact (final_discard (Manager.subscribe id) network.world).symm

/-- An attach is acknowledged when the channel is there. -/
theorem subscribe (h : network.Agrees start restored journalLimit sessionId) {peer : Nat}
    {requestId : String} (hstep : network.Steps (.subscribe peer requestId) network') :
    network'.Agrees start restored journalLimit sessionId := by
  obtain ⟨p, id, result, limit, connected, hlookup, hattaching, hsubscribed, rfl⟩ := hstep
  have hturn := turns_subscribe network p id
  rw [hsubscribed] at hturn
  have hgrown := h.turn hturn
  have hsays := hgrown.attaching peer p hlookup id result limit hattaching
  refine (hgrown.insertIdle peer connected.state).send (fun event hmem => ?_)
    fun requestId' attach hmem => ?_
  · cases List.mem_singleton.mp hmem
  · cases List.mem_singleton.mp hmem
    exact hsays

/-- What a channel brings is of the history. -/
theorem drain (h : network.Agrees start restored journalLimit sessionId) {peer : Nat}
    {id : SessionId} (hstep : network.Steps (.drain peer id) network') :
    network'.Agrees start restored journalLimit sessionId := by
  obtain ⟨p, -, -, rfl⟩ := hstep
  rw [drainSubscription_frames]
  refine (h.insertIdle peer _).send (fun event hmem hsession => ?_)
    fun requestId attach hmem => ?_
  · obtain ⟨sequenced, hunread, hframe⟩ := List.mem_map.mp hmem
    cases hframe
    obtain rfl : id = sessionId := hsession
    rw [Connected.unread] at hunread
    cases hreceiver : (network.connected p).state.subscriptions.lookup id with
    | none =>
        rw [hreceiver] at hunread
        cases hunread
    | some receiver =>
        rw [hreceiver] at hunread
        have happended := appended_of_unread (h.journaled.channels id) hunread
        exact List.mem_map_of_mem (List.mem_append_right _ happended)
  · obtain ⟨sequenced, -, hframe⟩ := List.mem_map.mp hmem
    cases hframe

/-- Whatever happens to the client. -/
theorem act (hstart : Starts start restored journalLimit sessionId)
    (h : network.Agrees start restored journalLimit sessionId) {action : Holding.Action}
    (hstep : network.Steps (.act action) network') :
    network'.Agrees start restored journalLimit sessionId := by
  obtain ⟨client, hdelivers, hnext, rfl⟩ := hstep
  have hbrings : action.Brings sessionId (network.log start sessionId)
      (network.last start sessionId) := by
    cases action with
    | eventFrame event => exact h.events event hdelivers
    | ackFrame ack =>
        intro attach hattach
        obtain ⟨requestId, hsent⟩ := hdelivers attach hattach
        exact h.acks requestId attach hsent
    | _ => trivial
  have hclient := Holding.follows_next h.client (recorded hstart h) hbrings hnext
  exact { h with client := hclient }

/-- **Every step** keeps host and client in agreement. -/
theorem steps (hstart : Starts start restored journalLimit sessionId)
    (h : network.Agrees start restored journalLimit sessionId) {step : NetworkStep}
    (hstep : network.Steps step network') :
    network'.Agrees start restored journalLimit sessionId := by
  cases step with
  | turn turn =>
      obtain ⟨world, hturn, rfl⟩ := hstep
      exact h.turn hturn
  | newUuid =>
      obtain rfl : network' = _ := hstep
      exact h.newUuid
  | opened peer =>
      obtain ⟨-, rfl⟩ := hstep
      exact h.insertIdle peer _
  | dropped peer =>
      obtain rfl : network' = _ := hstep
      exact h.erase peer
  | attach peer id afterSequence limit => exact attach hstart h hstep
  | subscribe peer requestId => exact h.subscribe hstep
  | drain peer id => exact h.drain hstep
  | detach peer id =>
      obtain ⟨p, -, -, rfl⟩ := hstep
      exact h.insertIdle peer _
  | act action => exact act hstart h hstep

end Agrees

variable [SessionStore S] [AcpSession C]

/-- **In every run** host and client agree. -/
theorem agrees_of_reachable (hstart : Starts start restored journalLimit sessionId)
    (h : (system start).Reachable network) :
    network.Agrees start restored journalLimit sessionId := by
  refine System.invariant_of_step
    (I := fun network => network.Agrees start restored journalLimit sessionId)
    (fun network hinit => ?_) (fun _ _ _ hbefore _ hstep => hbefore.steps hstart hstep) h
  obtain ⟨client, ⟨policy, rfl⟩, rfl⟩ := hinit
  constructor
  · exact hstart.undrawn
  · exact fun id => .refl id start
  · exact hstart.journaled
  · intro peer p hlookup
    cases hlookup
  · intro event hmem
    cases hmem
  · intro requestId attach hmem
    cases hmem
  · exact .initial policy

end

end Network

/-! ## the attach of the gateway -/

section

variable [SessionStore S] [AcpSession C]

/-- **The gateway handles an attach**, a resume or a replay in the two steps of the
network, and what it acknowledges is what the second sends. -/
theorem Dispatch.attach_network {network : Network S C} {peer : Nat} {p : Peer}
    {command : Command} {sessionId : SessionId} {result : AttachResult}
    {connected : Connected S C Unit} (hlookup : network.peers.lookup peer = some p)
    (hidle : p.attaching = none)
    (hexec : (Dispatch.attach command).exec (network.connected p) =
      (.ok (sessionId, result), connected)) (limit : Nat) (requestId : String) :
    ∃ afterSequence between network',
      network.Steps (.attach peer sessionId afterSequence limit) between ∧
      between.Steps (.subscribe peer requestId) network' ∧
      network'.peers.lookup peer = some { state := connected.state } ∧
      network'.world = connected.world ∧
      network'.sent = network.sent ++
        [.ack ⟨requestId, .ok (.attached (attachResult sessionId result limit))⟩] := by
  rw [Dispatch.attach, exec_bind] at hexec
  cases hsession : command.sessionId with
  | none =>
      rw [Dispatch.sessionOf, hsession] at hexec
      cases hexec
  | some id =>
      rw [Dispatch.sessionOf, hsession, exec_pure] at hexec
      dsimp only at hexec
      rw [exec_bind] at hexec
      cases hattach : (Dispatch.manager (Manager.attach id
          ((command.paramsAs AttachSessionParams).getD default).afterSequence)).exec
            (network.connected p) with
      | mk outcome attached =>
          rw [hattach] at hexec
          cases outcome with
          | error error => cases hexec
          | ok found =>
              dsimp only at hexec
              rw [exec_bind, Dispatch.exec_subscribe] at hexec
              obtain ⟨houtcome, rfl⟩ := Prod.mk.inj hexec
              obtain ⟨rfl, rfl⟩ := Prod.mk.inj (Except.ok.inj houtcome)
              let between : Network S C :=
                { network with
                  world := attached.world
                  peers := network.peers.insert peer
                    { state := attached.state, attaching := some (id, found, limit) } }
              have hattached : between.connected
                  { state := attached.state, attaching := some (id, found, limit) } = attached := rfl
              refine ⟨_, between, _, ⟨p, found, attached, hlookup, hidle, hattach, rfl⟩,
                ⟨_, id, found, limit, (Dispatch.subscribe id).final attached,
                  AList.lookup_insert _, rfl, ?_, rfl⟩, AList.lookup_insert _, rfl, rfl⟩
              rw [hattached]

end

section

variable {A : Type} [SessionStore S] [AcpSession C] [AcpDiscovery C] [HostAdmin S C A]

/-- **The host of a catch-up** is the server: a replay request of the client, as it
arrives, is answered with the page that `ReplayHost` answers for the live session. -/
theorem Dispatch.eventsReplay_host (config : GatewayConfig) {connected : Connected S C A}
    {session : Session C}
    (hlive : connected.server.world.inner.sessions.lookup session.summary.id = some session)
    {name : RequestId → String} {requestId : RequestId} {fromSequence received : Nat}
    {got : Command}
    (harrived : ofFields ((GatewayConnection.replayCommand requestId session.summary.id
      fromSequence received).sent name).encode = some (Wire.Frame.command got)) :
    ∃ result : SessionAttachResult,
      (ReplayHost.eventsReplay
        { summary := session.summary, journal := session.journal
          maxReplayEvents := config.capabilities.maxReplayEvents.map UInt64.toNat }
        (GatewayConnection.replayCommand requestId session.summary.id fromSequence
          received)).result = some result ∧
      (Dispatch.command config got .eventsReplay).result connected = .ok (.attached result) := by
  obtain ⟨got', hread, -, hsession, hparams⟩ :=
    GatewayConnection.replay_arrives name requestId session.summary.id fromSequence received
  obtain rfl : got' = got := Wire.Frame.command.inj (Option.some.inj (hread.symm.trans harrived))
  refine ⟨_, by rw [ReplayHost.eventsReplay_replayCommand]; rfl, ?_⟩
  have hattach : (Manager.attach session.summary.id none : Manager S C AttachResult).exec
      connected.server.world =
        (.ok (attachJournal session.summary session.journal none), connected.server.world) := by
    rw [Manager.attach, exec_bind, exec_get]
    dsimp only
    rw [hlive]
    rfl
  have hasked : ((got'.paramsAs AttachSessionParams).getD default).afterSequence = none := by
    rw [hparams]
    rfl
  rw [Dispatch.command, result, exec_bind, Dispatch.attach, exec_bind, Dispatch.sessionOf, hsession,
    exec_pure]
  dsimp only
  rw [hasked, exec_bind, Dispatch.exec_manager, result, hattach]
  dsimp only [Except.mapError]
  rw [exec_bind, Dispatch.exec_subscribe]
  rfl

end

/-! ## host and client -/

/-- The start of a host from a database that earlier lives left, none of them killed
between the two store calls of `append`. -/
theorem Network.starts_of_reachUnder [AcpSession C] {env : Env} {ticks : Nat}
    {store : SqliteStore}
    (hstore : (hostSystem env).ReachUnder
      (Host.Meets (fun _ (_ : Boot C) => True) fun call => call.settles = true)
      (.down ticks store))
    (boot : Boot C) (sessionId : SessionId) :
    Network.Starts (boot.start env ticks store)
      (· ∈ (boot.start env ticks store).inner.sessions) boot.journalLimit sessionId := by
  have hsequenced : SequencedStore env ticks store := (sequencedInvariant env).holds hstore
  obtain ⟨hundrawn, hnamed, hbegins⟩ := World.begins_start hsequenced boot
  have henv : (boot.start env ticks store).env = env :=
    (recoversRows_new env ticks boot.adapters (store.reopen boot.eventLimit)
      boot.journalLimit).recovers.env
  refine ⟨hundrawn, hnamed, hbegins sessionId, journaled_new fun n hn => ?_⟩
  have hnew := (hundrawn n hn).1
  rwa [henv] at hnew

/-- **The client follows the host**, over any number of connections that break at any
time, and a network that loses, delays, repeats and reorders.  What it shows of a session
since the session last started over is a part of the history in order, each event once; it
is not told anything else of the session; between two signs that something may be missing
the numbers follow one another; and its cursor is never past the host. -/
theorem client_follows_host [AcpSession C] {env : Env} {ticks : Nat} {store : SqliteStore}
    (hstore : (hostSystem env).ReachUnder
      (Host.Meets (fun _ (_ : Boot C) => True) fun call => call.settles = true)
      (.down ticks store))
    (boot : Boot C) {network : Network SqliteStore C}
    (hrun : (Network.system (boot.start env ticks store)).Reachable network)
    (sessionId : SessionId) :
    (shown sessionId network.client.connection.emitted).Sublist
        (network.log (boot.start env ticks store) sessionId) ∧
      (network.log (boot.start env ticks store) sessionId).Pairwise
        (·.sequence < ·.sequence) ∧
      (∀ event, .event event ∈ network.client.connection.emitted → event.sessionId = sessionId →
        event ∈ network.log (boot.start env ticks store) sessionId) ∧
      (∀ (front back : List (Sign GatewayEvent)) (events : List GatewayEvent),
        signsOf sessionId network.client.connection.emitted =
            front ++ events.map .item ++ back →
          ∃ first, events.map (·.sequence) = List.range' first events.length) ∧
      network.client.connection.cursor sessionId ≤
        network.last (boot.start env ticks store) sessionId := by
  have hstart := Network.starts_of_reachUnder hstore boot sessionId
  have hagrees := Network.agrees_of_reachable hstart hrun
  have hfollows := hagrees.client
  have hsorted : (network.log (boot.start env ticks store) sessionId).Pairwise
      (·.sequence < ·.sequence) :=
    List.pairwise_map.mpr ((hagrees.grown sessionId).ordered hstart.begins).1
  have hmem : ∀ event, .item event ∈ signsOf sessionId network.client.connection.emitted →
      event ∈ network.log (boot.start env ticks store) sessionId := by
    intro event hitem
    obtain ⟨hemitted, hsession⟩ := mem_signsOf hitem
    exact hfollows.emitted event hemitted hsession
  refine ⟨Delivery.since_sublist hfollows.accepts hmem hsorted, hsorted, hfollows.emitted,
    fun front back events hsigns => ?_, hfollows.cursor⟩
  have haccepts := hfollows.accepts
  rw [hsigns] at haccepts
  exact Delivery.consecutive haccepts

/-! ## a client that attaches -/

/-- The client takes what was sent to it, one after the other. -/
theorem Network.reachable_acts [SessionStore S] [AcpSession C] {start : World S C}
    {network : Network S C} (h : (Network.system start).Reachable network)
    {actions : List Holding.Action} (hdelivers : ∀ action ∈ actions, Delivers network.sent action)
    {client : Holding} (hruns : System.runs Holding.next network.client actions = some client) :
    (Network.system start).Reachable { network with client } := by
  induction actions generalizing network with
  | nil =>
      rw [← Option.some.inj hruns]
      exact h
  | cons action actions ih =>
      rw [System.runs] at hruns
      obtain ⟨reached, hnext, hrest⟩ := Option.bind_eq_some_iff.mp hruns
      have hreached : (Network.system start).Reachable { network with client := reached } :=
        .step (a := .act action) h trivial
          ⟨reached, hdelivers action List.mem_cons_self, hnext, rfl⟩
      have hlater := ih hreached
        (fun other hmem => hdelivers other (List.mem_cons_of_mem _ hmem)) hrest
      exact hlater

theorem isSome_sampleCreated : (sampleCreated.inner.sessions.lookup "uuu").isSome = true := by
  decide

/-- The snapshot of the session that was created. -/
def sampleResult : AttachResult :=
  attachJournal ((sampleCreated.inner.sessions.lookup "uuu").get isSome_sampleCreated).summary
    ((sampleCreated.inner.sessions.lookup "uuu").get isSome_sampleCreated).journal none

/-- A connection that has subscribed. -/
def sampleSubscription : Connected SqliteStore ScriptedAgent Unit :=
  (Dispatch.subscribe "uuu").final ⟨⟨sampleCreated, ()⟩, .new⟩

/-- The mode changes. -/
def sampleChanged : Connected SqliteStore ScriptedAgent Unit :=
  ⟨⟨sampleSubscription.world.after (.setMode "uuu" "plan"), ()⟩, sampleSubscription.state⟩

/-- The client attaches, and is told of what comes. -/
def sampleActions : List Holding.Action :=
  [.opened, .welcomed sampleWelcome, .sent commandName.sessionAttach (some "uuu") none,
    .ackFrame
      { requestId := 0
        ok := true
        result := some (attachResult "uuu" sampleResult 0) }] ++
    (sampleChanged.unread "uuu").map fun event => .eventFrame (gatewayEvent "uuu" event)

theorem delivers_sampleActions :
    ∀ action ∈ sampleActions, Delivers
      ([] ++ [.ack ⟨"r", .ok (.attached (attachResult "uuu" sampleResult 0))⟩] ++
        (drainSubscription sampleChanged "uuu").2) action := by
  intro action hmem
  rcases List.mem_append.mp hmem with hmem | hmem
  · simp only [List.mem_cons, List.not_mem_nil, or_false] at hmem
    rcases hmem with rfl | rfl | rfl | rfl
    · trivial
    · trivial
    · trivial
    · intro attach hattach
      cases hattach
      exact ⟨"r", List.mem_append_left _ (List.mem_singleton_self _)⟩
  · obtain ⟨event, hunread, rfl⟩ := List.mem_map.mp hmem
    show Frame.event (gatewayEvent "uuu" event) ∈ _
    rw [drainSubscription_frames]
    exact List.mem_append_right _ (List.mem_map_of_mem hunread)

/-- The client shows the mode change, which is of the session's history. -/
theorem client_follows_host_sample :
    ∃ network : Network SqliteStore ScriptedAgent,
      (shown "uuu" network.client.connection.emitted).map (·.sequence) = [2] ∧
      (shown "uuu" network.client.connection.emitted).Sublist
        (network.log ((sampleBoot true).start sampleEnv 0 (.empty 0)) "uuu") := by
  have hcreated : (Network.system sampleManager).Reachable
      { world := sampleCreated, peers := ∅, sent := [], client := sampleHolding } :=
    .step (a := .turn (.operation (.createSession sampleRequest)))
      (.init ⟨_, begins_sampleHolding, rfl⟩) trivial ⟨_, rfl, rfl⟩
  have hopened := System.ReachUnder.step (a := NetworkStep.opened 0) hcreated trivial
    ⟨AList.notMem_empty _, rfl⟩
  have hresult : (Dispatch.manager (Manager.attach "uuu" none)).exec
      (⟨⟨sampleCreated, ()⟩, .new⟩ : Connected SqliteStore ScriptedAgent Unit) =
        (.ok sampleResult, ⟨⟨sampleCreated, ()⟩, .new⟩) := by
    rw [Dispatch.exec_manager]
    rfl
  have hattached := System.ReachUnder.step (a := NetworkStep.attach 0 "uuu" none 0) hopened trivial
    ⟨_, _, _, AList.lookup_insert _, rfl, hresult, rfl⟩
  have hsubscribed := System.ReachUnder.step (a := NetworkStep.subscribe 0 "r") hattached trivial
    ⟨_, _, _, _, sampleSubscription, AList.lookup_insert _, rfl, rfl, rfl⟩
  have hchanged := System.ReachUnder.step
    (a := NetworkStep.turn (.operation (.setMode "uuu" "plan"))) hsubscribed trivial
    ⟨sampleChanged.world, rfl, rfl⟩
  have hdrained := System.ReachUnder.step (a := NetworkStep.drain 0 "uuu") hchanged trivial
    ⟨_, AList.lookup_insert _, rfl, rfl⟩
  have hruns : (System.runs Holding.next sampleHolding sampleActions).map (fun holding =>
      (shown "uuu" holding.connection.emitted).map (·.sequence)) = some [2] := by
    decide +kernel
  obtain ⟨client, hclient, hshown⟩ := Option.map_eq_some_iff.mp hruns
  have hfollowed := Network.reachable_acts hdrained delivers_sampleActions hclient
  exact ⟨_, hshown, (client_follows_host (.init ⟨0, rfl⟩) (sampleBoot true) hfollowed "uuu").1⟩

end Gateway

end Slight
