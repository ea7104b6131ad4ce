import Slight.Gateway.Server
import Slight.Session.Growth

/-!
# Slight.Gateway.Stream

The events of a session on one connection, while other threads use the manager.

Attaching takes the manager's lock twice: for the snapshot, whose last sequence is
acknowledged, and for the channel.  An event that is appended in between is past
the snapshot and before the channel.  A further attach replaces the channel of the
connection, and what was not received from the old one is gone.  Where neither
happens, every event after the acknowledged sequence is delivered, once and in
order.
-/

namespace Slight

namespace Gateway

open Support Program

/-- What a connection sent of a session's stream, and when it gave the stream up. -/
inductive Sent where
  | attached (sessionId : SessionId) (latestSequence : Nat)
  | event (sessionId : SessionId) (event : SequencedEvent)
  | detached (sessionId : SessionId)

/-- The events of a session among what was sent. -/
def delivered (sessionId : SessionId) (sent : List Sent) : List SequencedEvent :=
  sent.filterMap fun
    | .event id event => if id = sessionId then some event else none
    | _ => none

/-- A connection, the attach it is about to subscribe for, and what it sent. -/
structure Stream (S C A : Type) where
  connected : Connected S C A
  attaching : Option (SessionId × AttachResult) := none
  sent : List Sent := []

/-- What happens: on the connection, an attach takes the first lock, then the second,
the channel of a session is drained, a session is detached; elsewhere, a turn of the
manager, and an id that another connection draws. -/
inductive StreamStep where
  | attach (sessionId : SessionId) (afterSequence : Option Nat)
  | subscribe
  | drain (sessionId : SessionId)
  | detach (sessionId : SessionId)
  | turn (turn : Turn)
  | newUuid

section

variable {S C A : Type}

def Connected.world (connected : Connected S C A) : World S C := connected.server.world

def Connected.inWorld (connected : Connected S C A) (world : World S C) : Connected S C A :=
  { connected with server := { connected.server with world } }

/-- The events that the connection has yet to receive of a session. -/
def Connected.unread (connected : Connected S C A) (sessionId : SessionId) :
    List SequencedEvent :=
  match connected.state.subscriptions.lookup sessionId with
  | none => []
  | some receiver => receiver.unread (connected.world.channels sessionId)

/-- Draining sends what is unread. -/
theorem drainSubscription_frames (connected : Connected S C A) (sessionId : SessionId) :
    (drainSubscription connected sessionId).2 =
      (connected.unread sessionId).map fun event => .event (gatewayEvent sessionId event) := by
  rw [drainSubscription, Connected.unread]
  cases connected.state.subscriptions.lookup sessionId <;> rfl

/-! ## channels and receivers -/

/-- The receiver's channel exists, and what was received was sent. -/
def Receiver.Valid (receiver : Receiver) (channels : List (List SequencedEvent)) : Prop :=
  ∃ sent, channels[receiver.channel]? = some sent ∧ receiver.read ≤ sent.length

theorem Receiver.unread_of_getElem? {receiver : Receiver} {channels : List (List SequencedEvent)}
    {sent : List SequencedEvent} (h : channels[receiver.channel]? = some sent) :
    receiver.unread channels = sent.drop receiver.read := by
  rw [Receiver.unread, List.getD_eq_getElem?_getD, h, Option.getD_some]

/-- What a session grows by is unread. -/
theorem Receiver.grow {world world' : World S C} {sessionId : SessionId} {receiver : Receiver}
    {more : List Effect}
    (h : Channels sessionId world.effects (world.channels sessionId))
    (h' : Channels sessionId world'.effects (world'.channels sessionId))
    (heffects : world'.effects = world.effects ++ more)
    (hvalid : receiver.Valid (world.channels sessionId)) :
    receiver.Valid (world'.channels sessionId) ∧
      receiver.unread (world'.channels sessionId) =
        receiver.unread (world.channels sessionId) ++ appendedTo sessionId more := by
  obtain ⟨sent, hsent, hread⟩ := hvalid
  rw [heffects] at h'
  have hsent' := h.getElem?_append h' hsent
  refine ⟨⟨_, hsent', ?_⟩, ?_⟩
  · rw [List.length_append]
    omega
  · rw [unread_of_getElem? hsent, unread_of_getElem? hsent', List.drop_append_of_le_length hread]

/-! ## what was sent -/

theorem delivered_append (sessionId : SessionId) (sent more : List Sent) :
    delivered sessionId (sent ++ more) = delivered sessionId sent ++ delivered sessionId more :=
  List.filterMap_append

theorem delivered_events (sessionId id : SessionId) (events : List SequencedEvent) :
    delivered sessionId (events.map (.event id)) = if id = sessionId then events else [] := by
  induction events with
  | nil => rw [ite_self]; rfl
  | cons event events ih =>
      rw [List.map_cons, delivered, List.filterMap_cons, ← delivered, ih]
      by_cases hid : id = sessionId <;> simp [hid]

/-- An entry of a log that was continued is in one of the parts. -/
theorem append_eq_split {α : Type} {xs ys before after : List α} {a : α}
    (h : xs ++ ys = before ++ a :: after) :
    (∃ rest, xs = before ++ a :: rest ∧ after = rest ++ ys) ∨
      ∃ rest, before = xs ++ rest ∧ ys = rest ++ a :: after := by
  rcases List.append_eq_append_iff.mp h with ⟨rest, hbefore, hys⟩ | ⟨rest, hxs, hrest⟩
  · exact .inr ⟨rest, hbefore, hys⟩
  · cases rest with
    | nil => exact .inr ⟨[], by rw [hxs, List.append_nil, List.append_nil], hrest.symm⟩
    | cons b rest =>
        obtain ⟨rfl, rfl⟩ := List.cons.inj hrest
        exact .inl ⟨rest, hxs, rfl⟩

/-! ## the invariant -/

/-- Since an attach, what was delivered and what is unread are the events after the
acknowledged sequence. -/
structure Stream.Streams (stream : Stream S C A) (sessionId : SessionId) (latestSequence : Nat)
    (since : List Sent) : Prop where
  subscribed : (stream.connected.state.subscriptions.lookup sessionId).isSome = true
  live : ∃ session, stream.connected.world.inner.sessions.lookup sessionId = some session ∧
    latestSequence ≤ session.summary.lastSequence
  events : delivered sessionId since ++ stream.connected.unread sessionId =
    (appendedTo sessionId stream.connected.world.effects).filter
      (latestSequence < ·.sequence)

structure Stream.Sound (restored : SessionId → Prop) (journalLimit : Nat)
    (stream : Stream S C A) : Prop where
  journaled : Journaled restored journalLimit stream.connected.world
  attaching : ∀ sessionId result, stream.attaching = some (sessionId, result) →
    sessionId ∈ stream.connected.world.inner.sessions
  receivers : ∀ sessionId receiver,
    stream.connected.state.subscriptions.lookup sessionId = some receiver →
      receiver.Valid (stream.connected.world.channels sessionId)
  streams : ∀ before sessionId latestSequence since,
    stream.sent = before ++ .attached sessionId latestSequence :: since →
      .detached sessionId ∉ since → stream.Streams sessionId latestSequence since

namespace Stream.Sound

variable {restored : SessionId → Prop} {journalLimit : Nat} {stream stream' : Stream S C A}

/-- Whatever makes the sessions grow keeps the invariant, if the connection stays as it is. -/
theorem grow (h : stream.Sound restored journalLimit)
    (hstate : stream'.connected.state = stream.connected.state)
    (hsent : stream'.sent = stream.sent)
    (hjournaled : Journaled restored journalLimit stream'.connected.world)
    (hgrows : ∀ id, World.Grows id stream.connected.world stream'.connected.world)
    (hattaching : ∀ sessionId result, stream'.attaching = some (sessionId, result) →
      sessionId ∈ stream'.connected.world.inner.sessions) :
    stream'.Sound restored journalLimit := by
  constructor
  · exact hjournaled
  · exact hattaching
  · intro sessionId receiver hlookup
    rw [hstate] at hlookup
    obtain ⟨more, heffects, -⟩ := hgrows sessionId
    exact (Receiver.grow (h.journaled.channels sessionId) (hjournaled.channels sessionId)
      heffects (h.receivers sessionId receiver hlookup)).1
  · intro before sessionId latestSequence since hsplit hstays
    rw [hsent] at hsplit
    have hbefore := h.streams before sessionId latestSequence since hsplit hstays
    obtain ⟨session, hlookup, hle⟩ := hbefore.live
    obtain ⟨receiver, hreceiver⟩ := Option.isSome_iff_exists.mp hbefore.subscribed
    obtain ⟨more, heffects, hsession⟩ := hgrows sessionId
    obtain ⟨hsequences, session', hlookup', hlast⟩ := hsession session hlookup
    have hreceiver' : stream'.connected.state.subscriptions.lookup sessionId = some receiver := by
      rw [hstate, hreceiver]
    have hunread : stream'.connected.unread sessionId =
        stream.connected.unread sessionId ++ appendedTo sessionId more := by
      rw [Connected.unread, Connected.unread, hreceiver, hreceiver']
      exact (Receiver.grow (h.journaled.channels sessionId) (hjournaled.channels sessionId)
        heffects (h.receivers sessionId receiver hreceiver)).2
    have hnew : (appendedTo sessionId more).filter (latestSequence < ·.sequence) =
        appendedTo sessionId more := by
      refine List.filter_eq_self.mpr fun event hmem => decide_eq_true ?_
      have hlt := lt_sequence_of_grown hsequences event hmem
      omega
    exact
      { subscribed := by rw [hreceiver', Option.isSome_some]
        live := ⟨session', hlookup', by omega⟩
        events := by
          rw [hunread, ← List.append_assoc, hbefore.events, heffects, appendedTo_append,
            List.filter_append, hnew] }

end Stream.Sound

/-! ## steps -/

variable [SessionStore S] [AcpSession C]

/-- A live session is attached to in two steps, between which the connection does
nothing else. -/
def Stream.Steps (stream : Stream S C A) (step : StreamStep) (stream' : Stream S C A) : Prop :=
  match step with
  | .attach sessionId afterSequence =>
      stream.attaching = none ∧ sessionId ∈ stream.connected.world.inner.sessions ∧
        ∃ result connected,
          (Dispatch.manager (Manager.attach sessionId afterSequence)).exec stream.connected =
            (.ok result, connected) ∧
          stream' = { stream with connected, attaching := some (sessionId, result) }
  | .subscribe =>
      ∃ sessionId result, stream.attaching = some (sessionId, result) ∧
        stream' =
          { connected := (Dispatch.subscribe sessionId).final stream.connected
            attaching := none
            sent := stream.sent ++ [.attached sessionId result.latestSequence] }
  | .drain sessionId =>
      stream.attaching = none ∧
        stream' =
          { stream with
            connected :=
              { stream.connected with state := (drainSubscription stream.connected sessionId).1 }
            sent := stream.sent ++ (stream.connected.unread sessionId).map (.event sessionId) }
  | .detach sessionId =>
      stream.attaching = none ∧
        stream' =
          { stream with
            connected :=
              { stream.connected with
                state :=
                  { stream.connected.state with
                    subscriptions := stream.connected.state.subscriptions.erase sessionId } }
            sent := stream.sent ++ [.detached sessionId] }
  | .turn turn =>
      ∃ world, stream.connected.world.Turns turn world ∧
        stream' = { stream with connected := stream.connected.inWorld world }
  | .newUuid =>
      stream' = { stream with
        connected := { stream.connected with server := stream.connected.server.newUuid.2 } }

/-- A connection opened to a host that runs. -/
def streamSystem (start : World S C) : System (Stream S C A) StreamStep where
  init stream := ∃ admin, stream = { connected := ⟨⟨start, admin⟩, .new⟩ }
  step := Stream.Steps

/-- The channel is opened before anything else is appended to the session, and after
everything was received from the one it replaces. -/
def Stream.Keeps (stream : Stream S C A) : StreamStep → Prop
  | .subscribe => ∀ sessionId result, stream.attaching = some (sessionId, result) →
      (stream.connected.world.inner.sessions.lookup sessionId).map (·.summary.lastSequence) =
          some result.latestSequence ∧
        stream.connected.unread sessionId = []
  | _ => True

namespace Stream.Sound

variable {restored : SessionId → Prop} {journalLimit : Nat} {stream stream' : Stream S C A}

theorem attach (h : stream.Sound restored journalLimit) {sessionId : SessionId}
    {afterSequence : Option Nat} (hstep : stream.Steps (.attach sessionId afterSequence) stream') :
    stream'.Sound restored journalLimit := by
  obtain ⟨-, hlive, result, connected, hexec, rfl⟩ := hstep
  rw [Dispatch.exec_manager] at hexec
  obtain ⟨-, rfl⟩ := Prod.mk.inj hexec
  have hturn : stream.connected.world.Turns (.operation (.attach sessionId afterSequence))
      ((Manager.attach sessionId afterSequence : Manager S C _).final stream.connected.world) :=
    (final_discard (Manager.attach sessionId afterSequence) stream.connected.world).symm
  have hgrows : ∀ id, World.Grows id stream.connected.world _ :=
    fun id => World.Grows.turn h.journaled hturn
  refine h.grow rfl rfl (h.journaled.turn hturn) hgrows fun id result' hattaching => ?_
  obtain ⟨rfl, -⟩ := Prod.mk.inj (Option.some.inj hattaching)
  exact (hgrows sessionId).mem hlive

theorem turn (h : stream.Sound restored journalLimit) {turn : Turn}
    (hstep : stream.Steps (.turn turn) stream') : stream'.Sound restored journalLimit := by
  obtain ⟨world, hturn, rfl⟩ := hstep
  have hgrows : ∀ id, World.Grows id stream.connected.world _ :=
    fun id => World.Grows.turn h.journaled hturn
  exact h.grow rfl rfl (h.journaled.turn hturn) hgrows fun id result hattaching =>
    (hgrows id).mem (h.attaching id result hattaching)

theorem newUuid (h : stream.Sound restored journalLimit)
    (hstep : stream.Steps .newUuid stream') : stream'.Sound restored journalLimit := by
  rw [show stream' = _ from hstep]
  have hquiet : stream.connected.world.Quiet
      { stream.connected.world with ticks := stream.connected.world.ticks + 1 } :=
    ⟨rfl, rfl, rfl, rfl, Nat.le_succ _, [], (List.append_nil _).symm, by simp⟩
  exact h.grow rfl rfl (h.journaled.quiet hquiet) (fun id => .of_quiet hquiet) h.attaching

/-- The channel of a session is drained: what was unread is delivered. -/
theorem drain (h : stream.Sound restored journalLimit) {sessionId : SessionId}
    (hstep : stream.Steps (.drain sessionId) stream') : stream'.Sound restored journalLimit := by
  obtain ⟨hidle, rfl⟩ := hstep
  have hlookup : ∀ id, (drainSubscription stream.connected sessionId).1.subscriptions.lookup id =
      if id = sessionId then
        (stream.connected.state.subscriptions.lookup id).map fun receiver =>
          { receiver with
            read := receiver.read + (stream.connected.unread sessionId).length }
      else stream.connected.state.subscriptions.lookup id := by
    intro id
    rw [drainSubscription, Connected.unread]
    cases hreceiver : stream.connected.state.subscriptions.lookup sessionId with
    | none =>
        by_cases hid : id = sessionId
        · rw [if_pos hid, hid, hreceiver]
          rfl
        · rw [if_neg hid]
    | some receiver =>
        by_cases hid : id = sessionId
        · subst hid
          rw [if_pos rfl, hreceiver]
          exact AList.lookup_insert _
        · rw [if_neg hid]
          exact AList.lookup_insert_ne hid
  have hempty : Connected.unread
      { stream.connected with state := (drainSubscription stream.connected sessionId).1 }
        sessionId = [] := by
    rw [Connected.unread, hlookup, if_pos rfl]
    cases hreceiver : stream.connected.state.subscriptions.lookup sessionId with
    | none => rfl
    | some receiver =>
        obtain ⟨sent, hsent, -⟩ := h.receivers sessionId receiver hreceiver
        have hread : stream.connected.unread sessionId = sent.drop receiver.read := by
          rw [Connected.unread, hreceiver]
          exact Receiver.unread_of_getElem? hsent
        rw [Option.map_some, hread, List.length_drop]
        refine Eq.trans (Receiver.unread_of_getElem? hsent) (List.drop_eq_nil_of_le ?_)
        dsimp only
        omega
  have hother : ∀ id, id ≠ sessionId → Connected.unread
      { stream.connected with state := (drainSubscription stream.connected sessionId).1 } id =
        stream.connected.unread id := by
    intro id hid
    rw [Connected.unread, hlookup, if_neg hid, Connected.unread]
    rfl
  constructor
  · exact h.journaled
  · exact h.attaching
  · intro id receiver hreceiver
    rw [hlookup] at hreceiver
    by_cases hid : id = sessionId
    · rw [if_pos hid] at hreceiver
      obtain ⟨old, hold, rfl⟩ := Option.map_eq_some_iff.mp hreceiver
      obtain ⟨sent, hsent, hread⟩ := h.receivers id old hold
      subst hid
      have hunread : stream.connected.unread id = sent.drop old.read := by
        rw [Connected.unread, hold]
        exact Receiver.unread_of_getElem? hsent
      refine ⟨sent, hsent, ?_⟩
      rw [hunread, List.length_drop]
      dsimp only
      omega
    · rw [if_neg hid] at hreceiver
      exact h.receivers id receiver hreceiver
  · intro before id latestSequence since hsplit hstays
    rcases append_eq_split hsplit with ⟨rest, hsent, rfl⟩ | ⟨rest, -, hevents⟩
    · have hbefore := h.streams before id latestSequence rest hsent
        fun hmem => hstays (List.mem_append_left _ hmem)
      refine ⟨?_, hbefore.live, ?_⟩
      · rw [hlookup]
        by_cases hid : id = sessionId
        · rw [if_pos hid, Option.isSome_map]
          exact hbefore.subscribed
        · rw [if_neg hid]
          exact hbefore.subscribed
      · rw [delivered_append, delivered_events]
        by_cases hid : id = sessionId
        · subst hid
          rw [if_pos rfl, hempty, List.append_nil]
          exact hbefore.events
        · rw [if_neg (Ne.symm hid), List.append_nil, hother id hid]
          exact hbefore.events
    · have hmem : Sent.attached id latestSequence ∈
          (stream.connected.unread sessionId).map (.event sessionId) := by
        rw [hevents]
        exact List.mem_append_right _ List.mem_cons_self
      obtain ⟨event, -, heq⟩ := List.mem_map.mp hmem
      cases heq

/-- Detaching gives the stream of one session up. -/
theorem detach (h : stream.Sound restored journalLimit) {sessionId : SessionId}
    (hstep : stream.Steps (.detach sessionId) stream') : stream'.Sound restored journalLimit := by
  obtain ⟨-, rfl⟩ := hstep
  have hlookup : ∀ id, id ≠ sessionId →
      (stream.connected.state.subscriptions.erase sessionId).lookup id =
        stream.connected.state.subscriptions.lookup id := fun id hid => AList.lookup_erase_ne hid
  constructor
  · exact h.journaled
  · exact h.attaching
  · intro id receiver hreceiver
    by_cases hid : id = sessionId
    · subst hid
      dsimp only at hreceiver
      rw [AList.lookup_erase] at hreceiver
      cases hreceiver
    · dsimp only at hreceiver
      rw [hlookup id hid] at hreceiver
      exact h.receivers id receiver hreceiver
  · intro before id latestSequence since hsplit hstays
    rcases append_eq_split hsplit with ⟨rest, hsent, rfl⟩ | ⟨rest, -, hdetached⟩
    · have hid : id ≠ sessionId := by
        rintro rfl
        exact hstays (List.mem_append_right _ (List.mem_singleton.mpr rfl))
      have hbefore := h.streams before id latestSequence rest hsent
        fun hmem => hstays (List.mem_append_left _ hmem)
      refine ⟨?_, hbefore.live, ?_⟩
      · dsimp only
        rw [hlookup id hid]
        exact hbefore.subscribed
      · have hnone : delivered id [.detached sessionId] = [] := rfl
        rw [delivered_append, hnone, List.append_nil, Connected.unread]
        dsimp only
        rw [hlookup id hid]
        exact hbefore.events
    · have hmem : Sent.attached id latestSequence ∈ [Sent.detached sessionId] := by
        rw [hdetached]
        exact List.mem_append_right _ List.mem_cons_self
      cases List.mem_singleton.mp hmem

/-- Opening a channel keeps the invariant, if it is opened in time. -/
theorem subscribe (h : stream.Sound restored journalLimit) (hkeeps : stream.Keeps .subscribe)
    (hstep : stream.Steps .subscribe stream') : stream'.Sound restored journalLimit := by
  obtain ⟨sessionId, result, hattaching, rfl⟩ := hstep
  obtain ⟨hlatest, hread⟩ := hkeeps sessionId result hattaching
  have hlive := h.attaching sessionId result hattaching
  have hfinal : (Dispatch.subscribe sessionId : Dispatch S C A Unit).final stream.connected =
      { server :=
          { stream.connected.server with world := stream.connected.world.subscribed sessionId }
        state :=
          { stream.connected.state with
            subscriptions := stream.connected.state.subscriptions.insert sessionId
              { channel := (stream.connected.world.channels sessionId).length, read := 0 } } } := by
    have hexec := Manager.exec_subscribe hlive
    have hopened : (Dispatch.manager (Manager.subscribe sessionId) :
        Dispatch S C A Nat).exec stream.connected =
          (.ok (stream.connected.world.channels sessionId).length,
            stream.connected.inWorld (stream.connected.world.subscribed sessionId)) := by
      rw [Dispatch.exec_manager, Program.result, final,
        show stream.connected.server.world = stream.connected.world from rfl, hexec]
      rfl
    rw [Dispatch.subscribe, final_bind, exec_attempt, Program.result, final, hopened]
    rfl
  generalize (Dispatch.subscribe sessionId : Dispatch S C A Unit).final stream.connected = connected
    at hfinal ⊢
  have hworld : connected.world = stream.connected.world.subscribed sessionId := by
    rw [hfinal]
    rfl
  have hself : connected.state.subscriptions.lookup sessionId =
      some { channel := (stream.connected.world.channels sessionId).length, read := 0 } := by
    rw [hfinal, AList.lookup_insert]
  have hothers : ∀ id, id ≠ sessionId → connected.state.subscriptions.lookup id =
      stream.connected.state.subscriptions.lookup id := by
    intro id hid
    rw [hfinal, AList.lookup_insert_ne hid]
  have hopened : connected.world.channels sessionId =
      stream.connected.world.channels sessionId ++ [[]] := by
    rw [hworld, World.channels, World.subscribed, AList.lookup_insert, Option.getD_some]
  have hkept : ∀ id, id ≠ sessionId →
      connected.world.channels id = stream.connected.world.channels id := by
    intro id hid
    rw [hworld, World.channels, World.subscribed, AList.lookup_insert_ne hid]
    rfl
  have hnew : (connected.world.channels sessionId)[
      (stream.connected.world.channels sessionId).length]? = some [] := by
    rw [hopened]
    exact List.getElem?_concat_length
  have hempty : connected.unread sessionId = [] := by
    rw [Connected.unread, hself]
    exact (Receiver.unread_of_getElem? hnew).trans List.drop_nil
  have hunread : ∀ id, id ≠ sessionId → connected.unread id = stream.connected.unread id := by
    intro id hid
    rw [Connected.unread, Connected.unread, hothers id hid, hkept id hid]
  have hhistory : ∀ id, appendedTo id connected.world.effects =
      appendedTo id stream.connected.world.effects := by
    intro id
    rw [hworld, World.subscribed, appendedTo_append]
    exact List.append_nil _
  have hsessions : connected.world.inner.sessions = stream.connected.world.inner.sessions := by
    rw [hworld]
    rfl
  constructor
  · rw [hworld]
    exact h.journaled.subscribe sessionId
  · intro id other hnone
    cases hnone
  · intro id receiver hreceiver
    dsimp only at hreceiver ⊢
    by_cases hid : id = sessionId
    · rw [hid] at hreceiver ⊢
      rw [hself] at hreceiver
      rw [← Option.some.inj hreceiver]
      exact ⟨[], hnew, Nat.le_refl _⟩
    · rw [hothers id hid] at hreceiver
      rw [hkept id hid]
      exact h.receivers id receiver hreceiver
  · intro before id latestSequence since hsplit hstays
    rcases append_eq_split hsplit with ⟨rest, hsent, rfl⟩ | ⟨rest, -, hattached⟩
    · -- an earlier attach
      have hbefore := h.streams before id latestSequence rest hsent
        fun hmem => hstays (List.mem_append_left _ hmem)
      have hnone : delivered id [.attached sessionId result.latestSequence] = [] := rfl
      refine ⟨?_, ?_, ?_⟩
      · dsimp only
        by_cases hid : id = sessionId
        · rw [hid, hself, Option.isSome_some]
        · rw [hothers id hid]
          exact hbefore.subscribed
      · dsimp only
        rw [hsessions]
        exact hbefore.live
      · dsimp only
        rw [delivered_append, hnone, List.append_nil, hhistory, ← hbefore.events]
        by_cases hid : id = sessionId
        · rw [hid, hempty, hread]
        · rw [hunread id hid]
    · -- this attach
      have hmem : Sent.attached id latestSequence ∈
          [Sent.attached sessionId result.latestSequence] := by
        rw [hattached]
        exact List.mem_append_right _ List.mem_cons_self
      obtain ⟨rfl, rfl⟩ := Sent.attached.inj (List.mem_singleton.mp hmem)
      have hsince : since = [] := by
        have hlength := congrArg List.length hattached
        rw [List.length_singleton, List.length_append, List.length_cons] at hlength
        exact List.length_eq_zero_iff.mp (by omega)
      obtain ⟨session, hlookup, hlast⟩ := Option.map_eq_some_iff.mp hlatest
      refine ⟨?_, ⟨session, ?_, by omega⟩, ?_⟩
      · dsimp only
        rw [hself, Option.isSome_some]
      · dsimp only
        rw [hsessions, hlookup]
      · dsimp only
        rw [hsince, hempty, hhistory]
        refine (List.filter_eq_nil_iff.mpr fun event hmem hlater => ?_).symm
        have hle := h.journaled.sequence_le hlookup event hmem
        have hlt := of_decide_eq_true hlater
        omega

/-- **Every step** of a run that keeps the streams keeps the invariant. -/
theorem steps (h : stream.Sound restored journalLimit) {step : StreamStep}
    (hkeeps : stream.Keeps step) (hstep : stream.Steps step stream') :
    stream'.Sound restored journalLimit := by
  cases step with
  | attach sessionId afterSequence => exact h.attach hstep
  | subscribe => exact h.subscribe hkeeps hstep
  | drain sessionId => exact h.drain hstep
  | detach sessionId => exact h.detach hstep
  | turn turn => exact h.turn hstep
  | newUuid => exact h.newUuid hstep

end Stream.Sound

/-! ## every interleaving -/

variable {env : Env} {ticks : Nat} {adapters : List (AgentAdapter C)} {store : S}
  {journalLimit : Nat}

/-- **The streams of every run** that keeps them. -/
theorem sound_of_run [LawfulSessionStore S]
    (hfresh : ∀ n ≥ (SessionManager.new env ticks adapters store journalLimit : World S C).ticks,
      env.uuid n ∉ (SessionManager.new env ticks adapters store journalLimit :
        World S C).inner.sessions)
    {stream : Stream S C A}
    (hrun : (streamSystem (SessionManager.new env ticks adapters store journalLimit)).ReachUnder
      Stream.Keeps stream) :
    stream.Sound (· ∈ (SessionManager.new env ticks adapters store journalLimit :
      World S C).inner.sessions) journalLimit := by
  refine System.invariant_of_step (fun _ hinit => ?_)
    (fun _ _ _ h hkeeps hstep => h.steps hkeeps hstep) hrun
  obtain ⟨admin, rfl⟩ := hinit
  constructor
  · exact journaled_new hfresh
  · intro sessionId result hnone
    cases hnone
  · intro sessionId receiver hnone
    cases hnone
  · intro before sessionId latestSequence since hsplit
    cases before <;> cases hsplit

/-- The next drain of the session's channel delivers what is unread. -/
theorem Stream.delivered_drain {stream stream' : Stream S C A} {sessionId : SessionId}
    {before since : List Sent} {sent : Sent} (hsent : stream.sent = before ++ sent :: since)
    (hstep : stream.Steps (.drain sessionId) stream') :
    ∃ more, stream'.sent = before ++ sent :: (since ++ more) ∧
      delivered sessionId (since ++ more) =
        delivered sessionId since ++ stream.connected.unread sessionId := by
  obtain ⟨-, rfl⟩ := hstep
  refine ⟨(stream.connected.unread sessionId).map (.event sessionId), ?_, ?_⟩
  · dsimp only
    rw [hsent, List.append_assoc, List.cons_append]
  · rw [delivered_append, delivered_events, if_pos rfl]

/-- **Attach then stream**: in every run where the channel is opened before the session
grows past the snapshot, with nothing left unread in the one it replaces, what was
delivered since an attach and what the next drain delivers are the events after the
acknowledged sequence, each once and in order. -/
theorem stream_loses_nothing [LawfulSessionStore S]
    (hfresh : ∀ n ≥ (SessionManager.new env ticks adapters store journalLimit : World S C).ticks,
      env.uuid n ∉ (SessionManager.new env ticks adapters store journalLimit :
        World S C).inner.sessions)
    {stream : Stream S C A}
    (hrun : (streamSystem (SessionManager.new env ticks adapters store journalLimit)).ReachUnder
      Stream.Keeps stream)
    {before since : List Sent} {sessionId : SessionId} {latestSequence : Nat}
    (hsent : stream.sent = before ++ .attached sessionId latestSequence :: since)
    (hstays : .detached sessionId ∉ since) :
    delivered sessionId since ++ stream.connected.unread sessionId =
        (appendedTo sessionId stream.connected.world.effects).filter
          (latestSequence < ·.sequence) ∧
      ((appendedTo sessionId stream.connected.world.effects).filter
        (latestSequence < ·.sequence)).Pairwise (·.sequence < ·.sequence) ∧
      ∀ stream', stream.Steps (.drain sessionId) stream' →
        ∃ more,
          stream'.sent = before ++ .attached sessionId latestSequence :: (since ++ more) ∧
          delivered sessionId (since ++ more) =
            (appendedTo sessionId stream'.connected.world.effects).filter
              (latestSequence < ·.sequence) := by
  have h := sound_of_run hfresh hrun
  have hstreams := h.streams before sessionId latestSequence since hsent hstays
  refine ⟨hstreams.events, ?_, ?_⟩
  · obtain ⟨session, hlookup, -⟩ := hstreams.live
    obtain ⟨base, hsequences, -⟩ := h.journaled.numbered sessionId session hlookup
    have hsorted : ((appendedTo sessionId stream.connected.world.effects).map
        (·.sequence)).Pairwise (· < ·) := by
      rw [hsequences]
      exact List.pairwise_lt_range'
    exact (List.pairwise_map.mp hsorted).filter _
  · intro stream' hstep
    obtain ⟨more, hsent', hdelivered⟩ := Stream.delivered_drain hsent hstep
    refine ⟨more, hsent', ?_⟩
    rw [hdelivered, hstreams.events]
    obtain ⟨-, rfl⟩ := hstep
    rfl

/-! ## the attach of the gateway -/

/-- The first of the two steps takes the snapshot and changes nothing. -/
theorem Stream.steps_attach {stream : Stream S C A} {sessionId : SessionId}
    {session : Session C} (hidle : stream.attaching = none)
    (hlookup : stream.connected.world.inner.sessions.lookup sessionId = some session)
    (afterSequence : Option Nat) :
    stream.Steps (.attach sessionId afterSequence)
      { stream with
        attaching :=
          some (sessionId, attachJournal session.summary session.journal afterSequence) } := by
  have hattach : (Manager.attach sessionId afterSequence : Manager S C AttachResult).exec
      stream.connected.world =
        (.ok (attachJournal session.summary session.journal afterSequence),
          stream.connected.world) := by
    rw [Manager.attach, exec_bind, exec_get]
    dsimp only
    rw [hlookup]
    rfl
  refine ⟨hidle, mem_of_lookup hlookup, _, _, ?_, rfl⟩
  rw [Dispatch.exec_manager, Program.result, final,
    show stream.connected.server.world = stream.connected.world from rfl, hattach]
  rfl

/-- **The gateway handles an attach**, a resume or a replay of a live session in these two
steps, and acknowledges the sequence of the first. -/
theorem Dispatch.attach_steps {stream : Stream S C A} {command : Command} {sessionId : SessionId}
    (hcommand : command.sessionId = some sessionId) (hidle : stream.attaching = none)
    (hlive : sessionId ∈ stream.connected.world.inner.sessions) :
    ∃ result between stream',
      stream.Steps (.attach sessionId
        ((command.paramsAs AttachSessionParams).getD default).afterSequence) between ∧
      between.Steps .subscribe stream' ∧
      (Dispatch.attach command).exec stream.connected =
        (.ok (sessionId, result), stream'.connected) ∧
      stream'.sent = stream.sent ++ [.attached sessionId result.latestSequence] := by
  obtain ⟨session, hlookup⟩ := exists_lookup_of_mem hlive
  have hattach := Stream.steps_attach hidle hlookup
    ((command.paramsAs AttachSessionParams).getD default).afterSequence
  obtain ⟨-, -, result, connected, hmanager, hbetween⟩ := hattach
  refine ⟨result, _, _, ⟨hidle, hlive, _, _, hmanager, rfl⟩, ⟨_, _, rfl, rfl⟩, ?_, rfl⟩
  rw [Dispatch.attach, exec_bind, Dispatch.sessionOf, hcommand, exec_pure]
  dsimp only
  rw [exec_bind, hmanager]
  dsimp only
  rw [exec_bind, Dispatch.exec_subscribe]
  rfl

end

/-! ## a session on one connection -/

/-- The connection to a host, before it attaches. -/
def sampleStream (world : World SqliteStore ScriptedAgent) :
    Stream SqliteStore ScriptedAgent Unit where
  connected := ⟨⟨world, ()⟩, .new⟩

/-- The same, when it has subscribed after the snapshot with the first event. -/
def sampleSubscribed (world : World SqliteStore ScriptedAgent) :
    Stream SqliteStore ScriptedAgent Unit where
  connected := (Dispatch.subscribe "uuu").final (sampleStream world).connected
  sent := [.attached "uuu" 1]

/-- The snapshot of a session with one event. -/
theorem sampleSession :
    ∃ session, (sampleManager.after (.createSession sampleRequest)).inner.sessions.lookup "uuu" =
      some session ∧ session.summary.lastSequence = 1 :=
  Option.map_eq_some_iff.mp
    (by decide : ((sampleManager.after (.createSession sampleRequest)).inner.sessions.lookup
      "uuu").map (·.summary.lastSequence) = some 1)

theorem reachUnder_sampleStream :
    (streamSystem sampleManager).ReachUnder Stream.Keeps
      (sampleStream (sampleManager.after (.createSession sampleRequest))) :=
  .step (a := .turn (.operation (.createSession sampleRequest)))
    (.init ⟨(), rfl⟩ : (streamSystem sampleManager).ReachUnder _ (sampleStream sampleManager))
    trivial ⟨_, rfl, rfl⟩

/-- The mode change after the subscription is delivered. -/
theorem stream_loses_nothing_sample :
    ∃ stream : Stream SqliteStore ScriptedAgent Unit,
      (stream.connected.unread "uuu").map (·.sequence) = [2] ∧
      delivered "uuu" [] ++ stream.connected.unread "uuu" =
        (appendedTo "uuu" stream.connected.world.effects).filter (1 < ·.sequence) := by
  obtain ⟨session, hlookup, hlast⟩ := sampleSession
  have hattaching := System.ReachUnder.step (a := StreamStep.attach "uuu" none)
    reachUnder_sampleStream trivial (Stream.steps_attach rfl hlookup none)
  have hsubscribed : (streamSystem sampleManager).ReachUnder Stream.Keeps
      (sampleSubscribed (sampleManager.after (.createSession sampleRequest))) := by
    refine .step (a := .subscribe) hattaching (fun sessionId result hresult => ?_)
      ⟨_, _, rfl, ?_⟩
    · obtain ⟨rfl, rfl⟩ := Prod.mk.inj (Option.some.inj hresult)
      exact ⟨congrArg (Option.map _) hlookup, rfl⟩
    · rw [show (attachJournal session.summary session.journal none).latestSequence =
        session.summary.lastSequence from rfl, hlast]
      rfl
  have hplanned := System.ReachUnder.step (a := StreamStep.turn (.operation (.setMode "uuu" "plan")))
    hsubscribed trivial ⟨_, rfl, rfl⟩
  obtain ⟨hevents, -⟩ := stream_loses_nothing (fun _ _ => AList.notMem_empty _) hplanned
    (show _ = [] ++ Sent.attached "uuu" 1 :: [] from rfl) List.not_mem_nil
  exact ⟨_, by decide +kernel, hevents⟩

/-- **The window of an attach**: the mode changes between the snapshot and the
subscription, and the connection never receives it. -/
theorem stream_loses_the_window :
    ∃ stream : Stream SqliteStore ScriptedAgent Unit,
      (streamSystem sampleManager).Reachable stream ∧ stream.sent = [.attached "uuu" 1] ∧
      ((appendedTo "uuu" stream.connected.world.effects).filter (1 < ·.sequence)).map
        (·.sequence) = [2] ∧
      stream.connected.unread "uuu" = [] := by
  obtain ⟨session, hlookup, hlast⟩ := sampleSession
  have hattaching := System.ReachUnder.step (a := StreamStep.attach "uuu" none)
    reachUnder_sampleStream.reachable trivial (Stream.steps_attach rfl hlookup none)
  have hplanned := System.ReachUnder.step (a := StreamStep.turn (.operation (.setMode "uuu" "plan")))
    hattaching trivial ⟨_, rfl, rfl⟩
  have hsubscribed : (streamSystem sampleManager).Reachable
      (sampleSubscribed ((sampleManager.after (.createSession sampleRequest)).after
        (.setMode "uuu" "plan"))) := by
    refine .step (a := .subscribe) hplanned trivial ⟨_, _, rfl, ?_⟩
    rw [show (attachJournal session.summary session.journal none).latestSequence =
      session.summary.lastSequence from rfl, hlast]
    rfl
  exact ⟨_, hsubscribed, rfl, by decide +kernel, by decide +kernel⟩

end Gateway

end Slight
