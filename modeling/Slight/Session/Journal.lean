import Slight.Session.Recovery
import Slight.Support.Lists
import Slight.Support.System

/-!
# Slight.Session.Journal

The journal of a session over a whole run of the manager.  `appendedTo` is the
history of a session, every event appended to it; the journal is the end of that
history, and a subscriber's channel is the part of it since the subscription.

`Journaled` is the invariant.  It is kept by every `Change`, so by every
operation, and by whatever the agents do in between.
-/

namespace Slight

open Support Program

variable {S C : Type}

/-! ## histories -/

/-- The events appended to a session. -/
def appendedTo (sessionId : SessionId) (effects : List Effect) : List SequencedEvent :=
  effects.filterMap fun
    | .appended id event => if id = sessionId then some event else none
    | _ => none

/-- The effect is a subscription to the session. -/
def Effect.subscribes (sessionId : SessionId) : Effect → Bool
  | .subscribed id => id = sessionId
  | _ => false

/-- Requests to agents and writes to the store. -/
def Effect.isQuiet : Effect → Bool
  | .requested _ | .wrote _ => true
  | .appended .. | .subscribed _ => false

/-- The status the last status event of a history set. -/
def lastStatus (history : List SequencedEvent) : Option SessionStatus :=
  (history.filterMap fun event => event.event.status?).getLast?

@[simp] theorem appendedTo_append (sessionId : SessionId) (effects effects' : List Effect) :
    appendedTo sessionId (effects ++ effects') =
      appendedTo sessionId effects ++ appendedTo sessionId effects' :=
  List.filterMap_append

theorem appendedTo_quiet {effects : List Effect} (h : ∀ effect ∈ effects, effect.isQuiet = true)
    (sessionId : SessionId) : appendedTo sessionId effects = [] := by
  refine List.filterMap_eq_nil_iff.mpr fun effect hmem => ?_
  have hquiet := h effect hmem
  cases effect with
  | requested kind => rfl
  | wrote write => rfl
  | appended id event => contradiction
  | subscribed id => rfl

theorem lastStatus_append_singleton (history : List SequencedEvent) (event : SequencedEvent) :
    lastStatus (history ++ [event]) = event.event.status?.or (lastStatus history) := by
  unfold lastStatus
  rw [List.filterMap_append]
  cases hstatus : event.event.status? with
  | none => simp [hstatus]
  | some status => simp [hstatus]

/-! ## one session -/

/-- The session is what its history since its creation makes of it. -/
structure Session.Tracks (session : Session C) (journalLimit : Nat)
    (history : List SequencedEvent) : Prop where
  sequences : history.map (·.sequence) = List.range' 1 history.length
  lastSequence : session.summary.lastSequence = history.length
  status : session.summary.status = (lastStatus history).getD .idle
  journal : session.journal = history.rtake journalLimit

namespace Session

variable {session session' : Session C} {journalLimit : Nat} {history : List SequencedEvent}

theorem Fresh.tracks {sessionId : SessionId} (h : session.Fresh sessionId) (journalLimit : Nat) :
    session.Tracks journalLimit [] :=
  ⟨rfl, h.lastSequence, h.status, by rw [h.journal, List.rtake_nil]⟩

theorem Keeps.lastSequence_eq (h : session.Keeps session') :
    session'.summary.lastSequence = session.summary.lastSequence := by
  obtain ⟨title, archived, hsummary⟩ := h.summary
  rw [hsummary]

theorem Tracks.keeps (h : session.Tracks journalLimit history) (hkeeps : session.Keeps session') :
    session'.Tracks journalLimit history := by
  obtain ⟨title, archived, hsummary⟩ := hkeeps.summary
  constructor
  · exact h.sequences
  · rw [hkeeps.lastSequence_eq, h.lastSequence]
  · rw [hsummary, ← h.status]
  · rw [hkeeps.journal, h.journal]

/-- Appending keeps the session what its history makes of it. -/
theorem Tracks.record (h : session.Tracks journalLimit history) {event : SequencedEvent}
    (hsequence : event.sequence = session.summary.lastSequence + 1) :
    (session.record journalLimit event).Tracks journalLimit (history ++ [event]) := by
  have hlength : (history ++ [event]).length = history.length + 1 := List.length_append
  constructor
  · rw [List.map_append, h.sequences, hlength, List.range'_1_concat, List.map_singleton, hsequence,
      h.lastSequence, Nat.add_comm 1]
  · rw [hlength, ← h.lastSequence]
    exact hsequence
  · rw [lastStatus_append_singleton]
    show event.event.status?.getD session.summary.status = _
    cases event.event.status? with
    | none => exact h.status
    | some status => rfl
  · show (session.journal ++ [event]).rtake journalLimit = _
    rw [h.journal, rtake_append_singleton]

/-- What the journal and the summary of a session say of its history. -/
structure JournalOk (session : Session C) (journalLimit : Nat) (history : List SequencedEvent) :
    Prop where
  contiguous : session.journal.map (·.sequence) =
    List.range' (session.summary.lastSequence + 1 - session.journal.length) session.journal.length
  last : ∀ event ∈ session.journal.getLast?, event.sequence = session.summary.lastSequence
  length : session.journal.length = min session.summary.lastSequence journalLimit
  status : lastStatus history = some session.summary.status

theorem Tracks.journalOk (h : session.Tracks journalLimit history)
    (hstarted : lastStatus history ≠ none) : session.JournalOk journalLimit history := by
  have hlength : session.journal.length = min session.summary.lastSequence journalLimit := by
    rw [h.journal, h.lastSequence, List.rtake, List.length_drop]
    omega
  have hsequences : session.journal.map (·.sequence) =
      List.range' (session.summary.lastSequence + 1 - session.journal.length)
        session.journal.length := by
    rw [hlength, h.journal, List.rtake, List.map_drop, h.sequences, List.drop_range', h.lastSequence]
    congr 1 <;> omega
  constructor
  · exact hsequences
  · intro event hmem
    have hlast := congrArg List.getLast? hsequences
    rw [List.getLast?_map, Option.mem_def.mp hmem, List.getLast?_range'] at hlast
    by_cases hempty : session.journal.length = 0
    · rw [if_pos hempty] at hlast
      contradiction
    · rw [if_neg hempty] at hlast
      have hevent : event.sequence = _ := Option.some.inj hlast
      rw [hevent]
      omega
  · exact hlength
  · rw [h.status]
    obtain ⟨status, hstatus⟩ := Option.ne_none_iff_exists'.mp hstarted
    rw [hstatus, Option.getD_some]

end Session

/-! ## channels -/

/-- The channels of a session are the parts of its history since each of the
subscriptions. -/
structure Channels (sessionId : SessionId) (effects : List Effect)
    (channels : List (List SequencedEvent)) : Prop where
  count : channels.length = effects.countP (Effect.subscribes sessionId)
  since : ∀ (i : Nat) (sent : List SequencedEvent), channels[i]? = some sent →
    ∃ before after, effects = before ++ .subscribed sessionId :: after ∧
      before.countP (Effect.subscribes sessionId) = i ∧ sent = appendedTo sessionId after

namespace Channels

variable {sessionId : SessionId} {effects : List Effect} {channels : List (List SequencedEvent)}

theorem nil (sessionId : SessionId) : Channels sessionId [] [] :=
  ⟨rfl, fun _ _ h => by contradiction⟩

/-- What is appended goes into every channel. -/
theorem extend (h : Channels sessionId effects channels) {more : List Effect}
    (hmore : ∀ effect ∈ more, effect.subscribes sessionId = false) :
    Channels sessionId (effects ++ more)
      (channels.map fun sent => sent ++ appendedTo sessionId more) := by
  constructor
  · have hnone : more.countP (Effect.subscribes sessionId) = 0 :=
      List.countP_eq_zero.mpr fun effect hmem => by rw [hmore effect hmem]; decide
    rw [List.length_map, h.count, List.countP_append, hnone, Nat.add_zero]
  · intro i sent hsent
    rw [List.getElem?_map] at hsent
    obtain ⟨sent', hsent', rfl⟩ := Option.map_eq_some_iff.mp hsent
    obtain ⟨before, after, heffects, hcount, rfl⟩ := h.since i sent' hsent'
    refine ⟨before, after ++ more, ?_, hcount, (appendedTo_append _ _ _).symm⟩
    rw [heffects, List.append_assoc, List.cons_append]

theorem quiet (h : Channels sessionId effects channels) {more : List Effect}
    (hmore : ∀ effect ∈ more, effect.isQuiet = true) :
    Channels sessionId (effects ++ more) channels := by
  have hnone : ∀ effect ∈ more, effect.subscribes sessionId = false := by
    intro effect hmem
    have hquiet := hmore effect hmem
    cases effect with
    | requested kind => rfl
    | wrote write => rfl
    | appended id event => rfl
    | subscribed id => contradiction
  have hextend := h.extend hnone
  rw [appendedTo_quiet hmore] at hextend
  simpa using hextend

/-- A new channel is empty. -/
theorem subscribe (h : Channels sessionId effects channels) :
    Channels sessionId (effects ++ [.subscribed sessionId]) (channels ++ [[]]) := by
  have hself : Effect.subscribes sessionId (.subscribed sessionId) = true := decide_eq_true rfl
  constructor
  · rw [List.length_append, List.countP_append, h.count, List.countP_singleton, if_pos hself]
    rfl
  · intro i sent hsent
    by_cases hold : i < channels.length
    · rw [List.getElem?_append_left hold] at hsent
      obtain ⟨before, after, heffects, hcount, hafter⟩ := h.since i sent hsent
      refine ⟨before, after ++ [.subscribed sessionId], ?_, hcount, ?_⟩
      · rw [heffects, List.append_assoc, List.cons_append]
      · rw [appendedTo_append, hafter]
        exact (List.append_nil _).symm
    · rw [List.getElem?_append_right (Nat.le_of_not_lt hold)] at hsent
      have hlast : i = channels.length := by
        obtain ⟨hlt, -⟩ := List.getElem?_eq_some_iff.mp hsent
        rw [List.length_singleton] at hlt
        omega
      rw [hlast, Nat.sub_self] at hsent
      exact ⟨effects, [], rfl, by rw [hlast, h.count], (Option.some.inj hsent).symm⟩

end Channels

/-! ## the invariant -/

/-- From `world` to `world'` the sessions, their channels and their histories stay
as they are. -/
structure World.Quiet (world world' : World S C) : Prop where
  env : world'.env = world.env
  journalLimit : world'.inner.journalLimit = world.inner.journalLimit
  sessions : world'.inner.sessions = world.inner.sessions
  subscribers : world'.inner.subscribers = world.inner.subscribers
  ticks : world.ticks ≤ world'.ticks
  effects : ∃ more, world'.effects = world.effects ++ more ∧
    ∀ effect ∈ more, effect.isQuiet = true

theorem World.Quiet.of_effect {world world' : World S C} {effect : Effect}
    (hquiet : effect.isQuiet = true) (heffects : world'.effects = world.effects ++ [effect])
    (henv : world'.env = world.env) (hticks : world'.ticks = world.ticks)
    (hlimit : world'.inner.journalLimit = world.inner.journalLimit)
    (hsessions : world'.inner.sessions = world.inner.sessions)
    (hsubscribers : world'.inner.subscribers = world.inner.subscribers) : world.Quiet world' := by
  refine ⟨henv, hlimit, hsessions, hsubscribers, Nat.le_of_eq hticks.symm, [effect], heffects, ?_⟩
  intro effect' hmem
  rw [List.mem_singleton.mp hmem]
  exact hquiet

/-- The invariant of a process in which the sessions `restored` came from the
store. -/
structure Journaled (restored : SessionId → Prop) (journalLimit : Nat) (world : World S C) :
    Prop where
  limit : world.inner.journalLimit = journalLimit
  tracks : ∀ id session, world.inner.sessions.lookup id = some session → ¬ restored id →
    session.Tracks journalLimit (appendedTo id world.effects)
  numbered : ∀ id session, world.inner.sessions.lookup id = some session →
    ∃ base, (appendedTo id world.effects).map (·.sequence) =
        List.range' (base + 1) (appendedTo id world.effects).length ∧
      session.summary.lastSequence = base + (appendedTo id world.effects).length
  channels : ∀ id, Channels id world.effects (world.channels id)
  unborn : ∀ id ∉ world.inner.sessions, appendedTo id world.effects = []
  fresh : ∀ n ≥ world.ticks, world.env.uuid n ∉ world.inner.sessions

/-- Every session that was created in this process has a status event. -/
def Started (restored : SessionId → Prop) (world : World S C) : Prop :=
  ∀ id session, world.inner.sessions.lookup id = some session → ¬ restored id →
    lastStatus (appendedTo id world.effects) ≠ none

theorem appendedTo_appended (id sessionId : SessionId) (event : SequencedEvent)
    (write write' : StoreWrite) :
    appendedTo id [.appended sessionId event, .wrote write, .wrote write'] =
      if sessionId = id then [event] else [] := by
  unfold appendedTo
  by_cases hid : sessionId = id <;> simp [hid]

theorem lookup_sentTo (subscribers : AList fun _ : SessionId => List (List SequencedEvent))
    (id sessionId : SessionId) (event : SequencedEvent) :
    ((World.sentTo subscribers sessionId event).lookup id).getD [] =
      ((subscribers.lookup id).getD []).map fun sent =>
        sent ++ if sessionId = id then [event] else [] := by
  unfold World.sentTo
  by_cases hid : sessionId = id
  · subst hid
    cases hlookup : subscribers.lookup sessionId with
    | none => simp [hlookup]
    | some channels => simp [AList.lookup_insert]
  · cases hlookup : subscribers.lookup sessionId with
    | none => simp [hid]
    | some channels =>
        dsimp only
        rw [AList.lookup_insert_ne (Ne.symm hid)]
        simp [hid]

namespace Journaled

variable {restored : SessionId → Prop} {journalLimit : Nat} {world world' : World S C}

theorem quiet (h : Journaled restored journalLimit world) (hquiet : world.Quiet world') :
    Journaled restored journalLimit world' := by
  obtain ⟨more, heffects, hmore⟩ := hquiet.effects
  have hhistory : ∀ id, appendedTo id world'.effects = appendedTo id world.effects := by
    intro id
    rw [heffects, appendedTo_append, appendedTo_quiet hmore, List.append_nil]
  constructor
  · rw [hquiet.journalLimit, h.limit]
  · intro id session hlookup hnew
    rw [hquiet.sessions] at hlookup
    rw [hhistory]
    exact h.tracks id session hlookup hnew
  · intro id session hlookup
    rw [hquiet.sessions] at hlookup
    rw [hhistory]
    exact h.numbered id session hlookup
  · intro id
    rw [World.channels, hquiet.subscribers, heffects]
    exact (h.channels id).quiet hmore
  · intro id hmem
    rw [hquiet.sessions] at hmem
    rw [hhistory]
    exact h.unborn id hmem
  · intro n hn
    rw [hquiet.env, hquiet.sessions]
    exact h.fresh n (Nat.le_trans hquiet.ticks hn)

/-- A session changes to one its history also allows. -/
theorem setSession (h : Journaled restored journalLimit world) {sessionId : SessionId}
    {session : Session C}
    (htracks : ¬ restored sessionId →
      session.Tracks journalLimit (appendedTo sessionId world.effects))
    (hnumbered : ∃ base, (appendedTo sessionId world.effects).map (·.sequence) =
        List.range' (base + 1) (appendedTo sessionId world.effects).length ∧
      session.summary.lastSequence = base + (appendedTo sessionId world.effects).length)
    (hfresh : ∀ n ≥ world.ticks, world.env.uuid n ≠ sessionId) :
    Journaled restored journalLimit (world.setSession sessionId session) := by
  constructor
  · exact h.limit
  · intro id session' hlookup hnew
    rcases lookup_insert_eq_some hlookup with ⟨rfl, rfl⟩ | ⟨-, hold⟩
    · exact htracks hnew
    · exact h.tracks id session' hold hnew
  · intro id session' hlookup
    rcases lookup_insert_eq_some hlookup with ⟨rfl, rfl⟩ | ⟨-, hold⟩
    · exact hnumbered
    · exact h.numbered id session' hold
  · exact h.channels
  · intro id hmem
    exact h.unborn id fun hold => hmem ((AList.mem_insert _).mpr (.inr hold))
  · intro n hn hmem
    exact ((AList.mem_insert _).mp hmem).elim (hfresh n hn) (h.fresh n hn)

theorem edit (h : Journaled restored journalLimit world) {sessionId : SessionId}
    {session session' : Session C}
    (hlookup : world.inner.sessions.lookup sessionId = some session)
    (hkeeps : session.Keeps session') :
    Journaled restored journalLimit (world.setSession sessionId session') := by
  refine h.setSession (fun hnew => (h.tracks _ _ hlookup hnew).keeps hkeeps) ?_ ?_
  · obtain ⟨base, hsequences, hlast⟩ := h.numbered _ _ hlookup
    exact ⟨base, hsequences, by rw [hkeeps.lastSequence_eq, hlast]⟩
  · intro n hn heq
    exact h.fresh n hn (heq ▸ mem_of_lookup hlookup)

theorem subscribe (h : Journaled restored journalLimit world) (sessionId : SessionId) :
    Journaled restored journalLimit (world.subscribed sessionId) := by
  have hhistory : ∀ id, appendedTo id (world.subscribed sessionId).effects =
      appendedTo id world.effects := by
    intro id
    rw [World.subscribed, appendedTo_append]
    exact List.append_nil _
  constructor
  · exact h.limit
  · intro id session hlookup hnew
    rw [hhistory]
    exact h.tracks id session hlookup hnew
  · intro id session hlookup
    rw [hhistory]
    exact h.numbered id session hlookup
  · intro id
    by_cases hid : id = sessionId
    · subst hid
      have hchannels : (world.subscribed id).channels id = world.channels id ++ [[]] := by
        rw [World.channels, World.subscribed, AList.lookup_insert, Option.getD_some]
      rw [hchannels]
      exact (h.channels id).subscribe
    · have hchannels : (world.subscribed sessionId).channels id = world.channels id := by
        rw [World.channels, World.subscribed, AList.lookup_insert_ne hid]
        rfl
      rw [hchannels]
      have hmore : ∀ effect ∈ [Effect.subscribed sessionId], effect.subscribes id = false := by
        intro effect heffect
        rw [List.mem_singleton.mp heffect]
        exact decide_eq_false (Ne.symm hid)
      have hextend := (h.channels id).extend hmore
      have hnone : appendedTo id [.subscribed sessionId] = [] := rfl
      simp only [hnone, List.append_nil, List.map_id'] at hextend
      exact hextend
  · intro id hid
    rw [hhistory]
    exact h.unborn id hid
  · exact h.fresh

variable [SessionStore S]

theorem append (h : Journaled restored journalLimit world) {sessionId : SessionId}
    {session : Session C} (hlookup : world.inner.sessions.lookup sessionId = some session)
    (event : SessionEvent) :
    Journaled restored journalLimit
      (world.appended sessionId session (world.nextEvent session event)) := by
  have hmem : sessionId ∈ world.inner.sessions :=
    mem_of_lookup hlookup
  have hother : ∀ id, id ≠ sessionId →
      appendedTo id (world.appended sessionId session (world.nextEvent session event)).effects =
        appendedTo id world.effects := by
    intro id hid
    rw [World.appended, appendedTo_append, appendedTo_appended, if_neg (Ne.symm hid),
      List.append_nil]
  have hself : appendedTo sessionId
      (world.appended sessionId session (world.nextEvent session event)).effects =
        appendedTo sessionId world.effects ++ [world.nextEvent session event] := by
    rw [World.appended, appendedTo_append, appendedTo_appended, if_pos rfl]
  constructor
  · exact h.limit
  · intro id session' hlookup' hnew
    rcases lookup_insert_eq_some hlookup' with ⟨rfl, rfl⟩ | ⟨hid, hold⟩
    · rw [hself, h.limit]
      exact (h.tracks id session hlookup hnew).record rfl
    · rw [hother id hid]
      exact h.tracks id session' hold hnew
  · intro id session' hlookup'
    rcases lookup_insert_eq_some hlookup' with ⟨rfl, rfl⟩ | ⟨hid, hold⟩
    · obtain ⟨base, hsequences, hlast⟩ := h.numbered id session hlookup
      have hnext : (world.nextEvent session event).sequence =
          base + (appendedTo id world.effects).length + 1 := by
        rw [World.nextEvent, hlast]
      refine ⟨base, ?_, ?_⟩
      · rw [hself, List.map_append, hsequences, List.length_append, List.length_singleton,
          List.range'_1_concat, List.map_singleton, hnext]
        congr 2
        omega
      · rw [hself, List.length_append, List.length_singleton]
        exact hnext
    · rw [hother id hid]
      exact h.numbered id session' hold
  · intro id
    have hmore : ∀ effect ∈ [Effect.appended sessionId (world.nextEvent session event),
        .wrote (.appendEvent sessionId (world.nextEvent session event).stored),
        .wrote (.upsertSession (session.record world.inner.journalLimit
          (world.nextEvent session event)).stored)], effect.subscribes id = false := by
      intro effect heffect
      simp only [List.mem_cons, List.not_mem_nil, or_false] at heffect
      rcases heffect with rfl | rfl | rfl <;> rfl
    have hextend := (h.channels id).extend hmore
    rw [appendedTo_appended] at hextend
    have hchannels : (world.appended sessionId session (world.nextEvent session event)).channels id =
        (world.channels id).map fun sent =>
          sent ++ if sessionId = id then [world.nextEvent session event] else [] :=
      lookup_sentTo _ _ _ _
    rw [hchannels]
    exact hextend
  · intro id hid
    have hne : id ≠ sessionId := fun heq => hid ((AList.mem_insert _).mpr (.inl heq))
    rw [hother id hne]
    exact h.unborn id fun hold => hid ((AList.mem_insert _).mpr (.inr hold))
  · intro n hn hnew
    have hle : world.ticks ≤ n := Nat.le_of_succ_le hn
    rcases (AList.mem_insert _).mp hnew with heq | hold
    · exact h.fresh n hle (heq ▸ hmem)
    · exact h.fresh n hle hold

/-- A session is registered under a name that no session has had. -/
theorem register (h : Journaled restored journalLimit world) {build : SessionId → Session C}
    (hfresh : ∀ id, (build id).Fresh id) :
    Journaled restored journalLimit (world.registered build) := by
  have hnew := h.fresh world.ticks (Nat.le_refl _)
  have hhistory := h.unborn _ hnew
  have hticked : Journaled restored journalLimit { world with ticks := world.ticks + 1 } :=
    h.quiet ⟨rfl, rfl, rfl, rfl, Nat.le_succ _, [], (List.append_nil _).symm, by simp⟩
  have hset : Journaled restored journalLimit
      ({ world with ticks := world.ticks + 1 }.setSession (world.env.uuid world.ticks)
        (build (world.env.uuid world.ticks))) := by
    refine hticked.setSession (fun _ => ?_) ?_ ?_
    · rw [hhistory]
      exact (hfresh _).tracks journalLimit
    · rw [hhistory]
      exact ⟨0, rfl, (hfresh _).lastSequence⟩
    · intro n hn heq
      have hsame : n = world.ticks := world.env.uuid_injective heq
      rw [hsame] at hn
      exact Nat.not_succ_le_self _ hn
  exact hset.quiet (.of_effect rfl rfl rfl rfl rfl rfl rfl)

/-- **Every change keeps the invariant.** -/
theorem change (h : Journaled restored journalLimit world) (hchange : Change world world') :
    Journaled restored journalLimit world' := by
  cases hchange with
  | tick =>
      exact h.quiet ⟨rfl, rfl, rfl, rfl, Nat.le_succ _, [], (List.append_nil _).symm, by simp⟩
  | request kind => exact h.quiet (.of_effect rfl rfl rfl rfl rfl rfl rfl)
  | edit hlookup hkeeps => exact h.edit hlookup hkeeps
  | append hlookup event => exact h.append hlookup event
  | persist hlookup => exact h.quiet (.of_effect rfl rfl rfl rfl rfl rfl rfl)
  | @subscribe sessionId hmem =>
      rw [final, Manager.exec_subscribe hmem]
      exact h.subscribe sessionId
  | @archive sessionId session hlookup archived =>
      rcases Manager.final_archiveRecovered world sessionId session archived with
        hfinal | ⟨stored, -, hfinal⟩
      · rw [hfinal]
        exact h.quiet ⟨rfl, rfl, rfl, rfl, Nat.le_refl _, [], (List.append_nil _).symm, by simp⟩
      · rw [hfinal]
        exact h.quiet (.of_effect rfl rfl rfl rfl rfl rfl rfl)
  | @enroll build hfresh =>
      rw [Manager.final_enrollSession]
      exact (h.register hfresh).append (AList.lookup_insert _) _

end Journaled

/-! ## status events -/

theorem lastStatus_append_ne_none {history : List SequencedEvent} {event : SequencedEvent}
    (h : event.event.status? ≠ none ∨ lastStatus history ≠ none) :
    lastStatus (history ++ [event]) ≠ none := by
  rw [lastStatus_append_singleton, ne_eq, Option.or_eq_none_iff, not_and_or]
  exact h

namespace Started

variable {restored : SessionId → Prop} {world world' : World S C}

/-- Sessions and histories stay as they are, or the session is edited. -/
theorem of_history (h : Started restored world)
    (hhistory : ∀ id, appendedTo id world'.effects = appendedTo id world.effects)
    (hsessions : ∀ id ∈ world'.inner.sessions, id ∈ world.inner.sessions) :
    Started restored world' := by
  intro id session hlookup hnew
  obtain ⟨old, hold⟩ := Option.isSome_iff_exists.mp (AList.lookup_isSome.mpr
    (hsessions id (mem_of_lookup hlookup)))
  rw [hhistory]
  exact h id old hold hnew

theorem quiet (h : Started restored world) (hquiet : world.Quiet world') :
    Started restored world' := by
  obtain ⟨more, heffects, hmore⟩ := hquiet.effects
  refine h.of_history (fun id => ?_) (fun id hid => hquiet.sessions ▸ hid)
  rw [heffects, appendedTo_append, appendedTo_quiet hmore, List.append_nil]

variable [SessionStore S]

theorem append {sessionId : SessionId} {session : Session C} {event : SequencedEvent}
    (hothers : ∀ id session, world.inner.sessions.lookup id = some session → id ≠ sessionId →
      ¬ restored id → lastStatus (appendedTo id world.effects) ≠ none)
    (hself : event.event.status? ≠ none ∨
      (¬ restored sessionId → lastStatus (appendedTo sessionId world.effects) ≠ none)) :
    Started restored (world.appended sessionId session event) := by
  intro id session' hlookup hnew
  rw [World.appended, appendedTo_append, appendedTo_appended]
  rcases lookup_insert_eq_some hlookup with ⟨rfl, -⟩ | ⟨hid, hold⟩
  · rw [if_pos rfl]
    exact lastStatus_append_ne_none (hself.imp_right fun hbefore => hbefore hnew)
  · rw [if_neg (Ne.symm hid), List.append_nil]
    exact hothers id session' hold hid hnew

theorem change (h : Started restored world) (hchange : Change world world') :
    Started restored world' := by
  cases hchange with
  | tick =>
      exact h.quiet ⟨rfl, rfl, rfl, rfl, Nat.le_succ _, [], (List.append_nil _).symm, by simp⟩
  | request kind => exact h.quiet (.of_effect rfl rfl rfl rfl rfl rfl rfl)
  | @edit sessionId session session' hlookup hkeeps =>
      refine h.of_history (fun _ => rfl) fun id hid => ?_
      rcases (AList.mem_insert _).mp hid with rfl | hold
      · exact mem_of_lookup hlookup
      · exact hold
  | append hlookup event =>
      exact append (fun id session hlookup _ hnew => h id session hlookup hnew)
        (.inr fun hnew => h _ _ hlookup hnew)
  | persist hlookup => exact h.quiet (.of_effect rfl rfl rfl rfl rfl rfl rfl)
  | @subscribe sessionId hmem =>
      rw [final, Manager.exec_subscribe hmem]
      refine h.of_history (fun id => ?_) (fun _ hid => hid)
      rw [World.subscribed, appendedTo_append]
      exact List.append_nil _
  | @archive sessionId session hlookup archived =>
      rcases Manager.final_archiveRecovered world sessionId session archived with
        hfinal | ⟨stored, -, hfinal⟩
      · rw [hfinal]
        exact h.quiet ⟨rfl, rfl, rfl, rfl, Nat.le_refl _, [], (List.append_nil _).symm, by simp⟩
      · rw [hfinal]
        exact h.quiet (.of_effect rfl rfl rfl rfl rfl rfl rfl)
  | @enroll build hfresh =>
      rw [Manager.final_enrollSession]
      refine append (fun id session hlookup hid hnew => ?_) (.inl nofun)
      rcases lookup_insert_eq_some hlookup with ⟨heq, -⟩ | ⟨-, hold⟩
      · exact absurd heq hid
      · have hhistory : appendedTo id (world.registered build).effects =
            appendedTo id world.effects := by
          show appendedTo id (world.effects ++ [_]) = _
          rw [appendedTo_append]
          exact List.append_nil _
        rw [hhistory]
        exact h id session hold hnew

end Started

/-! ## the process -/

/-- What the manager knows of a session, without the agent's side. -/
def Session.product (session : Session C) : Session Unit := { session with connection := () }

/-- The agents move: they send, stop or change what they will answer.  The order
of the session map is not the manager's to choose either. -/
structure World.AgentsMove (world world' : World S C) : Prop where
  env : world'.env = world.env
  ticks : world'.ticks = world.ticks
  effects : world'.effects = world.effects
  adapters : world'.inner.adapters = world.inner.adapters
  store : world'.inner.store = world.inner.store
  subscribers : world'.inner.subscribers = world.inner.subscribers
  journalLimit : world'.inner.journalLimit = world.inner.journalLimit
  recovered : world'.inner.recovered = world.inner.recovered
  sessions : ∀ id, (world'.inner.sessions.lookup id).map Session.product =
    (world.inner.sessions.lookup id).map Session.product

namespace World.AgentsMove

variable {world world' : World S C}

/-- A session after the move is the one before with another connection. -/
theorem lookup (h : world.AgentsMove world') {id : SessionId} {session' : Session C}
    (hlookup : world'.inner.sessions.lookup id = some session') :
    ∃ session, world.inner.sessions.lookup id = some session ∧
      session.product = session'.product := by
  have hsessions := h.sessions id
  rw [hlookup, Option.map_some] at hsessions
  exact Option.map_eq_some_iff.mp hsessions.symm

theorem mem_iff (h : world.AgentsMove world') (id : SessionId) :
    id ∈ world'.inner.sessions ↔ id ∈ world.inner.sessions := by
  have hsessions := congrArg Option.isSome (h.sessions id)
  rw [Option.isSome_map, Option.isSome_map] at hsessions
  rw [← AList.lookup_isSome, ← AList.lookup_isSome, hsessions]

end World.AgentsMove

theorem Session.keeps_of_product {session session' : Session C}
    (h : session.product = session'.product) : session.Keeps session' := by
  have hsummary : session.product.summary = session'.product.summary := by rw [h]
  have hjournal : session.product.journal = session'.product.journal := by rw [h]
  exact .of_eq hsummary.symm hjournal.symm

theorem Journaled.agentsMove {restored : SessionId → Prop} {journalLimit : Nat}
    {world world' : World S C} (h : Journaled restored journalLimit world)
    (hmove : world.AgentsMove world') : Journaled restored journalLimit world' := by
  constructor
  · rw [hmove.journalLimit, h.limit]
  · intro id session' hlookup hnew
    obtain ⟨session, hold, hproduct⟩ := hmove.lookup hlookup
    rw [hmove.effects]
    exact (h.tracks id session hold hnew).keeps (Session.keeps_of_product hproduct)
  · intro id session' hlookup
    obtain ⟨session, hold, hproduct⟩ := hmove.lookup hlookup
    rw [hmove.effects, (Session.keeps_of_product hproduct).lastSequence_eq]
    exact h.numbered id session hold
  · intro id
    rw [World.channels, hmove.subscribers, hmove.effects]
    exact h.channels id
  · intro id hid
    rw [hmove.effects]
    exact h.unborn id fun hold => hid ((hmove.mem_iff id).mpr hold)
  · intro n hn hid
    rw [hmove.ticks] at hn
    rw [hmove.env, hmove.mem_iff] at hid
    exact h.fresh n hn hid

theorem Started.agentsMove {restored : SessionId → Prop} {world world' : World S C}
    (h : Started restored world) (hmove : world.AgentsMove world') : Started restored world' :=
  h.of_history (fun _ => by rw [hmove.effects]) fun id hid => (hmove.mem_iff id).mp hid

/-- A turn of the process: an operation under the lock, or a move of the agents. -/
inductive Turn where
  | operation (operation : Operation)
  | agents

section

variable [SessionStore S] [AcpSession C]

/-- What a turn makes of the state. -/
def World.Turns (world : World S C) (turn : Turn) (world' : World S C) : Prop :=
  match turn with
  | .operation operation => world' = (operation.run : Manager S C Unit).final world
  | .agents => world.AgentsMove world'

/-- A process that runs a manager. -/
def process (start : World S C) : System (World S C) Turn where
  init world := world = start
  step world turn world' := world.Turns turn world'

theorem Journaled.turn {restored : SessionId → Prop} {journalLimit : Nat}
    {world world' : World S C} {turn : Turn} (h : Journaled restored journalLimit world)
    (hturn : world.Turns turn world') : Journaled restored journalLimit world' := by
  cases turn with
  | operation operation =>
      rw [show world' = (operation.run : Manager S C Unit).final world from hturn]
      exact operation.performs_run.preserves (fun _ _ hchange hbefore => hbefore.change hchange) h
  | agents => exact h.agentsMove hturn

theorem Started.turn {restored : SessionId → Prop} {world world' : World S C} {turn : Turn}
    (h : Started restored world) (hturn : world.Turns turn world') : Started restored world' := by
  cases turn with
  | operation operation =>
      rw [show world' = (operation.run : Manager S C Unit).final world from hturn]
      exact operation.performs_run.preserves (fun _ _ hchange hbefore => hbefore.change hchange) h
  | agents => exact h.agentsMove hturn

variable [LawfulSessionStore S] {env : Env} {ticks : Nat} {adapters : AdapterRegistry C}
  {store : S} {journalLimit : Nat}

/-- The invariant holds when the manager has started. -/
theorem journaled_new
    (hfresh : ∀ n ≥ (SessionManager.new env ticks adapters store journalLimit : World S C).ticks,
      env.uuid n ∉ (SessionManager.new env ticks adapters store journalLimit :
        World S C).inner.sessions) :
    Journaled (· ∈ (SessionManager.new env ticks adapters store journalLimit :
        World S C).inner.sessions) journalLimit
      (SessionManager.new env ticks adapters store journalLimit : World S C) := by
  have hrecovers := (recoversRows_new (C := C) env ticks adapters store journalLimit).recovers
  obtain ⟨requests, heffects, hresume⟩ := hrecovers.effects
  have hquiet : ∀ effect ∈ requests, effect.isQuiet = true := by
    intro effect hmem
    obtain ⟨nativeId, rfl⟩ := hresume effect hmem
    rfl
  have hhistory : ∀ id, appendedTo id (SessionManager.new env ticks adapters store journalLimit :
      World S C).effects = [] := by
    intro id
    rw [heffects, appendedTo_append, appendedTo_quiet hquiet]
    rfl
  constructor
  · exact hrecovers.journalLimit
  · intro id session hlookup hnew
    exact absurd (mem_of_lookup hlookup) hnew
  · intro id session hlookup
    rw [hhistory]
    exact ⟨session.summary.lastSequence, rfl, rfl⟩
  · intro id
    rw [World.channels, hrecovers.subscribers, heffects]
    exact (Channels.nil id).quiet hquiet
  · exact fun id _ => hhistory id
  · intro n hn
    rw [hrecovers.env]
    exact hfresh n hn

/-- **The journal of a live session**: whatever the operations and whatever the
agents do, the journal of a session created in this process is the end of its
history and its channels are the history since each subscription. -/
theorem journal_of_created
    (hfresh : ∀ n ≥ (SessionManager.new env ticks adapters store journalLimit : World S C).ticks,
      env.uuid n ∉ (SessionManager.new env ticks adapters store journalLimit :
        World S C).inner.sessions)
    {world : World S C}
    (hworld : (process (SessionManager.new env ticks adapters store journalLimit)).Reachable world)
    {id : SessionId} {session : Session C}
    (hlookup : world.inner.sessions.lookup id = some session)
    (hcreated : id ∉ (SessionManager.new env ticks adapters store journalLimit :
      World S C).inner.sessions) :
    session.JournalOk journalLimit (appendedTo id world.effects) ∧
      Channels id world.effects (world.channels id) := by
  have hjournaled : Journaled (· ∈ (SessionManager.new env ticks adapters store journalLimit :
      World S C).inner.sessions) journalLimit world := by
    refine System.invariant_of_step (fun _ hinit => ?_) (fun _ _ _ h _ hstep => h.turn hstep) hworld
    rw [show _ = _ from hinit]
    exact journaled_new hfresh
  have hstarted : Started (· ∈ (SessionManager.new env ticks adapters store journalLimit :
      World S C).inner.sessions) world := by
    refine System.invariant_of_step (fun _ hinit => ?_) (fun _ _ _ h _ hstep => h.turn hstep) hworld
    intro id session hlookup hnew
    rw [show _ = _ from hinit] at hlookup
    exact absurd (mem_of_lookup hlookup) hnew
  exact ⟨(hjournaled.tracks id session hlookup hcreated).journalOk
    (hstarted id session hlookup hcreated), hjournaled.channels id⟩

end

/-- A manager over an empty database, whose journals keep one event. -/
def sampleManager : World SqliteStore ScriptedAgent :=
  SessionManager.new sampleEnv 0 [ScriptedAgent.adapter true] (SqliteStore.empty 0) 1

def sampleRequest : CreateSessionRequest where
  agent := .fake
  workingDirectoryLabel := "~/src"
  model := none
  effort := none
  initialPrompt := none

/-- The manager after an operation. -/
def World.after (world : World SqliteStore ScriptedAgent) (operation : Operation) :
    World SqliteStore ScriptedAgent :=
  operation.run.final world

/-- A session is created, subscribed to, and put in another mode. -/
def samplePlanned : World SqliteStore ScriptedAgent :=
  ((sampleManager.after (.createSession sampleRequest)).after (.subscribe "uuu")).after
    (.setMode "uuu" "plan")

/-- Of two events the journal keeps the second, the only one since the
subscription. -/
theorem journal_of_created_planned :
    ∃ session, samplePlanned.inner.sessions.lookup "uuu" = some session ∧
      (appendedTo "uuu" samplePlanned.effects).map (·.sequence) = [1, 2] ∧
      session.JournalOk 1 (appendedTo "uuu" samplePlanned.effects) ∧
      (samplePlanned.channels "uuu").map (fun sent => sent.map (·.sequence)) = [[2]] ∧
      Channels "uuu" samplePlanned.effects (samplePlanned.channels "uuu") := by
  have hcreated : (process sampleManager).Reachable
      (sampleManager.after (.createSession sampleRequest)) :=
    .step (a := .operation (.createSession sampleRequest)) (.init rfl) trivial rfl
  have hsubscribed : (process sampleManager).Reachable
      ((sampleManager.after (.createSession sampleRequest)).after (.subscribe "uuu")) :=
    .step (a := .operation (.subscribe "uuu")) hcreated trivial rfl
  have hreach : (process sampleManager).Reachable samplePlanned :=
    .step (a := .operation (.setMode "uuu" "plan")) hsubscribed trivial rfl
  have hmem : "uuu" ∈ samplePlanned.inner.sessions :=
    AList.mem_keys.mpr (by decide : "uuu" ∈ samplePlanned.inner.sessions.keys)
  obtain ⟨session, hlookup⟩ := exists_lookup_of_mem hmem
  obtain ⟨hjournal, hchannels⟩ := journal_of_created (fun _ _ => AList.notMem_empty _)
    hreach hlookup (AList.notMem_empty _)
  exact ⟨session, hlookup, by decide, hjournal, by decide, hchannels⟩

end Slight
