import Slight.Session.Journal

/-!
# Slight.Session.Growth

How a live session grows over the turns of the manager: its history is extended
by events numbered from its last sequence on, and every channel by the same events.
-/

namespace Slight

open Support Program

variable {S C : Type}

/-! ## positions -/

/-- A position in a list is given by how many elements like it stand before. -/
theorem eq_of_countP_eq {α : Type} {p : α → Bool} {before after before' after' : List α} {a : α}
    (ha : p a = true) (h : before ++ a :: after = before' ++ a :: after')
    (hcount : before.countP p = before'.countP p) : before = before' ∧ after = after' := by
  induction before generalizing before' with
  | nil =>
      cases before' with
      | nil => exact ⟨rfl, (List.cons.inj h).2⟩
      | cons b before' =>
          have hb : a = b := (List.cons.inj h).1
          rw [List.countP_nil, ← hb, List.countP_cons_of_pos ha] at hcount
          omega
  | cons b before ih =>
      cases before' with
      | nil =>
          have hb : b = a := (List.cons.inj h).1
          rw [List.countP_nil, hb, List.countP_cons_of_pos ha] at hcount
          omega
      | cons b' before' =>
          obtain ⟨rfl, hrest⟩ := List.cons.inj h
          rw [List.countP_cons, List.countP_cons] at hcount
          obtain ⟨rfl, hafter⟩ := ih hrest (by omega)
          exact ⟨rfl, hafter⟩

/-- **A channel grows** with the history of its session. -/
theorem Channels.getElem?_append {sessionId : SessionId} {effects more : List Effect}
    {channels channels' : List (List SequencedEvent)} (h : Channels sessionId effects channels)
    (h' : Channels sessionId (effects ++ more) channels') {i : Nat} {sent : List SequencedEvent}
    (hsent : channels[i]? = some sent) :
    channels'[i]? = some (sent ++ appendedTo sessionId more) := by
  obtain ⟨before, after, heffects, hcount, rfl⟩ := h.since i sent hsent
  have hlt : i < channels'.length := by
    obtain ⟨hlt, -⟩ := List.getElem?_eq_some_iff.mp hsent
    have hcounts := h.count
    have hcounts' := h'.count
    rw [List.countP_append] at hcounts'
    omega
  have hsent' := List.getElem?_eq_getElem hlt
  generalize channels'[i] = sent' at hsent'
  obtain ⟨before', after', heffects', hcount', rfl⟩ := h'.since i sent' hsent'
  rw [heffects, List.append_assoc, List.cons_append] at heffects'
  have hself : Effect.subscribes sessionId (.subscribed sessionId) = true := decide_eq_true rfl
  obtain ⟨-, rfl⟩ := eq_of_countP_eq hself heffects' (hcount.trans hcount'.symm)
  rw [hsent', appendedTo_append]

/-! ## growth -/

/-- From `world` to `world'` the live session `id` is extended by events with the next
sequence numbers. -/
def World.Grows (id : SessionId) (world world' : World S C) : Prop :=
  ∃ more, world'.effects = world.effects ++ more ∧
    ∀ session, world.inner.sessions.lookup id = some session →
      (appendedTo id more).map (·.sequence) =
          List.range' (session.summary.lastSequence + 1) (appendedTo id more).length ∧
        ∃ session', world'.inner.sessions.lookup id = some session' ∧
          session'.summary.lastSequence =
            session.summary.lastSequence + (appendedTo id more).length

namespace World.Grows

variable {id : SessionId} {world world' world'' : World S C}

theorem trans (h : World.Grows id world world') (h' : World.Grows id world' world'') :
    World.Grows id world world'' := by
  obtain ⟨more, heffects, hsession⟩ := h
  obtain ⟨more', heffects', hsession'⟩ := h'
  refine ⟨more ++ more', ?_, fun session hlookup => ?_⟩
  · rw [heffects', heffects, List.append_assoc]
  · obtain ⟨hsequences, between, hbetween, hlast⟩ := hsession session hlookup
    obtain ⟨hsequences', session', hlookup', hlast'⟩ := hsession' between hbetween
    refine ⟨?_, session', hlookup', ?_⟩
    · rw [appendedTo_append, List.map_append, List.length_append, hsequences, hsequences', hlast,
        ← List.range'_append_1]
      congr 2
      omega
    · rw [hlast', hlast, appendedTo_append, List.length_append, Nat.add_assoc]

/-- Nothing is appended to the session, and it keeps its last sequence. -/
theorem of_idle {more : List Effect} (heffects : world'.effects = world.effects ++ more)
    (hmore : appendedTo id more = [])
    (hsessions : ∀ session, world.inner.sessions.lookup id = some session →
      ∃ session', world'.inner.sessions.lookup id = some session' ∧
        session'.summary.lastSequence = session.summary.lastSequence) :
    World.Grows id world world' := by
  refine ⟨more, heffects, fun session hlookup => ?_⟩
  rw [hmore]
  exact ⟨rfl, hsessions session hlookup⟩

theorem of_quiet (hquiet : world.Quiet world') : World.Grows id world world' := by
  obtain ⟨more, heffects, hmore⟩ := hquiet.effects
  refine of_idle heffects (appendedTo_quiet hmore id) fun session hlookup => ?_
  rw [hquiet.sessions]
  exact ⟨session, hlookup, rfl⟩

theorem refl (id : SessionId) (world : World S C) : World.Grows id world world :=
  of_quiet ⟨rfl, rfl, rfl, rfl, Nat.le_refl _, [], (List.append_nil _).symm, by simp⟩

/-- A live session stays live. -/
theorem mem (h : World.Grows id world world') (hlive : id ∈ world.inner.sessions) :
    id ∈ world'.inner.sessions := by
  obtain ⟨session, hlookup⟩ := exists_lookup_of_mem hlive
  obtain ⟨more, -, hsession⟩ := h
  obtain ⟨-, session', hlookup', -⟩ := hsession session hlookup
  exact mem_of_lookup hlookup'

theorem agentsMove (hmove : world.AgentsMove world') : World.Grows id world world' := by
  have heffects : world'.effects = world.effects ++ [] := by
    rw [hmove.effects, List.append_nil]
  refine of_idle heffects rfl fun session hlookup => ?_
  have hproduct := hmove.sessions id
  rw [hlookup, Option.map_some] at hproduct
  obtain ⟨session', hlookup', hsame⟩ := Option.map_eq_some_iff.mp hproduct
  exact ⟨session', hlookup', (Session.keeps_of_product hsame.symm).lastSequence_eq⟩

theorem edit {sessionId : SessionId} {session session' : Session C}
    (hlookup : world.inner.sessions.lookup sessionId = some session)
    (hkeeps : session.Keeps session') :
    World.Grows id world (world.setSession sessionId session') := by
  have heffects : (world.setSession sessionId session').effects = world.effects ++ [] :=
    (List.append_nil _).symm
  refine of_idle heffects rfl fun old hold => ?_
  by_cases hid : id = sessionId
  · subst hid
    rw [hlookup] at hold
    rw [← Option.some.inj hold]
    exact ⟨session', AList.lookup_insert _, hkeeps.lastSequence_eq⟩
  · exact ⟨old, (AList.lookup_insert_ne hid).trans hold, rfl⟩

theorem subscribed (sessionId : SessionId) :
    World.Grows id world (world.subscribed sessionId) :=
  of_idle rfl rfl fun session hlookup => ⟨session, hlookup, rfl⟩

variable [SessionStore S]

theorem append {sessionId : SessionId} {session : Session C}
    (hlookup : world.inner.sessions.lookup sessionId = some session) (event : SessionEvent) :
    World.Grows id world (world.appended sessionId session (world.nextEvent session event)) := by
  by_cases hid : id = sessionId
  · subst hid
    refine ⟨_, rfl, fun old hold => ?_⟩
    rw [hlookup] at hold
    rw [← Option.some.inj hold, appendedTo_appended, if_pos rfl]
    exact ⟨rfl, _, AList.lookup_insert _, rfl⟩
  · have hmore : appendedTo id [.appended sessionId (world.nextEvent session event),
        .wrote (.appendEvent sessionId (world.nextEvent session event).stored),
        .wrote (.upsertSession (session.record world.inner.journalLimit
          (world.nextEvent session event)).stored)] = [] := by
      rw [appendedTo_appended, if_neg (Ne.symm hid)]
    exact of_idle rfl hmore fun old hold =>
      ⟨old, (AList.lookup_insert_ne hid).trans hold, rfl⟩

theorem registered (build : SessionId → Session C)
    (hnew : world.env.uuid world.ticks ∉ world.inner.sessions) :
    World.Grows id world (world.registered build) := by
  refine of_idle rfl rfl fun session hlookup => ?_
  have hid : id ≠ world.env.uuid world.ticks := by
    rintro rfl
    rw [AList.lookup_eq_none.mpr hnew] at hlookup
    cases hlookup
  exact ⟨session, (AList.lookup_insert_ne hid).trans hlookup, rfl⟩

/-- **Every change grows** every session. -/
theorem change {restored : SessionId → Prop} {journalLimit : Nat}
    (h : Journaled restored journalLimit world) (hchange : Change world world') :
    World.Grows id world world' := by
  cases hchange with
  | tick =>
      exact of_quiet ⟨rfl, rfl, rfl, rfl, Nat.le_succ _, [], (List.append_nil _).symm, by simp⟩
  | request kind => exact of_quiet (.of_effect rfl rfl rfl rfl rfl rfl rfl)
  | edit hlookup hkeeps => exact edit hlookup hkeeps
  | append hlookup event => exact append hlookup event
  | persist hlookup => exact of_quiet (.of_effect rfl rfl rfl rfl rfl rfl rfl)
  | @subscribe sessionId hmem =>
      rw [final, Manager.exec_subscribe hmem]
      exact subscribed sessionId
  | @archive sessionId session hlookup archived =>
      rcases Manager.final_archiveRecovered world sessionId session archived with
        hfinal | ⟨stored, -, hfinal⟩
      · rw [hfinal]
        exact of_quiet ⟨rfl, rfl, rfl, rfl, Nat.le_refl _, [], (List.append_nil _).symm, by simp⟩
      · rw [hfinal]
        exact of_quiet (.of_effect rfl rfl rfl rfl rfl rfl rfl)
  | @enroll build hfresh =>
      rw [Manager.final_enrollSession]
      exact (registered build (h.fresh world.ticks (Nat.le_refl _))).trans
        (append (AList.lookup_insert _) _)

/-- A program of the manager grows every session. -/
theorem of_performs {α : Type} {restored : SessionId → Prop} {journalLimit : Nat}
    {m : Manager S C α} (hm : m.Performs Change) (h : Journaled restored journalLimit world) :
    Journaled restored journalLimit (m.final world) ∧ World.Grows id world (m.final world) := by
  refine hm.preserves (I := fun between => Journaled restored journalLimit between ∧
    World.Grows id world between) (fun _ _ hchange hbetween => ?_) ⟨h, refl id world⟩
  exact ⟨hbetween.1.change hchange, hbetween.2.trans (change hbetween.1 hchange)⟩

variable [AcpSession C]

/-- **Every turn grows** every session. -/
theorem turn {restored : SessionId → Prop} {journalLimit : Nat} {turn : Turn}
    (h : Journaled restored journalLimit world) (hturn : world.Turns turn world') :
    World.Grows id world world' := by
  cases turn with
  | operation operation =>
      rw [show world' = (operation.run : Manager S C Unit).final world from hturn]
      exact (of_performs operation.performs_run h).2
  | agents => exact agentsMove hturn

end World.Grows

/-- Events with the next sequence numbers come after all others. -/
theorem lt_sequence_of_grown {last : Nat} {events : List SequencedEvent}
    (h : events.map (·.sequence) = List.range' (last + 1) events.length) :
    ∀ event ∈ events, last < event.sequence := by
  intro event hmem
  have hsequence : event.sequence ∈ List.range' (last + 1) events.length :=
    h ▸ List.mem_map_of_mem hmem
  have hle := (List.mem_range'_1.mp hsequence).1
  omega

/-- The events of a live session are numbered up to its last sequence. -/
theorem Journaled.sequence_le {restored : SessionId → Prop} {journalLimit : Nat}
    {world : World S C} (h : Journaled restored journalLimit world) {id : SessionId}
    {session : Session C} (hlookup : world.inner.sessions.lookup id = some session) :
    ∀ event ∈ appendedTo id world.effects, event.sequence ≤ session.summary.lastSequence := by
  obtain ⟨base, hsequences, hlast⟩ := h.numbered id session hlookup
  intro event hmem
  have hsequence : event.sequence ∈
      List.range' (base + 1) (appendedTo id world.effects).length :=
    hsequences ▸ List.mem_map_of_mem hmem
  have hlt := (List.mem_range'_1.mp hsequence).2
  omega

end Slight
