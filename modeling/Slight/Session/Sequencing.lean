import Slight.Session.Partition
import Slight.Support.Cursor

/-!
# Slight.Session.Sequencing

The sequence numbers of a session in memory and in the database, over the whole
life of a host.  `Numbered` is what both sides agree on: the events they hold end
at the session's last sequence number and have no hole.

The database keeps it in every crash but one, between the two store calls of
`append`; so does the manager as long as that crash does not happen.
-/

namespace Slight

open Support Program

variable {C : Type}

/-! ## runs of events -/

/-- The events end at `last` and have no hole; they are all gone only if there
never were any. -/
structure Numbered (events : List SequencedEvent) (last : Nat) : Prop where
  sequences : events.map (·.sequence) = List.range' (last + 1 - events.length) events.length
  length : events.length ≤ last
  nonempty : 0 < last → events ≠ []

namespace Numbered

variable {events : List SequencedEvent} {last : Nat}

theorem nil : Numbered [] 0 :=
  ⟨rfl, Nat.le_refl _, fun h => absurd h (Nat.lt_irrefl 0)⟩

theorem append (h : Numbered events last) {event : SequencedEvent}
    (hsequence : event.sequence = last + 1) : Numbered (events ++ [event]) (last + 1) := by
  have hlength : (events ++ [event]).length = events.length + 1 := List.length_append
  have hle := h.length
  constructor
  · rw [List.map_append, h.sequences, hlength, List.map_singleton, hsequence, List.range'_1_concat]
    have hstart : last + 1 + 1 - (events.length + 1) = last + 1 - events.length := by omega
    have hend : last + 1 - events.length + events.length = last + 1 := by omega
    rw [hstart, hend]
  · omega
  · intro _ hempty
    rw [hempty] at hlength
    contradiction

/-- The end of a run is a run, unless nothing is left of it. -/
theorem suffix (h : Numbered events last) {kept : List SequencedEvent} (hsuffix : kept <:+ events)
    (hkept : 0 < last → kept ≠ []) : Numbered kept last := by
  obtain ⟨front, rfl⟩ := hsuffix
  have hlength : (front ++ kept).length = front.length + kept.length := List.length_append
  have hle := h.length
  constructor
  · have hsequences := congrArg (List.drop front.length) h.sequences
    rw [List.map_append, List.drop_left' (List.length_map _), List.drop_range', hlength]
      at hsequences
    rw [hsequences]
    congr 1 <;> omega
  · omega
  · exact hkept

theorem pairwise (h : Numbered events last) : events.Pairwise fun a b => a.sequence < b.sequence := by
  have hrange : (events.map (·.sequence)).Pairwise (· < ·) := by
    rw [h.sequences]
    exact List.pairwise_lt_range'
  exact List.pairwise_map.mp hrange

theorem le_last (h : Numbered events last) {event : SequencedEvent} (hmem : event ∈ events) :
    event.sequence ≤ last := by
  have hsequence : event.sequence ∈ events.map (·.sequence) := List.mem_map_of_mem hmem
  rw [h.sequences] at hsequence
  have hbounds := List.mem_range'_1.mp hsequence
  have hle := h.length
  omega

theorem pos (h : Numbered events last) {event : SequencedEvent} (hmem : event ∈ events) :
    0 < event.sequence := by
  have hsequence : event.sequence ∈ events.map (·.sequence) := List.mem_map_of_mem hmem
  rw [h.sequences] at hsequence
  have hbounds := List.mem_range'_1.mp hsequence
  have hle := h.length
  omega

/-- A journal that keeps at least one event keeps a run a run. -/
theorem rtake (h : Numbered events last) {limit : Nat} (hlimit : 1 ≤ limit) :
    Numbered (events.rtake limit) last := by
  refine h.suffix (List.drop_suffix _ _) fun hlast hempty => ?_
  have hne := h.nonempty hlast
  have hlength := congrArg List.length hempty
  rw [List.rtake, List.length_drop, List.length_nil] at hlength
  have hpos := List.length_pos_iff.mpr hne
  omega

/-- The newest event is the last one. -/
theorem getLast?_sequence (h : Numbered events last) :
    (events.getLast?.map (·.sequence)).getD 0 = last := by
  have hsequences := congrArg List.getLast? h.sequences
  have hle := h.length
  rw [List.getLast?_map, List.getLast?_range'] at hsequences
  rw [hsequences]
  by_cases hempty : events.length = 0
  · have hzero : ¬ 0 < last := fun hpos => h.nonempty hpos (List.length_eq_zero_iff.mp hempty)
    rw [if_pos hempty, Option.getD_none]
    omega
  · rw [if_neg hempty, Option.getD_some]
    omega

theorem lastRow_map_stored (h : Numbered events last) :
    lastRow (events.map SequencedEvent.stored) = last := by
  rw [lastRow, List.getLast?_map, Option.map_map]
  exact h.getLast?_sequence

theorem reread (h : Numbered events last) : Numbered (events.map SequencedEvent.reread) last := by
  have hsequences : (events.map SequencedEvent.reread).map (·.sequence) =
      events.map (·.sequence) := by
    rw [List.map_map]
    rfl
  constructor
  · rw [hsequences, List.length_map, h.sequences]
  · rw [List.length_map]
    exact h.length
  · intro hlast hempty
    exact h.nonempty hlast (List.map_eq_nil_iff.mp hempty)

end Numbered

/-! ## the database -/

/-- The database after an event was stored: what the event limit leaves of the
rows and the new one, if its key was above them. -/
theorem rows_apply_appendEvent {store : SqliteStore} {sessionId : SessionId} {event : StoredEvent}
    (hforeign : sessionId ∈ store.sessions)
    (hfree : ∀ row ∈ store.rows sessionId, row.sequence < event.sequence) (id : SessionId) :
    ((StoreWrite.appendEvent sessionId event).apply store).rows id =
      if id = sessionId then store.trimmed (store.rows sessionId ++ [event]) else store.rows id := by
  have hkey : ¬ ∃ row ∈ store.rows sessionId, row.sequence = event.sequence := by
    rintro ⟨row, hmem, heq⟩
    exact absurd heq (Nat.ne_of_lt (hfree row hmem))
  obtain ⟨store', hstored, happly⟩ : ∃ store', store.appendEvent sessionId event = .ok store' ∧
      store'.events =
        store.events.insert sessionId (store.trimmed (store.rows sessionId ++ [event])) := by
    rw [SqliteStore.appendEvent, dif_neg hkey, dif_pos hforeign, ← insertRow_of_lt hfree]
    exact ⟨_, rfl, rfl⟩
  rw [apply_of_appendEvent hstored, SqliteStore.rows, happly]
  by_cases hid : id = sessionId
  · subst hid
    rw [AList.lookup_insert, if_pos rfl, Option.getD_some]
  · rw [AList.lookup_insert_ne hid, if_neg hid]
    rfl

/-- The rows of a session that is not stored. -/
theorem rows_eq_nil {store : SqliteStore} {id : SessionId} (h : id ∉ store.sessions) :
    store.rows id = [] := by
  rw [SqliteStore.rows, AList.lookup_eq_none.mpr fun hmem => h (store.foreign id hmem)]
  rfl

/-- Trimming leaves the end of a run. -/
theorem trimmed_map_stored (store : SqliteStore) {events : List SequencedEvent} {last : Nat}
    (h : Numbered events last) :
    ∃ kept, kept <:+ events ∧ store.trimmed (events.map SequencedEvent.stored) =
      kept.map SequencedEvent.stored ∧ Numbered kept last ∧
      ∀ event ∈ events, event ∈ kept ∨ 0 < store.eventLimit ∧
        event.sequence + store.eventLimit ≤ last := by
  unfold SqliteStore.trimmed
  by_cases hlimit : 0 < store.eventLimit
  · rw [if_pos hlimit, List.filter_map]
    rw [h.lastRow_map_stored]
    have hsuffix : events.filter ((fun row : StoredEvent =>
        decide (last < row.sequence + store.eventLimit)) ∘ SequencedEvent.stored) <:+ events := by
      refine filter_suffix (h.pairwise.imp ?_)
      intro a b hlt hkeep
      have hkeep' := of_decide_eq_true hkeep
      have hle : a.stored.sequence < b.stored.sequence := hlt
      exact decide_eq_true (by omega)
    have hmem : ∀ event ∈ events, last < event.sequence + store.eventLimit →
        event ∈ events.filter ((fun row : StoredEvent =>
          decide (last < row.sequence + store.eventLimit)) ∘ SequencedEvent.stored) := by
      intro event hevent hkeep
      exact List.mem_filter.mpr ⟨hevent, decide_eq_true hkeep⟩
    refine ⟨_, hsuffix, rfl, h.suffix hsuffix fun hpos hempty => ?_, fun event hevent => ?_⟩
    · -- the newest event is never trimmed
      have hne := h.nonempty hpos
      have hnewest := hmem (events.getLast hne) (List.getLast_mem hne) (by
        have hsequence := h.getLast?_sequence
        rw [List.getLast?_eq_some_getLast hne, Option.map_some, Option.getD_some] at hsequence
        omega)
      rw [hempty] at hnewest
      exact absurd hnewest List.not_mem_nil
    · by_cases hkeep : last < event.sequence + store.eventLimit
      · exact .inl (hmem event hevent hkeep)
      · exact .inr ⟨hlimit, Nat.le_of_not_lt hkeep⟩
  · rw [if_neg hlimit]
    exact ⟨events, List.suffix_refl _, rfl, h, fun event hevent => .inl hevent⟩

/-- The database between two operations, when `ticks` readings have been made. -/
structure SequencedStore (env : Env) (ticks : Nat) (store : SqliteStore) : Prop where
  keyed : KeyedStore store
  numbered : ∀ id row, store.sessions.lookup id = some row →
    ∃ events, store.rows id = events.map SequencedEvent.stored ∧ Numbered events row.lastSequence
  fresh : ∀ n ≥ ticks, env.uuid n ∉ store.sessions

namespace SequencedStore

variable {env : Env} {ticks ticks' : Nat} {store : SqliteStore}

theorem mono (h : SequencedStore env ticks store) (hticks : ticks ≤ ticks') :
    SequencedStore env ticks' store :=
  ⟨h.keyed, h.numbered, fun n hn => h.fresh n (hticks.trans hn)⟩

/-- A row of the session that counts the events stored for it. -/
theorem upsertSession (h : SequencedStore env ticks store) {row : StoredSession}
    (hrow : metadataId row.metadata = some row.sessionId)
    (hnumbered : ∃ events, store.rows row.sessionId = events.map SequencedEvent.stored ∧
      Numbered events row.lastSequence)
    (hticks : ticks ≤ ticks') (hfresh : ∀ n ≥ ticks', env.uuid n ≠ row.sessionId) :
    SequencedStore env ticks' (store.upsertSession row) := by
  constructor
  · exact h.keyed.upsertSession hrow
  · intro id row' hlookup
    rcases lookup_insert_eq_some hlookup with ⟨rfl, rfl⟩ | ⟨-, hold⟩
    · exact hnumbered
    · exact h.numbered id row' hold
  · intro n hn hmem
    rcases (AList.mem_insert _).mp hmem with heq | hold
    · exact hfresh n hn heq
    · exact h.fresh n (hticks.trans hn) hold

/-- A new row of the same session and count. -/
theorem updateSession (h : SequencedStore env ticks store) {row row' : StoredSession}
    (hlookup : store.sessions.lookup row'.sessionId = some row)
    (hcount : row'.lastSequence = row.lastSequence)
    (hrow' : metadataId row'.metadata = some row'.sessionId) :
    SequencedStore env ticks (store.upsertSession row') := by
  refine h.upsertSession hrow' ?_ (Nat.le_refl _) fun n hn heq => ?_
  · rw [hcount]
    exact h.numbered _ row hlookup
  · exact h.fresh n hn (heq ▸ mem_of_lookup hlookup)

end SequencedStore

/-! ## the manager over the database -/

/-- Store calls are not events. -/
theorem appendedTo_wrote (world : World SqliteStore C) (write : StoreWrite) (id : SessionId) :
    appendedTo id (world.wrote write).effects = appendedTo id world.effects := by
  rw [World.wrote, appendedTo_append]
  exact List.append_nil _

/-- The process between two operations. -/
structure SequencedWorld (env : Env) (world : World SqliteStore C) : Prop where
  environment : world.env = env
  store : SequencedStore env world.ticks world.inner.store
  live : ∀ id session, world.inner.sessions.lookup id = some session → session.summary.id = id
  counted : ∀ id session, world.inner.sessions.lookup id = some session →
    ∃ row, world.inner.store.sessions.lookup id = some row ∧
      row.lastSequence = session.summary.lastSequence
  journal : ∀ id session, world.inner.sessions.lookup id = some session →
    session.journal.Pairwise (fun a b => a.sequence < b.sequence) ∧
      ∀ event ∈ session.journal, event.sequence ≤ session.summary.lastSequence
  stored : ∀ id, ∀ event ∈ appendedTo id world.effects,
    event.stored ∈ world.inner.store.rows id ∨ 0 < world.inner.store.eventLimit ∧
      event.sequence + world.inner.store.eventLimit ≤ lastRow (world.inner.store.rows id)

/-- All store calls but the first of `append` leave the database in order. -/
def StoreWrite.settles : StoreWrite → Bool
  | .upsertSession _ => true
  | .appendEvent .. => false

namespace SequencedWorld

variable {env : Env} {world world' : World SqliteStore C}

/-- The database and the sessions stay as they are. -/
theorem idle (h : SequencedWorld env world) (henv : world'.env = world.env)
    (hticks : world.ticks ≤ world'.ticks) (hstore : world'.inner.store = world.inner.store)
    (hsessions : world'.inner.sessions = world.inner.sessions)
    (hhistory : ∀ id, appendedTo id world'.effects = appendedTo id world.effects) :
    SequencedWorld env world' := by
  constructor
  · rw [henv, h.environment]
  · rw [hstore]
    exact h.store.mono hticks
  · rw [hsessions]
    exact h.live
  · rw [hsessions, hstore]
    exact h.counted
  · rw [hsessions]
    exact h.journal
  · intro id
    rw [hhistory, hstore]
    exact h.stored id

theorem edit (h : SequencedWorld env world) {sessionId : SessionId} {session session' : Session C}
    (hlookup : world.inner.sessions.lookup sessionId = some session)
    (hkeeps : session.Keeps session') :
    SequencedWorld env (world.setSession sessionId session') := by
  obtain ⟨title, archived, hsummary⟩ := hkeeps.summary
  refine ⟨h.environment, h.store, ?_, ?_, ?_, h.stored⟩
  · intro id session'' hlookup'
    rcases lookup_insert_eq_some hlookup' with ⟨rfl, rfl⟩ | ⟨-, hold⟩
    · rw [hsummary]
      exact h.live id session hlookup
    · exact h.live id session'' hold
  · intro id session'' hlookup'
    rcases lookup_insert_eq_some hlookup' with ⟨rfl, rfl⟩ | ⟨-, hold⟩
    · rw [hkeeps.lastSequence_eq]
      exact h.counted id session hlookup
    · exact h.counted id session'' hold
  · intro id session'' hlookup'
    rcases lookup_insert_eq_some hlookup' with ⟨rfl, rfl⟩ | ⟨-, hold⟩
    · rw [hkeeps.lastSequence_eq, hkeeps.journal]
      exact h.journal id session hlookup
    · exact h.journal id session'' hold

/-- A row of a stored session is replaced by another of the same count. -/
theorem updateSession (h : SequencedWorld env world) {row row' : StoredSession}
    (hlookup : world.inner.store.sessions.lookup row'.sessionId = some row)
    (hcount : row'.lastSequence = row.lastSequence)
    (hrow' : metadataId row'.metadata = some row'.sessionId) :
    SequencedWorld env (world.wrote (.upsertSession row')) := by
  refine ⟨h.environment, h.store.updateSession hlookup hcount hrow', h.live, ?_, h.journal, ?_⟩
  · intro id session hsession
    obtain ⟨old, hold, hcounted⟩ := h.counted id session hsession
    by_cases hid : id = row'.sessionId
    · subst hid
      obtain rfl : row = old := Option.some.inj (hlookup.symm.trans hold)
      exact ⟨row', AList.lookup_insert _, hcount.trans hcounted⟩
    · exact ⟨old, (AList.lookup_insert_ne hid).trans hold, hcounted⟩
  · intro id event hmem
    rw [appendedTo_wrote] at hmem
    exact h.stored id event hmem

theorem persist (h : SequencedWorld env world) {sessionId : SessionId} {session : Session C}
    (hlookup : world.inner.sessions.lookup sessionId = some session) :
    SequencedWorld env (world.wrote (.upsertSession session.stored)) := by
  obtain ⟨row, hrow, hcount⟩ := h.counted sessionId session hlookup
  have hid : session.stored.sessionId = sessionId := h.live sessionId session hlookup
  rw [← hid] at hrow
  exact h.updateSession hrow hcount.symm (metadataId_stored session)

/-- A new session is stored without events. -/
theorem register (h : SequencedWorld env world) {build : SessionId → Session C}
    (hfresh : ∀ id, (build id).Fresh id) :
    SequencedWorld env (world.registered build) ∧
      SequencedStore env (world.ticks + 1) world.inner.store := by
  have hnew : env.uuid world.ticks ∉ world.inner.store.sessions :=
    h.store.fresh _ (Nat.le_refl _)
  have hbuild := hfresh (env.uuid world.ticks)
  have hsessionId : (build (env.uuid world.ticks)).stored.sessionId = env.uuid world.ticks :=
    hbuild.id
  have hregistered : world.registered build =
      ({ world with ticks := world.ticks + 1 }.setSession (env.uuid world.ticks)
        (build (env.uuid world.ticks))).wrote
          (.upsertSession (build (env.uuid world.ticks)).stored) := by
    rw [← h.environment]
    rfl
  refine ⟨?_, h.store.mono (Nat.le_succ _)⟩
  rw [hregistered]
  constructor
  · exact h.environment
  · refine h.store.upsertSession (metadataId_stored _) ?_ (Nat.le_succ _) fun n hn heq => ?_
    · rw [hsessionId, rows_eq_nil hnew]
      refine ⟨[], rfl, ?_⟩
      show Numbered [] (build (env.uuid world.ticks)).summary.lastSequence
      rw [hbuild.lastSequence]
      exact .nil
    · rw [hsessionId] at heq
      have hsame : n = world.ticks := env.uuid_injective heq
      rw [hsame] at hn
      exact Nat.not_succ_le_self _ hn
  · intro id session hlookup
    rcases lookup_insert_eq_some hlookup with ⟨rfl, rfl⟩ | ⟨-, hold⟩
    · exact hbuild.id
    · exact h.live id session hold
  · intro id session hlookup
    rcases lookup_insert_eq_some hlookup with ⟨rfl, rfl⟩ | ⟨hid, hold⟩
    · refine ⟨(build (env.uuid world.ticks)).stored, ?_, rfl⟩
      show (world.inner.store.sessions.insert _ _).lookup _ = _
      rw [hsessionId, AList.lookup_insert]
    · obtain ⟨row, hrow, hcount⟩ := h.counted id session hold
      refine ⟨row, ?_, hcount⟩
      show (world.inner.store.sessions.insert _ _).lookup _ = _
      rw [hsessionId, AList.lookup_insert_ne hid, hrow]
  · intro id session hlookup
    rcases lookup_insert_eq_some hlookup with ⟨rfl, rfl⟩ | ⟨-, hold⟩
    · rw [hbuild.journal]
      exact ⟨List.Pairwise.nil, fun event hmem => absurd hmem List.not_mem_nil⟩
    · exact h.journal id session hold
  · intro id event hmem
    rw [appendedTo_wrote] at hmem
    exact h.stored id event hmem

/-- What an append makes of the rows of the session. -/
theorem rows_appended (h : SequencedWorld env world) {sessionId : SessionId} {session : Session C}
    (hlookup : world.inner.sessions.lookup sessionId = some session) (event : SessionEvent) :
    let next := world.nextEvent session event
    let world' := world.appended sessionId session next
    (∃ events kept, world.inner.store.rows sessionId = events.map SequencedEvent.stored ∧
      Numbered events session.summary.lastSequence ∧
      world'.inner.store.rows sessionId = kept.map SequencedEvent.stored ∧
      Numbered kept next.sequence ∧
      ∀ event ∈ events ++ [next], event ∈ kept ∨ 0 < world.inner.store.eventLimit ∧
        event.sequence + world.inner.store.eventLimit ≤ next.sequence) ∧
    (∀ id, id ≠ sessionId → world'.inner.store.rows id = world.inner.store.rows id) ∧
    world'.inner.store.sessions = world.inner.store.sessions.insert sessionId
      (session.record world.inner.journalLimit next).stored ∧
    world'.inner.store.eventLimit = world.inner.store.eventLimit := by
  intro next world'
  obtain ⟨row, hrow, hcount⟩ := h.counted sessionId session hlookup
  obtain ⟨events, hrows, hnumbered⟩ := h.store.numbered sessionId row hrow
  rw [hcount] at hnumbered
  have hforeign : sessionId ∈ world.inner.store.sessions :=
    mem_of_lookup hrow
  have hfree : ∀ stored ∈ world.inner.store.rows sessionId,
      stored.sequence < next.stored.sequence := by
    intro stored hmem
    rw [hrows] at hmem
    obtain ⟨event', hevent', rfl⟩ := List.mem_map.mp hmem
    exact Nat.lt_succ_of_le (hnumbered.le_last hevent')
  have hnext : Numbered (events ++ [next]) next.sequence := hnumbered.append rfl
  obtain ⟨kept, -, htrimmed, hkept, hall⟩ :=
    trimmed_map_stored world.inner.store hnext
  have hstep := rows_apply_appendEvent hforeign hfree
  refine ⟨⟨events, kept, hrows, hnumbered, ?_, hkept, hall⟩, ?_, ?_, ?_⟩
  · show ((StoreWrite.appendEvent sessionId next.stored).apply world.inner.store).rows sessionId = _
    rw [hstep sessionId, if_pos rfl, hrows, ← htrimmed, List.map_append]
    rfl
  · intro id hid
    show ((StoreWrite.appendEvent sessionId next.stored).apply world.inner.store).rows id = _
    rw [hstep id, if_neg hid]
  · show ((StoreWrite.appendEvent sessionId next.stored).apply world.inner.store).sessions.insert
      session.summary.id _ = _
    rw [sessions_apply_appendEvent, h.live sessionId session hlookup]
  · show ((StoreWrite.appendEvent sessionId next.stored).apply world.inner.store).eventLimit = _
    exact eventLimit_apply_appendEvent _ _ _

/-- **Append**: between its two store calls the row of the session is one event
behind; before and after them all is in order. -/
theorem append (h : SequencedWorld env world) {sessionId : SessionId} {session : Session C}
    (hlookup : world.inner.sessions.lookup sessionId = some session) (event : SessionEvent) :
    let world' := world.appended sessionId session (world.nextEvent session event)
    SequencedWorld env world' ∧
      world.Writes (fun call => call.settles = true) (SequencedStore env) world' := by
  intro world'
  obtain ⟨⟨events, kept, hrows, hnumbered, hrows', hkept, hall⟩, hothers, hsessions, hlimit⟩ :=
    h.rows_appended hlookup event
  have hid := h.live sessionId session hlookup
  have hlast' : lastRow (world'.inner.store.rows sessionId) =
      (world.nextEvent session event).sequence := by
    rw [hrows', hkept.lastRow_map_stored]
  have hlast : lastRow (world.inner.store.rows sessionId) = session.summary.lastSequence := by
    rw [hrows, hnumbered.lastRow_map_stored]
  have hstore : SequencedStore env world'.ticks world'.inner.store := by
    constructor
    · have hkeyed := h.store.keyed.appendEvent sessionId (world.nextEvent session event).stored
      exact hkeyed.upsertSession (metadataId_stored _)
    · intro id row hrow
      rw [show world'.inner.store.sessions = _ from hsessions] at hrow
      rcases lookup_insert_eq_some hrow with ⟨rfl, rfl⟩ | ⟨hne, hold⟩
      · exact ⟨kept, hrows', hkept⟩
      · rw [show world'.inner.store.rows id = _ from hothers id hne]
        exact h.store.numbered id row hold
    · intro n hn hmem
      have hle : world.ticks ≤ n := (Nat.le_succ _).trans hn
      rw [show world'.inner.store.sessions = _ from hsessions] at hmem
      rcases (AList.mem_insert _).mp hmem with heq | hold
      · obtain ⟨row, hrow, -⟩ := h.counted sessionId session hlookup
        exact h.store.fresh n hle (heq ▸ mem_of_lookup hrow)
      · exact h.store.fresh n hle hold
  refine ⟨⟨h.environment, hstore, ?_, ?_, ?_, ?_⟩, Nat.le_succ _, _, rfl, rfl, ?_⟩
  · intro id session' hlookup'
    rcases lookup_insert_eq_some hlookup' with ⟨rfl, rfl⟩ | ⟨-, hold⟩
    · exact hid
    · exact h.live id session' hold
  · intro id session' hlookup'
    rw [show world'.inner.store.sessions = _ from hsessions]
    rcases lookup_insert_eq_some hlookup' with ⟨rfl, rfl⟩ | ⟨hne, hold⟩
    · exact ⟨_, AList.lookup_insert _, rfl⟩
    · obtain ⟨row, hrow, hcount⟩ := h.counted id session' hold
      exact ⟨row, (AList.lookup_insert_ne hne).trans hrow, hcount⟩
  · intro id session' hlookup'
    rcases lookup_insert_eq_some hlookup' with ⟨rfl, rfl⟩ | ⟨-, hold⟩
    · obtain ⟨hpairwise, hle⟩ := h.journal id session hlookup
      have hpairwise' : (session.journal ++ [world.nextEvent session event]).Pairwise
          fun a b => a.sequence < b.sequence := by
        refine List.pairwise_append.mpr ⟨hpairwise, List.pairwise_singleton _ _, ?_⟩
        intro a ha b hb
        rw [List.mem_singleton.mp hb]
        exact Nat.lt_succ_of_le (hle a ha)
      refine ⟨hpairwise'.sublist (List.drop_sublist _ _), fun a ha => ?_⟩
      rcases List.mem_append.mp (List.mem_of_mem_drop ha) with ha | ha
      · exact (hle a ha).trans (Nat.le_succ _)
      · rw [List.mem_singleton.mp ha]
        exact Nat.le_refl _
    · exact h.journal id session' hold
  · intro id event' hmem
    rw [show world'.inner.store.eventLimit = _ from hlimit]
    rw [show world' = world.appended sessionId session (world.nextEvent session event) from rfl,
      World.appended, appendedTo_append, appendedTo_appended] at hmem
    by_cases hne : id = sessionId
    · subst hne
      rw [if_pos rfl] at hmem
      rw [hlast', hrows']
      have hkeptOr : ∀ old ∈ events ++ [world.nextEvent session event],
          old.stored ∈ kept.map SequencedEvent.stored ∨ 0 < world.inner.store.eventLimit ∧
            old.sequence + world.inner.store.eventLimit ≤
              (world.nextEvent session event).sequence :=
        fun old hold => (hall old hold).imp_left List.mem_map_of_mem
      rcases List.mem_append.mp hmem with hold | hnew
      · rcases h.stored id event' hold with hstored | ⟨hpos, htrimmed⟩
        · rw [hrows] at hstored
          obtain ⟨old, hmemold, heq⟩ := List.mem_map.mp hstored
          have hsequence : old.sequence = event'.sequence := congrArg StoredEvent.sequence heq
          rw [← heq, ← hsequence]
          exact hkeptOr old (List.mem_append_left _ hmemold)
        · rw [hlast] at htrimmed
          exact .inr ⟨hpos, htrimmed.trans (Nat.le_succ _)⟩
      · rw [List.mem_singleton.mp hnew]
        exact hkeptOr _ (List.mem_append_right _ (List.mem_singleton_self _))
    · rw [if_neg (Ne.symm hne), List.append_nil] at hmem
      rw [show world'.inner.store.rows id = _ from hothers id hne]
      exact h.stored id event' hmem
  · exact .pair (h.store.mono (Nat.le_succ _)) Bool.false_ne_true hstore

theorem change (h : SequencedWorld env world) (hchange : Change world world') :
    SequencedWorld env world' ∧
      world.Writes (fun call => call.settles = true) (SequencedStore env) world' := by
  have hsame : ∀ {more : List Effect}, (∀ effect ∈ more, effect.isQuiet = true) → ∀ id,
      appendedTo id (world.effects ++ more) = appendedTo id world.effects := by
    intro more hquiet id
    rw [appendedTo_append, appendedTo_quiet hquiet, List.append_nil]
  cases hchange with
  | tick =>
      have hidle : SequencedWorld env { world with ticks := world.ticks + 1 } :=
        h.idle rfl (Nat.le_succ _) rfl rfl fun _ => rfl
      exact ⟨hidle, .silent (Nat.le_succ _) (List.append_nil _).symm rfl rfl hidle.store⟩
  | request kind =>
      refine ⟨h.idle rfl (Nat.le_refl _) rfl rfl (hsame fun effect hmem => ?_),
        .silent (Nat.le_refl _) rfl rfl rfl h.store⟩
      rw [List.mem_singleton.mp hmem]
      rfl
  | edit hlookup hkeeps =>
      exact ⟨h.edit hlookup hkeeps,
        .silent (Nat.le_refl _) (List.append_nil _).symm rfl rfl h.store⟩
  | append hlookup event => exact h.append hlookup event
  | persist hlookup =>
      have hwrote := h.persist hlookup
      exact ⟨hwrote, .single (Nat.le_refl _) rfl rfl h.store hwrote.store⟩
  | @subscribe sessionId hmem =>
      rw [final, Manager.exec_subscribe hmem]
      refine ⟨h.idle rfl (Nat.le_refl _) rfl rfl fun id => ?_,
        .silent (Nat.le_refl _) rfl rfl rfl h.store⟩
      rw [World.subscribed, appendedTo_append]
      exact List.append_nil _
  | @archive sessionId session hlookup archived =>
      rcases Manager.final_archiveRecovered world sessionId session archived with
        hfinal | ⟨stored, hstored, hfinal⟩
      · rw [hfinal]
        exact ⟨h.idle rfl (Nat.le_refl _) rfl rfl fun _ => rfl,
          .silent (Nat.le_refl _) (List.append_nil _).symm rfl rfl h.store⟩
      · have hrow : world.inner.store.sessions.lookup sessionId = some stored :=
          Except.ok.inj hstored
        have hid := world.inner.store.keyed sessionId stored hrow
        have hrow' : world.inner.store.sessions.lookup
            { stored with metadata := archiveMetadata stored.metadata archived }.sessionId =
              some stored := by
          rw [← hid] at hrow
          exact hrow
        have hmetadata : metadataId (archiveMetadata stored.metadata archived) =
            some stored.sessionId := by
          rw [metadataId_archiveMetadata, h.store.keyed sessionId stored hrow, hid]
        have hwrote := h.updateSession hrow' rfl hmetadata
        rw [hfinal]
        exact ⟨hwrote.idle rfl (Nat.le_refl _) rfl rfl fun _ => rfl,
          .single (Nat.le_refl _) rfl rfl h.store hwrote.store⟩
  | @enroll build hfresh =>
      rw [Manager.final_enrollSession]
      obtain ⟨hregister, hbefore⟩ := h.register hfresh
      obtain ⟨hafter, hwrites⟩ := hregister.append (AList.lookup_insert _) (.status ⟨.idle⟩)
      refine ⟨hafter, .trans (fun _ _ _ hle hstore => hstore.mono hle) ?_ hwrites⟩
      exact .single (Nat.le_succ _) rfl rfl hbefore hregister.store

end SequencedWorld

end Slight
