import Slight.Session.Columns

/-!
# Slight.Session.Interchange

The SQLite store without an event limit and the store in memory, side by side.
After the same writes both hold the same (`Agree`): what one holds as columns and
texts the other holds as it is.  They answer alike but for one argument:
`events_after` casts `after` to a signed column (`stores_agree_iff`).
-/

namespace Slight

open Support Program

variable {text : JsonText} {sql : SqlArithmetic}

/-! ## writes -/

/-- The event a write appends to a session, if it does. -/
def StoreWrite.eventOf (sessionId : SessionId) : StoreWrite → Option StoredEvent
  | .upsertSession _ => none
  | .appendEvent id event => if id = sessionId then some event else none

/-- The events some writes append to a session. -/
def eventsOf (sessionId : SessionId) (writes : List StoreWrite) : List StoredEvent :=
  writes.filterMap (·.eventOf sessionId)

/-- The value of a write that is stored as text. -/
def StoreWrite.value : StoreWrite → Json
  | .upsertSession session => session.metadata
  | .appendEvent _ event => event.event

/-- A session is upserted before its events are appended. -/
def UpsertedFirst : List StoreWrite → Prop := fun writes =>
  ∀ before id event after, writes = before ++ .appendEvent id event :: after →
    ∃ session, .upsertSession session ∈ before ∧ session.sessionId = id

/-- The runs of writes the stores are for: sessions are upserted first, sequence
numbers increase for each session and stay below `2 ^ 63`, and `serde_json` reads
what it has written. -/
structure Orderly (text : JsonText) (writes : List StoreWrite) : Prop where
  upsertedFirst : UpsertedFirst writes
  increasing : ∀ id, (eventsOf id writes).Pairwise fun a b => a.sequence < b.sequence
  bounded : ∀ id, ∀ event ∈ eventsOf id writes, event.sequence < 2 ^ 63
  u64 : ∀ session, .upsertSession session ∈ writes → session.lastSequence < 2 ^ 64
  readsBack : ∀ write ∈ writes, text.fromStr (text.toString write.value) = .ok write.value

/-- A run is orderly as far as it has come. -/
theorem Orderly.of_concat {writes : List StoreWrite} {write : StoreWrite}
    (h : Orderly text (writes ++ [write])) : Orderly text writes where
  upsertedFirst := fun before id event after hwrites =>
    h.upsertedFirst before id event (after ++ [write]) (by rw [hwrites, List.append_assoc,
      List.cons_append])
  increasing := fun id =>
    (h.increasing id).sublist ((List.sublist_append_left writes [write]).filterMap _)
  bounded := fun id event hevent =>
    h.bounded id event (((List.sublist_append_left writes [write]).filterMap _).subset hevent)
  u64 := fun session hsession => h.u64 session (List.mem_append_left _ hsession)
  readsBack := fun other hother => h.readsBack other (List.mem_append_left _ hother)

theorem eventsOf_concat (id : SessionId) (writes : List StoreWrite) (write : StoreWrite) :
    eventsOf id (writes ++ [write]) = eventsOf id writes ++ (write.eventOf id).toList := by
  rw [eventsOf, List.filterMap_append, eventsOf]
  refine congrArg (_ ++ ·) ?_
  cases h : write.eventOf id with
  | none => rw [List.filterMap_cons_none h, List.filterMap_nil, Option.toList_none]
  | some event => rw [List.filterMap_cons_some h, List.filterMap_nil, Option.toList_some]

/-! ## the same content -/

/-- The rows of a session in memory. -/
def InMemoryStore.rows (store : InMemoryStore) (sessionId : SessionId) : List StoredEvent :=
  (store.events.lookup sessionId).getD []

/-- Both stores hold what was written: the sessions, and every event. -/
structure Agree (writes : List StoreWrite) (sqlite : ColumnStore text sql)
    (memory : InMemoryStore) : Prop where
  eventLimit : sqlite.eventLimit = 0
  sessions : ∀ id, sqlite.sessions.lookup id =
    (memory.sessions.lookup id).map (·.columns text)
  written : ∀ id session, memory.sessions.lookup id = some session →
    .upsertSession session ∈ writes
  known : ∀ session, .upsertSession session ∈ writes → session.sessionId ∈ sqlite.sessions
  rows : ∀ id, sqlite.rows id = (eventsOf id writes).map (·.columns text id)
  events : ∀ id, memory.rows id = eventsOf id writes

namespace Agree

variable {writes : List StoreWrite} {sqlite : ColumnStore text sql} {memory : InMemoryStore}

/-- An upsert. -/
theorem upsert (h : Agree writes sqlite memory) (session : StoredSession) :
    Agree (writes ++ [.upsertSession session])
      (StoreWrite.apply sqlite (.upsertSession session))
      (StoreWrite.apply memory (.upsertSession session)) := by
  have hsqlite : StoreWrite.apply sqlite (.upsertSession session) =
      sqlite.upsertSession session := rfl
  have hmemory : (StoreWrite.apply memory (.upsertSession session)).sessions =
      memory.sessions.insert session.sessionId session := rfl
  have hevents : ∀ id, eventsOf id (writes ++ [.upsertSession session]) = eventsOf id writes :=
    fun id => by rw [eventsOf_concat, StoreWrite.eventOf, Option.toList_none, List.append_nil]
  rw [hsqlite]
  constructor
  · exact h.eventLimit
  · intro id
    show (sqlite.sessions.insert session.sessionId (session.columns text)).lookup id = _
    rw [hmemory]
    by_cases hid : id = session.sessionId
    · rw [hid, AList.lookup_insert, AList.lookup_insert, Option.map_some]
    · rw [AList.lookup_insert_ne hid, AList.lookup_insert_ne hid]
      exact h.sessions id
  · intro id row hlookup
    rw [hmemory] at hlookup
    rcases lookup_insert_eq_some hlookup with ⟨-, rfl⟩ | ⟨-, hold⟩
    · exact List.mem_append_right _ List.mem_cons_self
    · exact List.mem_append_left _ (h.written id row hold)
  · intro other hother
    show other.sessionId ∈ sqlite.sessions.insert session.sessionId (session.columns text)
    rcases List.mem_append.mp hother with hold | hnew
    · exact (AList.mem_insert _).mpr (.inr (h.known other hold))
    · rw [StoreWrite.upsertSession.inj (List.mem_singleton.mp hnew)]
      exact (AList.mem_insert _).mpr (.inl rfl)
  · intro id
    rw [hevents]
    exact h.rows id
  · intro id
    rw [hevents]
    exact h.events id

/-- An append of an orderly run. -/
theorem append (h : Agree writes sqlite memory) {id : SessionId} {event : StoredEvent}
    (horderly : Orderly text (writes ++ [.appendEvent id event])) :
    Agree (writes ++ [.appendEvent id event])
      (StoreWrite.apply sqlite (.appendEvent id event))
      (StoreWrite.apply memory (.appendEvent id event)) := by
  have hself : eventsOf id (writes ++ [.appendEvent id event]) = eventsOf id writes ++ [event] := by
    rw [eventsOf_concat, StoreWrite.eventOf, if_pos rfl, Option.toList_some]
  have hother : ∀ other, other ≠ id →
      eventsOf other (writes ++ [.appendEvent id event]) = eventsOf other writes := by
    intro other hne
    rw [eventsOf_concat, StoreWrite.eventOf, if_neg (Ne.symm hne), Option.toList_none,
      List.append_nil]
  have hincreasing := horderly.increasing id
  have hbounded := horderly.bounded id
  rw [hself] at hincreasing hbounded
  have hlast : ∀ earlier ∈ eventsOf id writes, earlier.sequence < event.sequence :=
    fun earlier hearlier =>
      (List.pairwise_append.mp hincreasing).2.2 earlier hearlier event List.mem_cons_self
  have haligned : Aligned sqlite.eventLimit (eventsOf id writes ++ [event]) := by
    rw [h.eventLimit]
    exact .of_lt (by omega) hbounded
  have hwindow : ∀ events, window sqlite.eventLimit events = events := fun events => by
    rw [window, h.eventLimit, if_neg (Nat.lt_irrefl 0)]
  have hrows : sqlite.rows id =
      (window sqlite.eventLimit (eventsOf id writes)).map (·.columns text id) := by
    rw [hwindow]
    exact h.rows id
  have hmem : id ∈ sqlite.sessions := by
    obtain ⟨session, hsession, rfl⟩ := horderly.upsertedFirst writes id event [] rfl
    exact h.known session hsession
  have hsqlite := ColumnStore.apply_appendEvent_ok (ColumnStore.appendEvent_of_new
    (ColumnStore.new_of_increasing hrows hlast haligned) hmem)
  have hmemory : (StoreWrite.apply memory (.appendEvent id event)).events =
      memory.events.insert id (memory.rows id ++ [event]) := rfl
  rw [hsqlite]
  constructor
  · rw [ColumnStore.eventLimit_trim]
    exact h.eventLimit
  · intro other
    rw [ColumnStore.sessions_trim]
    exact h.sessions other
  · intro other session hlookup
    exact List.mem_append_left _ (h.written other session hlookup)
  · intro session hsession
    rw [ColumnStore.sessions_trim]
    rcases List.mem_append.mp hsession with hold | hnew
    · exact h.known session hold
    · have heq := List.mem_singleton.mp hnew
      contradiction
  · intro other
    by_cases hne : other = id
    · subst hne
      have hlimit : sqlite.eventLimit < 2 ^ 63 := by
        rw [h.eventLimit]
        omega
      rw [ColumnStore.rows_append hlimit hrows hlast haligned, hwindow, hself]
    · rw [ColumnStore.rows_trim_of_ne _ hne, ColumnStore.rows_insertEvent_of_ne _ event hne,
        hother other hne]
      exact h.rows other
  · intro other
    rw [InMemoryStore.rows, hmemory]
    by_cases hne : other = id
    · subst hne
      rw [AList.lookup_insert, Option.getD_some, hself, h.events]
    · rw [AList.lookup_insert_ne hne, hother other hne]
      exact h.events other

end Agree

/-- An empty store in memory. -/
def InMemoryStore.new : InMemoryStore where
  sessions := ∅
  events := ∅
  keyed := StoredSession.keyed_empty

/-- The simulation: writes that are made in both stores leave them in agreement. -/
theorem agree_of_orderly {writes : List StoreWrite} (h : Orderly text writes) :
    Agree writes (writes.foldl StoreWrite.apply (ColumnStore.empty text sql 0))
      (writes.foldl StoreWrite.apply InMemoryStore.new) := by
  induction writes using List.reverseRecOn with
  | nil =>
      constructor
      · rfl
      · intro id
        show (∅ : AList fun _ : SessionId => SessionColumns).lookup id =
          ((∅ : AList fun _ : SessionId => StoredSession).lookup id).map _
        rw [AList.lookup_empty, AList.lookup_empty, Option.map_none]
      · intro id session hlookup
        rw [List.foldl_nil, show InMemoryStore.new.sessions = ∅ from rfl,
          AList.lookup_empty] at hlookup
        contradiction
      · exact fun session hsession => absurd hsession List.not_mem_nil
      · exact fun id => rfl
      · intro id
        show ((∅ : AList fun _ : SessionId => List StoredEvent).lookup id).getD [] = []
        rw [AList.lookup_empty, Option.getD_none]
  | append_singleton writes write ih =>
      have hbefore := ih h.of_concat
      rw [List.foldl_concat, List.foldl_concat]
      cases write with
      | upsertSession session => exact hbefore.upsert session
      | appendEvent id event => exact hbefore.append h

/-! ## the same answers -/

/-- Texts that read back are read as what was written. -/
theorem mapM_read {sessionId : SessionId} {events : List StoredEvent}
    (h : ∀ event ∈ events, text.fromStr (text.toString event.event) = .ok event.event ∧
      event.sequence < 2 ^ 64) :
    (events.map (·.columns text sessionId)).mapM (·.read text) = .ok events := by
  induction events with
  | nil => rfl
  | cons event events ih =>
      obtain ⟨htext, hu64⟩ := h event List.mem_cons_self
      have hread : (event.columns text sessionId).read text = .ok event := by
        unfold EventColumns.read StoredEvent.columns
        dsimp only
        rw [htext, asU64_asI64 hu64]
      rw [List.map_cons, List.mapM_cons, hread,
        ih fun other hother => h other (List.mem_cons_of_mem event hother)]
      rfl

/-- A cast limit limits a list that is not longer than an `i64` counts. -/
theorem limited_asI64 {limit : Nat} (hlimit : limit < 2 ^ 64) {rows : List EventColumns}
    (hrows : rows.length ≤ 2 ^ 63) : limited (asI64 limit) rows = rows.take limit := by
  by_cases hlow : limit < 2 ^ 63
  · rw [limited, asI64_of_lt hlow, if_neg (by omega), Int.toNat_natCast]
  · rw [limited, asI64_of_le (by omega) hlimit, if_pos (by omega), List.take_of_length_le (by omega)]

namespace Agree

variable {writes : List StoreWrite} {sqlite : ColumnStore text sql} {memory : InMemoryStore}

theorem getSession_eq (h : Agree writes sqlite memory) (horderly : Orderly text writes)
    (id : SessionId) :
    SessionStore.getSession sqlite id = SessionStore.getSession memory id := by
  simp only [SessionStore.getSession]
  rw [h.sessions]
  cases hlookup : memory.sessions.lookup id with
  | none => rfl
  | some session =>
      have hwritten := h.written id session hlookup
      have htext : text.fromStr (text.toString session.metadata) = .ok session.metadata :=
        horderly.readsBack _ hwritten
      have hread : (session.columns text).read text = .ok session := by
        unfold SessionColumns.read StoredSession.columns
        dsimp only
        rw [htext, asU64_asI64 (horderly.u64 session hwritten)]
      rw [Option.map_some]
      dsimp only
      rw [hread]
      rfl

theorem latestSequence_eq (h : Agree writes sqlite memory) (horderly : Orderly text writes)
    (id : SessionId) :
    SessionStore.latestSequence sqlite id = SessionStore.latestSequence memory id := by
  have hsqlite : SessionStore.latestSequence sqlite id =
      .ok (asU64 (maxSequence (sqlite.rows id))) := rfl
  have hmemory : SessionStore.latestSequence memory id = .ok (lastRow (memory.rows id)) := rfl
  have hincreasing := horderly.increasing id
  have hbounded := horderly.bounded id
  rw [hsqlite, hmemory, h.rows, h.events]
  rcases List.eq_nil_or_concat (eventsOf id writes) with hnil | ⟨front, last, hconcat⟩
  · rw [hnil]
    rfl
  · rw [List.concat_eq_append] at hconcat
    rw [hconcat] at hincreasing hbounded ⊢
    have hlast : ∀ earlier ∈ front, earlier.sequence < last.sequence := fun earlier hearlier =>
      (List.pairwise_append.mp hincreasing).2.2 earlier hearlier last List.mem_cons_self
    have hsmall := hbounded last (by simp)
    have haligned : Aligned 0 (front ++ [last]) := .of_lt (by omega) hbounded
    rw [maxSequence_concat hlast haligned, asU64_asI64 (by omega), lastRow_concat]

/-- What the SQLite store answers: the events whose column is above the cast
boundary. -/
theorem eventsAfter_sqlite (h : Agree writes sqlite memory) (horderly : Orderly text writes)
    (id : SessionId) (after : Option Nat) {limit : Nat} (hlimit : limit < 2 ^ 64) :
    SessionStore.eventsAfter sqlite id after limit =
      .ok (((eventsOf id writes).filter fun event =>
        asI64 (after.getD 0) < asI64 event.sequence).take limit) := by
  have hincreasing := horderly.increasing id
  have hbounded := horderly.bounded id
  have hfiltered : (sqlite.rows id).filter (fun row => asI64 (after.getD 0) < row.sequence) =
      ((eventsOf id writes).filter fun event =>
        asI64 (after.getD 0) < asI64 event.sequence).map (·.columns text id) := by
    rw [h.rows, List.filter_map]
    rfl
  have hsorted : (((eventsOf id writes).filter fun event =>
      asI64 (after.getD 0) < asI64 event.sequence).map (·.columns text id)).Pairwise
        fun a b => a.sequence ≤ b.sequence := by
    refine List.pairwise_map.mpr ((hincreasing.sublist List.filter_sublist).imp_of_mem ?_)
    intro a b ha hb hlt
    show asI64 a.sequence ≤ asI64 b.sequence
    rw [asI64_of_lt (hbounded a (List.mem_of_mem_filter ha)),
      asI64_of_lt (hbounded b (List.mem_of_mem_filter hb))]
    omega
  have hlength : (((eventsOf id writes).filter fun event =>
      asI64 (after.getD 0) < asI64 event.sequence).map (·.columns text id)).length ≤ 2 ^ 63 := by
    rw [List.length_map]
    exact (List.length_filter_le _ _).trans (length_le_of_increasing hincreasing hbounded)
  show (limited (asI64 limit) (((sqlite.rows id).filter fun row =>
    asI64 (after.getD 0) < row.sequence).insertionSort fun a b => a.sequence ≤ b.sequence)).mapM
      (·.read text) = _
  rw [hfiltered, hsorted.insertionSort_eq, limited_asI64 hlimit hlength, ← List.map_take]
  refine mapM_read fun event hevent => ?_
  have hmem := List.mem_of_mem_filter (List.mem_of_mem_take hevent)
  obtain ⟨write, hwrite, hwritten⟩ := List.mem_filterMap.mp hmem
  refine ⟨?_, by have := hbounded event hmem; omega⟩
  have htext := horderly.readsBack write hwrite
  cases write with
  | upsertSession session => exact absurd hwritten nofun
  | appendEvent other written =>
      rw [StoreWrite.eventOf] at hwritten
      split at hwritten
      · obtain rfl := Option.some.inj hwritten
        exact htext
      · contradiction

theorem eventsAfter_memory (h : Agree writes sqlite memory) (id : SessionId) (after : Option Nat)
    (limit : Nat) :
    SessionStore.eventsAfter memory id after limit =
      .ok (((eventsOf id writes).filter fun event => after.getD 0 < event.sequence).take limit) := by
  rw [LawfulSessionStore.eventsAfter_eq, ← h.events id]
  rfl

/-- They select the same events but where the boundary becomes negative. -/
theorem eventsAfter_eq_iff (h : Agree writes sqlite memory) (horderly : Orderly text writes)
    (id : SessionId) {after : Option Nat} (hafter : ∀ boundary ∈ after, boundary < 2 ^ 64)
    {limit : Nat} (hlimit : limit < 2 ^ 64) :
    SessionStore.eventsAfter sqlite id after limit = SessionStore.eventsAfter memory id after limit ↔
      (∀ boundary ∈ after, boundary < 2 ^ 63) ∨ limit = 0 ∨ eventsOf id writes = [] := by
  have hbounded := horderly.bounded id
  rw [h.eventsAfter_sqlite horderly id after hlimit, h.eventsAfter_memory]
  have hu64 : after.getD 0 < 2 ^ 64 := by
    cases after with
    | none => exact Nat.two_pow_pos 64
    | some boundary => exact hafter boundary rfl
  by_cases hlow : after.getD 0 < 2 ^ 63
  · have hsame : (eventsOf id writes).filter (fun event =>
        asI64 (after.getD 0) < asI64 event.sequence) =
        (eventsOf id writes).filter fun event => after.getD 0 < event.sequence := by
      refine List.filter_congr fun event hevent => ?_
      rw [asI64_of_lt hlow, asI64_of_lt (hbounded event hevent), decide_eq_decide]
      omega
    rw [hsame]
    refine iff_of_true rfl (.inl fun boundary hboundary => ?_)
    rw [Option.mem_def.mp hboundary] at hlow
    exact hlow
  · have hall : (eventsOf id writes).filter (fun event =>
        asI64 (after.getD 0) < asI64 event.sequence) = eventsOf id writes := by
      refine List.filter_eq_self.mpr fun event hevent => decide_eq_true ?_
      rw [asI64_of_le (by omega) hu64, asI64_of_lt (hbounded event hevent)]
      omega
    have hnone : (eventsOf id writes).filter (fun event => after.getD 0 < event.sequence) = [] := by
      refine List.filter_eq_nil_iff.mpr fun event hevent => ?_
      rw [decide_eq_true_eq]
      have := hbounded event hevent
      omega
    have hhigh : ¬ ∀ boundary ∈ after, boundary < 2 ^ 63 := by
      intro hboundary
      cases after with
      | none => exact hlow (Nat.two_pow_pos 63)
      | some boundary => exact hlow (hboundary boundary rfl)
    rw [hall, hnone, List.take_nil, or_iff_right hhigh, Except.ok.injEq, List.take_eq_nil_iff]

end Agree

/-- Both stores answer the reads of a session alike. -/
structure SameAnswers (id : SessionId) (after : Option Nat) (limit : Nat)
    (sqlite : ColumnStore text sql) (memory : InMemoryStore) : Prop where
  getSession : SessionStore.getSession sqlite id = SessionStore.getSession memory id
  eventsAfter : SessionStore.eventsAfter sqlite id after limit =
    SessionStore.eventsAfter memory id after limit
  latestSequence : SessionStore.latestSequence sqlite id = SessionStore.latestSequence memory id

/-- **The stores are interchangeable** but for boundaries from `2 ^ 63` on, which the
SQLite store takes for negative numbers. -/
theorem stores_agree_iff {writes : List StoreWrite} (horderly : Orderly text writes)
    (id : SessionId) {after : Option Nat} (hafter : ∀ boundary ∈ after, boundary < 2 ^ 64)
    {limit : Nat} (hlimit : limit < 2 ^ 64) :
    SameAnswers id after limit (writes.foldl StoreWrite.apply (ColumnStore.empty text sql 0))
        (writes.foldl StoreWrite.apply InMemoryStore.new) ↔
      (∀ boundary ∈ after, boundary < 2 ^ 63) ∨ limit = 0 ∨ eventsOf id writes = [] := by
  have hagree : Agree writes (writes.foldl StoreWrite.apply (ColumnStore.empty text sql 0))
      (writes.foldl StoreWrite.apply InMemoryStore.new) := agree_of_orderly horderly
  rw [← hagree.eventsAfter_eq_iff horderly id hafter hlimit]
  exact ⟨fun h => h.eventsAfter, fun h =>
    ⟨hagree.getSession_eq horderly id, h, hagree.latestSequence_eq horderly id⟩⟩

/-- A session and one event of it. -/
def sampleWrites : List StoreWrite :=
  [.upsertSession {
    sessionId := "a"
    metadata := .null
    lastSequence := 1
    createdAtMs := 0
    updatedAtMs := 0 }, .appendEvent "a" ⟨1, .null⟩]

theorem orderly_sampleWrites : Orderly sampleText sampleWrites where
  upsertedFirst := by
    intro before id event after hwrites
    match before, hwrites with
    | [], hwrites => exact absurd (List.cons.inj hwrites).1 nofun
    | [write], hwrites =>
        obtain ⟨rfl, hrest⟩ := List.cons.inj hwrites
        obtain ⟨rfl, -⟩ := StoreWrite.appendEvent.inj (List.cons.inj hrest).1
        exact ⟨_, List.mem_cons_self, rfl⟩
    | _ :: _ :: _, hwrites =>
        have hlength := congrArg List.length hwrites
        simp [sampleWrites] at hlength
  increasing := by
    intro id
    rw [sampleWrites, eventsOf]
    by_cases hid : "a" = id <;> simp [StoreWrite.eventOf, hid]
  bounded := by
    intro id event hevent
    obtain ⟨write, hwrite, hwritten⟩ := List.mem_filterMap.mp hevent
    simp only [sampleWrites, List.mem_cons, List.not_mem_nil, or_false] at hwrite
    rcases hwrite with rfl | rfl
    · contradiction
    · rw [StoreWrite.eventOf] at hwritten
      split at hwritten
      · rw [← Option.some.inj hwritten]
        decide
      · contradiction
  u64 := by
    intro session hsession
    rcases List.mem_cons.mp hsession with hself | hrest
    · rw [StoreWrite.upsertSession.inj hself]
      decide
    · exact absurd (List.mem_singleton.mp hrest) nofun
  readsBack := by
    intro write hwrite
    simp only [sampleWrites, List.mem_cons, List.not_mem_nil, or_false] at hwrite
    rcases hwrite with rfl | rfl <;> rfl

/-- After the event, without a limit to speak of. -/
theorem stores_agree_sample :
    SameAnswers "a" (some 1) (2 ^ 64 - 1)
      (sampleWrites.foldl StoreWrite.apply (ColumnStore.empty sampleText .exact 0))
      (sampleWrites.foldl StoreWrite.apply InMemoryStore.new) :=
  (stores_agree_iff orderly_sampleWrites "a" (by simp) (by decide)).mpr (.inl (by simp))

/-- After the highest sequence number there is nothing in memory, and everything in
SQLite. -/
theorem stores_disagree :
    Orderly sampleText sampleWrites ∧
      SessionStore.eventsAfter (sampleWrites.foldl StoreWrite.apply
        (ColumnStore.empty sampleText .exact 0)) "a" (some (2 ^ 64 - 1)) 10 = .ok [⟨1, .null⟩] ∧
      SessionStore.eventsAfter (sampleWrites.foldl StoreWrite.apply InMemoryStore.new) "a"
        (some (2 ^ 64 - 1)) 10 = .ok [] :=
  ⟨orderly_sampleWrites, rfl, rfl⟩

end Slight
