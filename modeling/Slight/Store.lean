import Slight.Acp.Types

/-!
# Slight.Store

The session store: its interface, and the two stores that implement it.

`SqliteStore` holds the tables of the database.  The rows of the `events` table
are kept by session and in the order of their primary key.  The text columns
hold JSON that the host wrote, so a row is modelled by the value its text
stands for, and reading one does not fail.
-/

namespace Slight

structure StoredSession where
  sessionId : SessionId
  metadata : Json
  lastSequence : Nat
  createdAtMs : Int
  updatedAtMs : Int

structure StoredEvent where
  sequence : Nat
  event : Json

inductive StoreError where
  | notFound (sessionId : SessionId)
  | serialization (text : String)
  | other (text : String)
  deriving DecidableEq

/-- A store of sessions and their events.  A failed call leaves it unchanged. -/
class SessionStore (S : Type) where
  upsertSession : S → StoredSession → Except StoreError S
  getSession : S → SessionId → Except StoreError (Option StoredSession)
  listSessions : S → Except StoreError (List StoredSession)
  appendEvent : S → SessionId → StoredEvent → Except StoreError S
  eventsAfter : S → SessionId → Option Nat → Nat → Except StoreError (List StoredEvent)
  latestSequence : S → SessionId → Except StoreError Nat

/-- The sessions of a table, oldest first. -/
def byCreation (sessions : AList fun _ : SessionId => StoredSession) : List StoredSession :=
  (sessions.entries.map Sigma.snd).insertionSort fun a b => a.createdAtMs ≤ b.createdAtMs

/-- A store that is a table of sessions, and whose `eventsAfter` is the first
`limit` of a session's events above a sequence number. -/
class LawfulSessionStore (S : Type) [SessionStore S] where
  sessions : S → AList fun _ : SessionId => StoredSession
  events : S → SessionId → List StoredEvent
  keyed : ∀ (store : S) (sessionId : SessionId) (row : StoredSession),
    (sessions store).lookup sessionId = some row → row.sessionId = sessionId
  listSessions_eq : ∀ store : S,
    SessionStore.listSessions store = .ok (byCreation (sessions store))
  eventsAfter_eq : ∀ (store : S) (sessionId : SessionId) (after : Option Nat) (limit : Nat),
    SessionStore.eventsAfter store sessionId after limit =
      .ok (((events store sessionId).filter fun event => after.getD 0 < event.sequence).take limit)

/-- What is found after an insertion was inserted, or was there before. -/
theorem lookup_insert_eq_some {α V : Type} [DecidableEq α] {entries : AList fun _ : α => V}
    {a b : α} {v w : V} (h : (entries.insert a v).lookup b = some w) :
    b = a ∧ w = v ∨ b ≠ a ∧ entries.lookup b = some w := by
  by_cases hkey : b = a
  · subst hkey
    rw [AList.lookup_insert] at h
    exact .inl ⟨rfl, (Option.some.inj h).symm⟩
  · rw [AList.lookup_insert_ne hkey] at h
    exact .inr ⟨hkey, h⟩

/-- Rows stay under their own ids. -/
theorem keyed_insert {sessions : AList fun _ : SessionId => StoredSession}
    (hkeyed : ∀ id row, sessions.lookup id = some row → row.sessionId = id)
    (session : StoredSession) (id : SessionId) (row : StoredSession)
    (h : (sessions.insert session.sessionId session).lookup id = some row) :
    row.sessionId = id := by
  rcases lookup_insert_eq_some h with ⟨hid, hrow⟩ | ⟨-, hold⟩
  · rw [hid, hrow]
  · exact hkeyed id row hold

/-- What is listed is what the table holds. -/
theorem mem_byCreation {sessions : AList fun _ : SessionId => StoredSession} {row : StoredSession} :
    row ∈ byCreation sessions ↔ ∃ id, sessions.lookup id = some row := by
  have hmem : row ∈ byCreation sessions ↔ row ∈ sessions.entries.map Sigma.snd :=
    (List.perm_insertionSort _ _).mem_iff
  rw [hmem, List.mem_map]
  constructor
  · rintro ⟨⟨id, row'⟩, hentry, rfl⟩
    exact ⟨id, AList.mem_lookup_iff.mpr hentry⟩
  · rintro ⟨id, hlookup⟩
    exact ⟨⟨id, row⟩, AList.mem_lookup_iff.mp hlookup, rfl⟩

/-- No session is listed twice. -/
theorem nodup_byCreation {sessions : AList fun _ : SessionId => StoredSession}
    (hkeyed : ∀ id row, sessions.lookup id = some row → row.sessionId = id) :
    ((byCreation sessions).map (·.sessionId)).Nodup := by
  have hperm := (List.perm_insertionSort (fun a b : StoredSession => a.createdAtMs ≤ b.createdAtMs)
    (sessions.entries.map Sigma.snd)).map (·.sessionId)
  have hkeys : (sessions.entries.map Sigma.snd).map (·.sessionId) = sessions.keys := by
    rw [List.map_map]
    refine List.map_congr_left fun entry hentry => ?_
    exact hkeyed entry.1 entry.2 (AList.mem_lookup_iff.mpr hentry)
  refine hperm.nodup_iff.mpr ?_
  rw [hkeys]
  exact sessions.keys_nodup

/-- The highest sequence number of some rows in order; 0 without rows. -/
def lastRow (rows : List StoredEvent) : Nat := (rows.getLast?.map (·.sequence)).getD 0

/-! ## rows in the order of their key -/

/-- Puts a row in its place. -/
def insertRow (event : StoredEvent) : List StoredEvent → List StoredEvent
  | [] => [event]
  | row :: rows =>
      if event.sequence < row.sequence then event :: row :: rows
      else row :: insertRow event rows

theorem mem_insertRow {event row : StoredEvent} {rows : List StoredEvent} :
    row ∈ insertRow event rows ↔ row = event ∨ row ∈ rows := by
  induction rows with
  | nil => simp [insertRow]
  | cons head rows ih =>
      unfold insertRow
      split
      · rw [List.mem_cons]
      · rw [List.mem_cons, ih, List.mem_cons]
        tauto

/-- A key that is not taken keeps the rows in order. -/
theorem pairwise_insertRow {event : StoredEvent} {rows : List StoredEvent}
    (hrows : rows.Pairwise fun a b => a.sequence < b.sequence)
    (hfree : ∀ row ∈ rows, row.sequence ≠ event.sequence) :
    (insertRow event rows).Pairwise fun a b => a.sequence < b.sequence := by
  induction rows with
  | nil => exact List.pairwise_singleton _ _
  | cons head rows ih =>
      obtain ⟨hhead, htail⟩ := List.pairwise_cons.mp hrows
      unfold insertRow
      split
      · next hlt =>
          refine List.pairwise_cons.mpr ⟨fun row hrow => ?_, hrows⟩
          rcases List.mem_cons.mp hrow with rfl | hrow
          · exact hlt
          · exact hlt.trans (hhead row hrow)
      · next hlt =>
          refine List.pairwise_cons.mpr ⟨fun row hrow => ?_, ih htail fun row hrow =>
            hfree row (List.mem_cons_of_mem head hrow)⟩
          rcases mem_insertRow.mp hrow with rfl | hrow
          · have := hfree head List.mem_cons_self
            omega
          · exact hhead row hrow

/-- A new highest key goes to the end. -/
theorem insertRow_of_lt {event : StoredEvent} {rows : List StoredEvent}
    (h : ∀ row ∈ rows, row.sequence < event.sequence) : insertRow event rows = rows ++ [event] := by
  induction rows with
  | nil => rfl
  | cons head rows ih =>
      have hhead := h head List.mem_cons_self
      rw [insertRow, if_neg (by omega), ih fun row hrow => h row (List.mem_cons_of_mem head hrow),
        List.cons_append]

/-! ## SQLite -/

/-- The database, opened with an event limit. -/
structure SqliteStore where
  eventLimit : Nat
  sessions : AList fun _ : SessionId => StoredSession
  events : AList fun _ : SessionId => List StoredEvent
  /-- `session_id` is the primary key of `sessions`. -/
  keyed : ∀ id row, sessions.lookup id = some row → row.sessionId = id
  /-- `(session_id, sequence)` is the primary key of `events`. -/
  ordered : ∀ id rows, events.lookup id = some rows →
    rows.Pairwise fun a b => a.sequence < b.sequence
  /-- The sessions of events are rows of `sessions`. -/
  foreign : ∀ id ∈ events, id ∈ sessions

theorem StoredSession.keyed_empty (id : SessionId) (row : StoredSession)
    (h : (∅ : AList fun _ : SessionId => StoredSession).lookup id = some row) :
    row.sessionId = id := by
  rw [AList.lookup_empty] at h
  contradiction

namespace SqliteStore

/-- A fresh database. -/
def empty (eventLimit : Nat) : SqliteStore where
  eventLimit := eventLimit
  sessions := ∅
  events := ∅
  keyed := StoredSession.keyed_empty
  ordered := fun id rows h => by rw [AList.lookup_empty] at h; contradiction
  foreign := fun id h => absurd h (AList.notMem_empty id)

/-- The same database, opened with another event limit. -/
def reopen (store : SqliteStore) (eventLimit : Nat) : SqliteStore := { store with eventLimit }

/-- The rows of `events` of a session. -/
def rows (store : SqliteStore) (sessionId : SessionId) : List StoredEvent :=
  (store.events.lookup sessionId).getD []

theorem pairwise_rows (store : SqliteStore) (sessionId : SessionId) :
    (store.rows sessionId).Pairwise fun a b => a.sequence < b.sequence := by
  unfold rows
  cases h : store.events.lookup sessionId with
  | none => exact List.Pairwise.nil
  | some rows => exact store.ordered sessionId rows h

def upsertSession (store : SqliteStore) (session : StoredSession) : SqliteStore :=
  { store with
    sessions := store.sessions.insert session.sessionId session
    keyed := keyed_insert store.keyed session
    foreign := fun id h => (AList.mem_insert _).mpr (.inr (store.foreign id h)) }

/-- The rows the event limit leaves: those less than `eventLimit` below the
highest; a limit of 0 leaves all. -/
def trimmed (store : SqliteStore) (rows : List StoredEvent) : List StoredEvent :=
  if 0 < store.eventLimit then
    rows.filter fun row => lastRow rows < row.sequence + store.eventLimit
  else rows

theorem trimmed_sublist (store : SqliteStore) (rows : List StoredEvent) :
    (store.trimmed rows).Sublist rows := by
  unfold trimmed
  split
  · exact List.filter_sublist
  · exact List.Sublist.refl rows

def appendEvent (store : SqliteStore) (sessionId : SessionId) (event : StoredEvent) :
    Except StoreError SqliteStore :=
  if hkey : ∃ row ∈ store.rows sessionId, row.sequence = event.sequence then
    .error (.other "UNIQUE constraint failed: events.session_id, events.sequence")
  else if hforeign : sessionId ∈ store.sessions then
    .ok { store with
      events := store.events.insert sessionId
        (store.trimmed (insertRow event (store.rows sessionId)))
      ordered := fun id rows h => by
        by_cases hid : id = sessionId
        · subst hid
          rw [AList.lookup_insert] at h
          rw [← Option.some.inj h]
          exact (pairwise_insertRow (store.pairwise_rows id) fun row hrow heq =>
            hkey ⟨row, hrow, heq⟩).sublist (store.trimmed_sublist _)
        · rw [AList.lookup_insert_ne hid] at h
          exact store.ordered id rows h
      foreign := fun id h => by
        rcases (AList.mem_insert _).mp h with rfl | h
        · exact hforeign
        · exact store.foreign id h }
  else .error (.other "FOREIGN KEY constraint failed")

instance : SessionStore SqliteStore where
  upsertSession store session := .ok (store.upsertSession session)
  getSession store sessionId := .ok (store.sessions.lookup sessionId)
  listSessions store := .ok (byCreation store.sessions)
  appendEvent store sessionId event := store.appendEvent sessionId event
  eventsAfter store sessionId after limit :=
    .ok (((store.rows sessionId).filter fun row => after.getD 0 < row.sequence).take limit)
  latestSequence store sessionId := .ok (lastRow (store.rows sessionId))

instance : LawfulSessionStore SqliteStore where
  sessions := sessions
  events := rows
  keyed := keyed
  listSessions_eq _ := rfl
  eventsAfter_eq _ _ _ _ := rfl

end SqliteStore

/-! ## in memory -/

structure InMemoryStore where
  sessions : AList fun _ : SessionId => StoredSession
  events : AList fun _ : SessionId => List StoredEvent
  /-- A session is kept under its own id. -/
  keyed : ∀ id row, sessions.lookup id = some row → row.sessionId = id

namespace InMemoryStore

instance : SessionStore InMemoryStore where
  upsertSession store session :=
    .ok { store with
      sessions := store.sessions.insert session.sessionId session
      keyed := keyed_insert store.keyed session }
  getSession store sessionId := .ok (store.sessions.lookup sessionId)
  listSessions store := .ok (byCreation store.sessions)
  appendEvent store sessionId event :=
    .ok { store with
      events := store.events.insert sessionId
        ((store.events.lookup sessionId).getD [] ++ [event]) }
  eventsAfter store sessionId after limit :=
    match store.events.lookup sessionId with
    | none => .ok []
    | some events => .ok ((events.filter fun event => after.getD 0 < event.sequence).take limit)
  latestSequence store sessionId := .ok (lastRow ((store.events.lookup sessionId).getD []))

instance : LawfulSessionStore InMemoryStore where
  sessions := sessions
  keyed := keyed
  listSessions_eq _ := rfl
  events store sessionId := (store.events.lookup sessionId).getD []
  eventsAfter_eq store sessionId after limit := by
    unfold SessionStore.eventsAfter instSessionStore
    dsimp only
    cases store.events.lookup sessionId with
    | none => rw [Option.getD_none, List.filter_nil, List.take_nil]
    | some events => rfl

end InMemoryStore

end Slight
