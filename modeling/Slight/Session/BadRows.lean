import Slight.Session.Recovery

/-!
# Slight.Session.BadRows

A database whose text columns hold anything.  `TextStore` is the SQLite store
with its texts: what `SqliteStore` models by the JSON that a text stands for is
here read with `serde_json`, a parameter (`JsonText`).  Text that is no JSON
fails the store, JSON that is no record is left to the manager.

`lists_rows_iff` says for which databases every row is listed after a restart,
with all of its events that decode.  What decodes is for the reader to say, of
which nothing is assumed (`StoredReader`).
-/

namespace Slight

open Support Program

variable {S C : Type}

/-! ## the store -/

/-- What `serde_json` makes of texts and of values; an error is given as the store
reports it. -/
structure JsonText where
  fromStr : String → Except String Json
  toString : Json → String

/-- A row of `sessions`. -/
structure SessionRow where
  sessionId : SessionId
  metadata : String
  lastSequence : Nat
  createdAtMs : Int
  updatedAtMs : Int

/-- A row of `events` of a session. -/
structure EventRow where
  sequence : Nat
  event : String

/-- The database, opened with an event limit. -/
structure TextStore (text : JsonText) where
  eventLimit : Nat
  sessions : AList fun _ : SessionId => SessionRow
  events : AList fun _ : SessionId => List EventRow
  /-- `session_id` is the primary key of `sessions`. -/
  keyed : ∀ id row, sessions.lookup id = some row → row.sessionId = id

variable {text : JsonText}

def readSession (text : JsonText) (row : SessionRow) : Except StoreError StoredSession :=
  match text.fromStr row.metadata with
  | .ok metadata =>
      .ok {
        sessionId := row.sessionId
        metadata
        lastSequence := row.lastSequence
        createdAtMs := row.createdAtMs
        updatedAtMs := row.updatedAtMs }
  | .error error => .error (.other error)

def readEvent (text : JsonText) (row : EventRow) : Except StoreError StoredEvent :=
  match text.fromStr row.event with
  | .ok event => .ok { sequence := row.sequence, event }
  | .error error => .error (.other error)

namespace TextStore

/-- The rows of `events` of a session. -/
def rows (store : TextStore text) (sessionId : SessionId) : List EventRow :=
  (store.events.lookup sessionId).getD []

/-- The rows a query for a session's events selects. -/
def selected (store : TextStore text) (sessionId : SessionId) (after : Option Nat) (limit : Nat) :
    List EventRow :=
  (((store.rows sessionId).filter fun row => after.getD 0 < row.sequence).insertionSort
    fun a b => a.sequence ≤ b.sequence).take limit

/-- The rows of `sessions`, oldest first. -/
def listed (store : TextStore text) : List SessionRow :=
  (store.sessions.entries.map Sigma.snd).insertionSort fun a b => a.createdAtMs ≤ b.createdAtMs

/-- The highest sequence number of a session's rows; 0 without rows. -/
def maxSequence (rows : List EventRow) : Nat :=
  rows.foldl (fun highest row => max highest row.sequence) 0

def upsertSession (store : TextStore text) (session : StoredSession) : TextStore text :=
  { store with
    sessions := store.sessions.insert session.sessionId {
      sessionId := session.sessionId
      metadata := text.toString session.metadata
      lastSequence := session.lastSequence
      createdAtMs := session.createdAtMs
      updatedAtMs := session.updatedAtMs }
    keyed := fun id row h => by
      rcases lookup_insert_eq_some h with ⟨rfl, rfl⟩ | ⟨-, hold⟩
      · rfl
      · exact store.keyed id row hold }

def appendEvent (store : TextStore text) (sessionId : SessionId) (event : StoredEvent) :
    Except StoreError (TextStore text) :=
  if (store.rows sessionId).any fun row => row.sequence = event.sequence then
    .error (.other "UNIQUE constraint failed: events.session_id, events.sequence")
  else if sessionId ∈ store.sessions then
    let rows := store.rows sessionId ++ [⟨event.sequence, text.toString event.event⟩]
    .ok { store with
      events := store.events.insert sessionId
        (if 0 < store.eventLimit then
          rows.filter fun row => maxSequence rows < row.sequence + store.eventLimit
        else rows) }
  else .error (.other "FOREIGN KEY constraint failed")

/-- One row that cannot be read fails the whole query. -/
instance : SessionStore (TextStore text) where
  upsertSession store session := .ok (store.upsertSession session)
  getSession store sessionId :=
    match store.sessions.lookup sessionId with
    | none => .ok none
    | some row => (readSession text row).map some
  listSessions store := store.listed.mapM (readSession text)
  appendEvent store sessionId event := store.appendEvent sessionId event
  eventsAfter store sessionId after limit :=
    (store.selected sessionId after limit).mapM (readEvent text)
  latestSequence store sessionId := .ok (maxSequence (store.rows sessionId))

end TextStore

/-! ## rows that decode -/

/-- The record a row of `sessions` holds, if it does. -/
def SessionRow.record [StoredReader] (text : JsonText) (row : SessionRow) :
    Option PersistedSession :=
  (text.fromStr row.metadata).toOption.bind StoredReader.session

/-- The event a row of `events` holds, if it does. -/
def EventRow.decoded [StoredReader] (text : JsonText) (row : EventRow) : Option SequencedEvent :=
  (text.fromStr row.event).toOption.bind StoredReader.event

/-- Every row is listed under its id, as unreadable if it does not decode, and
every journal has the retained events that decode. -/
structure ListsRows [StoredReader] (store : TextStore text) (world : World (TextStore text) C) :
    Prop where
  listed : ∀ id row, store.sessions.lookup id = some row →
    (∃ session, world.inner.sessions.lookup id = some session ∧ session.summary.id = id) ∨
      ∃ session, world.inner.recovered.lookup id = some session ∧ session.summary.id = id
  unreadable : ∀ id row, store.sessions.lookup id = some row → row.record text = none →
    ∃ session reason, world.inner.recovered.lookup id = some session ∧
      session.summary.title = "Unreadable session" ∧
      session.summary.recovery = .unavailable reason
  journals : ∀ id journal, world.journal id = some journal →
    ∀ row ∈ store.selected id none world.inner.journalLimit, ∀ event,
      row.decoded text = some event → event ∈ journal

/-- Every metadata text is JSON, and about its row's session if it is a record; of
each session's retained event texts all are JSON, or none decodes. -/
structure Readable [StoredReader] (store : TextStore text) (journalLimit : Nat) : Prop where
  texts : ∀ id row, store.sessions.lookup id = some row →
    ∃ json, text.fromStr row.metadata = .ok json
  keyed : ∀ id row record, store.sessions.lookup id = some row → row.record text = some record →
    record.summary.id = id
  events : ∀ id ∈ store.sessions,
    (∀ row ∈ store.selected id none journalLimit, ∃ json, text.fromStr row.event = .ok json) ∨
      ∀ row ∈ store.selected id none journalLimit, row.decoded text = none

/-! ## reading all rows -/

theorem mapM_eq_ok {ε α β : Type} {f : α → Except ε β} {g : α → β} {xs : List α}
    (h : ∀ a ∈ xs, f a = .ok (g a)) : xs.mapM f = .ok (xs.map g) := by
  induction xs with
  | nil => rfl
  | cons x xs ih =>
      rw [List.mapM_cons, h x List.mem_cons_self, ih fun a ha => h a (List.mem_cons_of_mem x ha)]
      rfl

theorem mapM_eq_error {ε α β : Type} {f : α → Except ε β} {xs : List α}
    (h : ∃ a ∈ xs, ∃ error, f a = .error error) : ∃ error, xs.mapM f = .error error := by
  induction xs with
  | nil =>
      obtain ⟨a, hmem, -⟩ := h
      exact absurd hmem List.not_mem_nil
  | cons x xs ih =>
      rw [List.mapM_cons]
      cases hx : f x with
      | error error => exact ⟨error, rfl⟩
      | ok b =>
          obtain ⟨a, hmem, error, ha⟩ := h
          rcases List.mem_cons.mp hmem with rfl | hmem
          · rw [hx] at ha
            contradiction
          · obtain ⟨error', hrest⟩ := ih ⟨a, hmem, error, ha⟩
            rw [hrest]
            exact ⟨error', rfl⟩

/-- The row with the value of its metadata. -/
def SessionRow.stored (row : SessionRow) (metadata : Json) : StoredSession where
  sessionId := row.sessionId
  metadata := metadata
  lastSequence := row.lastSequence
  createdAtMs := row.createdAtMs
  updatedAtMs := row.updatedAtMs

theorem readSession_ok {row : SessionRow} {json : Json} (h : text.fromStr row.metadata = .ok json) :
    readSession text row = .ok (row.stored json) := by
  rw [readSession, h]
  rfl

theorem readSession_error {row : SessionRow} (h : ∀ json, text.fromStr row.metadata ≠ .ok json) :
    ∃ error, readSession text row = .error error := by
  rw [readSession]
  cases hread : text.fromStr row.metadata with
  | ok json => exact absurd hread (h json)
  | error error => exact ⟨_, rfl⟩

theorem readEvent_error {row : EventRow} (h : ∀ json, text.fromStr row.event ≠ .ok json) :
    ∃ error, readEvent text row = .error error := by
  rw [readEvent]
  cases hread : text.fromStr row.event with
  | ok json => exact absurd hread (h json)
  | error error => exact ⟨_, rfl⟩

theorem record_eq [StoredReader] {row : SessionRow} {json : Json}
    (h : text.fromStr row.metadata = .ok json) :
    row.record text = (row.stored json).record := by
  rw [SessionRow.record, h]
  rfl

namespace TextStore

variable {store : TextStore text}

theorem mem_listed {row : SessionRow} :
    row ∈ store.listed ↔ store.sessions.lookup row.sessionId = some row := by
  have hmem : row ∈ store.listed ↔ row ∈ store.sessions.entries.map Sigma.snd :=
    (List.perm_insertionSort _ _).mem_iff
  rw [hmem, List.mem_map]
  constructor
  · rintro ⟨⟨id, row'⟩, hentry, rfl⟩
    have hlookup := AList.mem_lookup_iff.mpr hentry
    rw [store.keyed id row' hlookup]
    exact hlookup
  · intro hlookup
    exact ⟨⟨row.sessionId, row⟩, AList.mem_lookup_iff.mp hlookup, rfl⟩

/-- All metadata is JSON: the sessions are listed. -/
theorem listSessions_ok
    (h : ∀ id row, store.sessions.lookup id = some row →
      ∃ json, text.fromStr row.metadata = .ok json) :
    ∃ rows : List StoredSession, SessionStore.listSessions store = .ok rows ∧
      (∀ id row, store.sessions.lookup id = some row →
        ∃ json, text.fromStr row.metadata = .ok json ∧ row.stored json ∈ rows) ∧
      ∀ stored ∈ rows, ∃ row json, store.sessions.lookup stored.sessionId = some row ∧
        text.fromStr row.metadata = .ok json ∧ stored = row.stored json := by
  have hread : ∀ row ∈ store.listed, ∃ json, text.fromStr row.metadata = .ok json :=
    fun row hmem => h _ row (mem_listed.mp hmem)
  let value (row : SessionRow) : Json := (text.fromStr row.metadata).toOption.getD .null
  have hvalue : ∀ row json, text.fromStr row.metadata = .ok json → value row = json := by
    intro row json hjson
    show (text.fromStr row.metadata).toOption.getD .null = json
    rw [hjson]
    rfl
  refine ⟨store.listed.map fun row => row.stored (value row), mapM_eq_ok fun row hmem => ?_,
    fun id row hlookup => ?_, fun stored hmem => ?_⟩
  · obtain ⟨json, hjson⟩ := hread row hmem
    rw [readSession_ok hjson, hvalue row json hjson]
  · obtain ⟨json, hjson⟩ := h id row hlookup
    have hlisted : row ∈ store.listed := mem_listed.mpr (store.keyed id row hlookup ▸ hlookup)
    exact ⟨json, hjson, List.mem_map.mpr ⟨row, hlisted, by rw [hvalue row json hjson]⟩⟩
  · obtain ⟨row, hlisted, rfl⟩ := List.mem_map.mp hmem
    obtain ⟨json, hjson⟩ := hread row hlisted
    exact ⟨row, json, mem_listed.mp hlisted, hjson, by rw [hvalue row json hjson]⟩

/-- One metadata text that is no JSON hides all sessions. -/
theorem listSessions_error {id : SessionId} {row : SessionRow}
    (hlookup : store.sessions.lookup id = some row)
    (h : ∀ json, text.fromStr row.metadata ≠ .ok json) :
    ∃ error, SessionStore.listSessions store = .error error :=
  mapM_eq_error ⟨row, mem_listed.mpr (store.keyed id row hlookup ▸ hlookup), readSession_error h⟩

/-- All of a session's event texts are JSON: its journal has those that decode. -/
theorem recoveredJournal_ok [StoredReader] {id : SessionId} {journalLimit : Nat}
    (h : ∀ row ∈ store.selected id none journalLimit, ∃ json, text.fromStr row.event = .ok json) :
    recoveredJournal store id journalLimit =
      (store.selected id none journalLimit).filterMap (EventRow.decoded text) := by
  let value (row : EventRow) : Json := (text.fromStr row.event).toOption.getD .null
  have hread : SessionStore.eventsAfter store id none journalLimit =
      .ok ((store.selected id none journalLimit).map fun row => ⟨row.sequence, value row⟩) := by
    refine mapM_eq_ok fun row hmem => ?_
    obtain ⟨json, hjson⟩ := h row hmem
    show readEvent text row = .ok ⟨row.sequence, (text.fromStr row.event).toOption.getD .null⟩
    rw [readEvent, hjson]
    rfl
  rw [recoveredJournal, hread]
  dsimp only
  rw [List.filterMap_map]
  refine List.filterMap_congr fun row hmem => ?_
  obtain ⟨json, hjson⟩ := h row hmem
  show StoredReader.event ((text.fromStr row.event).toOption.getD .null) = row.decoded text
  rw [EventRow.decoded, hjson]
  rfl

/-- One event text that is no JSON empties the session's journal. -/
theorem recoveredJournal_error [StoredReader] {id : SessionId} {journalLimit : Nat}
    {row : EventRow} (hmem : row ∈ store.selected id none journalLimit)
    (h : ∀ json, text.fromStr row.event ≠ .ok json) :
    recoveredJournal store id journalLimit = [] := by
  obtain ⟨error, herror⟩ : ∃ error,
      SessionStore.eventsAfter store id none journalLimit = .error error :=
    mapM_eq_error ⟨row, hmem, readEvent_error h⟩
  rw [recoveredJournal, herror]

end TextStore

/-! ## after a restart -/

section

variable [StoredReader]

/-- Without adapters no session becomes live. -/
theorem sessions_recover_nil [SessionStore S] [AcpSession C] (rows : List StoredSession)
    {world : World S C} (hadapters : world.inner.adapters = []) :
    ((rows.forM Manager.recoverStoredSession).final world).inner.sessions =
      world.inner.sessions := by
  have hone : ∀ (stored : StoredSession) {world : World S C}, world.inner.adapters = [] →
      ((Manager.recoverStoredSession stored).final world).inner.sessions =
        world.inner.sessions := by
    intro stored world hadapters
    rw [Manager.recoverStoredSession, final_bind, exec_get]
    dsimp only
    cases hread : stored.record with
    | none => rfl
    | some record =>
        have hexec : ∃ state, (Manager.rehydration record : Manager S C _).exec world =
            (.ok (.error state), world) := by
          rw [Manager.rehydration, exec_bind, exec_get]
          dsimp only
          rw [hadapters]
          exact ⟨_, rfl⟩
        obtain ⟨state, hexec⟩ := hexec
        dsimp only
        rw [final_bind, hexec]
        rfl
  induction rows generalizing world with
  | nil => rfl
  | cons stored rows ih =>
      have hkept : ((Manager.recoverStoredSession stored).final world).inner.adapters = [] := by
        rw [(Manager.final_recoverStoredSession stored world).1.adapters, hadapters]
      rw [final_forM_cons, ih hkept, hone stored hadapters]

/-- A store that cannot list its sessions has none. -/
theorem new_of_error [SessionStore S] [AcpSession C] {store : S} {error : StoreError}
    (h : SessionStore.listSessions store = .error error) (env : Env) (ticks : Nat)
    (adapters : AdapterRegistry C) (journalLimit : Nat) :
    (SessionManager.new env ticks adapters store journalLimit : World S C) =
      SessionManager.starting env ticks adapters store journalLimit := by
  rw [SessionManager.new, h]
  rfl

/-- The rows that are listed are recovered. -/
theorem recoversRows_of_ok [SessionStore S] [AcpSession C] {store : S} {rows : List StoredSession}
    (h : SessionStore.listSessions store = .ok rows) (env : Env) (ticks : Nat)
    (adapters : AdapterRegistry C) (journalLimit : Nat) :
    World.RecoversRows rows (SessionManager.starting env ticks adapters store journalLimit)
      (SessionManager.new env ticks adapters store journalLimit : World S C) := by
  rw [SessionManager.new, h]
  exact recoversRows_forM _ _

theorem lookup_recovered_of_ok [SessionStore S] {store : S} {rows : List StoredSession}
    {env : Env} {ticks : Nat} {adapters : AdapterRegistry C} {journalLimit : Nat}
    {world : World S C}
    (hrows : World.RecoversRows rows (SessionManager.starting env ticks adapters store journalLimit)
      world) {id : SessionId} {session : RecoveredSession}
    (h : world.inner.recovered.lookup id = some session) :
    ∃ stored ∈ rows, stored.Retains store journalLimit session ∧ stored.sessionId = id := by
  rcases hrows.lost id session h with hnone | hstored
  · exact absurd hnone (SessionManager.lookup_recovered_starting_ne id session)
  · exact hstored

section

variable {store : TextStore text} {journalLimit : Nat}

/-- Text that does not hide other rows lists them all. -/
theorem Readable.listsRows [AcpSession C] (h : Readable store journalLimit) (env : Env)
    (ticks : Nat) (adapters : AdapterRegistry C) :
    ListsRows store (SessionManager.new env ticks adapters store journalLimit : World _ C) := by
  obtain ⟨rows, hlist, hcovers, hfrom⟩ := TextStore.listSessions_ok h.texts
  have hrows := recoversRows_of_ok (C := C) hlist env ticks adapters journalLimit
  have hlimit := hrows.recovers.journalLimit
  generalize SessionManager.new env ticks adapters store journalLimit = world at hrows hlimit ⊢
  have hkeyed : ∀ stored ∈ rows, stored.WellKeyed := by
    intro stored hmem record hrecord
    obtain ⟨row, json, hlookup, hjson, rfl⟩ := hfrom stored hmem
    refine h.keyed _ row record hlookup ?_
    rw [record_eq hjson]
    exact hrecord
  have hlive : ∀ id session, world.inner.sessions.lookup id = some session →
      ∃ stored ∈ rows, stored.Rehydrates store journalLimit session ∧ session.summary.id = id ∧
        stored.sessionId = id := by
    intro id session hlookup
    rcases hrows.live id session hlookup with hnone | ⟨stored, hmem, hrehydrates, hid⟩
    · exact absurd hnone (SessionManager.lookup_sessions_starting_ne id session)
    · refine ⟨stored, hmem, hrehydrates, hid, ?_⟩
      rw [← hrehydrates.id_eq (hkeyed stored hmem), hid]
  constructor
  · intro id row hlookup
    obtain ⟨json, hjson, hmem⟩ := hcovers id row hlookup
    have hid : (row.stored json).sessionId = id := store.keyed id row hlookup
    rcases hrows.covers _ hmem (hkeyed _ hmem) with hfound | hfound
    · rw [hid] at hfound
      obtain ⟨session, hsession⟩ := exists_lookup_of_mem hfound
      obtain ⟨-, -, -, hsummary, -⟩ := hlive id session hsession
      exact .inl ⟨session, hsession, hsummary⟩
    · rw [hid] at hfound
      obtain ⟨session, hsession⟩ := exists_lookup_of_mem hfound
      obtain ⟨stored, hstored, hretains, hsame⟩ := lookup_recovered_of_ok hrows hsession
      refine .inr ⟨session, hsession, ?_⟩
      cases hread : stored.record with
      | some record =>
          rw [hretains.record record hread, ← hsame]
          exact hkeyed stored hstored record hread
      | none =>
          obtain ⟨reason, hsummary⟩ := hretains.unreadable hread
          rw [hsummary, ← hsame]
          rfl
  · intro id row hlookup hrecord
    obtain ⟨json, hjson, hmem⟩ := hcovers id row hlookup
    have hid : (row.stored json).sessionId = id := store.keyed id row hlookup
    have hsame : ∀ stored ∈ rows, stored.sessionId = id →
        stored.record = none := by
      intro stored hstored heq
      obtain ⟨row', json', hlookup', hjson', rfl⟩ := hfrom stored hstored
      rw [heq, hlookup, Option.some.injEq] at hlookup'
      rw [← record_eq hjson', ← hlookup']
      exact hrecord
    rcases hrows.covers _ hmem (hkeyed _ hmem) with hfound | hfound
    · rw [hid] at hfound
      obtain ⟨session, hsession⟩ := exists_lookup_of_mem hfound
      obtain ⟨stored, hstored, hrehydrates, -, heq⟩ := hlive id session hsession
      obtain ⟨record, hread, -⟩ := hrehydrates.record
      rw [hsame stored hstored heq] at hread
      contradiction
    · rw [hid] at hfound
      obtain ⟨session, hsession⟩ := exists_lookup_of_mem hfound
      obtain ⟨stored, hstored, hretains, heq⟩ := lookup_recovered_of_ok hrows hsession
      obtain ⟨reason, hsummary⟩ := hretains.unreadable (hsame stored hstored heq)
      exact ⟨session, _, hsession, by rw [hsummary]; rfl, by rw [hsummary]; rfl⟩
  · intro id journal hjournal row hrow event hevent
    have hfound : id ∈ store.sessions ∧ journal = recoveredJournal store id journalLimit := by
      have hmem : ∀ stored ∈ rows, stored.sessionId = id → id ∈ store.sessions := by
        intro stored hstored heq
        obtain ⟨row', -, hlookup', -, -⟩ := hfrom stored hstored
        exact AList.lookup_isSome.mp (by rw [← heq, hlookup']; rfl)
      unfold World.journal at hjournal
      split at hjournal
      · next session hsession =>
          obtain ⟨stored, hstored, hrehydrates, -, heq⟩ := hlive id session hsession
          refine ⟨hmem stored hstored heq, ?_⟩
          rw [← Option.some.inj hjournal, hrehydrates.journal, heq]
      · obtain ⟨session, hsession, rfl⟩ := Option.map_eq_some_iff.mp hjournal
        obtain ⟨stored, hstored, hretains, heq⟩ := lookup_recovered_of_ok hrows hsession
        refine ⟨hmem stored hstored heq, ?_⟩
        rw [hretains.journal, heq]
    rw [hlimit] at hrow
    rcases h.events id hfound.1 with htexts | hnone
    · rw [hfound.2, TextStore.recoveredJournal_ok htexts]
      exact List.mem_filterMap.mpr ⟨row, hrow, hevent⟩
    · rw [hnone row hrow] at hevent
      contradiction

/-- A database whose rows are all listed where no agent can be resumed. -/
theorem readable_of_listsRows [AcpSession C] {env : Env} {ticks : Nat}
    (h : ListsRows store (SessionManager.new env ticks [] store journalLimit : World _ C)) :
    Readable store journalLimit := by
  have htexts : ∀ id row, store.sessions.lookup id = some row →
      ∃ json, text.fromStr row.metadata = .ok json := by
    intro id row hlookup
    by_contra hbad
    obtain ⟨error, herror⟩ := TextStore.listSessions_error hlookup (not_exists.mp hbad)
    have hlisted := h.listed id row hlookup
    rw [new_of_error herror] at hlisted
    rcases hlisted with ⟨session, hsession, -⟩ | ⟨session, hsession, -⟩
    · exact SessionManager.lookup_sessions_starting_ne id session hsession
    · exact SessionManager.lookup_recovered_starting_ne id session hsession
  obtain ⟨rows, hlist, hcovers, hfrom⟩ := TextStore.listSessions_ok htexts
  have hrows := recoversRows_of_ok (C := C) hlist env ticks [] journalLimit
  have hlimit := hrows.recovers.journalLimit
  have hsessions : (SessionManager.new env ticks [] store journalLimit :
      World _ C).inner.sessions = ∅ := by
    rw [SessionManager.new, hlist]
    exact sessions_recover_nil rows rfl
  have hlost : ∀ id row, store.sessions.lookup id = some row →
      ∃ session json, (SessionManager.new env ticks [] store journalLimit :
          World _ C).inner.recovered.lookup id = some session ∧ session.summary.id = id ∧
        text.fromStr row.metadata = .ok json ∧
        (row.stored json).Retains store journalLimit session := by
    intro id row hlookup
    rcases h.listed id row hlookup with ⟨session, hsession, -⟩ | ⟨session, hsession, hid⟩
    · rw [hsessions, AList.lookup_empty] at hsession
      contradiction
    · obtain ⟨stored, hstored, hretains, hsame⟩ := lookup_recovered_of_ok hrows hsession
      obtain ⟨row', json, hlookup', hjson, rfl⟩ := hfrom stored hstored
      rw [hsame, hlookup, Option.some.injEq] at hlookup'
      subst hlookup'
      exact ⟨session, json, hsession, hid, hjson, hretains⟩
  refine ⟨htexts, fun id row record hlookup hrecord => ?_, fun id hmem => ?_⟩
  · obtain ⟨session, json, -, hid, hjson, hretains⟩ := hlost id row hlookup
    rw [record_eq hjson] at hrecord
    rw [hretains.record record hrecord] at hid
    exact hid
  · by_cases hall : ∀ row ∈ store.selected id none journalLimit,
        ∃ json, text.fromStr row.event = .ok json
    · exact .inl hall
    · simp only [not_forall, not_exists] at hall
      obtain ⟨bad, hbad, hjson⟩ := hall
      obtain ⟨row, hlookup⟩ := exists_lookup_of_mem hmem
      obtain ⟨session, json, hsession, -, -, hretains⟩ := hlost id row hlookup
      have hjournal : (SessionManager.new env ticks [] store journalLimit :
          World _ C).journal id = some [] := by
        rw [World.journal, hsessions, AList.lookup_empty]
        dsimp only
        rw [hsession, Option.map_some, hretains.journal]
        have hid : (row.stored json).sessionId = id := store.keyed id row hlookup
        rw [hid, TextStore.recoveredJournal_error hbad hjson]
      refine .inr fun event hevent => ?_
      by_contra hdecodes
      obtain ⟨decoded, hdecoded⟩ := Option.ne_none_iff_exists'.mp hdecodes
      have hmem' := h.journals id [] hjournal event (hlimit ▸ hevent) decoded hdecoded
      exact absurd hmem' List.not_mem_nil

/-- **One bad row does not hide the others exactly if** there is no bad row: whatever
decodes, every restart lists every row with its events if and only if the metadata
texts are JSON, those that decode are about their own sessions, and the retained
event texts of each session all are JSON, or none of them decodes. -/
theorem lists_rows_iff :
    (∀ (C : Type) [AcpSession C] (env : Env) (ticks : Nat) (adapters : AdapterRegistry C),
      ListsRows store (SessionManager.new env ticks adapters store journalLimit : World _ C)) ↔
      Readable store journalLimit := by
  constructor
  · intro h
    exact readable_of_listsRows (h ScriptedAgent sampleEnv 0 [])
  · intro h C _ env ticks adapters
    exact h.listsRows env ticks adapters

end

end

/-! ## a sample database -/

/-- `serde_json` on the texts of the sample. -/
def sampleText : JsonText where
  fromStr text :=
    if text = "null" then .ok .null else .error "expected value at line 1 column 1"
  toString _ := "null"

def sampleTextRow (sessionId : SessionId) (metadata : String) : SessionRow where
  sessionId := sessionId
  metadata := metadata
  lastSequence := 0
  createdAtMs := 0
  updatedAtMs := 0

/-- Two rows without records; the text of one is no JSON. -/
def sampleBadRows : TextStore sampleText where
  eventLimit := 0
  sessions := ((∅ : AList fun _ : SessionId => SessionRow).insert "a" (sampleTextRow "a" "null")).insert
    "b" (sampleTextRow "b" "?")
  events := ∅
  keyed := fun id row h => by
    rcases lookup_insert_eq_some h with ⟨rfl, rfl⟩ | ⟨-, hold⟩
    · rfl
    · rcases lookup_insert_eq_some hold with ⟨rfl, rfl⟩ | ⟨-, hnone⟩
      · rfl
      · rw [AList.lookup_empty] at hnone
        contradiction

/-- The bad row hides both. -/
theorem bad_row_hides_others :
    (SessionManager.new sampleEnv 0 [ScriptedAgent.adapter true] sampleBadRows 8).inner.sessions.keys =
        [] ∧
      (SessionManager.new sampleEnv 0 [ScriptedAgent.adapter true]
        sampleBadRows 8).inner.recovered.keys = [] ∧
      ¬ ListsRows sampleBadRows
        (SessionManager.new sampleEnv 0 [ScriptedAgent.adapter true] sampleBadRows 8) := by
  have hbad : ∀ json, sampleText.fromStr (sampleTextRow "b" "?").metadata ≠ .ok json := nofun
  have hb : sampleBadRows.sessions.lookup "b" = some (sampleTextRow "b" "?") := AList.lookup_insert _
  obtain ⟨error, herror⟩ := TextStore.listSessions_error hb hbad
  rw [new_of_error herror]
  refine ⟨rfl, rfl, fun h => ?_⟩
  rcases h.listed "b" _ hb with ⟨session, hsession, -⟩ | ⟨session, hsession, -⟩
  · exact SessionManager.lookup_sessions_starting_ne "b" session hsession
  · exact SessionManager.lookup_recovered_starting_ne "b" session hsession

end Slight
