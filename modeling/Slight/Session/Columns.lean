import Slight.Session.BadRows

/-!
# Slight.Session.Columns

The database by its columns.  `ColumnStore` is the SQLite store statement by
statement: `u64` and `usize` values are cast to the signed 64-bit integers of the
columns and back, all sessions share one table of events, and values are stored as
texts.  SQLite computes with 64-bit integers; what leaves their range becomes a
`REAL`, which is left to a parameter (`SqlArithmetic`).

`trimming_keeps_window` says what the event limit leaves of a session's events.
-/

namespace Slight

open Support Program

/-! ## casts -/

/-- `n as i64` of a `u64`. -/
def asI64 (n : Nat) : Int :=
  if n % 2 ^ 64 < 2 ^ 63 then (n % 2 ^ 64 : Nat) else (n % 2 ^ 64 : Nat) - 2 ^ 64

/-- `i as u64` of an `i64`. -/
def asU64 (i : Int) : Nat := (i % 2 ^ 64).toNat

theorem asI64_of_lt {n : Nat} (h : n < 2 ^ 63) : asI64 n = n := by
  rw [asI64, Nat.mod_eq_of_lt (by omega), if_pos h]

theorem asI64_of_le {n : Nat} (h : 2 ^ 63 ≤ n) (h' : n < 2 ^ 64) : asI64 n = n - 2 ^ 64 := by
  rw [asI64, Nat.mod_eq_of_lt h', if_neg (by omega)]

/-- Casting there and back. -/
theorem asU64_asI64 {n : Nat} (h : n < 2 ^ 64) : asU64 (asI64 n) = n := by
  by_cases hlow : n < 2 ^ 63
  · rw [asI64_of_lt hlow, asU64]
    omega
  · rw [asI64_of_le (by omega) h, asU64]
    omega

/-- SQLite's subtraction. -/
structure SqlArithmetic where
  sub : Int → Int → Int
  /-- A difference in the range of 64-bit integers is exact. -/
  sub_eq : ∀ a b, -2 ^ 63 ≤ a - b → a - b < 2 ^ 63 → sub a b = a - b

/-! ## tables -/

/-- A row of `sessions`. -/
structure SessionColumns where
  sessionId : SessionId
  metadata : String
  lastSequence : Int
  createdAtMs : Int
  updatedAtMs : Int

/-- A row of `events`. -/
structure EventColumns where
  sessionId : SessionId
  sequence : Int
  event : String

/-- The database, opened with an event limit. -/
structure ColumnStore (text : JsonText) (sql : SqlArithmetic) where
  eventLimit : Nat
  sessions : AList fun _ : SessionId => SessionColumns
  events : List EventColumns

/-- The row a session is stored as. -/
def StoredSession.columns (text : JsonText) (session : StoredSession) : SessionColumns where
  sessionId := session.sessionId
  metadata := text.toString session.metadata
  lastSequence := asI64 session.lastSequence
  createdAtMs := session.createdAtMs
  updatedAtMs := session.updatedAtMs

/-- The row an event is stored as. -/
def StoredEvent.columns (text : JsonText) (sessionId : SessionId) (event : StoredEvent) :
    EventColumns where
  sessionId := sessionId
  sequence := asI64 event.sequence
  event := text.toString event.event

/-- `read_session` -/
def SessionColumns.read (text : JsonText) (row : SessionColumns) :
    Except StoreError StoredSession :=
  match text.fromStr row.metadata with
  | .ok metadata =>
      .ok {
        sessionId := row.sessionId
        metadata
        lastSequence := asU64 row.lastSequence
        createdAtMs := row.createdAtMs
        updatedAtMs := row.updatedAtMs }
  | .error error => .error (.other error)

def EventColumns.read (text : JsonText) (row : EventColumns) : Except StoreError StoredEvent :=
  match text.fromStr row.event with
  | .ok event => .ok { sequence := asU64 row.sequence, event }
  | .error error => .error (.other error)

/-- `COALESCE(MAX(sequence), 0)` -/
def maxSequence (rows : List EventColumns) : Int := (rows.map (·.sequence)).max?.getD 0

/-- `LIMIT`; a negative limit is none. -/
def limited (limit : Int) (rows : List EventColumns) : List EventColumns :=
  if limit < 0 then rows else rows.take limit.toNat

namespace ColumnStore

variable {text : JsonText} {sql : SqlArithmetic}

/-- A fresh database. -/
def empty (text : JsonText) (sql : SqlArithmetic) (eventLimit : Nat) : ColumnStore text sql where
  eventLimit := eventLimit
  sessions := ∅
  events := []

/-- The rows of `events` of a session. -/
def rows (store : ColumnStore text sql) (sessionId : SessionId) : List EventColumns :=
  store.events.filter fun row => row.sessionId = sessionId

def upsertSession (store : ColumnStore text sql) (session : StoredSession) :
    ColumnStore text sql :=
  { store with sessions := store.sessions.insert session.sessionId (session.columns text) }

def insertEvent (store : ColumnStore text sql) (sessionId : SessionId) (event : StoredEvent) :
    ColumnStore text sql :=
  { store with events := store.events ++ [event.columns text sessionId] }

/-- The deletion after an insertion. -/
def trim (store : ColumnStore text sql) (sessionId : SessionId) : ColumnStore text sql :=
  if 0 < store.eventLimit then
    let bound := sql.sub (maxSequence (store.rows sessionId)) (asI64 store.eventLimit)
    { store with
      events := store.events.filter fun row =>
        ¬(row.sessionId = sessionId ∧ row.sequence ≤ bound) }
  else store

/-- Insertion and deletion are one transaction. -/
def appendEvent (store : ColumnStore text sql) (sessionId : SessionId) (event : StoredEvent) :
    Except StoreError (ColumnStore text sql) :=
  if (store.rows sessionId).any fun row => row.sequence = asI64 event.sequence then
    .error (.other "UNIQUE constraint failed: events.session_id, events.sequence")
  else if sessionId ∈ store.sessions then
    .ok ((store.insertEvent sessionId event).trim sessionId)
  else .error (.other "FOREIGN KEY constraint failed")

instance : SessionStore (ColumnStore text sql) where
  upsertSession store session := .ok (store.upsertSession session)
  getSession store sessionId :=
    match store.sessions.lookup sessionId with
    | none => .ok none
    | some row => (row.read text).map some
  listSessions store :=
    ((store.sessions.entries.map Sigma.snd).insertionSort fun a b =>
      a.createdAtMs ≤ b.createdAtMs).mapM (·.read text)
  appendEvent store sessionId event := store.appendEvent sessionId event
  eventsAfter store sessionId after limit :=
    (limited (asI64 limit)
      (((store.rows sessionId).filter fun row => asI64 (after.getD 0) < row.sequence).insertionSort
        fun a b => a.sequence ≤ b.sequence)).mapM (·.read text)
  latestSequence store sessionId := .ok (asU64 (maxSequence (store.rows sessionId)))

/-! ## one append -/

section

variable {store store' : ColumnStore text sql} {sessionId : SessionId} {event : StoredEvent}

/-- What a successful append does. -/
theorem appendEvent_ok (h : store.appendEvent sessionId event = .ok store') :
    sessionId ∈ store.sessions ∧
      store' = (store.insertEvent sessionId event).trim sessionId := by
  unfold appendEvent at h
  split at h
  · contradiction
  · split at h
    · next hmem => exact ⟨hmem, (Except.ok.inj h).symm⟩
    · contradiction

/-- An event with a new sequence number of a known session is appended. -/
theorem appendEvent_of_new
    (hnew : ∀ row ∈ store.rows sessionId, row.sequence ≠ asI64 event.sequence)
    (hmem : sessionId ∈ store.sessions) :
    store.appendEvent sessionId event = .ok ((store.insertEvent sessionId event).trim sessionId) := by
  have hany : ¬ ((store.rows sessionId).any fun row => row.sequence = asI64 event.sequence) := by
    rw [List.any_eq_true]
    rintro ⟨row, hrow, hsequence⟩
    exact hnew row hrow (of_decide_eq_true hsequence)
  rw [appendEvent, if_neg hany, if_pos hmem]

@[simp] theorem eventLimit_trim (store : ColumnStore text sql) (sessionId : SessionId) :
    (store.trim sessionId).eventLimit = store.eventLimit := by
  unfold trim
  split <;> rfl

@[simp] theorem sessions_trim (store : ColumnStore text sql) (sessionId : SessionId) :
    (store.trim sessionId).sessions = store.sessions := by
  unfold trim
  split <;> rfl

/-- Trimming is about one session. -/
theorem rows_trim_of_ne (store : ColumnStore text sql) {other : SessionId}
    (h : other ≠ sessionId) : (store.trim sessionId).rows other = store.rows other := by
  unfold trim
  split
  · rw [rows, rows, List.filter_filter]
    refine List.filter_congr fun row _ => ?_
    by_cases hrow : row.sessionId = other
    · rw [decide_eq_true hrow, Bool.true_and, decide_eq_true_eq]
      exact fun hboth => h (hrow.symm.trans hboth.1)
    · rw [decide_eq_false hrow, Bool.false_and]
  · rfl

theorem rows_trim (store : ColumnStore text sql) (hlimit : 0 < store.eventLimit) :
    (store.trim sessionId).rows sessionId =
      (store.rows sessionId).filter fun row =>
        sql.sub (maxSequence (store.rows sessionId)) (asI64 store.eventLimit) < row.sequence := by
  rw [trim, if_pos hlimit, rows, List.filter_filter, rows, List.filter_filter]
  refine List.filter_congr fun row _ => ?_
  by_cases hrow : row.sessionId = sessionId
  · rw [decide_eq_true hrow, Bool.true_and, Bool.and_true, decide_eq_decide]
    rw [not_and, Int.not_le]
    exact ⟨fun h => h hrow, fun h _ => h⟩
  · rw [decide_eq_false hrow, Bool.false_and, Bool.and_false]

theorem rows_insertEvent_self (store : ColumnStore text sql) (sessionId : SessionId)
    (event : StoredEvent) :
    (store.insertEvent sessionId event).rows sessionId =
      store.rows sessionId ++ [event.columns text sessionId] := by
  rw [rows, insertEvent, List.filter_append]
  refine congrArg (_ ++ ·) (List.filter_eq_self.mpr fun row hrow => ?_)
  rw [List.mem_singleton.mp hrow]
  exact decide_eq_true rfl

theorem rows_insertEvent_of_ne (store : ColumnStore text sql) (event : StoredEvent)
    {other : SessionId} (h : other ≠ sessionId) :
    (store.insertEvent sessionId event).rows other = store.rows other := by
  have hnone : [event.columns text sessionId].filter (fun row => row.sessionId = other) = [] := by
    refine List.filter_eq_nil_iff.mpr fun row hrow => ?_
    rw [List.mem_singleton.mp hrow]
    exact fun hdecide => h (of_decide_eq_true hdecide).symm
  rw [rows, insertEvent, List.filter_append, hnone, List.append_nil, rows]

end

end ColumnStore

/-! ## the window -/

/-- The events less than `limit` below the last; a limit of 0 keeps all. -/
def window (limit : Nat) (events : List StoredEvent) : List StoredEvent :=
  if 0 < limit then events.filter fun event => lastRow events < event.sequence + limit
  else events

theorem lastRow_concat (events : List StoredEvent) (event : StoredEvent) :
    lastRow (events ++ [event]) = event.sequence := by
  rw [lastRow, List.getLast?_concat, Option.map_some, Option.getD_some]

theorem mem_of_mem_window {limit : Nat} {events : List StoredEvent} {event : StoredEvent}
    (h : event ∈ window limit events) : event ∈ events := by
  unfold window at h
  split at h
  · exact (List.mem_filter.mp h).1
  · exact h

/-- An increasing list moves its window. -/
theorem window_concat {limit : Nat} (hlimit : 0 < limit) {events : List StoredEvent}
    {event : StoredEvent} (hlast : ∀ earlier ∈ events, earlier.sequence < event.sequence) :
    window limit (events ++ [event]) =
      (window limit events ++ [event]).filter fun kept => event.sequence < kept.sequence + limit := by
  have hle : lastRow events ≤ event.sequence := by
    rcases List.eq_nil_or_concat events with rfl | ⟨front, last, rfl⟩
    · exact Nat.zero_le _
    · rw [List.concat_eq_append, lastRow_concat]
      exact Nat.le_of_lt (hlast last (by simp))
  rw [window, if_pos hlimit, window, if_pos hlimit, lastRow_concat, List.filter_append,
    List.filter_append, List.filter_filter]
  refine congrArg (· ++ _) (List.filter_congr fun kept _ => ?_)
  by_cases hkept : event.sequence < kept.sequence + limit
  · rw [decide_eq_true hkept, decide_eq_true (by omega), Bool.and_self]
  · rw [decide_eq_false hkept, Bool.false_and]

/-- The casts of sequence numbers are off by the same amount, and what is `limit`
below one of them is a 64-bit integer still. -/
def Aligned (limit : Nat) (events : List StoredEvent) : Prop :=
  ∃ offset : Int, ∀ event ∈ events, asI64 event.sequence = event.sequence - offset ∧
    -2 ^ 63 ≤ (event.sequence : Int) - offset - limit ∧ (event.sequence : Int) - offset < 2 ^ 63

namespace Aligned

variable {limit : Nat} {events : List StoredEvent}

theorem of_lt (hlimit : limit < 2 ^ 63) (h : ∀ event ∈ events, event.sequence < 2 ^ 63) :
    Aligned limit events := by
  refine ⟨0, fun event hevent => ?_⟩
  have hsmall := h event hevent
  rw [asI64_of_lt hsmall]
  omega

theorem of_le (h : ∀ event ∈ events, 2 ^ 63 + limit ≤ event.sequence)
    (hu64 : ∀ event ∈ events, event.sequence < 2 ^ 64) : Aligned limit events := by
  refine ⟨2 ^ 64, fun event hevent => ?_⟩
  have hlarge := h event hevent
  have hrange := hu64 event hevent
  rw [asI64_of_le (by omega) hrange]
  omega

theorem mono {events' : List StoredEvent} (h : Aligned limit events)
    (hsubset : ∀ event ∈ events', event ∈ events) : Aligned limit events' := by
  obtain ⟨offset, hoffset⟩ := h
  exact ⟨offset, fun event hevent => hoffset event (hsubset event hevent)⟩

theorem lt_iff (h : Aligned limit events) {event event' : StoredEvent} (hevent : event ∈ events)
    (hevent' : event' ∈ events) :
    asI64 event.sequence < asI64 event'.sequence ↔ event.sequence < event'.sequence := by
  obtain ⟨offset, hoffset⟩ := h
  rw [(hoffset event hevent).1, (hoffset event' hevent').1]
  omega

end Aligned

/-- The last of aligned increasing events has the highest column. -/
theorem maxSequence_concat {text : JsonText} {sessionId : SessionId} {limit : Nat}
    {events : List StoredEvent} {event : StoredEvent}
    (hlast : ∀ earlier ∈ events, earlier.sequence < event.sequence)
    (haligned : Aligned limit (events ++ [event])) :
    maxSequence ((events ++ [event]).map (·.columns text sessionId)) = asI64 event.sequence := by
  have hmax : (((events ++ [event]).map (·.columns text sessionId)).map (·.sequence)).max? =
      some (asI64 event.sequence) := by
    refine List.max?_eq_some_iff.mpr ⟨?_, fun column hcolumn => ?_⟩
    · rw [List.map_append, List.map_append]
      exact List.mem_append_right _ List.mem_cons_self
    · rw [List.map_map] at hcolumn
      obtain ⟨other, hother, rfl⟩ := List.mem_map.mp hcolumn
      show asI64 other.sequence ≤ asI64 event.sequence
      rcases List.mem_append.mp hother with hearlier | hself
      · have hlt := (haligned.lt_iff hother (by simp)).mpr (hlast other hearlier)
        omega
      · rw [List.mem_singleton.mp hself]
  rw [maxSequence, hmax, Option.getD_some]

namespace ColumnStore

variable {text : JsonText} {sql : SqlArithmetic} {store : ColumnStore text sql}
  {sessionId : SessionId} {events : List StoredEvent} {event : StoredEvent}

/-- The next event of an increasing list is new. -/
theorem new_of_increasing
    (hrows : store.rows sessionId =
      (window store.eventLimit events).map (·.columns text sessionId))
    (hlast : ∀ earlier ∈ events, earlier.sequence < event.sequence)
    (haligned : Aligned store.eventLimit (events ++ [event])) :
    ∀ row ∈ store.rows sessionId, row.sequence ≠ asI64 event.sequence := by
  intro row hrow
  rw [hrows] at hrow
  obtain ⟨earlier, hearlier, rfl⟩ := List.mem_map.mp hrow
  have hmem := mem_of_mem_window hearlier
  have hlt := (haligned.lt_iff (List.mem_append_left _ hmem) (by simp)).mpr (hlast earlier hmem)
  exact Int.ne_of_lt hlt

/-- **One append** moves the window of its session. -/
theorem rows_append (hlimit : store.eventLimit < 2 ^ 63)
    (hrows : store.rows sessionId =
      (window store.eventLimit events).map (·.columns text sessionId))
    (hlast : ∀ earlier ∈ events, earlier.sequence < event.sequence)
    (haligned : Aligned store.eventLimit (events ++ [event])) :
    ((store.insertEvent sessionId event).trim sessionId).rows sessionId =
      (window store.eventLimit (events ++ [event])).map (·.columns text sessionId) := by
  have hinserted : (store.insertEvent sessionId event).rows sessionId =
      (window store.eventLimit events ++ [event]).map (·.columns text sessionId) := by
    rw [rows_insertEvent_self, hrows, List.map_append, List.map_singleton]
  by_cases hpositive : 0 < store.eventLimit
  · rw [rows_trim (store.insertEvent sessionId event) hpositive, hinserted,
      window_concat hpositive hlast, List.filter_map]
    refine congrArg (List.map _) (List.filter_congr fun kept hkept => ?_)
    have hmem : kept ∈ events ++ [event] := by
      rcases List.mem_append.mp hkept with hkept | hkept
      · exact List.mem_append_left _ (mem_of_mem_window hkept)
      · exact List.mem_append_right _ hkept
    have hmax : maxSequence
        ((window store.eventLimit events ++ [event]).map (·.columns text sessionId)) =
          asI64 event.sequence := by
      refine maxSequence_concat (fun earlier hearlier => hlast earlier (mem_of_mem_window hearlier))
        (haligned.mono fun other hother => ?_)
      rcases List.mem_append.mp hother with hother | hother
      · exact List.mem_append_left _ (mem_of_mem_window hother)
      · exact List.mem_append_right _ hother
    obtain ⟨offset, hoffset⟩ := haligned
    obtain ⟨hevent, hlow, hhigh⟩ := hoffset event (by simp)
    have hbound : sql.sub (asI64 event.sequence) (asI64 store.eventLimit) =
        event.sequence - offset - store.eventLimit := by
      rw [sql.sub_eq, hevent, asI64_of_lt hlimit]
      · rw [hevent, asI64_of_lt hlimit]
        exact hlow
      · rw [hevent, asI64_of_lt hlimit]
        omega
    rw [hmax]
    show decide (sql.sub (asI64 event.sequence) (asI64 store.eventLimit) <
      asI64 kept.sequence) = _
    rw [hbound, (hoffset kept hmem).1, decide_eq_decide]
    omega
  · have hall : ∀ events, window store.eventLimit events = events := fun events => by
      rw [window, if_neg hpositive]
    rw [hall] at hinserted ⊢
    have hkept : (store.insertEvent sessionId event).trim sessionId =
        store.insertEvent sessionId event := if_neg hpositive
    rw [hkept, hinserted]

end ColumnStore

/-! ## a run of appends -/

/-- The events a run of calls appends to a session. -/
def appendedOf (sessionId : SessionId) (calls : List (SessionId × StoredEvent)) :
    List StoredEvent :=
  (calls.filter fun call => call.1 = sessionId).map (·.2)

theorem appendedOf_concat_self (sessionId : SessionId) (calls : List (SessionId × StoredEvent))
    (event : StoredEvent) :
    appendedOf sessionId (calls ++ [(sessionId, event)]) = appendedOf sessionId calls ++ [event] := by
  rw [appendedOf, List.filter_append, List.map_append, appendedOf]
  simp

theorem appendedOf_concat_of_ne {sessionId other : SessionId} (h : sessionId ≠ other)
    (calls : List (SessionId × StoredEvent)) (event : StoredEvent) :
    appendedOf other (calls ++ [(sessionId, event)]) = appendedOf other calls := by
  rw [appendedOf, List.filter_append, List.filter_cons_of_neg (by simpa using h), List.filter_nil,
    List.append_nil, appendedOf]

namespace ColumnStore

variable {text : JsonText} {sql : SqlArithmetic}

/-- Appends one event after the other; a call that fails changes nothing. -/
def appendAll (store : ColumnStore text sql) (calls : List (SessionId × StoredEvent)) :
    ColumnStore text sql :=
  calls.foldl (fun store call => StoreWrite.apply store (.appendEvent call.1 call.2)) store

theorem appendAll_concat (store : ColumnStore text sql) (calls : List (SessionId × StoredEvent))
    (sessionId : SessionId) (event : StoredEvent) :
    store.appendAll (calls ++ [(sessionId, event)]) =
      StoreWrite.apply (store.appendAll calls) (.appendEvent sessionId event) :=
  List.foldl_concat _ _ _ _

theorem apply_appendEvent_ok {store store' : ColumnStore text sql} {sessionId : SessionId}
    {event : StoredEvent} (h : store.appendEvent sessionId event = .ok store') :
    StoreWrite.apply store (.appendEvent sessionId event) = store' := by
  have houtcome : SessionStore.appendEvent store sessionId event = .ok store' := h
  rw [StoreWrite.apply, houtcome]

theorem apply_appendEvent_of_notMem {store : ColumnStore text sql} {sessionId : SessionId}
    (h : sessionId ∉ store.sessions) (event : StoredEvent) :
    StoreWrite.apply store (.appendEvent sessionId event) = store := by
  cases happend : store.appendEvent sessionId event with
  | ok store' => exact absurd (appendEvent_ok happend).1 h
  | error error =>
      have houtcome : SessionStore.appendEvent store sessionId event = .error error := happend
      rw [StoreWrite.apply, houtcome]

/-- What a run of appends leaves: the sessions as they were, and of each the window of
its events. -/
structure Windowed (start : ColumnStore text sql) (calls : List (SessionId × StoredEvent))
    (store : ColumnStore text sql) : Prop where
  eventLimit : store.eventLimit = start.eventLimit
  sessions : store.sessions = start.sessions
  rows : ∀ id ∈ start.sessions,
    store.rows id = (window start.eventLimit (appendedOf id calls)).map (·.columns text id)

/-- A step of the run. -/
theorem Windowed.append {start store : ColumnStore text sql}
    {calls : List (SessionId × StoredEvent)} (h : Windowed start calls store)
    (hlimit : start.eventLimit < 2 ^ 63) {id : SessionId} {event : StoredEvent}
    (hincreasing : (appendedOf id (calls ++ [(id, event)])).Pairwise fun a b =>
      a.sequence < b.sequence)
    (haligned : Aligned start.eventLimit (appendedOf id (calls ++ [(id, event)]))) :
    Windowed start (calls ++ [(id, event)]) (StoreWrite.apply store (.appendEvent id event)) := by
  by_cases hmem : id ∈ start.sessions
  · have hrows := h.rows id hmem
    rw [appendedOf_concat_self] at hincreasing haligned
    rw [← h.eventLimit] at hrows haligned hlimit
    have hlast : ∀ earlier ∈ appendedOf id calls, earlier.sequence < event.sequence :=
      fun earlier hearlier =>
        (List.pairwise_append.mp hincreasing).2.2 earlier hearlier event List.mem_cons_self
    rw [apply_appendEvent_ok (appendEvent_of_new (new_of_increasing hrows hlast haligned)
      (h.sessions ▸ hmem))]
    constructor
    · rw [eventLimit_trim]
      exact h.eventLimit
    · rw [sessions_trim]
      exact h.sessions
    · intro other hother
      by_cases heq : other = id
      · subst heq
        rw [rows_append hlimit hrows hlast haligned, appendedOf_concat_self, h.eventLimit]
      · rw [rows_trim_of_ne _ heq, rows_insertEvent_of_ne store event heq, h.rows other hother,
          appendedOf_concat_of_ne (Ne.symm heq)]
  · rw [apply_appendEvent_of_notMem (h.sessions ▸ hmem)]
    refine ⟨h.eventLimit, h.sessions, fun other hother => ?_⟩
    have hne : id ≠ other := fun heq => hmem (heq ▸ hother)
    rw [h.rows other hother, appendedOf_concat_of_ne hne]

theorem windowed_appendAll {start : ColumnStore text sql} (hempty : start.events = [])
    (hlimit : start.eventLimit < 2 ^ 63) {calls : List (SessionId × StoredEvent)}
    (hincreasing : ∀ id, (appendedOf id calls).Pairwise fun a b => a.sequence < b.sequence)
    (haligned : ∀ id, Aligned start.eventLimit (appendedOf id calls)) :
    Windowed start calls (start.appendAll calls) := by
  induction calls using List.reverseRecOn with
  | nil =>
      refine ⟨rfl, rfl, fun id _ => ?_⟩
      show start.rows id = _
      rw [rows, hempty]
      unfold window
      split <;> rfl
  | append_singleton calls call ih =>
      have hbegins : ∀ id, (appendedOf id calls).Sublist (appendedOf id (calls ++ [call])) :=
        fun id => ((List.sublist_append_left calls [call]).filter _).map _
      have hbefore := ih (fun id => (hincreasing id).sublist (hbegins id))
        (fun id => (haligned id).mono fun event hevent => (hbegins id).subset hevent)
      rw [appendAll_concat]
      exact hbefore.append hlimit (hincreasing call.1) (haligned call.1)

end ColumnStore

/-- An append that succeeded leaves, of the events of its session, exactly those less
than the limit below the highest; the appended event is one of them and the highest,
and the other sessions keep theirs. -/
structure KeepsWindow {text : JsonText} {sql : SqlArithmetic} (sessionId : SessionId)
    (appended : List StoredEvent) (event : StoredEvent)
    (store store' : ColumnStore text sql) : Prop where
  kept : store'.rows sessionId =
    (appended.filter fun kept => event.sequence < kept.sequence + store.eventLimit).map
      (·.columns text sessionId)
  highest : ∀ other ∈ appended, other.sequence ≤ event.sequence
  keepsLast : event.columns text sessionId ∈ store'.rows sessionId
  latest : SessionStore.latestSequence store' sessionId = .ok event.sequence
  others : ∀ other, other ≠ sessionId → store'.rows other = store.rows other

/-- **Trimming keeps the newest window**: in every run of appends whose sequence
numbers increase for each session, and for each session lie all below `2 ^ 63` or
all at least the limit above it. -/
theorem trimming_keeps_window {text : JsonText} {sql : SqlArithmetic}
    {start : ColumnStore text sql} (hempty : start.events = [])
    (hpositive : 0 < start.eventLimit) (hlimit : start.eventLimit < 2 ^ 63)
    {calls : List (SessionId × StoredEvent)} {id : SessionId} {event : StoredEvent}
    (hincreasing : ∀ other, (appendedOf other (calls ++ [(id, event)])).Pairwise fun a b =>
      a.sequence < b.sequence)
    (hu64 : ∀ call ∈ calls ++ [(id, event)], call.2.sequence < 2 ^ 64)
    (hside : ∀ other,
      (∀ appended ∈ appendedOf other (calls ++ [(id, event)]), appended.sequence < 2 ^ 63) ∨
        ∀ appended ∈ appendedOf other (calls ++ [(id, event)]),
          2 ^ 63 + start.eventLimit ≤ appended.sequence)
    {store' : ColumnStore text sql}
    (hok : (start.appendAll calls).appendEvent id event = .ok store') :
    KeepsWindow id (appendedOf id (calls ++ [(id, event)])) event (start.appendAll calls) store' := by
  have haligned : ∀ other, Aligned start.eventLimit (appendedOf other (calls ++ [(id, event)])) := by
    intro other
    rcases hside other with hlow | hhigh
    · exact .of_lt hlimit hlow
    · refine .of_le hhigh fun appended happended => ?_
      obtain ⟨call, hcall, rfl⟩ := List.mem_map.mp happended
      exact hu64 call (List.mem_of_mem_filter hcall)
  have hbegins : ∀ other,
      (appendedOf other calls).Sublist (appendedOf other (calls ++ [(id, event)])) :=
    fun other => ((List.sublist_append_left calls _).filter _).map _
  have hbefore := ColumnStore.windowed_appendAll hempty hlimit
    (fun other => (hincreasing other).sublist (hbegins other))
    (fun other => (haligned other).mono fun appended happended =>
      (hbegins other).subset happended)
  have hafter := hbefore.append hlimit (hincreasing id) (haligned id)
  rw [ColumnStore.apply_appendEvent_ok hok] at hafter
  obtain ⟨hmem, hstore'⟩ := ColumnStore.appendEvent_ok hok
  have hrows := hafter.rows id (hbefore.sessions ▸ hmem)
  have hincreasing := hincreasing id
  have haligned := haligned id
  rw [appendedOf_concat_self] at hrows hincreasing haligned ⊢
  have hlast : ∀ earlier ∈ appendedOf id calls, earlier.sequence < event.sequence :=
    fun earlier hearlier =>
      (List.pairwise_append.mp hincreasing).2.2 earlier hearlier event List.mem_cons_self
  have hwindow : window start.eventLimit (appendedOf id calls ++ [event]) =
      (appendedOf id calls ++ [event]).filter fun kept =>
        event.sequence < kept.sequence + start.eventLimit := by
    rw [window, if_pos hpositive, lastRow_concat]
  have hsplit : window start.eventLimit (appendedOf id calls ++ [event]) =
      (appendedOf id calls).filter (fun kept => event.sequence < kept.sequence + start.eventLimit) ++
        [event] := by
    rw [hwindow, List.filter_append, List.filter_cons_of_pos, List.filter_nil]
    exact decide_eq_true (by omega)
  constructor
  · rw [hrows, hwindow, hbefore.eventLimit]
  · intro other hother
    rcases List.mem_append.mp hother with hother | hother
    · exact Nat.le_of_lt (hlast other hother)
    · rw [List.mem_singleton.mp hother]
  · rw [hrows, hsplit, List.map_append]
    exact List.mem_append_right _ List.mem_cons_self
  · have hmax : maxSequence (store'.rows id) = asI64 event.sequence := by
      rw [hrows, hsplit]
      refine maxSequence_concat (fun earlier hearlier =>
        hlast earlier (List.mem_of_mem_filter hearlier)) (haligned.mono fun other hother => ?_)
      rcases List.mem_append.mp hother with hother | hother
      · exact List.mem_append_left _ (List.mem_of_mem_filter hother)
      · exact List.mem_append_right _ hother
    show Except.ok (asU64 (maxSequence (store'.rows id))) = _
    rw [hmax, asU64_asI64 (hu64 (id, event) (by simp))]
  · intro other hother
    rw [hstore', ColumnStore.rows_trim_of_ne _ hother,
      ColumnStore.rows_insertEvent_of_ne _ event hother]

/-- Subtraction, where nothing leaves the range. -/
def SqlArithmetic.exact : SqlArithmetic where
  sub a b := a - b
  sub_eq _ _ _ _ := rfl

/-- A database with two sessions and an event limit. -/
def sampleColumns (eventLimit : Nat) : ColumnStore sampleText .exact :=
  let session (sessionId : SessionId) : StoredSession := {
    sessionId
    metadata := .null
    lastSequence := 0
    createdAtMs := 0
    updatedAtMs := 0 }
  ((ColumnStore.empty sampleText .exact eventLimit).upsertSession (session "a")).upsertSession
    (session "b")

/-- With a limit of 3, the events 1, 2 and 9 of one session become 9, those of the
other stay. -/
theorem trimming_keeps_window_gap :
    ∃ store', ((sampleColumns 3).appendAll [("a", ⟨1, .null⟩), ("b", ⟨1, .null⟩),
        ("a", ⟨2, .null⟩)]).appendEvent "a" ⟨9, .null⟩ = .ok store' ∧
      KeepsWindow "a" (appendedOf "a" ([("a", ⟨1, .null⟩), ("b", ⟨1, .null⟩), ("a", ⟨2, .null⟩)] ++
          [("a", ⟨9, .null⟩)])) ⟨9, .null⟩
        ((sampleColumns 3).appendAll [("a", ⟨1, .null⟩), ("b", ⟨1, .null⟩), ("a", ⟨2, .null⟩)])
        store' := by
  have hcalls : ∀ other, appendedOf other ([("a", ⟨1, .null⟩), ("b", ⟨1, .null⟩),
      ("a", ⟨2, .null⟩)] ++ [("a", ⟨9, .null⟩)]) =
        (if other = "a" then [⟨1, .null⟩, ⟨2, .null⟩, ⟨9, .null⟩] else
          if other = "b" then [⟨1, .null⟩] else []) := by
    intro other
    by_cases ha : other = "a"
    · subst ha
      rfl
    · by_cases hb : other = "b"
      · subst hb
        rfl
      · simp [appendedOf, ha, hb, Ne.symm ha, Ne.symm hb]
  refine ⟨_, rfl, trimming_keeps_window rfl (by decide) (by decide) (fun other => ?_) ?_
    (fun other => .inl ?_) rfl⟩
  · rw [hcalls]
    split
    · simp
    · split <;> simp
  · simp
  · rw [hcalls]
    split
    · simp
    · split <;> simp

/-- With a limit of 3, the events 5 and `2 ^ 63` of a session become 5: the new event
is stored as the lowest number. -/
theorem trimming_loses_event :
    ∃ store', ((sampleColumns 3).appendAll [("a", ⟨5, .null⟩)]).appendEvent "a"
        ⟨2 ^ 63, .null⟩ = .ok store' ∧
      store'.rows "a" = [(⟨5, .null⟩ : StoredEvent).columns sampleText "a"] ∧
      SessionStore.latestSequence store' "a" = .ok 5 ∧
      ¬ KeepsWindow "a" [⟨5, .null⟩, ⟨2 ^ 63, .null⟩] ⟨2 ^ 63, .null⟩
        ((sampleColumns 3).appendAll [("a", ⟨5, .null⟩)]) store' := by
  refine ⟨_, rfl, rfl, rfl, fun h => ?_⟩
  have hlatest := Except.ok.inj (h.latest.symm.trans (rfl : _ = Except.ok 5))
  exact absurd hlatest (by decide)

end Slight
