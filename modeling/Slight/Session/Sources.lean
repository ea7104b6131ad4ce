import Slight.Session.Consistency
import Slight.Session.Growth

/-!
# Slight.Session.Sources

Where the events of a process come from.  Of every session, live or not, a process began
with some journal; since then events were appended to it, numbered on from the last
sequence.  What the manager retains of the session at any time is of these two.
-/

namespace Slight

open Support Program

variable {S C : Type}

/-! ## what is retained of a session -/

namespace World

/-- The events the manager retains of a session. -/
def journalOf (world : World S C) (id : SessionId) : List SequencedEvent :=
  (world.journal id).getD []

/-- The last sequence of a session. -/
def lastOf (world : World S C) (id : SessionId) : Nat :=
  ((world.summary id).map (·.lastSequence)).getD 0

/-- The session is known under its own id. -/
def NamedAt (world : World S C) (id : SessionId) : Prop :=
  ∀ summary ∈ world.summary id, summary.id = id

/-- No UUID that is still to be drawn names a session. -/
def Undrawn (world : World S C) : Prop :=
  ∀ n ≥ world.ticks, world.env.uuid n ∉ world.inner.sessions ∧
    world.env.uuid n ∉ world.inner.recovered

/-- From `world` to `world'` events with the next sequence numbers were appended to the
session, and its journal retains no others. -/
def Extends (id : SessionId) (world world' : World S C) : Prop :=
  ∃ more, world'.effects = world.effects ++ more ∧
    world'.journalOf id ⊆ world.journalOf id ++ appendedTo id more ∧
    world'.lastOf id = world.lastOf id + (appendedTo id more).length ∧
    (appendedTo id more).map (·.sequence) =
      List.range' (world.lastOf id + 1) (appendedTo id more).length ∧
    (world.NamedAt id → world'.NamedAt id)

section

variable {world world' world'' : World S C} {id sessionId : SessionId} {session : Session C}

theorem journalOf_of_lookup (h : world.inner.sessions.lookup id = some session) :
    world.journalOf id = session.journal := by
  rw [journalOf, journal, h]
  rfl

theorem summary_of_lookup (h : world.inner.sessions.lookup id = some session) :
    world.summary id = some session.summary := by
  rw [summary, h]

theorem lastOf_of_lookup (h : world.inner.sessions.lookup id = some session) :
    world.lastOf id = session.summary.lastSequence := by
  rw [lastOf, summary_of_lookup h, Option.map_some, Option.getD_some]

/-- Of a session that is not there nothing is retained. -/
theorem journalOf_of_summary_none (h : world.summary id = none) : world.journalOf id = [] := by
  rw [World.summary] at h
  rw [journalOf, journal]
  cases hlive : world.inner.sessions.lookup id with
  | some session =>
      rw [hlive] at h
      cases h
  | none =>
      rw [hlive] at h
      rw [Option.map_eq_none_iff.mp h]
      rfl

theorem Extends.trans (h : Extends id world world') (h' : Extends id world' world'') :
    Extends id world world'' := by
  obtain ⟨more, heffects, hjournal, hlast, hsequences, hnamed⟩ := h
  obtain ⟨more', heffects', hjournal', hlast', hsequences', hnamed'⟩ := h'
  refine ⟨more ++ more', ?_, fun event hmem => ?_, ?_, ?_, fun h => hnamed' (hnamed h)⟩
  · rw [heffects', heffects, List.append_assoc]
  · rw [appendedTo_append, ← List.append_assoc]
    rcases List.mem_append.mp (hjournal' hmem) with hmem | hmem
    · exact List.mem_append_left _ (hjournal hmem)
    · exact List.mem_append_right _ hmem
  · rw [hlast', hlast, appendedTo_append, List.length_append, Nat.add_assoc]
  · rw [appendedTo_append, List.map_append, List.length_append, hsequences, hsequences', hlast,
      ← List.range'_append_1]
    congr 2
    omega

/-- Nothing is appended, and what is retained of the session stays. -/
theorem Extends.of_idle {more : List Effect} (heffects : world'.effects = world.effects ++ more)
    (hmore : appendedTo id more = []) (hjournal : world'.journalOf id = world.journalOf id)
    (hlast : world'.lastOf id = world.lastOf id) (hnamed : world.NamedAt id → world'.NamedAt id) :
    Extends id world world' := by
  refine ⟨more, heffects, ?_, ?_, ?_, hnamed⟩
  · rw [hjournal]
    exact List.subset_append_left _ _
  · rw [hmore, hlast, List.length_nil, Nat.add_zero]
  · rw [hmore]
    rfl

/-- The sessions stay as they are. -/
theorem Extends.of_same {more : List Effect} (heffects : world'.effects = world.effects ++ more)
    (hmore : appendedTo id more = [])
    (hsessions : world'.inner.sessions = world.inner.sessions)
    (hrecovered : world'.inner.recovered = world.inner.recovered) : Extends id world world' := by
  have hjournal : world'.journalOf id = world.journalOf id := by
    rw [journalOf, journal, hsessions, hrecovered]
    rfl
  have hsummary : world'.summary id = world.summary id := by
    rw [summary, hsessions, hrecovered]
    rfl
  refine .of_idle heffects hmore hjournal ?_ ?_
  · rw [lastOf, hsummary]
    rfl
  · intro hnamed
    rw [NamedAt, hsummary]
    exact hnamed

theorem Extends.refl (id : SessionId) (world : World S C) : Extends id world world :=
  .of_idle (List.append_nil _).symm rfl rfl rfl fun h => h

/-! ## changes -/

theorem journalOf_setSession (world : World S C) (sessionId : SessionId) (session : Session C) :
    (world.setSession sessionId session).journalOf sessionId = session.journal :=
  journalOf_of_lookup (AList.lookup_insert _)

theorem summary_setSession (world : World S C) (sessionId : SessionId) (session : Session C) :
    (world.setSession sessionId session).summary sessionId = some session.summary :=
  summary_of_lookup (AList.lookup_insert _)

theorem journalOf_setSession_ne (world : World S C) (session : Session C) (h : id ≠ sessionId) :
    (world.setSession sessionId session).journalOf id = world.journalOf id := by
  rw [journalOf, journal, setSession, AList.lookup_insert_ne h]
  rfl

theorem summary_setSession_ne (world : World S C) (session : Session C) (h : id ≠ sessionId) :
    (world.setSession sessionId session).summary id = world.summary id := by
  rw [summary, setSession, AList.lookup_insert_ne h]
  rfl

theorem Extends.edit {session' : Session C}
    (hlookup : world.inner.sessions.lookup sessionId = some session)
    (hkeeps : session.Keeps session') : Extends id world (world.setSession sessionId session') := by
  have heffects : (world.setSession sessionId session').effects = world.effects ++ [] :=
    (List.append_nil _).symm
  by_cases hid : id = sessionId
  · subst hid
    refine .of_idle heffects rfl ?_ ?_ fun hnamed summary hsummary => ?_
    · rw [journalOf_setSession, journalOf_of_lookup hlookup, hkeeps.journal]
    · rw [lastOf, summary_setSession, lastOf_of_lookup hlookup]
      exact hkeeps.lastSequence_eq
    · rw [summary_setSession] at hsummary
      obtain ⟨title, archived, heq⟩ := hkeeps.summary
      rw [← Option.some.inj hsummary, heq]
      exact hnamed session.summary (summary_of_lookup hlookup)
  · refine .of_idle heffects rfl (journalOf_setSession_ne _ _ hid) ?_ ?_
    · rw [lastOf, summary_setSession_ne _ _ hid, lastOf]
    · rw [NamedAt, NamedAt, summary_setSession_ne _ _ hid]
      exact fun h => h

variable [SessionStore S]

theorem Extends.append (hlookup : world.inner.sessions.lookup sessionId = some session)
    (event : SessionEvent) :
    Extends id world (world.appended sessionId session (world.nextEvent session event)) := by
  have hset : (world.appended sessionId session (world.nextEvent session event)).inner.sessions =
      world.inner.sessions.insert sessionId
        (session.record world.inner.journalLimit (world.nextEvent session event)) := rfl
  by_cases hid : id = sessionId
  · subst hid
    have hlookup' : (world.appended id session (world.nextEvent session event)).inner.sessions.lookup
        id = some (session.record world.inner.journalLimit (world.nextEvent session event)) := by
      rw [hset, AList.lookup_insert]
    refine ⟨_, rfl, fun other hmem => ?_, ?_, ?_, fun hnamed summary hsummary => ?_⟩
    · rw [journalOf_of_lookup hlookup'] at hmem
      rw [appendedTo_appended, if_pos rfl, journalOf_of_lookup hlookup]
      exact (List.drop_sublist _ _).subset hmem
    · rw [appendedTo_appended, if_pos rfl, lastOf_of_lookup hlookup', lastOf_of_lookup hlookup]
      rfl
    · rw [appendedTo_appended, if_pos rfl, lastOf_of_lookup hlookup]
      rfl
    · rw [summary_of_lookup hlookup'] at hsummary
      rw [← Option.some.inj hsummary]
      exact hnamed session.summary (summary_of_lookup hlookup)
  · have hmore : appendedTo id [.appended sessionId (world.nextEvent session event),
        .wrote (.appendEvent sessionId (world.nextEvent session event).stored),
        .wrote (.upsertSession (session.record world.inner.journalLimit
          (world.nextEvent session event)).stored)] = [] := by
      rw [appendedTo_appended, if_neg (Ne.symm hid)]
    have hkept : (world.appended sessionId session
        (world.nextEvent session event)).inner.sessions.lookup id =
          world.inner.sessions.lookup id := by
      rw [hset, AList.lookup_insert_ne hid]
    have hjournal : (world.appended sessionId session (world.nextEvent session event)).journalOf id =
        world.journalOf id := by
      rw [journalOf, journal, hkept]
      rfl
    have hsummary : (world.appended sessionId session (world.nextEvent session event)).summary id =
        world.summary id := by
      rw [summary, hkept]
      rfl
    refine .of_idle rfl hmore hjournal ?_ fun hnamed => ?_
    · rw [lastOf, hsummary, lastOf]
    · rw [NamedAt, hsummary]
      exact hnamed

/-- A session is registered under an id that names none. -/
theorem Extends.registered (h : world.Undrawn) {build : SessionId → Session C}
    (hfresh : ∀ id, (build id).Fresh id) : Extends id world (world.registered build) := by
  obtain ⟨hnew, hlost⟩ := h world.ticks (Nat.le_refl _)
  have heffects : (world.registered build).effects = world.effects ++
      [.wrote (.upsertSession (build (world.env.uuid world.ticks)).stored)] := rfl
  by_cases hid : id = world.env.uuid world.ticks
  · have hlookup : (world.registered build).inner.sessions.lookup id =
        some (build (world.env.uuid world.ticks)) := by
      rw [hid]
      exact AList.lookup_insert _
    have hnone : world.inner.sessions.lookup id = none :=
      AList.lookup_eq_none.mpr (hid ▸ hnew)
    have hnoneLost : world.inner.recovered.lookup id = none :=
      AList.lookup_eq_none.mpr (hid ▸ hlost)
    refine .of_idle heffects rfl ?_ ?_ fun _ summary hsummary => ?_
    · rw [journalOf_of_lookup hlookup, (hfresh _).journal, journalOf, World.journal, hnone, hnoneLost]
      rfl
    · rw [lastOf_of_lookup hlookup, (hfresh _).lastSequence, lastOf, World.summary, hnone,
        hnoneLost]
      rfl
    · rw [summary_of_lookup hlookup] at hsummary
      rw [← Option.some.inj hsummary, (hfresh _).id, hid]
  · have hkept : (world.registered build).inner.sessions.lookup id =
        world.inner.sessions.lookup id := AList.lookup_insert_ne hid
    have hsummary : (world.registered build).summary id = world.summary id := by
      rw [summary, hkept]
      rfl
    refine .of_idle heffects rfl ?_ ?_ fun hnamed => ?_
    · rw [journalOf, journal, hkept]
      rfl
    · rw [lastOf, hsummary, lastOf]
    · rw [NamedAt, hsummary]
      exact hnamed

/-- A recovered session is archived. -/
theorem Extends.archived {lost : RecoveredSession}
    (hlookup : world.inner.recovered.lookup sessionId = some lost) (archived : Bool) :
    Extends id world ((Manager.archiveRecovered sessionId lost archived).final world) := by
  have hedited : ∀ world' : World S C, world'.inner.sessions = world.inner.sessions →
      world'.inner.recovered = world.inner.recovered.insert sessionId
        { lost with summary := { lost.summary with archived } } →
      ∀ more, world'.effects = world.effects ++ more → appendedTo id more = [] →
        Extends id world world' := by
    intro world' hsessions hrecovered more heffects hmore
    cases hlive : world.inner.sessions.lookup id with
    | some session =>
        have hlive' : world'.inner.sessions.lookup id = some session := by rw [hsessions, hlive]
        refine .of_idle heffects hmore ?_ ?_ fun hnamed => ?_
        · rw [journalOf_of_lookup hlive', journalOf_of_lookup hlive]
        · rw [lastOf_of_lookup hlive', lastOf_of_lookup hlive]
        · rw [NamedAt, summary_of_lookup hlive', ← summary_of_lookup hlive]
          exact hnamed
    | none =>
        have hlive' : world'.inner.sessions.lookup id = none := by rw [hsessions, hlive]
        by_cases hid : id = sessionId
        · subst hid
          have hlookup' : world'.inner.recovered.lookup id =
              some { lost with summary := { lost.summary with archived } } := by
            rw [hrecovered, AList.lookup_insert]
          refine .of_idle heffects hmore ?_ ?_ fun hnamed summary hsummary => ?_
          · rw [journalOf, journalOf, World.journal, World.journal, hlive, hlive', hlookup, hlookup']
            rfl
          · rw [lastOf, lastOf, World.summary, World.summary, hlive, hlive', hlookup, hlookup']
            rfl
          · rw [World.summary, hlive', hlookup'] at hsummary
            rw [← Option.some.inj hsummary]
            refine hnamed lost.summary ?_
            rw [World.summary, hlive, hlookup]
            rfl
        · have hlookup' : world'.inner.recovered.lookup id = world.inner.recovered.lookup id := by
            rw [hrecovered, AList.lookup_insert_ne hid]
          refine .of_idle heffects hmore ?_ ?_ fun hnamed => ?_
          · rw [journalOf, journalOf, World.journal, World.journal, hlive, hlive', hlookup']
          · rw [lastOf, lastOf, World.summary, World.summary, hlive, hlive', hlookup']
          · rw [NamedAt, World.summary, hlive', hlookup']
            rw [NamedAt, World.summary, hlive] at hnamed
            exact hnamed
  rcases Manager.final_archiveRecovered world sessionId lost archived with
    hfinal | ⟨stored, -, hfinal⟩
  · rw [hfinal]
    exact hedited _ rfl rfl [] (List.append_nil _).symm rfl
  · rw [hfinal]
    exact hedited _ rfl rfl [.wrote (.upsertSession
      { stored with metadata := archiveMetadata stored.metadata archived })] rfl rfl

omit [SessionStore S] in
theorem Undrawn.of_keys (h : world.Undrawn) (henv : world'.env = world.env)
    (hticks : world.ticks ≤ world'.ticks)
    (hsessions : ∀ id ∈ world'.inner.sessions, id ∈ world.inner.sessions)
    (hrecovered : ∀ id ∈ world'.inner.recovered, id ∈ world.inner.recovered) :
    world'.Undrawn := by
  intro n hn
  obtain ⟨hlive, hlost⟩ := h n (Nat.le_trans hticks hn)
  rw [henv]
  exact ⟨fun hmem => hlive (hsessions _ hmem), fun hmem => hlost (hrecovered _ hmem)⟩

omit [SessionStore S] in
theorem Undrawn.edit (h : world.Undrawn)
    (hlookup : world.inner.sessions.lookup sessionId = some session) (session' : Session C) :
    (world.setSession sessionId session').Undrawn := by
  refine h.of_keys rfl (Nat.le_refl _) (fun id hmem => ?_) fun _ hmem => hmem
  rcases (AList.mem_insert _).mp hmem with rfl | hmem
  · exact mem_of_lookup hlookup
  · exact hmem

theorem Undrawn.append (h : world.Undrawn)
    (hlookup : world.inner.sessions.lookup sessionId = some session) (event : SessionEvent) :
    (world.appended sessionId session (world.nextEvent session event)).Undrawn := by
  refine h.of_keys rfl (Nat.le_succ _) (fun id hmem => ?_) fun _ hmem => hmem
  rcases (AList.mem_insert _).mp hmem with rfl | hmem
  · exact mem_of_lookup hlookup
  · exact hmem

theorem Undrawn.registered (h : world.Undrawn) (build : SessionId → Session C) :
    (world.registered build).Undrawn := by
  intro n hn
  have hle : world.ticks ≤ n := Nat.le_of_succ_le hn
  refine ⟨fun hmem => ?_, (h n hle).2⟩
  rcases (AList.mem_insert _).mp hmem with heq | hmem
  · have hsame : n = world.ticks := world.env.uuid_injective heq
    rw [hsame] at hn
    exact Nat.not_succ_le_self _ hn
  · exact (h n hle).1 hmem

/-- **Every change extends** every session. -/
theorem Undrawn.change (h : world.Undrawn) (hchange : Change world world') :
    world'.Undrawn ∧ ∀ id, Extends id world world' := by
  have hkept : ∀ {world' : World S C}, world'.env = world.env → world.ticks ≤ world'.ticks →
      world'.inner.sessions = world.inner.sessions →
      world'.inner.recovered = world.inner.recovered → world'.Undrawn :=
    fun henv hticks hsessions hrecovered => h.of_keys henv hticks
      (fun _ hmem => hsessions ▸ hmem) fun _ hmem => hrecovered ▸ hmem
  cases hchange with
  | tick =>
      exact ⟨hkept rfl (Nat.le_succ _) rfl rfl,
        fun _ => .of_same (List.append_nil _).symm rfl rfl rfl⟩
  | request kind => exact ⟨hkept rfl (Nat.le_refl _) rfl rfl, fun _ => .of_same rfl rfl rfl rfl⟩
  | edit hlookup hkeeps => exact ⟨h.edit hlookup _, fun _ => .edit hlookup hkeeps⟩
  | append hlookup event => exact ⟨h.append hlookup event, fun _ => .append hlookup event⟩
  | persist hlookup => exact ⟨hkept rfl (Nat.le_refl _) rfl rfl, fun _ => .of_same rfl rfl rfl rfl⟩
  | subscribe hmem =>
      rw [final, Manager.exec_subscribe hmem]
      exact ⟨hkept rfl (Nat.le_refl _) rfl rfl, fun _ => .of_same rfl rfl rfl rfl⟩
  | @archive sessionId session hlookup archived =>
      refine ⟨?_, fun _ => .archived hlookup archived⟩
      have hkeys : ∀ id ∈ world.inner.recovered.insert sessionId
          { session with summary := { session.summary with archived } },
            id ∈ world.inner.recovered := by
        intro id hmem
        rcases (AList.mem_insert _).mp hmem with rfl | hmem
        · exact mem_of_lookup hlookup
        · exact hmem
      rcases Manager.final_archiveRecovered world sessionId session archived with
        hfinal | ⟨stored, -, hfinal⟩
      · rw [hfinal]
        exact h.of_keys rfl (Nat.le_refl _) (fun _ hmem => hmem) hkeys
      · rw [hfinal]
        exact h.of_keys rfl (Nat.le_refl _) (fun _ hmem => hmem) hkeys
  | @enroll build hfresh =>
      rw [Manager.final_enrollSession]
      exact ⟨(h.registered build).append (AList.lookup_insert _) _,
        fun _ => (Extends.registered h hfresh).trans (.append (AList.lookup_insert _) _)⟩

variable [AcpSession C]

/-- **Every turn extends** every session. -/
theorem Undrawn.turn (h : world.Undrawn) {turn : Turn} (hturn : world.Turns turn world') :
    world'.Undrawn ∧ ∀ id, Extends id world world' := by
  cases turn with
  | operation operation =>
      rw [show world' = (operation.run : Manager S C Unit).final world from hturn]
      refine operation.performs_run.preserves (I := fun between => between.Undrawn ∧
        ∀ id, Extends id world between) (fun _ _ hchange hbetween => ?_) ⟨h, fun id => .refl id world⟩
      obtain ⟨hundrawn, hextends⟩ := hbetween.1.change hchange
      exact ⟨hundrawn, fun id => (hbetween.2 id).trans (hextends id)⟩
  | agents =>
      have hmove : world.AgentsMove world' := hturn
      refine ⟨h.of_keys hmove.env (Nat.le_of_eq hmove.ticks.symm)
        (fun id hmem => (hmove.mem_iff id).mp hmem) ?_, fun id => ?_⟩
      · rw [hmove.recovered]
        exact fun _ hmem => hmem
      · have heffects : world'.effects = world.effects ++ [] := by
          rw [hmove.effects, List.append_nil]
        have hsessions := hmove.sessions id
        have hretained : world'.journalOf id = world.journalOf id ∧
            world'.summary id = world.summary id := by
          rw [journalOf, journalOf, journal, journal, summary, summary, hmove.recovered]
          cases hlookup : world.inner.sessions.lookup id with
          | none =>
              rw [hlookup, Option.map_none, Option.map_eq_none_iff] at hsessions
              rw [hsessions]
              exact ⟨rfl, rfl⟩
          | some session =>
              rw [hlookup, Option.map_some] at hsessions
              obtain ⟨session', hlookup', hsame⟩ := Option.map_eq_some_iff.mp hsessions
              have hjournal : session'.product.journal = session.product.journal := by rw [hsame]
              have hsummary : session'.product.summary = session.product.summary := by rw [hsame]
              rw [hlookup']
              exact ⟨hjournal, congrArg some hsummary⟩
        refine .of_idle heffects rfl hretained.1 ?_ fun hnamed => ?_
        · rw [lastOf, hretained.2, lastOf]
        · rw [NamedAt, hretained.2]
          exact hnamed

end

/-! ## the history of a session -/

/-- All there is of a session: what the process began with, and what was appended since. -/
def fullHistory (start world : World S C) (id : SessionId) : List SequencedEvent :=
  start.journalOf id ++ appendedTo id world.effects

/-- How far the history of a session goes. -/
def lastIn (start world : World S C) (id : SessionId) : Nat :=
  start.lastOf id + (appendedTo id world.effects).length

/-- The process began without an effect on the session, and with a journal in order up to
its last sequence. -/
structure Begins (start : World S C) (id : SessionId) : Prop where
  effects : appendedTo id start.effects = []
  sorted : (start.journalOf id).Pairwise (·.sequence < ·.sequence)
  bounded : ∀ event ∈ start.journalOf id, event.sequence ≤ start.lastOf id

section

variable {start world world' : World S C} {id : SessionId}

/-- **What is retained of a session is of its history**, which goes to the last sequence. -/
theorem Extends.retained (h : Extends id start world)
    (heffects : appendedTo id start.effects = []) :
    world.journalOf id ⊆ fullHistory start world id ∧ world.lastOf id = lastIn start world id := by
  obtain ⟨more, hmore, hjournal, hlast, -⟩ := h
  rw [fullHistory, lastIn, hmore, appendedTo_append, heffects, List.nil_append]
  exact ⟨hjournal, hlast⟩

/-- **The history of a session is in order**, up to the last sequence. -/
theorem Extends.ordered (h : Extends id start world) (hstart : start.Begins id) :
    (fullHistory start world id).Pairwise (·.sequence < ·.sequence) ∧
      ∀ event ∈ fullHistory start world id, event.sequence ≤ lastIn start world id := by
  obtain ⟨more, hmore, -, -, hsequences, -⟩ := h
  rw [fullHistory, lastIn, hmore, appendedTo_append, hstart.effects, List.nil_append]
  have hrange : ∀ event ∈ appendedTo id more, start.lastOf id < event.sequence ∧
      event.sequence ≤ start.lastOf id + (appendedTo id more).length := by
    intro event hmem
    have hsequence : event.sequence ∈
        List.range' (start.lastOf id + 1) (appendedTo id more).length :=
      hsequences ▸ List.mem_map_of_mem hmem
    have hbounds := List.mem_range'_1.mp hsequence
    omega
  refine ⟨List.pairwise_append.mpr ⟨hstart.sorted, ?_, fun before hbefore event hmem => ?_⟩, ?_⟩
  · have hsorted : ((appendedTo id more).map (·.sequence)).Pairwise (· < ·) := by
      rw [hsequences]
      exact List.pairwise_lt_range'
    exact List.pairwise_map.mp hsorted
  · exact Nat.lt_of_le_of_lt (hstart.bounded before hbefore) (hrange event hmem).1
  · intro event hmem
    rcases List.mem_append.mp hmem with hmem | hmem
    · exact Nat.le_trans (hstart.bounded event hmem) (Nat.le_add_right _ _)
    · exact (hrange event hmem).2

/-- A history only grows. -/
theorem Extends.fullHistory_subset (h : Extends id world world') (start : World S C) :
    fullHistory start world id ⊆ fullHistory start world' id ∧
      lastIn start world id ≤ lastIn start world' id := by
  obtain ⟨more, hmore, -⟩ := h
  rw [fullHistory, fullHistory, lastIn, lastIn, hmore, appendedTo_append]
  refine ⟨fun event hmem => ?_, ?_⟩
  · rw [← List.append_assoc]
    exact List.mem_append_left _ hmem
  · rw [List.length_append]
    omega

/-- **An attach** answers from what is retained, and changes nothing. -/
theorem exec_attach (world : World S C) (id : SessionId) (afterSequence : Option Nat) :
    (∃ summary, world.summary id = some summary ∧
      (Manager.attach id afterSequence : Manager S C AttachResult).exec world =
        (.ok (attachJournal summary (world.journalOf id) afterSequence), world)) ∨
      (Manager.attach id afterSequence : Manager S C AttachResult).exec world =
        (.error (.unknownSession id), world) := by
  rw [Manager.attach, exec_bind, exec_get, journalOf, journal, summary]
  dsimp only
  cases hlive : world.inner.sessions.lookup id with
  | some session => exact .inl ⟨session.summary, rfl, rfl⟩
  | none =>
      dsimp only
      cases hlost : world.inner.recovered.lookup id with
      | some session => exact .inl ⟨session.summary, rfl, rfl⟩
      | none => exact .inr rfl

end

/-! ## starts -/

section

variable [AcpSession C] {env : Env} {ticks : Nat} {store : SqliteStore}

/-- What a start makes of a session speaks of a row of the database. -/
theorem summary_start (h : SequencedStore env ticks store) (boot : Boot C) {id : SessionId}
    {summary : SessionSummary} (hsummary : (boot.start env ticks store).summary id = some summary) :
    ∃ row, (store.reopen boot.eventLimit).sessions.lookup id = some row ∧
      summary.lastSequence = row.lastSequence ∧ summary.id = id := by
  have hwell : WellKeyed (store.reopen boot.eventLimit) := h.keyed.wellKeyed
  rw [World.summary] at hsummary
  cases hlive : (boot.start env ticks store).inner.sessions.lookup id with
  | some session =>
      rw [hlive] at hsummary
      obtain ⟨row, hrow, hrehydrates, hid⟩ := lookup_sessions_new hwell hlive
      obtain ⟨record, -, hrecord⟩ := hrehydrates.record
      refine ⟨row, hrow, ?_⟩
      rw [← Option.some.inj hsummary]
      exact ⟨by rw [hrecord], hid⟩
  | none =>
      rw [hlive] at hsummary
      obtain ⟨session, hlost, hsession⟩ := Option.map_eq_some_iff.mp hsummary
      obtain ⟨row, hrow, hretains⟩ := lookup_recovered_new hlost
      have hkeyed : row.sessionId = id := (store.reopen boot.eventLimit).keyed id row hrow
      refine ⟨row, hrow, ?_⟩
      rw [← hsession]
      refine ⟨hretains.lastSequence, ?_⟩
      cases hread : row.record with
      | some record =>
          rw [hretains.record record hread, ← hkeyed]
          exact hwell id row hrow record hread
      | none =>
          obtain ⟨reason, hunreadable⟩ := hretains.unreadable hread
          rw [hunreadable, ← hkeyed]
          rfl

/-- **A start from a database in order**: no UUID still to be drawn names a session, every
session is known under its own id, and its journal is in order. -/
theorem begins_start (h : SequencedStore env ticks store) (boot : Boot C) :
    (boot.start env ticks store).Undrawn ∧ (∀ id, (boot.start env ticks store).NamedAt id) ∧
      ∀ id, (boot.start env ticks store).Begins id := by
  have hwell : WellKeyed (store.reopen boot.eventLimit) := h.keyed.wellKeyed
  have hpartitions : Partitions (store.reopen boot.eventLimit) (boot.start env ticks store) :=
    partitions_start boot h.keyed
  have hrecovers := (recoversRows_new (C := C) env ticks boot.adapters
    (store.reopen boot.eventLimit) boot.journalLimit).recovers
  refine ⟨fun n hn => ?_, fun id summary hsummary => ?_, fun id => ?_⟩
  · have henv : (boot.start env ticks store).env = env := hrecovers.env
    have hticks : ticks ≤ (boot.start env ticks store).ticks := hrecovers.ticks
    have hnew : env.uuid n ∉ (store.reopen boot.eventLimit).sessions :=
      h.fresh n (Nat.le_trans hticks hn)
    rw [henv]
    exact ⟨fun hlive => hnew ((hpartitions.covers _).mpr (.inl hlive)),
      fun hlost => hnew ((hpartitions.covers _).mpr (.inr hlost))⟩
  · obtain ⟨-, -, -, hid⟩ := summary_start h boot hsummary
    exact hid
  · have heffects : appendedTo id (boot.start env ticks store).effects = [] := by
      have hquiet : ∀ effect ∈ (boot.start env ticks store).effects, effect.isQuiet = true := by
        intro effect hmem
        obtain ⟨nativeId, rfl⟩ := hpartitions.requests effect hmem
        rfl
      exact appendedTo_quiet hquiet id
    cases hsummary : (boot.start env ticks store).summary id with
    | none =>
        have hjournal := journalOf_of_summary_none hsummary
        refine ⟨heffects, ?_, ?_⟩
        · rw [hjournal]
          exact .nil
        · rw [hjournal]
          simp
    | some summary =>
        obtain ⟨row, hrow, hlast, -⟩ := summary_start h boot hsummary
        obtain ⟨events, hrows, hnumbered⟩ := h.numbered id row hrow
        have hjournal : (boot.start env ticks store).journalOf id =
            (events.map SequencedEvent.reread).take boot.journalLimit := by
          have hrecovered : (boot.start env ticks store).journal id =
              some (recoveredJournal (store.reopen boot.eventLimit) id boot.journalLimit) :=
            journal_new hwell (mem_of_lookup hrow)
          rw [journalOf, hrecovered, Option.getD_some]
          exact recoveredJournal_eq hrows (fun event hmem => hnumbered.pos hmem) _
        have hreread := hnumbered.reread
        refine ⟨heffects, ?_, fun event hmem => ?_⟩
        · rw [hjournal]
          exact hreread.pairwise.sublist (List.take_sublist _ _)
        · rw [hjournal] at hmem
          rw [lastOf, hsummary, Option.map_some, Option.getD_some, hlast]
          exact hreread.le_last (List.mem_of_mem_take hmem)

end

end World

end Slight
