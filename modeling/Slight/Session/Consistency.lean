import Slight.Session.Sequencing

/-!
# Slight.Session.Consistency

What the sequence numbers promise over the whole life of a host: that numbers are
not used twice and stored events are not lost (`crash_consistent`), and that an
attach either brings everything or says that it does not (`attach_complete`).

Both fail after a crash between the two store calls of `append`, and the second
also after a start with a smaller journal.
-/

namespace Slight

open Support Program

variable {C : Type}

/-! ## crashes -/

/-- The next sequence number is above all others in use, the journal uses none
twice, and what this process appended is stored until the event limit removes it. -/
structure CrashConsistent (world : World SqliteStore C) (id : SessionId) (session : Session C) :
    Prop where
  next : ∀ event next, (Manager.append id event).result world = .ok next →
    (∀ row ∈ world.inner.store.rows id, row.sequence < next.sequence) ∧
      ∀ kept ∈ session.journal, kept.sequence < next.sequence
  distinct : (session.journal.map (·.sequence)).Nodup
  stored : ∀ event ∈ appendedTo id world.effects,
    event.stored ∈ world.inner.store.rows id ∨ 0 < world.inner.store.eventLimit ∧
      event.sequence + world.inner.store.eventLimit ≤ lastRow (world.inner.store.rows id)

theorem SequencedWorld.crashConsistent {env : Env} {world : World SqliteStore C}
    (h : SequencedWorld env world) {id : SessionId} {session : Session C}
    (hlookup : world.inner.sessions.lookup id = some session) :
    CrashConsistent world id session := by
  obtain ⟨row, hrow, hcount⟩ := h.counted id session hlookup
  obtain ⟨events, hrows, hnumbered⟩ := h.store.numbered id row hrow
  obtain ⟨hpairwise, hle⟩ := h.journal id session hlookup
  constructor
  · intro event next happend
    rw [result, Manager.exec_append hlookup] at happend
    have hnext : next.sequence = session.summary.lastSequence + 1 := by
      rw [← Except.ok.inj happend]
      rfl
    rw [hnext]
    constructor
    · intro stored hmem
      rw [hrows] at hmem
      obtain ⟨event', hevent', rfl⟩ := List.mem_map.mp hmem
      rw [← hcount]
      exact Nat.lt_succ_of_le (hnumbered.le_last hevent')
    · intro kept hmem
      exact Nat.lt_succ_of_le (hle kept hmem)
  · exact List.pairwise_map.mpr (hpairwise.imp Nat.ne_of_lt)
  · exact h.stored id

section

variable [AcpSession C]

/-- A database in order makes a manager in order. -/
theorem SequencedStore.start {env : Env} {ticks : Nat} {store : SqliteStore}
    (h : SequencedStore env ticks store) (boot : Boot C) :
    SequencedWorld env (boot.start env ticks store) := by
  have hreopened : SequencedStore env ticks (store.reopen boot.eventLimit) :=
    ⟨h.keyed, h.numbered, h.fresh⟩
  have hwell := hreopened.keyed.wellKeyed
  have hrecovers := (recoversRows_new (C := C) env ticks boot.adapters
    (store.reopen boot.eventLimit) boot.journalLimit).recovers
  constructor
  · exact hrecovers.env
  · rw [Boot.start, hrecovers.store]
    exact hreopened.mono hrecovers.ticks
  · intro id session hlookup
    obtain ⟨-, -, -, hid⟩ := lookup_sessions_new hwell hlookup
    exact hid
  · intro id session hlookup
    obtain ⟨row, hrow, hrehydrates, -⟩ := lookup_sessions_new hwell hlookup
    obtain ⟨record, -, hsummary⟩ := hrehydrates.record
    rw [Boot.start, hrecovers.store, hsummary]
    exact ⟨row, hrow, rfl⟩
  · intro id session hlookup
    obtain ⟨row, hrow, hrehydrates, -⟩ := lookup_sessions_new hwell hlookup
    obtain ⟨record, -, hsummary⟩ := hrehydrates.record
    obtain ⟨events, hrows, hnumbered⟩ := hreopened.numbered id row hrow
    have hid := (store.reopen boot.eventLimit).keyed id row hrow
    have hjournal : recoveredJournal (store.reopen boot.eventLimit) id boot.journalLimit =
        (events.map SequencedEvent.reread).take boot.journalLimit :=
      recoveredJournal_eq hrows (fun event hevent => hnumbered.pos hevent) boot.journalLimit
    have hreread := hnumbered.reread
    rw [hrehydrates.journal, hid, hjournal, hsummary]
    refine ⟨hreread.pairwise.sublist (List.take_sublist _ _), fun event hevent => ?_⟩
    exact hreread.le_last (List.mem_of_mem_take hevent)
  · obtain ⟨requests, heffects, hresume⟩ := hrecovers.effects
    intro id event hmem
    have hquiet : ∀ effect ∈ requests, effect.isQuiet = true := by
      intro effect heffect
      obtain ⟨nativeId, rfl⟩ := hresume effect heffect
      rfl
    rw [Boot.start, heffects, appendedTo_append, appendedTo_quiet hquiet] at hmem
    exact absurd hmem List.not_mem_nil

omit [AcpSession C] in
theorem SequencedWorld.agentsMove {env : Env} {world world' : World SqliteStore C}
    (h : SequencedWorld env world) (hmove : world.AgentsMove world') :
    SequencedWorld env world' := by
  constructor
  · rw [hmove.env, h.environment]
  · rw [hmove.store, hmove.ticks]
    exact h.store
  · intro id session' hlookup
    obtain ⟨session, hold, hproduct⟩ := hmove.lookup hlookup
    obtain ⟨title, archived, hsummary⟩ := (Session.keeps_of_product hproduct).summary
    rw [hsummary]
    exact h.live id session hold
  · intro id session' hlookup
    obtain ⟨session, hold, hproduct⟩ := hmove.lookup hlookup
    rw [hmove.store, (Session.keeps_of_product hproduct).lastSequence_eq]
    exact h.counted id session hold
  · intro id session' hlookup
    obtain ⟨session, hold, hproduct⟩ := hmove.lookup hlookup
    rw [(Session.keeps_of_product hproduct).lastSequence_eq,
      (Session.keeps_of_product hproduct).journal]
    exact h.journal id session hold
  · intro id
    rw [hmove.effects, hmove.store]
    exact h.stored id

/-- **Sequence numbers stay in order** as long as no crash falls between the two
store calls of `append`. -/
theorem sequencedInvariant (env : Env) :
    HostInvariant env (fun _ (_ : Boot C) => True) (fun call => call.settles = true)
      (SequencedWorld env) (SequencedStore env) where
  mono _ _ _ hle h := h.mono hle
  empty eventLimit := by
    constructor
    · intro id row hlookup
      rw [SqliteStore.empty, AList.lookup_empty] at hlookup
      contradiction
    · intro id row hlookup
      rw [SqliteStore.empty, AList.lookup_empty] at hlookup
      contradiction
    · exact fun n _ => AList.notMem_empty _
  boot ticks store boot _ h := h.start boot
  agents _ _ hmove h := h.agentsMove hmove
  change _ _ hchange h := h.change hchange
  store _ h := h.store

/-- **Crash consistency**: in every life of a host whose crashes leave `append`
whole, in every process and for every session. -/
theorem crash_consistent {env : Env} {world : World SqliteStore C}
    (hreach : (hostSystem env).ReachUnder
      (Host.Meets (fun _ _ => True) fun call => call.settles = true) (.up world))
    {id : SessionId} {session : Session C}
    (hlookup : world.inner.sessions.lookup id = some session) :
    CrashConsistent world id session := by
  have hworld : SequencedWorld env world := (sequencedInvariant env).holds hreach
  exact hworld.crashConsistent hlookup

end

/-! ## attaching -/

/-- An attach after a sequence number in range brings exactly the events above it,
or asks for a resync. -/
def AttachComplete (world : World SqliteStore C) (id : SessionId) : Prop :=
  ∀ after result, (Manager.attach id (some after)).result world = .ok result →
    after ≤ result.latestSequence → result.resyncRequired = false →
    result.replayed.map (·.sequence) = List.range' (after + 1) (result.latestSequence - after)

/-- The journals, live and lost, that all end at the last event and have no hole. -/
structure CompleteJournals (world : World SqliteStore C) : Prop where
  limit : 1 ≤ world.inner.journalLimit
  live : ∀ id session, world.inner.sessions.lookup id = some session →
    Numbered session.journal session.summary.lastSequence
  lost : ∀ id session, world.inner.recovered.lookup id = some session →
    Numbered session.journal session.summary.lastSequence

/-- A journal without a hole answers for all that it does not ask to resync. -/
theorem Numbered.attachJournal {journal : List SequencedEvent} {summary : SessionSummary}
    (h : Numbered journal summary.lastSequence) {after : Nat} (hafter : after ≤ summary.lastSequence)
    (hresync : (attachJournal summary journal (some after)).resyncRequired = false) :
    (attachJournal summary journal (some after)).replayed.map (·.sequence) =
      List.range' (after + 1) (summary.lastSequence - after) := by
  have hlength := h.length
  have hstart : summary.lastSequence + 1 - journal.length ≤ after + 1 := by
    by_cases hempty : journal.length = 0
    · have hnil := List.length_eq_zero_iff.mp hempty
      have hzero : ¬ 0 < summary.lastSequence := fun hpos => h.nonempty hpos hnil
      omega
    · have hhead := congrArg List.head? h.sequences
      rw [List.head?_map, List.head?_range', if_neg hempty] at hhead
      have hflag : decide (after + 1 < summary.lastSequence + 1 - journal.length) = false := by
        unfold Slight.attachJournal at hresync
        rw [hhead] at hresync
        exact hresync
      have hnot := of_decide_eq_false hflag
      omega
  obtain ⟨hfilter, -⟩ := Cursor.filter_eq_range_append (c := after)
    (fun event : SequencedEvent => event.sequence) h.pairwise
  obtain ⟨-, hgaps, hend⟩ := Cursor.accepted_of_range (c := after)
    (fun event : SequencedEvent => event.sequence) hstart h.sequences
  have hreplayed : (Slight.attachJournal summary journal (some after)).replayed.map (·.sequence) =
      (journal.map (·.sequence)).filter (after < ·) := by
    rw [List.filter_map]
    rfl
  rw [hreplayed, hfilter, hgaps, hend, List.map_nil, List.append_nil]
  congr 1
  omega

namespace CompleteJournals

variable {world world' : World SqliteStore C}

theorem setSession (h : CompleteJournals world) {sessionId : SessionId} {session : Session C}
    (hsession : Numbered session.journal session.summary.lastSequence) :
    CompleteJournals (world.setSession sessionId session) := by
  refine ⟨h.limit, fun id session' hlookup => ?_, h.lost⟩
  rcases lookup_insert_eq_some hlookup with ⟨-, rfl⟩ | ⟨-, hold⟩
  · exact hsession
  · exact h.live id session' hold

theorem append (h : CompleteJournals world) {sessionId : SessionId} {session : Session C}
    (hlookup : world.inner.sessions.lookup sessionId = some session) (event : SessionEvent) :
    CompleteJournals (world.appended sessionId session (world.nextEvent session event)) := by
  have hset : CompleteJournals (world.setSession sessionId
      (session.record world.inner.journalLimit (world.nextEvent session event))) :=
    h.setSession (((h.live sessionId session hlookup).append rfl).rtake h.limit)
  exact ⟨hset.limit, hset.live, hset.lost⟩

theorem change (h : CompleteJournals world) (hchange : Change world world') :
    CompleteJournals world' := by
  cases hchange with
  | tick => exact ⟨h.limit, h.live, h.lost⟩
  | request kind => exact ⟨h.limit, h.live, h.lost⟩
  | @edit sessionId session session' hlookup hkeeps =>
      refine h.setSession ?_
      rw [hkeeps.journal, hkeeps.lastSequence_eq]
      exact h.live sessionId session hlookup
  | append hlookup event => exact h.append hlookup event
  | persist hlookup => exact ⟨h.limit, h.live, h.lost⟩
  | subscribe hmem =>
      rw [final, Manager.exec_subscribe hmem]
      exact ⟨h.limit, h.live, h.lost⟩
  | @archive sessionId session hlookup archived =>
      have hlost : ∀ id session', (world.inner.recovered.insert sessionId
          { session with summary := { session.summary with archived } }).lookup id =
            some session' → Numbered session'.journal session'.summary.lastSequence := by
        intro id session' hlookup'
        rcases lookup_insert_eq_some hlookup' with ⟨-, rfl⟩ | ⟨-, hold⟩
        · exact h.lost sessionId session hlookup
        · exact h.lost id session' hold
      rcases Manager.final_archiveRecovered world sessionId session archived with
        hfinal | ⟨stored, -, hfinal⟩
      · rw [hfinal]
        exact ⟨h.limit, h.live, hlost⟩
      · rw [hfinal]
        exact ⟨h.limit, h.live, hlost⟩
  | @enroll build hfresh =>
      rw [Manager.final_enrollSession]
      have hbuild := hfresh (world.env.uuid world.ticks)
      have hset : CompleteJournals (world.setSession (world.env.uuid world.ticks)
          (build (world.env.uuid world.ticks))) := by
        refine h.setSession ?_
        rw [hbuild.journal, hbuild.lastSequence]
        exact .nil
      have hregistered : CompleteJournals (world.registered build) :=
        ⟨hset.limit, hset.live, hset.lost⟩
      exact hregistered.append (AList.lookup_insert _) _

theorem agentsMove (h : CompleteJournals world) (hmove : world.AgentsMove world') :
    CompleteJournals world' := by
  constructor
  · rw [hmove.journalLimit]
    exact h.limit
  · intro id session' hlookup
    obtain ⟨session, hold, hproduct⟩ := hmove.lookup hlookup
    rw [(Session.keeps_of_product hproduct).lastSequence_eq,
      (Session.keeps_of_product hproduct).journal]
    exact h.live id session hold
  · rw [hmove.recovered]
    exact h.lost

theorem attachComplete (h : CompleteJournals world) (id : SessionId) : AttachComplete world id := by
  intro after result hresult hafter hresync
  rw [Program.result, Manager.attach, exec_bind, exec_get] at hresult
  dsimp only at hresult
  cases hlive : world.inner.sessions.lookup id with
  | some session =>
      rw [hlive] at hresult
      obtain rfl := Except.ok.inj hresult
      exact (h.live id session hlive).attachJournal hafter hresync
  | none =>
      rw [hlive] at hresult
      dsimp only at hresult
      cases hlost : world.inner.recovered.lookup id with
      | some session =>
          rw [hlost] at hresult
          obtain rfl := Except.ok.inj hresult
          exact (h.lost id session hlost).attachJournal hafter hresync
      | none =>
          rw [hlost] at hresult
          contradiction

end CompleteJournals

/-- The journal of the started host takes all that is stored of any session. -/
def Boot.TakesAll (store : SqliteStore) (boot : Boot C) : Prop :=
  1 ≤ boot.journalLimit ∧ ∀ id, (store.rows id).length ≤ boot.journalLimit

/-- All that is stored of a session, read back. -/
theorem SequencedStore.numbered_recoveredJournal {env : Env} {ticks : Nat} {store : SqliteStore}
    (h : SequencedStore env ticks store) {boot : Boot C} (hboot : Boot.TakesAll store boot)
    {id : SessionId} {row : StoredSession} (hrow : store.sessions.lookup id = some row) :
    Numbered (recoveredJournal (store.reopen boot.eventLimit) row.sessionId boot.journalLimit)
      row.lastSequence := by
  obtain ⟨events, hrows, hnumbered⟩ := h.numbered id row hrow
  have hfits := hboot.2 id
  have hjournal : recoveredJournal (store.reopen boot.eventLimit) id boot.journalLimit =
      (events.map SequencedEvent.reread).take boot.journalLimit :=
    recoveredJournal_eq hrows (fun event hevent => hnumbered.pos hevent) boot.journalLimit
  rw [hrows, List.length_map] at hfits
  rw [store.keyed id row hrow, hjournal, List.take_of_length_le (by rwa [List.length_map])]
  exact hnumbered.reread

variable [AcpSession C]

theorem completeInvariant (env : Env) :
    HostInvariant env (Boot.TakesAll (C := C)) (fun call => call.settles = true)
      (fun world => SequencedWorld env world ∧ CompleteJournals world) (SequencedStore env) where
  mono _ _ _ hle h := h.mono hle
  empty := (sequencedInvariant (C := C) env).empty
  boot ticks store boot hboot h := by
    refine ⟨h.start boot, ?_⟩
    have hkeyed : KeyedStore (store.reopen boot.eventLimit) := h.keyed
    have hrecovers := (recoversRows_new (C := C) env ticks boot.adapters
      (store.reopen boot.eventLimit) boot.journalLimit).recovers
    constructor
    · rw [Boot.start, hrecovers.journalLimit]
      exact hboot.1
    · intro id session hlookup
      obtain ⟨row, hrow, hrehydrates, -⟩ := lookup_sessions_new hkeyed.wellKeyed hlookup
      obtain ⟨record, -, hsummary⟩ := hrehydrates.record
      rw [hrehydrates.journal, hsummary]
      exact h.numbered_recoveredJournal hboot hrow
    · intro id session hlookup
      obtain ⟨row, hrow, hretains⟩ := lookup_recovered_new hlookup
      rw [hretains.journal, hretains.lastSequence]
      exact h.numbered_recoveredJournal hboot hrow
  agents _ _ hmove h := ⟨h.1.agentsMove hmove, h.2.agentsMove hmove⟩
  change _ _ hchange h := by
    obtain ⟨hsequenced, hwrites⟩ := h.1.change hchange
    exact ⟨⟨hsequenced, h.2.change hchange⟩, hwrites⟩
  store _ h := h.1.store

/-- **An attach is complete or says so**, in every life of a host whose crashes
leave `append` whole and whose starts take all that is stored. -/
theorem attach_complete {env : Env} {world : World SqliteStore C}
    (hreach : (hostSystem env).ReachUnder
      (Host.Meets Boot.TakesAll fun call => call.settles = true) (.up world)) (id : SessionId) :
    AttachComplete world id := by
  have hworld : SequencedWorld env world ∧ CompleteJournals world :=
    (completeInvariant env).holds hreach
  exact hworld.2.attachComplete id

/-! ## a host that is killed in its second append -/

def sampleCreated : World SqliteStore ScriptedAgent :=
  sampleManager.after (.createSession sampleRequest)

/-- The database when setting the mode has done `calls` of its two store calls. -/
def sampleKilled (calls : Nat) : SqliteStore :=
  ((sampleCreated.callsOf (.setMode "uuu" "plan")).take calls).foldl StoreWrite.apply
    sampleCreated.inner.store

/-- The host is started again. -/
def sampleRestarted (boot : Boot ScriptedAgent) (calls : Nat) : World SqliteStore ScriptedAgent :=
  boot.start sampleEnv (sampleCreated.after (.setMode "uuu" "plan")).ticks (sampleKilled calls)

theorem reachUnder_sampleRestarted (bootOk : SqliteStore → Boot ScriptedAgent → Prop)
    (ok : StoreWrite → Prop) (boot : Boot ScriptedAgent) (calls : Nat)
    (hfirst : bootOk (.empty 0) (sampleBoot true))
    (hboot : bootOk (sampleKilled calls) boot)
    (hkill : ∀ call ∈ ((sampleCreated.callsOf (.setMode "uuu" "plan")).take calls).getLast?,
      ok call) :
    (hostSystem sampleEnv).ReachUnder (Host.Meets bootOk ok) (.up (sampleRestarted boot calls)) := by
  have hup : (hostSystem sampleEnv).ReachUnder (Host.Meets bootOk ok) (.up sampleManager) :=
    .step (a := .boot (sampleBoot true)) (.init ⟨0, rfl⟩) hfirst rfl
  have hturns : sampleManager.Turns (.operation (.createSession sampleRequest)) sampleCreated := rfl
  have hcreated : (hostSystem sampleEnv).ReachUnder (Host.Meets bootOk ok) (.up sampleCreated) :=
    .step (a := .turn (.operation (.createSession sampleRequest))) hup trivial ⟨_, hturns, rfl⟩
  have hkilled : (hostSystem sampleEnv).ReachUnder (Host.Meets bootOk ok)
      (.down (sampleCreated.after (.setMode "uuu" "plan")).ticks (sampleKilled calls)) :=
    .step (a := .kill (.setMode "uuu" "plan") calls) hcreated hkill rfl
  exact .step (a := .boot boot) hkilled hboot rfl

theorem eq_ok_of_toOption {ε α : Type} {outcome : Except ε α} {a : α}
    (h : outcome.toOption = some a) : outcome = .ok a := by
  cases outcome with
  | error error => contradiction
  | ok b => rw [Option.some.inj h]

/-- Both store calls were done. -/
theorem crash_consistent_whole :
    ∃ session, (sampleRestarted (sampleBoot true) 2).inner.sessions.lookup "uuu" = some session ∧
      CrashConsistent (sampleRestarted (sampleBoot true) 2) "uuu" session := by
  have hkill : ∀ call ∈ ((sampleCreated.callsOf (.setMode "uuu" "plan")).take 2).getLast?,
      call.settles = true := by
    decide +kernel
  have hreach := reachUnder_sampleRestarted (fun _ _ => True) (fun call => call.settles = true)
    (sampleBoot true) 2 trivial trivial hkill
  have hmem : "uuu" ∈ (sampleRestarted (sampleBoot true) 2).inner.sessions :=
    AList.mem_keys.mpr (by decide +kernel :
      "uuu" ∈ (sampleRestarted (sampleBoot true) 2).inner.sessions.keys)
  obtain ⟨session, hlookup⟩ := exists_lookup_of_mem hmem
  exact ⟨session, hlookup, crash_consistent hreach hlookup⟩

/-- **A number is used twice**: the second event was stored, its session's row was
not.  After the restart the next event is numbered 2 as well. -/
theorem crash_reuses_sequence :
    (hostSystem sampleEnv).Reachable (.up (sampleRestarted (sampleBoot true) 1)) ∧
      ((sampleRestarted (sampleBoot true) 1).inner.store.rows "uuu").map (·.sequence) = [1, 2] ∧
      ∀ session, (sampleRestarted (sampleBoot true) 1).inner.sessions.lookup "uuu" = some session →
        ¬ CrashConsistent (sampleRestarted (sampleBoot true) 1) "uuu" session := by
  have hrows : ((sampleRestarted (sampleBoot true) 1).inner.store.rows "uuu").map (·.sequence) =
      [1, 2] := by
    decide +kernel
  have hnext : ((Manager.append "uuu" (.status ⟨.working⟩)).result
      (sampleRestarted (sampleBoot true) 1)).toOption.map (·.sequence) = some 2 := by
    decide +kernel
  have hreach := reachUnder_sampleRestarted (fun _ _ => True) (fun _ => True) (sampleBoot true) 1
    trivial trivial fun _ _ => trivial
  refine ⟨hreach.reachable, hrows, fun session _ h => ?_⟩
  obtain ⟨next, happend, hsequence⟩ := Option.map_eq_some_iff.mp hnext
  have hresult := eq_ok_of_toOption happend
  have hmem : 2 ∈ ((sampleRestarted (sampleBoot true) 1).inner.store.rows "uuu").map
      (·.sequence) := by
    rw [hrows]
    decide
  obtain ⟨row, hrow, hrowSequence⟩ := List.mem_map.mp hmem
  have hlt := (h.next _ next hresult).1 row hrow
  rw [hrowSequence, hsequence] at hlt
  exact Nat.lt_irrefl 2 hlt

/-- A host whose agent cannot resume and whose journals keep `journalLimit` events. -/
def sampleLimited (journalLimit : Nat) : Boot ScriptedAgent where
  adapters := [ScriptedAgent.adapter false]
  journalLimit := journalLimit
  eventLimit := 0

/-- The journal takes both events. -/
theorem attach_complete_fits : AttachComplete (sampleRestarted (sampleLimited 2) 2) "uuu" := by
  have hkill : ∀ call ∈ ((sampleCreated.callsOf (.setMode "uuu" "plan")).take 2).getLast?,
      call.settles = true := by
    decide +kernel
  have hkeys : (sampleKilled 2).events.keys = ["uuu"] := by decide +kernel
  have hlength : ((sampleKilled 2).rows "uuu").length = 2 := by decide +kernel
  have hfits : Boot.TakesAll (sampleKilled 2) (sampleLimited 2) := by
    refine ⟨by decide, fun id => ?_⟩
    by_cases hid : id = "uuu"
    · rw [hid, hlength]
      exact Nat.le_refl _
    · have hnone : (sampleKilled 2).events.lookup id = none := by
        refine AList.lookup_eq_none.mpr fun hmem => hid ?_
        rw [AList.mem_keys, hkeys] at hmem
        exact List.mem_singleton.mp hmem
      rw [SqliteStore.rows, hnone]
      exact Nat.zero_le _
  have hfirst : Boot.TakesAll (.empty 0) (sampleBoot true) :=
    ⟨by decide, fun id => Nat.zero_le _⟩
  have hreach := reachUnder_sampleRestarted Boot.TakesAll (fun call => call.settles = true)
    (sampleLimited 2) 2 hfirst hfits hkill
  exact attach_complete hreach "uuu"

/-- **An attach that hides a loss**: the journal takes one of the two events, and an
attach after 0 brings that one and asks for nothing. -/
theorem attach_hides_loss :
    (hostSystem sampleEnv).Reachable (.up (sampleRestarted (sampleLimited 1) 2)) ∧
      ((Manager.attach "uuu" (some 0)).result (sampleRestarted (sampleLimited 1) 2)).toOption.map
        (fun result => (result.replayed.map (·.sequence), result.latestSequence,
          result.resyncRequired)) = some ([1], 2, false) ∧
      ¬ AttachComplete (sampleRestarted (sampleLimited 1) 2) "uuu" := by
  have hattach : ((Manager.attach "uuu" (some 0)).result
      (sampleRestarted (sampleLimited 1) 2)).toOption.map
        (fun result => (result.replayed.map (·.sequence), result.latestSequence,
          result.resyncRequired)) = some ([1], 2, false) := by
    decide +kernel
  have hreach := reachUnder_sampleRestarted (fun _ _ => True) (fun _ => True) (sampleLimited 1) 2
    trivial trivial fun _ _ => trivial
  refine ⟨hreach.reachable, hattach, fun h => ?_⟩
  obtain ⟨result, hok, hvalues⟩ := Option.map_eq_some_iff.mp hattach
  simp only [Prod.mk.injEq] at hvalues
  obtain ⟨hreplayed, hlatest, hresync⟩ := hvalues
  have hcomplete := h 0 result (eq_ok_of_toOption hok) (Nat.zero_le _) hresync
  rw [hreplayed, hlatest] at hcomplete
  exact absurd hcomplete (by decide)

end Slight
