import Slight.Session.Lifecycle
import Slight.Session.Reads

/-!
# Slight.Session.Paging

Reading a session's journal backwards, page after page (`historyPages`), and what
the two copies of each read, the one for live sessions and the one for recovered
sessions, have in common.
-/

namespace Slight

open Support Program

variable {S C : Type}

/-! ## one page -/

/-- The events a page is the end of. -/
def eligible (journal : List SequencedEvent) (beforeSequence : Option Nat) :
    List SequencedEvent :=
  journal.filter fun event => event.sequence < historyBoundary beforeSequence

/-- How many events a page has at most. -/
def pageLimit (limit maxLimit : Nat) : Nat := min (max limit 1) maxLimit

section

variable {summary : SessionSummary} {journal : List SequencedEvent} {before : Option Nat}
  {limit maxLimit : Nat}

theorem events_historyJournal :
    (historyJournal summary journal before limit maxLimit).events =
      (eligible journal before).rtake (pageLimit limit maxLimit) := rfl

theorem hasMore_historyJournal :
    (historyJournal summary journal before limit maxLimit).hasMore = true ↔
      pageLimit limit maxLimit < (eligible journal before).length := by
  have hstart : (historyJournal summary journal before limit maxLimit).hasMore =
      decide (0 < (eligible journal before).length - pageLimit limit maxLimit) := rfl
  rw [hstart, decide_eq_true_eq, Nat.sub_pos_iff_lt]

/-- The last page has all that is left. -/
theorem events_of_not_hasMore
    (h : (historyJournal summary journal before limit maxLimit).hasMore = false) :
    (historyJournal summary journal before limit maxLimit).events = eligible journal before := by
  have hall : ¬ pageLimit limit maxLimit < (eligible journal before).length := by
    rw [← @hasMore_historyJournal summary, h]
    exact Bool.false_ne_true
  rw [events_historyJournal, List.rtake, Nat.sub_eq_zero_of_le (by omega), List.drop_zero]

/-- **A page with more before it** is not empty, and asking for what is before its
first event asks for what it left out. -/
theorem page_of_hasMore (hincreasing : journal.Pairwise fun a b => a.sequence < b.sequence)
    (hcap : 1 ≤ maxLimit)
    (h : (historyJournal summary journal before limit maxLimit).hasMore = true) :
    ∃ first rest, (historyJournal summary journal before limit maxLimit).events = first :: rest ∧
      eligible journal (some first.sequence) ++ first :: rest = eligible journal before := by
  have hlt := hasMore_historyJournal.mp h
  have hpositive : 1 ≤ pageLimit limit maxLimit := by
    unfold pageLimit
    omega
  rw [events_historyJournal]
  have hsplit := List.take_append_drop
    ((eligible journal before).length - pageLimit limit maxLimit) (eligible journal before)
  cases hpage : (eligible journal before).rtake (pageLimit limit maxLimit) with
  | nil =>
      have hlength := congrArg List.length hpage
      rw [List.rtake, List.length_drop, List.length_nil] at hlength
      omega
  | cons first rest =>
      refine ⟨first, rest, rfl, ?_⟩
      rw [List.rtake] at hpage
      rw [hpage] at hsplit
      have hsorted : (eligible journal before).Pairwise fun a b => a.sequence < b.sequence :=
        hincreasing.sublist List.filter_sublist
      have hmem : first ∈ eligible journal before := by
        rw [← hsplit]
        exact List.mem_append_right _ List.mem_cons_self
      have hfirst : first.sequence < historyBoundary before :=
        of_decide_eq_true (List.mem_filter.mp hmem).2
      -- what is below the first event of the page is below the page's boundary too
      have hbelow : eligible journal (some first.sequence) =
          (eligible journal before).filter fun event => event.sequence < first.sequence := by
        rw [eligible, eligible, List.filter_filter]
        refine List.filter_congr fun event _ => ?_
        rw [historyBoundary, Option.getD_some]
        by_cases hevent : event.sequence < first.sequence
        · rw [decide_eq_true hevent, decide_eq_true (hevent.trans hfirst), Bool.and_self]
        · rw [decide_eq_false hevent, Bool.false_and]
      rw [← hsplit] at hsorted
      rw [hbelow, ← hsplit, filter_lt_of_split hsorted]

end

/-! ## all pages -/

namespace Manager

/-- Asks for page after page, each for what is before the first event of the page
before it, until a page has none before it; `none` if `calls` calls do not get
there.  The first call asks for `limits 0` events. -/
def historyPages (sessionId : SessionId) : (limits : Nat → Nat) → (calls : Nat) → Option Nat →
    Manager S C (Option (List HistoryResult))
  | _, 0, _ => pure none
  | limits, calls + 1, before => do
      let page ← history sessionId before (limits 0)
      if page.hasMore then
        let older ← historyPages sessionId (fun n => limits (n + 1)) calls
          (page.events.head?.map (·.sequence))
        pure (older.map (page :: ·))
      else pure (some [page])

/-- A session's pages are those of its journal, with a cap of at least one event. -/
theorem exec_history {world : World S C} {sessionId : SessionId} {journal : List SequencedEvent}
    (hjournal : world.journal sessionId = some journal) :
    ∃ summary maxLimit, 1 ≤ maxLimit ∧ ∀ before limit,
      (history sessionId before limit).exec world =
        (.ok (historyJournal summary journal before limit maxLimit), world) := by
  unfold World.journal at hjournal
  cases hlive : world.inner.sessions.lookup sessionId with
  | some session =>
      rw [hlive] at hjournal
      obtain rfl := Option.some.inj hjournal
      refine ⟨session.summary, 200, by omega, fun before limit => ?_⟩
      rw [history, exec_bind, exec_get]
      dsimp only
      rw [hlive, exec_pure]
  | none =>
      rw [hlive] at hjournal
      obtain ⟨session, hlost, rfl⟩ := Option.map_eq_some_iff.mp hjournal
      refine ⟨session.summary, 100, by omega, fun before limit => ?_⟩
      rw [history, exec_bind, exec_get]
      dsimp only
      rw [hlive]
      dsimp only
      rw [hlost, exec_pure]

end Manager

/-- The pages, last to first, are what is before the boundary. -/
theorem exec_historyPages {world : World S C} {sessionId : SessionId}
    {journal : List SequencedEvent} (hjournal : world.journal sessionId = some journal)
    (hincreasing : journal.Pairwise fun a b => a.sequence < b.sequence) (limits : Nat → Nat)
    {calls : Nat} {before : Option Nat} (hcalls : (eligible journal before).length < calls) :
    ∃ pages, (Manager.historyPages sessionId limits calls before).exec world =
        (.ok (some pages), world) ∧
      (∀ page ∈ pages, page.hasMore = true → page.events ≠ []) ∧
      pages.reverse.flatMap (·.events) = eligible journal before := by
  obtain ⟨summary, maxLimit, hcap, hhistory⟩ := Manager.exec_history hjournal
  induction calls generalizing before limits with
  | zero => omega
  | succ calls ih =>
      rw [Manager.historyPages, exec_bind, hhistory]
      dsimp only
      cases hmore : (historyJournal summary journal before (limits 0) maxLimit).hasMore with
      | false =>
          refine ⟨[historyJournal summary journal before (limits 0) maxLimit], rfl, ?_, ?_⟩
          · intro page hpage htrue
            rw [List.mem_singleton.mp hpage, hmore] at htrue
            contradiction
          · rw [List.reverse_singleton, List.flatMap_singleton, events_of_not_hasMore hmore]
      | true =>
          obtain ⟨first, rest, hevents, hsplit⟩ := page_of_hasMore hincreasing hcap hmore
          have hshorter : (eligible journal (some first.sequence)).length < calls := by
            have hlength := congrArg List.length hsplit
            rw [List.length_append, List.length_cons] at hlength
            omega
          obtain ⟨pages, hexec, hnonempty, hpages⟩ := ih (fun n => limits (n + 1)) hshorter
          refine ⟨historyJournal summary journal before (limits 0) maxLimit :: pages, ?_, ?_, ?_⟩
          · rw [if_pos rfl, hevents, exec_bind]
            dsimp only [List.head?_cons, Option.map_some]
            rw [hexec]
            rfl
          · intro page hpage htrue
            rcases List.mem_cons.mp hpage with rfl | hpage
            · rw [hevents]
              exact List.cons_ne_nil first rest
            · exact hnonempty page hpage htrue
          · rw [List.reverse_cons, List.flatMap_append, hpages, List.flatMap_singleton, hevents,
              hsplit]

/-- **Paging covers the journal exactly**: from a boundary above the last event, with
whatever limits, at most one call more than there are events ends with a page that
has none before it, no page that has some before it is empty, and the pages, last
to first, are the journal. -/
theorem history_pages_cover {world : World S C} {sessionId : SessionId}
    {journal : List SequencedEvent} (hjournal : world.journal sessionId = some journal)
    (hincreasing : journal.Pairwise fun a b => a.sequence < b.sequence) {start : Option Nat}
    (hstart : ∀ event ∈ journal, event.sequence < historyBoundary start) (limits : Nat → Nat)
    {calls : Nat} (hcalls : journal.length < calls) :
    ∃ pages, (Manager.historyPages sessionId limits calls start).exec world =
        (.ok (some pages), world) ∧
      (∀ page ∈ pages, page.hasMore = true → page.events ≠ []) ∧
      pages.reverse.flatMap (·.events) = journal := by
  have hall : eligible journal start = journal :=
    List.filter_eq_self.mpr fun event hevent => decide_eq_true (hstart event hevent)
  have hfew : (eligible journal start).length < calls := by rw [hall]; exact hcalls
  have hpages := exec_historyPages hjournal hincreasing limits hfew
  rw [hall] at hpages
  exact hpages

/-- A manager that holds one session, live or recovered, with a journal of status
events. -/
def sampleHeld (live : Bool) (sequences : List Nat) : World SqliteStore ScriptedAgent :=
  let session := { sampleSession "s1" with
    summary := sampleSummary
    journal := sampleEvents sequences }
  let lost : RecoveredSession := {
    summary := sampleSummary
    descriptor := session.descriptor
    agentSessionId := none
    journal := sampleEvents sequences }
  { sampleManager with
    inner := { sampleManager.inner with
      sessions := if live then sampleManager.inner.sessions.insert "s1" session
        else sampleManager.inner.sessions
      recovered := if live then sampleManager.inner.recovered
        else sampleManager.inner.recovered.insert "s1" lost } }

/-- Three events with gaps, read with limits 0, 1, 2 and so on. -/
theorem history_pages_cover_gaps :
    ∃ pages, (Manager.historyPages "s1" id 4 none).exec (sampleHeld true [1, 4, 9]) =
        (.ok (some pages), sampleHeld true [1, 4, 9]) ∧
      (∀ page ∈ pages, page.hasMore = true → page.events ≠ []) ∧
      pages.reverse.flatMap (·.events) = sampleEvents [1, 4, 9] :=
  history_pages_cover (by rfl) (by simp [sampleEvents])
    (by simp [sampleEvents, historyBoundary]) id (by decide)

/-! ## live and recovered -/

/-- One manager has the session live and another has it recovered, with the same
summary and journal. -/
structure HeldAlike (sessionId : SessionId) (summary : SessionSummary)
    (journal : List SequencedEvent) (live lost : World S C) : Prop where
  live : ∃ session, live.inner.sessions.lookup sessionId = some session ∧
    session.summary = summary ∧ session.journal = journal
  notLive : lost.inner.sessions.lookup sessionId = none
  lost : ∃ session, lost.inner.recovered.lookup sessionId = some session ∧
    session.summary = summary ∧ session.journal = journal

/-- Both answer the reads of the session alike. -/
structure AnswerAlike (sessionId : SessionId) (after before : Option Nat) (limit : Nat)
    (live lost : World S C) : Prop where
  attach : (Manager.attach sessionId after).result live =
    (Manager.attach sessionId after).result lost
  history : (Manager.history sessionId before limit).result live =
    (Manager.history sessionId before limit).result lost
  inspect : ((Manager.inspectSession sessionId).result live).map
      (fun detail => (detail.summary, detail.recentEvents)) =
    ((Manager.inspectSession sessionId).result lost).map
      fun detail => (detail.summary, detail.recentEvents)

namespace HeldAlike

variable {sessionId : SessionId} {summary : SessionSummary} {journal : List SequencedEvent}
  {live lost : World S C}

theorem attach_eq (h : HeldAlike sessionId summary journal live lost) (after : Option Nat) :
    (Manager.attach sessionId after).result live =
      (Manager.attach sessionId after).result lost := by
  obtain ⟨session, hlive, rfl, rfl⟩ := h.live
  obtain ⟨session', hlost, hsummary, hjournal⟩ := h.lost
  rw [result, result, Manager.attach, exec_bind, exec_bind, exec_get, exec_get]
  dsimp only
  rw [hlive, h.notLive]
  dsimp only
  rw [hlost]
  dsimp only
  rw [exec_pure, exec_pure, hsummary, hjournal]

theorem inspect_eq (h : HeldAlike sessionId summary journal live lost) :
    ((Manager.inspectSession sessionId).result live).map
        (fun detail => (detail.summary, detail.recentEvents)) =
      ((Manager.inspectSession sessionId).result lost).map
        fun detail => (detail.summary, detail.recentEvents) := by
  obtain ⟨session, hlive, rfl, rfl⟩ := h.live
  obtain ⟨session', hlost, hsummary, hjournal⟩ := h.lost
  rw [result, result, Manager.inspectSession, exec_bind, exec_bind, exec_get, exec_get]
  dsimp only
  rw [hlive, h.notLive]
  dsimp only
  rw [hlost]
  dsimp only
  rw [exec_pure, exec_pure, Except.map, Except.map, hsummary, hjournal]

/-- The pages of a live session are capped at 200 events. -/
theorem history_live (h : HeldAlike sessionId summary journal live lost) (before : Option Nat)
    (limit : Nat) :
    (Manager.history sessionId before limit).result live =
      .ok (historyJournal summary journal before limit 200) := by
  obtain ⟨session, hlive, rfl, rfl⟩ := h.live
  rw [result, Manager.history, exec_bind, exec_get]
  dsimp only
  rw [hlive]
  rfl

/-- The pages of a recovered session are capped at 100 events. -/
theorem history_lost (h : HeldAlike sessionId summary journal live lost) (before : Option Nat)
    (limit : Nat) :
    (Manager.history sessionId before limit).result lost =
      .ok (historyJournal summary journal before limit 100) := by
  obtain ⟨session, hlost, rfl, rfl⟩ := h.lost
  rw [result, Manager.history, exec_bind, exec_get]
  dsimp only
  rw [h.notLive]
  dsimp only
  rw [hlost]
  rfl

end HeldAlike

/-- Pages under two caps are the same page if neither cap leaves anything out, or the
limit is below both. -/
theorem historyJournal_eq_of_start {summary : SessionSummary} {journal : List SequencedEvent}
    {before : Option Nat} {limit maxLimit maxLimit' : Nat}
    (h : (eligible journal before).length - pageLimit limit maxLimit =
      (eligible journal before).length - pageLimit limit maxLimit') :
    historyJournal summary journal before limit maxLimit =
      historyJournal summary journal before limit maxLimit' := by
  unfold eligible pageLimit at h
  unfold historyJournal
  dsimp only
  rw [h]

/-- **Live and recovered answer alike** exactly where the lower cap does not show. -/
theorem answer_alike_iff {sessionId : SessionId} {summary : SessionSummary}
    {journal : List SequencedEvent} {live lost : World S C}
    (h : HeldAlike sessionId summary journal live lost) (after before : Option Nat) (limit : Nat) :
    AnswerAlike sessionId after before limit live lost ↔
      limit ≤ 100 ∨
        (journal.filter fun event => event.sequence < historyBoundary before).length ≤ 100 := by
  constructor
  · intro halike
    have hpage := halike.history
    rw [h.history_live, h.history_lost] at hpage
    have hlength := congrArg (·.events.length) (Except.ok.inj hpage)
    rw [events_historyJournal, events_historyJournal, List.rtake, List.rtake, List.length_drop,
      List.length_drop] at hlength
    unfold pageLimit eligible at hlength
    omega
  · intro hsmall
    refine ⟨h.attach_eq after, ?_, h.inspect_eq⟩
    rw [h.history_live, h.history_lost]
    refine congrArg Except.ok (historyJournal_eq_of_start ?_)
    unfold pageLimit eligible
    omega

theorem heldAlike_sampleHeld (sequences : List Nat) :
    HeldAlike "s1" sampleSummary (sampleEvents sequences) (sampleHeld true sequences)
      (sampleHeld false sequences) where
  live := ⟨_, rfl, rfl, rfl⟩
  notLive := rfl
  lost := ⟨_, rfl, rfl, rfl⟩

/-- A journal of one event. -/
theorem answer_alike_short :
    AnswerAlike "s1" (some 0) none 200 (sampleHeld true [1]) (sampleHeld false [1]) :=
  (answer_alike_iff (heldAlike_sampleHeld [1]) (some 0) none 200).mpr (.inr (by decide))

/-- A client asks for the last 200 of 101 events: of the recovered session it gets
100. -/
theorem not_answer_alike :
    HeldAlike "s1" sampleSummary (sampleEvents (List.range' 1 101))
        (sampleHeld true (List.range' 1 101)) (sampleHeld false (List.range' 1 101)) ∧
      ¬ AnswerAlike "s1" none none 200 (sampleHeld true (List.range' 1 101))
        (sampleHeld false (List.range' 1 101)) := by
  refine ⟨heldAlike_sampleHeld _, fun halike => ?_⟩
  have hmore := congrArg (fun outcome => outcome.toOption.map (·.hasMore)) halike.history
  exact absurd hmore (by decide +kernel)

end Slight
