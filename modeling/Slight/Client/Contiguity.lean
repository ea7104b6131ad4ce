import Slight.Client.Journal
import Slight.Support.Lists

/-!
# Slight.Client.Contiguity

The client's replay cursors over the integers that its frames carry, under calls for
any number of sessions.  Numbers below zero can be decoded; `Reads` says that for the
other numbers this is the journal of the connection.
-/

namespace Slight

open Support

/-! ## the journal over the integers -/

inductive SequenceDisposition where
  | accepted
  | duplicate
  | gap (expected received : Int)
  deriving DecidableEq

/-- A disposition over the natural numbers, over the integers. -/
def SequenceDisposition.ofCounted : EventDisposition → SequenceDisposition
  | .accepted => .accepted
  | .duplicate => .duplicate
  | .gap expected received => .gap expected received

/-- `EventJournal`, over integers. -/
structure SequenceJournal where
  lastSequenceBySession : AList fun _ : String => Int := ∅

namespace SequenceJournal

def lastSequence (journal : SequenceJournal) (sessionId : String) : Int :=
  (journal.lastSequenceBySession.lookup sessionId).getD 0

def observe (journal : SequenceJournal) (sessionId : String) (sequence : Int) :
    SequenceDisposition × SequenceJournal :=
  let last := journal.lastSequence sessionId
  if sequence ≤ last then (.duplicate, journal)
  else if last + 1 < sequence then (.gap (last + 1) sequence, journal)
  else (.accepted, ⟨journal.lastSequenceBySession.insert sessionId sequence⟩)

/-- Forgets one session, or all of them. -/
def remove (journal : SequenceJournal) : Option String → SequenceJournal
  | none => ⟨∅⟩
  | some sessionId => ⟨journal.lastSequenceBySession.erase sessionId⟩

def markReplayed (journal : SequenceJournal) (sessionId : String) (sequence : Int) :
    SequenceJournal :=
  ⟨journal.lastSequenceBySession.insert sessionId
    (max (journal.lastSequence sessionId) sequence)⟩

/-! ## calls -/

inductive Call where
  | observe (sessionId : String) (sequence : Int)
  | markReplayed (sessionId : String) (sequence : Int)
  | remove (sessionId : Option String)

/-- The call is for the session. -/
def Call.concerns (sessionId : String) : Call → Bool
  | .observe other _ | .markReplayed other _ => other = sessionId
  | .remove other => other.all (· = sessionId)

/-- The call forgets the session. -/
def Call.removes (sessionId : String) : Call → Bool
  | .remove other => other.all (· = sessionId)
  | _ => false

/-- The call sets the cursor of the session, or forgets it. -/
def Call.resets (sessionId : String) : Call → Bool
  | .observe _ _ => false
  | .markReplayed other _ => other = sessionId
  | .remove other => other.all (· = sessionId)

/-- What a call makes of its event, if it has one, and of the journal. -/
def apply (journal : SequenceJournal) : Call → Option SequenceDisposition × SequenceJournal
  | .observe sessionId sequence =>
      let (disposition, journal) := journal.observe sessionId sequence
      (some disposition, journal)
  | .markReplayed sessionId sequence => (none, journal.markReplayed sessionId sequence)
  | .remove sessionId => (none, journal.remove sessionId)

def after (journal : SequenceJournal) (calls : List Call) : SequenceJournal :=
  calls.foldl (fun journal call => (journal.apply call).2) journal

/-- The sequences of the session's events that are accepted, in order. -/
def accepted (journal : SequenceJournal) (sessionId : String) : List Call → List Int
  | [] => []
  | call :: calls =>
      let rest := (journal.apply call).2.accepted sessionId calls
      match call, (journal.apply call).1 with
      | .observe other sequence, some .accepted =>
          if other = sessionId then sequence :: rest else rest
      | _, _ => rest

/-! ## cursors -/

@[simp] theorem lastSequence_insert (journal : SequenceJournal) (sessionId : String)
    (sequence : Int) :
    (⟨journal.lastSequenceBySession.insert sessionId sequence⟩ : SequenceJournal).lastSequence
      sessionId = sequence := by
  simp [lastSequence]

theorem lastSequence_insert_ne (journal : SequenceJournal) {sessionId other : String}
    (h : other ≠ sessionId) (sequence : Int) :
    (⟨journal.lastSequenceBySession.insert sessionId sequence⟩ : SequenceJournal).lastSequence
      other = journal.lastSequence other := by
  rw [lastSequence, lastSequence, AList.lookup_insert_ne h]

/-- What becomes of an event, and of the cursor of its session. -/
theorem observe_cases (journal : SequenceJournal) (sessionId : String) (sequence : Int) :
    let last := journal.lastSequence sessionId
    sequence ≤ last ∧ journal.observe sessionId sequence = (.duplicate, journal) ∨
      last + 1 < sequence ∧
        journal.observe sessionId sequence = (.gap (last + 1) sequence, journal) ∨
      sequence = last + 1 ∧ journal.observe sessionId sequence =
        (.accepted, ⟨journal.lastSequenceBySession.insert sessionId sequence⟩) := by
  intro last
  unfold observe
  by_cases hduplicate : sequence ≤ last
  · exact .inl ⟨hduplicate, if_pos hduplicate⟩
  · by_cases hgap : last + 1 < sequence
    · exact .inr (.inl ⟨hgap, by simp only [last, if_neg hduplicate, if_pos hgap]⟩)
    · refine .inr (.inr ⟨by omega, ?_⟩)
      simp only [last, if_neg hduplicate, if_neg hgap]

/-- A call for other sessions leaves the cursor where it is. -/
theorem lastSequence_apply_of_not_concerns (journal : SequenceJournal) {sessionId : String}
    {call : Call} (h : ¬ call.concerns sessionId) :
    (journal.apply call).2.lastSequence sessionId = journal.lastSequence sessionId := by
  cases call with
  | observe other sequence =>
      have hne : sessionId ≠ other := fun heq => h (decide_eq_true heq.symm)
      obtain ⟨-, hobserve⟩ | ⟨-, hobserve⟩ | ⟨-, hobserve⟩ := journal.observe_cases other sequence
      · rw [apply, hobserve]
      · rw [apply, hobserve]
      · rw [apply, hobserve]
        exact journal.lastSequence_insert_ne hne sequence
  | markReplayed other sequence =>
      have hne : sessionId ≠ other := fun heq => h (decide_eq_true heq.symm)
      exact journal.lastSequence_insert_ne hne _
  | remove removed =>
      cases removed with
      | none => exact absurd rfl h
      | some other =>
          have hne : sessionId ≠ other := fun heq => h (decide_eq_true heq.symm)
          show (AList.lookup sessionId (AList.erase other _)).getD 0 = _
          rw [AList.lookup_erase_ne hne, lastSequence]

/-- A cursor moves back only when its session is forgotten. -/
theorem lastSequence_le_apply (journal : SequenceJournal) {sessionId : String} {call : Call}
    (h : ¬ call.removes sessionId) :
    journal.lastSequence sessionId ≤ (journal.apply call).2.lastSequence sessionId := by
  by_cases hconcerns : call.concerns sessionId
  · cases call with
    | observe other sequence =>
        obtain rfl : other = sessionId := of_decide_eq_true hconcerns
        obtain ⟨-, hobserve⟩ | ⟨-, hobserve⟩ | ⟨hnext, hobserve⟩ :=
          journal.observe_cases other sequence
        · rw [apply, hobserve]
        · rw [apply, hobserve]
        · rw [apply, hobserve]
          dsimp only
          rw [lastSequence_insert]
          omega
    | markReplayed other sequence =>
        obtain rfl : other = sessionId := of_decide_eq_true hconcerns
        rw [apply, markReplayed, lastSequence_insert]
        exact le_max_left _ _
    | remove removed => exact absurd hconcerns h
  · rw [journal.lastSequence_apply_of_not_concerns hconcerns]

/-! ## runs -/

/-- An event of the session is accepted, and moves the cursor by one, or nothing moves. -/
theorem accepted_cons (journal : SequenceJournal) {sessionId : String} {call : Call}
    (hresets : ¬ call.resets sessionId) (calls : List Call) :
    let journal' := (journal.apply call).2
    (journal'.lastSequence sessionId = journal.lastSequence sessionId ∧
        journal.accepted sessionId (call :: calls) = journal'.accepted sessionId calls) ∨
      (journal'.lastSequence sessionId = journal.lastSequence sessionId + 1 ∧
        journal.accepted sessionId (call :: calls) =
          (journal.lastSequence sessionId + 1) :: journal'.accepted sessionId calls) := by
  intro journal'
  cases call with
  | observe other sequence =>
      by_cases hsame : other = sessionId
      · subst hsame
        obtain ⟨-, hobserve⟩ | ⟨-, hobserve⟩ | ⟨hnext, hobserve⟩ :=
          journal.observe_cases other sequence
        · exact .inl (by simp [journal', accepted, apply, hobserve])
        · exact .inl (by simp [journal', accepted, apply, hobserve])
        · refine .inr ?_
          simp only [journal', accepted, apply, hobserve, lastSequence_insert, if_true]
          exact ⟨hnext, congrArg (· :: _) hnext⟩
      · refine .inl ⟨journal.lastSequence_apply_of_not_concerns fun h =>
          hsame (of_decide_eq_true h), ?_⟩
        simp only [accepted]
        split
        · next hcall _ =>
            obtain ⟨rfl, rfl⟩ := Call.observe.inj hcall
            rw [if_neg hsame]
        · rfl
  | markReplayed other sequence =>
      have hother : ¬ Call.concerns sessionId (.markReplayed other sequence) := hresets
      exact .inl ⟨journal.lastSequence_apply_of_not_concerns hother, rfl⟩
  | remove removed =>
      have hother : ¬ Call.concerns sessionId (.remove removed) := hresets
      exact .inl ⟨journal.lastSequence_apply_of_not_concerns hother, rfl⟩

/-- **Between resets** the accepted events of a session follow its cursor, one by one. -/
theorem accepted_eq_range (journal : SequenceJournal) {sessionId : String} {calls : List Call}
    (hresets : ∀ call ∈ calls, ¬ call.resets sessionId) :
    ∃ count : Nat,
      journal.accepted sessionId calls =
        (List.range count).map (fun i : Nat => journal.lastSequence sessionId + 1 + i) ∧
      (journal.after calls).lastSequence sessionId = journal.lastSequence sessionId + count := by
  induction calls generalizing journal with
  | nil => exact ⟨0, rfl, (Int.add_zero _).symm⟩
  | cons call calls ih =>
      obtain ⟨hfirst, hrest⟩ := List.forall_mem_cons.mp hresets
      obtain ⟨count, haccepted, hlast⟩ := ih (journal.apply call).2 hrest
      rcases journal.accepted_cons hfirst calls with ⟨hkept, hsame⟩ | ⟨hmoved, hnext⟩
      · refine ⟨count, ?_, ?_⟩
        · rw [hsame, haccepted, hkept]
        · exact hlast.trans (by rw [hkept])
      · refine ⟨count + 1, ?_, ?_⟩
        · rw [hnext, haccepted, hmoved, List.range_succ_eq_map, List.map_cons, List.map_map]
          refine congr (congrArg List.cons (by omega)) (List.map_congr_left fun i _ => ?_)
          simp only [Function.comp_apply, Nat.succ_eq_add_one]
          omega
        · refine hlast.trans ?_
          rw [hmoved]
          omega

theorem after_append (journal : SequenceJournal) (calls calls' : List Call) :
    journal.after (calls ++ calls') = (journal.after calls).after calls' :=
  List.foldl_append

/-- What is promised of one call. -/
structure Classifies (journal : SequenceJournal) (call : Call) : Prop where
  /-- An event is accepted if it is the next of its session. -/
  observed : ∀ sessionId sequence, call = .observe sessionId sequence →
    let last := journal.lastSequence sessionId
    (journal.apply call).1 = some
      (if sequence = last + 1 then .accepted
        else if sequence ≤ last then .duplicate
        else .gap (last + 1) sequence)
  /-- An event that is not leaves the journal alone. -/
  unmoved : ∀ sessionId sequence, call = .observe sessionId sequence →
    (journal.apply call).1 ≠ some .accepted → (journal.apply call).2 = journal
  /-- A cursor moves back only when its session is forgotten. -/
  grows : ∀ sessionId, ¬ call.removes sessionId →
    journal.lastSequence sessionId ≤ (journal.apply call).2.lastSequence sessionId
  /-- A call for other sessions leaves the cursor where it is. -/
  framed : ∀ sessionId, ¬ call.concerns sessionId →
    (journal.apply call).2.lastSequence sessionId = journal.lastSequence sessionId

theorem classifies (journal : SequenceJournal) (call : Call) : journal.Classifies call where
  observed := by
    rintro sessionId sequence rfl
    intro last
    rcases journal.observe_cases sessionId sequence with
      ⟨hduplicate, hobserve⟩ | ⟨hgap, hobserve⟩ | ⟨hnext, hobserve⟩
    · have hne : sequence ≠ last + 1 := by omega
      rw [apply, hobserve, if_neg hne, if_pos hduplicate]
    · have hne : sequence ≠ last + 1 := by omega
      have hlate : ¬ sequence ≤ last := by omega
      rw [apply, hobserve, if_neg hne, if_neg hlate]
    · rw [apply, hobserve, if_pos hnext]
  unmoved := by
    rintro sessionId sequence rfl hrefused
    rcases journal.observe_cases sessionId sequence with
      ⟨-, hobserve⟩ | ⟨-, hobserve⟩ | ⟨-, hobserve⟩
    · rw [apply, hobserve]
    · rw [apply, hobserve]
    · rw [apply, hobserve] at hrefused
      exact absurd rfl hrefused
  grows := fun _ hremoves => journal.lastSequence_le_apply hremoves
  framed := fun _ hconcerns => journal.lastSequence_apply_of_not_concerns hconcerns

/-- **The cursor accepts contiguous events**: in any sequence of calls, each classifies its
event against the cursor of its session and moves no other; and between two calls that set or
forget the cursor of a session, the accepted events of the session have the numbers that
follow it, without hole or repetition. -/
theorem contiguous (journal : SequenceJournal) (calls : List Call) :
    (∀ before call rest, calls = before ++ call :: rest →
      (journal.after before).Classifies call) ∧
    ∀ before between rest sessionId, calls = before ++ between ++ rest →
      (∀ call ∈ between, ¬ call.resets sessionId) →
      let start := journal.after before
      ∃ count : Nat,
        start.accepted sessionId between =
          (List.range count).map (fun i : Nat => start.lastSequence sessionId + 1 + i) ∧
        (journal.after (before ++ between)).lastSequence sessionId =
          start.lastSequence sessionId + count := by
  refine ⟨fun before call _ _ => (journal.after before).classifies call,
    fun before between _ sessionId _ hresets => ?_⟩
  intro start
  rw [after_append]
  exact start.accepted_eq_range hresets

/-- Two sessions in turn: a repetition, a gap, and an event that comes again after it. -/
example : accepted {} "a" [.observe "a" 1, .observe "b" 1, .observe "a" 1, .observe "a" 3,
    .observe "a" 2, .observe "a" 3] = [1, 2, 3] := by
  decide

/-! ## the journal of the connection -/

/-- The journal over the integers reads as the one over the natural numbers. -/
def Reads (journal : SequenceJournal) (counted : EventJournal) : Prop :=
  ∀ sessionId, journal.lastSequence sessionId = counted.lastSequence sessionId

theorem Reads.insert {journal : SequenceJournal} {counted : EventJournal}
    (h : journal.Reads counted) (sessionId : String) (sequence : Nat) :
    Reads ⟨journal.lastSequenceBySession.insert sessionId sequence⟩
      ⟨counted.lastSequenceBySession.insert sessionId sequence⟩ := by
  intro other
  by_cases hsame : other = sessionId
  · subst hsame
    rw [lastSequence_insert, EventJournal.lastSequence_insert]
  · rw [journal.lastSequence_insert_ne hsame, h other, EventJournal.lastSequence,
      EventJournal.lastSequence, AList.lookup_insert_ne hsame]

/-- **The two journals agree** on what they make of an event. -/
theorem Reads.observe {journal : SequenceJournal} {counted : EventJournal}
    (h : journal.Reads counted) (event : GatewayEvent) :
    (journal.observe event.sessionId event.sequence).1 = .ofCounted (counted.observe event).1 ∧
      (journal.observe event.sessionId event.sequence).2.Reads (counted.observe event).2 := by
  have hlast := h event.sessionId
  unfold SequenceJournal.observe EventJournal.observe
  dsimp only
  rw [hlast]
  by_cases hduplicate : event.sequence ≤ counted.lastSequence event.sessionId
  · rw [if_pos hduplicate, if_pos (by omega)]
    exact ⟨rfl, h⟩
  · rw [if_neg hduplicate, if_neg (by omega)]
    by_cases hgap : counted.lastSequence event.sessionId + 1 < event.sequence
    · rw [if_pos hgap, if_pos (by omega)]
      exact ⟨rfl, h⟩
    · rw [if_neg hgap, if_neg (by omega)]
      exact ⟨rfl, h.insert event.sessionId event.sequence⟩

theorem Reads.markReplayed {journal : SequenceJournal} {counted : EventJournal}
    (h : journal.Reads counted) (sessionId : String) (sequence : Nat) :
    (journal.markReplayed sessionId sequence).Reads
      (counted.markReplayed sessionId sequence) := by
  unfold SequenceJournal.markReplayed EventJournal.markReplayed
  have hmax : max (journal.lastSequence sessionId) (sequence : Int) =
      ((max (counted.lastSequence sessionId) sequence : Nat) : Int) := by
    rw [h sessionId]
    omega
  rw [hmax]
  exact h.insert sessionId _

theorem Reads.remove {journal : SequenceJournal} {counted : EventJournal}
    (h : journal.Reads counted) (sessionId : Option String) :
    (journal.remove sessionId).Reads (counted.remove sessionId) := by
  cases sessionId with
  | none => exact fun other => rfl
  | some sessionId =>
      intro other
      show (AList.lookup other (journal.lastSequenceBySession.erase sessionId)).getD 0 =
        ((AList.lookup other (counted.lastSequenceBySession.erase sessionId)).getD 0 : Nat)
      by_cases hsame : other = sessionId
      · subst hsame
        rw [AList.lookup_erase, AList.lookup_erase]
        rfl
      · rw [AList.lookup_erase_ne hsame, AList.lookup_erase_ne hsame]
        exact h other

end SequenceJournal

end Slight
