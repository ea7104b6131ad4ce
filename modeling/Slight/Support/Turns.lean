import Mathlib

/-!
# Slight.Support.Turns

Calls that take turns on one connection.  Each reads on where the one before it stopped
(`Shares`), and each writes to a peer that may refuse a frame.

A peer is given by `take`: whether it takes the next frame, and what it is after that.

* `written` — of some frames, those the peer takes;
* `spent` — the peer after it was offered them;
* `TakesAll` — it takes all of them.
-/

namespace Support

variable {σ α : Type} {take : σ → Bool × σ}

/-! ## writing -/

/-- Those of the frames that the peer takes. -/
def written (take : σ → Bool × σ) : σ → List α → List α
  | _, [] => []
  | s, frame :: frames =>
      if (take s).1 then frame :: written take (take s).2 frames
      else written take (take s).2 frames

/-- The peer after it was offered the frames. -/
def spent (take : σ → Bool × σ) : σ → List α → σ
  | s, [] => s
  | s, _ :: frames => spent take (take s).2 frames

/-- The peer takes all of the frames. -/
def TakesAll (take : σ → Bool × σ) (s : σ) (frames : List α) : Prop :=
  written take s frames = frames

theorem spent_append (s : σ) (front back : List α) :
    spent take s (front ++ back) = spent take (spent take s front) back := by
  induction front generalizing s with
  | nil => rfl
  | cons frame front ih => exact ih (take s).2

theorem written_append (s : σ) (front back : List α) :
    written take s (front ++ back) =
      written take s front ++ written take (spent take s front) back := by
  induction front generalizing s with
  | nil => rfl
  | cons frame front ih =>
      simp only [List.cons_append, written, spent, ih]
      split <;> simp

theorem written_sublist (s : σ) (frames : List α) : (written take s frames).Sublist frames := by
  induction frames generalizing s with
  | nil => exact .slnil
  | cons frame frames ih =>
      by_cases htaken : (take s).1 = true
      · rw [written, if_pos htaken]
        exact (ih (take s).2).cons_cons frame
      · rw [written, if_neg htaken]
        exact (ih (take s).2).cons frame

@[simp] theorem takesAll_nil (s : σ) : TakesAll take s ([] : List α) := rfl

theorem takesAll_cons {s : σ} {frame : α} {frames : List α} :
    TakesAll take s (frame :: frames) ↔ (take s).1 = true ∧ TakesAll take (take s).2 frames := by
  by_cases htaken : (take s).1 = true
  · rw [TakesAll, written, if_pos htaken, List.cons_inj_right, TakesAll]
    exact (and_iff_right htaken).symm
  · rw [TakesAll, written, if_neg htaken]
    refine iff_of_false (fun h => ?_) fun h => htaken h.1
    have hfewer : (written take (take s).2 frames).Sublist frames := written_sublist _ _
    have hlength := hfewer.length_le
    rw [h, List.length_cons] at hlength
    omega

theorem takesAll_append {s : σ} {front back : List α} :
    TakesAll take s (front ++ back) ↔
      TakesAll take s front ∧ TakesAll take (spent take s front) back := by
  induction front generalizing s with
  | nil => exact (and_iff_right (takesAll_nil s)).symm
  | cons frame front ih => rw [List.cons_append, takesAll_cons, ih, takesAll_cons, and_assoc, spent]

/-! ## reading in turns -/

variable {κ : Type} {read : κ → List α} {Made : σ → κ → List α → σ → Prop}

/-- The calls share out a stream: each is made in the state the one before it left, and
reads on where that one stopped.  `Made s call rest s'` is about one call that leaves
`rest` of the stream. -/
inductive Shares (read : κ → List α) (Made : σ → κ → List α → σ → Prop) :
    σ → List κ → List α → List α → σ → Prop
  | nil {s : σ} {stream : List α} : Shares read Made s [] stream stream s
  | cons {s s' s'' : σ} {call : κ} {calls : List κ} {rest left : List α}
      (first : Made s call rest s') (others : Shares read Made s' calls rest left s'') :
      Shares read Made s (call :: calls) (read call ++ rest) left s''

namespace Shares

variable {s s' : σ} {calls : List κ} {stream left : List α}

/-- Nothing of the stream is read twice or left out. -/
theorem stream_eq (h : Shares read Made s calls stream left s') :
    stream = calls.flatMap read ++ left := by
  induction h with
  | nil => rfl
  | cons _ _ ih => rw [List.flatMap_cons, List.append_assoc, ← ih]

/-- Each call was made at its turn, in a state with what the calls keep. -/
theorem made {I : σ → Prop} (hkeeps : ∀ {s call rest s'}, Made s call rest s' → I s → I s')
    (hs : I s) (h : Shares read Made s calls stream left s') :
    ∀ call ∈ calls, ∃ before rest after, I before ∧ Made before call rest after := by
  induction h with
  | nil => exact fun call hmem => absurd hmem List.not_mem_nil
  | cons first _ ih =>
      intro call hmem
      rcases List.mem_cons.mp hmem with rfl | hmem
      · exact ⟨_, _, _, hs, first⟩
      · exact ih (hkeeps first hs) call hmem

/-- **What the calls do together** is what each of them does, one after the other. -/
theorem composes {β : Type} (Does : σ → List β → σ → Prop) {f : κ → List β}
    (hnil : ∀ s, Does s [] s)
    (happend : ∀ {s s' s'' front back}, Does s front s' → Does s' back s'' →
      Does s (front ++ back) s'')
    (hmade : ∀ {s call rest s'}, Made s call rest s' → Does s (f call) s')
    (h : Shares read Made s calls stream left s') : Does s (calls.flatMap f) s' := by
  induction h with
  | nil => exact hnil _
  | cons first _ ih =>
      rw [List.flatMap_cons]
      exact happend (hmade first) ih

end Shares

end Support
