import Mathlib

/-!
# Slight.Support.Queue

A queue of items and marks left by some of them, which are matched by a key that
several items may share.  `Trails` says that for every key the marks are the last
ones of the queue; it is kept when an item joins, when the first item leaves and
takes the first mark of its key with it, and when the last item is taken back
together with its own mark.  All marks may be lost at any time.
-/

namespace Support

variable {α κ ι : Type} [DecidableEq κ] [DecidableEq ι] {key : α → κ} {id : α → ι}

/-- For every key, the marks are the last items of the queue. -/
def Trails (key : α → κ) (marks queue : List α) : Prop :=
  ∀ k, marks.filter (key · = k) <:+ queue.filter (key · = k)

theorem tail_suffix_of_suffix_cons {a : α} {marks queue : List α} (h : marks <:+ a :: queue) :
    marks.tail <:+ queue := by
  rcases List.suffix_cons_iff.mp h with rfl | h
  · exact List.suffix_refl queue
  · exact (List.tail_suffix marks).trans h

theorem suffix_append_singleton_cases {a : α} {marks queue : List α}
    (h : marks <:+ queue ++ [a]) : marks = [] ∨ ∃ rest, marks = rest ++ [a] ∧ rest <:+ queue := by
  rcases List.eq_nil_or_concat marks with hnil | ⟨rest, last, rfl⟩
  · exact .inl hnil
  · rw [List.concat_eq_append] at h ⊢
    obtain ⟨front, hfront⟩ := h
    rw [← List.append_assoc] at hfront
    obtain ⟨hqueue, hlast⟩ := List.append_inj' hfront rfl
    exact .inr ⟨rest, by rw [hlast], front, hqueue⟩

/-- Taking the first element of a key away is taking the first of those with the key. -/
theorem filter_eraseP_key (marks : List α) (k k' : κ) :
    (marks.eraseP (key · = k)).filter (key · = k') =
      if k' = k then (marks.filter (key · = k')).tail else marks.filter (key · = k') := by
  induction marks with
  | nil => split <;> rfl
  | cons mark marks ih =>
      by_cases hkey : key mark = k
      · rw [List.eraseP_cons_of_pos (by simpa using hkey)]
        by_cases hsame : k' = k
        · rw [if_pos hsame, List.filter_cons_of_pos (by simp [hkey, hsame]), List.tail_cons]
        · rw [if_neg hsame, List.filter_cons_of_neg (by simp [hkey, Ne.symm hsame])]
      · rw [List.eraseP_cons_of_neg (by simpa using hkey)]
        by_cases hsame : k' = k
        · have hother : key mark ≠ k' := fun h => hkey (h.trans hsame)
          rw [if_pos hsame] at ih ⊢
          rw [List.filter_cons_of_neg (by simpa using hother),
            List.filter_cons_of_neg (by simpa using hother), ih]
        · rw [if_neg hsame] at ih ⊢
          rw [List.filter_cons, List.filter_cons, ih]

namespace Trails

variable {marks queue : List α} {a : α}

theorem nil : Trails key [] queue := fun _ => List.nil_suffix

theorem mem (h : Trails key marks queue) (ha : a ∈ marks) : a ∈ queue := by
  have hmark : a ∈ marks.filter (key · = key a) := by simpa using ha
  exact List.mem_of_mem_filter ((h (key a)).subset hmark)

/-- No mark is left of an empty queue. -/
theorem eq_nil (h : Trails key marks []) : marks = [] :=
  List.eq_nil_iff_forall_not_mem.mpr fun _ ha => List.not_mem_nil (h.mem ha)

/-- An item joins and leaves its mark. -/
theorem joined (h : Trails key marks queue) : Trails key (marks ++ [a]) (queue ++ [a]) := by
  intro k
  rw [List.filter_append, List.filter_append]
  obtain ⟨front, hfront⟩ := h k
  exact ⟨front, by rw [← List.append_assoc, hfront]⟩

/-- **The first item leaves**, and the first mark of its key, whoever left it. -/
theorem left (h : Trails key marks (a :: queue)) :
    Trails key (marks.eraseP (key · = key a)) queue := by
  intro k
  have hk := h k
  rw [filter_eraseP_key]
  by_cases hsame : k = key a
  · rw [List.filter_cons_of_pos (by simp [hsame])] at hk
    rw [if_pos hsame]
    exact tail_suffix_of_suffix_cons hk
  · rw [List.filter_cons_of_neg (by simpa using Ne.symm hsame)] at hk
    rw [if_neg hsame]
    exact hk

/-- **The last item is taken back** with its own mark. -/
theorem takenBack (h : Trails key marks (queue ++ [a])) (hid : ∀ b ∈ queue, id b ≠ id a) :
    Trails key (marks.filter (id · ≠ id a)) queue := by
  intro k
  have hk := h k
  have hcomm : (marks.filter (id · ≠ id a)).filter (key · = k) =
      (marks.filter (key · = k)).filter (id · ≠ id a) := by
    rw [List.filter_filter, List.filter_filter]
    exact List.filter_congr fun b _ => Bool.and_comm _ _
  have hkeep : ∀ {rest : List α}, rest <:+ queue.filter (key · = k) →
      rest.filter (id · ≠ id a) = rest := by
    intro rest hrest
    refine List.filter_eq_self.mpr fun b hb => ?_
    simpa using hid b (List.mem_of_mem_filter (hrest.subset hb))
  rw [hcomm]
  rw [List.filter_append] at hk
  by_cases hkey : key a = k
  · rw [List.filter_cons_of_pos (by simpa using hkey), List.filter_nil] at hk
    rcases suffix_append_singleton_cases hk with hnil | ⟨rest, hmarks, hrest⟩
    · rw [hnil]
      exact List.nil_suffix
    · rw [hmarks, List.filter_append, hkeep hrest, List.filter_cons_of_neg (by simp),
        List.filter_nil, List.append_nil]
      exact hrest
  · rw [List.filter_cons_of_neg (by simpa using hkey), List.filter_nil, List.append_nil] at hk
    rw [hkeep hk]
    exact hk

end Trails

end Support
