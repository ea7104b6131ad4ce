import Mathlib

/-!
# Slight.Support.Cursor

A cursor over a numbered stream.  The cursor is the highest number seen without
a hole; an item numbered at or below it is a duplicate, the next number is
accepted and moves it, any other number is a gap and leaves it.

* `accepted_of_range` — a run of consecutive numbers that starts at or below the
  cursor's successor is accepted to its end;
* `filter_eq_range_append` — in an increasing stream the numbers above the
  cursor are the accepted run followed by the gaps.
-/

namespace Support.Cursor

inductive Disposition where
  | accepted
  | duplicate
  | gap
  deriving DecidableEq

/-- How the number `s` stands to the cursor `c`. -/
def dispose (c s : Nat) : Disposition :=
  if s ≤ c then .duplicate else if c + 1 < s then .gap else .accepted

/-- The cursor after one number. -/
def advance (c s : Nat) : Nat :=
  match dispose c s with
  | .accepted => s
  | _ => c

theorem dispose_eq_accepted_iff {c s : Nat} : dispose c s = .accepted ↔ s = c + 1 := by
  unfold dispose
  split
  · simp only [reduceCtorEq, false_iff]
    omega
  · split
    · simp only [reduceCtorEq, false_iff]
      omega
    · simp only [true_iff]
      omega

theorem dispose_eq_duplicate_iff {c s : Nat} : dispose c s = .duplicate ↔ s ≤ c := by
  unfold dispose
  split
  · simpa
  · split
    · simp only [reduceCtorEq, false_iff]
      omega
    · simp only [reduceCtorEq, false_iff]
      omega

theorem dispose_eq_gap_iff {c s : Nat} : dispose c s = .gap ↔ c + 1 < s := by
  unfold dispose
  split
  · simp only [reduceCtorEq, false_iff]
    omega
  · split
    · simpa
    · simp only [reduceCtorEq, false_iff]
      omega

theorem advance_of_accepted {c s : Nat} (h : dispose c s = .accepted) : advance c s = s := by
  rw [advance, h]

theorem advance_of_duplicate {c s : Nat} (h : dispose c s = .duplicate) : advance c s = c := by
  rw [advance, h]

theorem advance_of_gap {c s : Nat} (h : dispose c s = .gap) : advance c s = c := by
  rw [advance, h]

theorem le_advance (c s : Nat) : c ≤ advance c s := by
  unfold advance
  split
  · next h =>
      rw [dispose_eq_accepted_iff] at h
      omega
  · exact Nat.le_refl c

section

variable {α : Type} (number : α → Nat)

/-- The cursor after a stream. -/
def after (c : Nat) (xs : List α) : Nat := xs.foldl (fun c x => advance c (number x)) c

/-- The items of a stream that are accepted. -/
def accepted : Nat → List α → List α
  | _, [] => []
  | c, x :: xs =>
      match dispose c (number x) with
      | .accepted => x :: accepted (number x) xs
      | _ => accepted c xs

/-- The items of a stream that are gaps. -/
def gaps : Nat → List α → List α
  | _, [] => []
  | c, x :: xs =>
      match dispose c (number x) with
      | .gap => x :: gaps c xs
      | _ => gaps (advance c (number x)) xs

theorem after_append (c : Nat) (xs ys : List α) :
    after number c (xs ++ ys) = after number (after number c xs) ys :=
  List.foldl_append

theorem accepted_append (c : Nat) (xs ys : List α) :
    accepted number c (xs ++ ys) =
      accepted number c xs ++ accepted number (after number c xs) ys := by
  induction xs generalizing c with
  | nil => rfl
  | cons x xs ih =>
      cases hd : dispose c (number x) with
      | accepted =>
          simp only [List.cons_append, accepted, hd, ih, after, List.foldl_cons,
            advance_of_accepted hd]
      | duplicate =>
          simp only [List.cons_append, accepted, hd, ih, after, List.foldl_cons,
            advance_of_duplicate hd]
      | gap =>
          simp only [List.cons_append, accepted, hd, ih, after, List.foldl_cons,
            advance_of_gap hd]

theorem gaps_append (c : Nat) (xs ys : List α) :
    gaps number c (xs ++ ys) = gaps number c xs ++ gaps number (after number c xs) ys := by
  induction xs generalizing c with
  | nil => rfl
  | cons x xs ih =>
      cases hd : dispose c (number x) with
      | accepted => simp only [List.cons_append, gaps, hd, ih, after, List.foldl_cons]
      | duplicate => simp only [List.cons_append, gaps, hd, ih, after, List.foldl_cons]
      | gap =>
          simp only [List.cons_append, gaps, hd, ih, after, List.foldl_cons, advance_of_gap hd]

theorem le_after (c : Nat) (xs : List α) : c ≤ after number c xs := by
  induction xs generalizing c with
  | nil => exact Nat.le_refl c
  | cons x xs ih => exact (le_advance c (number x)).trans (ih _)

/-! ## consecutive numbers -/

/-- **A consecutive run is accepted**: nothing is a gap, the items above the
cursor are accepted, and the cursor ends at the end of the run. -/
theorem accepted_of_range {c lo n : Nat} {xs : List α} (hlo : lo ≤ c + 1)
    (hxs : xs.map number = List.range' lo n) :
    accepted number c xs = xs.filter (fun x => c < number x) ∧ gaps number c xs = [] ∧
      after number c xs = max c (lo + n - 1) := by
  induction n generalizing c lo xs with
  | zero =>
      obtain rfl : xs = [] := List.map_eq_nil_iff.mp hxs
      refine ⟨rfl, rfl, ?_⟩
      rw [Nat.add_zero, Nat.max_eq_left (by omega)]
      rfl
  | succ n ih =>
      cases xs with
      | nil => simp at hxs
      | cons x xs =>
          rw [List.map_cons, List.range'_succ, List.cons.injEq] at hxs
          obtain ⟨hx, hrest⟩ := hxs
          by_cases hdup : number x ≤ c
          · have hd : dispose c (number x) = .duplicate := dispose_eq_duplicate_iff.mpr hdup
            have hadv := advance_of_duplicate hd
            have hlo' : lo + 1 ≤ c + 1 := by omega
            obtain ⟨hacc, hgap, hafter⟩ := ih hlo' hrest
            refine ⟨?_, ?_, ?_⟩
            · rw [accepted, hd, List.filter_cons_of_neg (by simpa using hdup)]
              exact hacc
            · rw [gaps, hd]
              simpa only [hadv] using hgap
            · rw [after, List.foldl_cons, hadv]
              rw [after] at hafter
              rw [hafter]
              congr 1
              omega
          · have hnext : number x = c + 1 := by omega
            have hd : dispose c (number x) = .accepted := dispose_eq_accepted_iff.mpr hnext
            have hadv := advance_of_accepted hd
            have hlo' : lo + 1 ≤ number x + 1 := by omega
            obtain ⟨hacc, hgap, hafter⟩ := ih hlo' hrest
            have hsame : xs.filter (fun y => number x < number y) =
                xs.filter (fun y => c < number y) := by
              refine List.filter_congr fun y hy => ?_
              have hmem : number y ∈ List.range' (lo + 1) n :=
                hrest ▸ List.mem_map_of_mem hy
              have := (List.mem_range'_1.mp hmem).1
              simp only [decide_eq_decide]
              omega
            refine ⟨?_, ?_, ?_⟩
            · rw [accepted, hd, List.filter_cons_of_pos (by simpa using hdup), ← hsame, ← hacc]
            · rw [gaps, hd]
              simpa only [hadv] using hgap
            · rw [after, List.foldl_cons, hadv]
              rw [after] at hafter
              rw [hafter]
              omega

/-! ## increasing numbers -/

/-- After a gap an increasing stream is all gaps. -/
theorem gaps_of_lt {c : Nat} {xs : List α} (h : ∀ x ∈ xs, c + 1 < number x) :
    gaps number c xs = xs ∧ after number c xs = c := by
  induction xs with
  | nil => exact ⟨rfl, rfl⟩
  | cons x xs ih =>
      have hd : dispose c (number x) = .gap :=
        dispose_eq_gap_iff.mpr (h x List.mem_cons_self)
      obtain ⟨hgap, hafter⟩ := ih fun y hy => h y (List.mem_cons_of_mem x hy)
      refine ⟨?_, ?_⟩
      · rw [gaps, hd, hgap]
      · rw [after, List.foldl_cons, advance, hd]
        exact hafter

/-- **An increasing stream splits at its first hole**: above the cursor stand the
accepted run and, beyond a hole, the gaps. -/
theorem filter_eq_range_append {c : Nat} {xs : List α}
    (hsorted : xs.Pairwise fun x y => number x < number y) :
    (xs.map number).filter (c < ·) =
        List.range' (c + 1) (after number c xs - c) ++ (gaps number c xs).map number ∧
      ∀ x ∈ gaps number c xs, after number c xs + 1 < number x := by
  induction xs generalizing c with
  | nil => simp [after, gaps]
  | cons x xs ih =>
      obtain ⟨hx, hrest⟩ := List.pairwise_cons.mp hsorted
      cases hd : dispose c (number x) with
      | duplicate =>
          have hdup := dispose_eq_duplicate_iff.mp hd
          have hadv := advance_of_duplicate hd
          obtain ⟨hfilter, hgaps⟩ := ih (c := c) hrest
          have hafter : after number c (x :: xs) = after number c xs := by
            rw [after, List.foldl_cons, hadv]
            rfl
          have hgap : gaps number c (x :: xs) = gaps number c xs := by
            rw [gaps, hd]
            simp only [hadv]
          rw [hafter, hgap, List.map_cons, List.filter_cons_of_neg (by simpa using hdup)]
          exact ⟨hfilter, hgaps⟩
      | accepted =>
          have hnext := dispose_eq_accepted_iff.mp hd
          have hadv := advance_of_accepted hd
          obtain ⟨hfilter, hgaps⟩ := ih (c := number x) hrest
          have hafter : after number c (x :: xs) = after number (number x) xs := by
            rw [after, List.foldl_cons, hadv]
            rfl
          have hgap : gaps number c (x :: xs) = gaps number (number x) xs := by
            rw [gaps, hd]
            simp only [hadv]
          have hsame : (xs.map number).filter (c < ·) = (xs.map number).filter (number x < ·) := by
            refine List.filter_congr fun s hs => ?_
            obtain ⟨y, hy, rfl⟩ := List.mem_map.mp hs
            have := hx y hy
            simp only [decide_eq_decide]
            omega
          have hle := le_after number (number x) xs
          have hlen : after number (number x) xs - c = after number (number x) xs - number x + 1 := by
            omega
          rw [hafter, hgap, List.map_cons, List.filter_cons_of_pos (by simp; omega), hsame, hfilter,
            hlen, List.range'_succ, List.cons_append, ← hnext]
          exact ⟨rfl, hgaps⟩
      | gap =>
          have hgap := dispose_eq_gap_iff.mp hd
          have hall : ∀ y ∈ x :: xs, c + 1 < number y := by
            intro y hy
            rcases List.mem_cons.mp hy with rfl | hy
            · exact hgap
            · exact hgap.trans (hx y hy)
          obtain ⟨hgaps, hafter⟩ := gaps_of_lt number hall
          rw [hgaps, hafter, Nat.sub_self, List.range'_zero, List.nil_append]
          refine ⟨?_, hall⟩
          refine List.filter_eq_self.mpr fun s hs => ?_
          obtain ⟨y, hy, rfl⟩ := List.mem_map.mp hs
          have := hall y hy
          simp only [decide_eq_true_eq]
          omega

end

/-- The splitting at the first hole is unique. -/
theorem range_append_unique {c m n : Nat} {ss ts : List Nat}
    (h : List.range' (c + 1) m ++ ss = List.range' (c + 1) n ++ ts)
    (hs : ∀ s ∈ ss, c + m + 1 < s) (ht : ∀ t ∈ ts, c + n + 1 < t) : m = n ∧ ss = ts := by
  have hmn : ∀ {m n : Nat} {ss ts : List Nat},
      List.range' (c + 1) m ++ ss = List.range' (c + 1) n ++ ts →
      (∀ s ∈ ss, c + m + 1 < s) → m ≥ n := by
    intro m n ss ts h hs
    by_contra hlt
    have hmem : c + m + 1 ∈ List.range' (c + 1) m ++ ss := by
      rw [h]
      refine List.mem_append_left _ (List.mem_range'_1.mpr ?_)
      omega
    rcases List.mem_append.mp hmem with hleft | hright
    · have := (List.mem_range'_1.mp hleft).2
      omega
    · exact absurd (hs _ hright) (Nat.lt_irrefl _)
  obtain rfl : m = n := Nat.le_antisymm (hmn h.symm ht) (hmn h hs)
  exact ⟨rfl, List.append_cancel_left h⟩

end Support.Cursor
