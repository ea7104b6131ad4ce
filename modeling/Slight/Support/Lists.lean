import Mathlib

/-!
# Slight.Support.Lists

The ends of lists: what is left of a list of which only the last elements are
kept, and lists whose elements only come back after `k` others; maps that may fail; and
the keys of an association list.
-/

namespace Support

variable {α : Type}

/-! ## ends -/

/-- Keeping the last `k` at every step keeps the last `k` of all. -/
theorem rtake_append_singleton (xs : List α) (x : α) (k : Nat) :
    (xs.rtake k ++ [x]).rtake k = (xs ++ [x]).rtake k := by
  cases k with
  | zero => rw [List.rtake_zero, List.rtake_zero]
  | succ k =>
      have hrtake : (xs.rtake (k + 1)).rtake k = xs.rtake k := by
        rw [List.rtake_eq_reverse_take_reverse, List.rtake_eq_reverse_take_reverse,
          List.rtake_eq_reverse_take_reverse, List.reverse_reverse, List.take_take,
          Nat.min_eq_left (Nat.le_succ k)]
      rw [List.rtake_concat_succ, List.rtake_concat_succ, hrtake]

theorem rtake_suffix (xs : List α) (k : Nat) : xs.rtake k <:+ xs := List.drop_suffix _ _

theorem length_rtake_le (xs : List α) (k : Nat) : (xs.rtake k).length ≤ k := by
  rw [List.rtake, List.length_drop]
  omega

theorem map_rtake {β : Type} (f : α → β) (xs : List α) (k : Nat) :
    (xs.rtake k).map f = (xs.map f).rtake k := by
  rw [List.rtake, List.rtake, List.map_drop, List.length_map]

/-- What is kept of an ordered list by a test that later elements pass too is the
end of the list. -/
theorem filter_suffix {p : α → Bool} {xs : List α}
    (h : xs.Pairwise fun a b => p a = true → p b = true) : xs.filter p <:+ xs := by
  induction xs with
  | nil => exact List.suffix_refl []
  | cons x xs ih =>
      obtain ⟨hx, hxs⟩ := List.pairwise_cons.mp h
      by_cases hp : p x = true
      · have hall : (x :: xs).filter p = x :: xs := by
          refine List.filter_eq_self.mpr fun y hy => ?_
          rcases List.mem_cons.mp hy with rfl | hy
          · exact hp
          · exact hx y hy hp
        exact hall.symm ▸ List.suffix_refl (x :: xs)
      · rw [List.filter_cons_of_neg hp]
        exact (ih hxs).trans (List.suffix_cons x xs)

/-! ## beginnings -/

/-- Two beginnings of one list agree as far as both go. -/
theorem zip_of_append_eq {xs ys xs' ys' : List α} (h : xs ++ ys = xs' ++ ys') :
    ∀ pair ∈ xs.zip xs', pair.1 = pair.2 := by
  induction xs generalizing xs' with
  | nil => exact fun pair hmem => absurd hmem List.not_mem_nil
  | cons x xs ih =>
      cases xs' with
      | nil => exact fun pair hmem => absurd hmem List.not_mem_nil
      | cons x' xs' =>
          obtain ⟨rfl, hrest⟩ := List.cons.inj h
          intro pair hmem
          rcases List.mem_cons.mp hmem with rfl | hmem
          · rfl
          · exact ih hrest pair hmem

/-- Texts that differ in their beginnings differ. -/
theorem append_ne_append {a b : String} (h : ∃ pair ∈ a.toList.zip b.toList, pair.1 ≠ pair.2)
    (text text' : String) : a ++ text ≠ b ++ text' := by
  intro heq
  obtain ⟨pair, hmem, hne⟩ := h
  have hlists := congrArg String.toList heq
  rw [String.toList_append, String.toList_append] at hlists
  exact hne (zip_of_append_eq hlists pair hmem)

/-- What is numbered below an element of an increasing list is what comes before it. -/
theorem filter_lt_of_split {number : α → Nat} {front rest : List α} {x : α}
    (h : (front ++ x :: rest).Pairwise fun a b => number a < number b) :
    (front ++ x :: rest).filter (fun y => number y < number x) = front := by
  obtain ⟨-, hrest, hfront⟩ := List.pairwise_append.mp h
  have hlow : front.filter (fun y => number y < number x) = front :=
    List.filter_eq_self.mpr fun y hy => decide_eq_true (hfront y hy x List.mem_cons_self)
  have hhigh : (x :: rest).filter (fun y => number y < number x) = [] := by
    refine List.filter_eq_nil_iff.mpr fun y hy => ?_
    rw [decide_eq_true_eq]
    rcases List.mem_cons.mp hy with rfl | hy
    · omega
    · have := (List.pairwise_cons.mp hrest).1 y hy
      omega
  rw [List.filter_append, hlow, hhigh, List.append_nil]

/-- An increasing list of elements numbered below `n` has at most `n` elements. -/
theorem length_le_of_increasing {number : α → Nat} {xs : List α} {n : Nat}
    (h : xs.Pairwise fun a b => number a < number b) (hn : ∀ x ∈ xs, number x < n) :
    xs.length ≤ n := by
  induction xs using List.reverseRecOn generalizing n with
  | nil => exact Nat.zero_le n
  | append_singleton xs x ih =>
      obtain ⟨hxs, -, hlast⟩ := List.pairwise_append.mp h
      have hle := ih hxs fun y hy => hlast y hy x List.mem_cons_self
      have hlt := hn x (by simp)
      rw [List.length_append, List.length_singleton]
      omega

/-! ## one element replaced -/

/-- A list around an element, before and after the element is replaced. -/
theorem set_split {xs : List α} {k : Nat} {x : α} (h : xs[k]? = some x) (y : α) :
    ∃ before after, xs = before ++ x :: after ∧ xs.set k y = before ++ y :: after := by
  obtain ⟨hk, hget⟩ := List.getElem?_eq_some_iff.mp h
  refine ⟨xs.take k, xs.drop (k + 1), ?_, ?_⟩
  · rw [← hget, ← List.drop_eq_getElem_cons hk, List.take_append_drop]
  · rw [List.set_eq_take_append_cons_drop, if_pos hk]

theorem nodup_append_singleton {xs : List α} (h : xs.Nodup) {x : α} (hx : x ∉ xs) :
    (xs ++ [x]).Nodup := by
  rw [← List.concat_eq_append]
  exact (List.nodup_concat xs x).mpr ⟨hx, h⟩

theorem nodup_eraseDups [DecidableEq α] (xs : List α) : xs.eraseDups.Nodup := by
  -- the rest is filtered before its duplicates go: the induction is on the length
  induction hlength : xs.length using Nat.strong_induction_on generalizing xs with
  | h n ih =>
      cases xs with
      | nil => exact List.nodup_nil
      | cons x xs =>
          rw [List.eraseDups_cons]
          refine List.nodup_cons.mpr ⟨fun hmem => ?_, ih _ ?_ _ rfl⟩
          · simp [List.mem_eraseDups] at hmem
          · have hle := List.length_filter_le (fun y => !y == x) xs
            rw [List.length_cons] at hlength
            omega

/-! ## elements that come back late -/

/-- No element comes back within `k` others. -/
def Spaced (k : Nat) (xs : List α) : Prop :=
  ∀ window, window <:+: xs → window.length ≤ k + 1 → window.Nodup

namespace Spaced

variable {k : Nat} {xs : List α}

theorem nil : Spaced k ([] : List α) := by
  intro window hwindow _
  rw [List.eq_nil_of_infix_nil hwindow]
  exact List.nodup_nil

/-- The last `k` elements are distinct. -/
theorem nodup_rtake (h : Spaced k xs) : (xs.rtake k).Nodup :=
  h _ (rtake_suffix xs k).isInfix ((length_rtake_le xs k).trans (Nat.le_succ k))

/-- An element that is not among the last `k` may come next. -/
theorem concat (h : Spaced k xs) {x : α} (hx : x ∉ xs.rtake k) : Spaced k (xs ++ [x]) := by
  intro window hwindow hlength
  rcases List.infix_concat_iff.mp hwindow with hsuffix | hpart
  · rcases List.suffix_concat_iff.mp hsuffix with rfl | ⟨front, rfl, hfront⟩
    · exact List.nodup_nil
    · rw [List.length_append, List.length_singleton] at hlength
      have hnodup : front.Nodup := h front hfront.isInfix (by omega)
      have hlast : front <:+ xs.rtake k := by
        refine List.suffix_of_suffix_length_le hfront (rtake_suffix xs k) ?_
        have hle := hfront.length_le
        rw [List.rtake, List.length_drop]
        omega
      refine List.nodup_append.mpr ⟨hnodup, List.nodup_singleton x, fun a ha b hb heq => ?_⟩
      rw [List.mem_singleton.mp hb] at heq
      exact hx (hlast.subset (heq ▸ ha))
  · exact h window hpart hlength

/-- **Spacing**: between two occurrences of an element lie at least `k` others. -/
theorem le_card [DecidableEq α] (h : Spaced k xs) {before between after : List α} {x : α}
    (hxs : xs = before ++ x :: between ++ x :: after) : k ≤ (between.toFinset.erase x).card := by
  have hpart : ∀ {window : List α}, window <+: x :: between ++ [x] → window <:+: xs := by
    intro window hprefix
    obtain ⟨rest, hrest⟩ := hprefix
    refine ⟨before, rest ++ after, ?_⟩
    rw [hxs, List.append_assoc, ← List.append_assoc window, hrest]
    simp
  have hlong : k ≤ between.length := by
    by_contra hshort
    have hnodup := h (x :: between ++ [x]) (hpart (List.prefix_refl _)) (by simp; omega)
    rw [List.cons_append, List.nodup_cons] at hnodup
    exact hnodup.1 (List.mem_append_right _ (List.mem_singleton_self x))
  have hnodup : (x :: between.take k).Nodup := by
    refine h _ (hpart ?_) ?_
    · refine ⟨between.drop k ++ [x], ?_⟩
      rw [List.cons_append, ← List.append_assoc, List.take_append_drop, List.cons_append]
    · rw [List.length_cons, List.length_take]
      omega
  obtain ⟨hx, hothers⟩ := List.nodup_cons.mp hnodup
  have hcard : (between.take k).toFinset.card = k := by
    rw [List.toFinset_card_of_nodup hothers, List.length_take, Nat.min_eq_left hlong]
  calc k = (between.take k).toFinset.card := hcard.symm
    _ ≤ (between.toFinset.erase x).card := by
        refine Finset.card_le_card fun y hy => ?_
        have hmem : y ∈ between.take k := List.mem_toFinset.mp hy
        refine Finset.mem_erase.mpr ⟨fun heq => hx (heq ▸ hmem), ?_⟩
        exact List.mem_toFinset.mpr (List.mem_of_mem_take hmem)

end Spaced

/-! ## fallible maps -/

theorem isSome_mapM {β : Type} {f : α → Option β} {as : List α} :
    (as.mapM f).isSome ↔ ∀ a ∈ as, (f a).isSome := by
  induction as with
  | nil => exact iff_of_true rfl nofun
  | cons a as ih =>
      rw [List.mapM_cons, List.forall_mem_cons, ← ih]
      cases f a with
      | none => simp
      | some b => cases as.mapM f <;> simp

/-! ## keys -/

section

variable [DecidableEq α] {β : α → Type} {map : AList β} {key : α}

theorem mem_of_lookup {value : β key} (h : map.lookup key = some value) : key ∈ map := by
  rw [← AList.lookup_isSome, h]
  rfl

theorem exists_lookup_of_mem (h : key ∈ map) : ∃ value, map.lookup key = some value :=
  Option.isSome_iff_exists.mp (AList.lookup_isSome.mpr h)

end

end Support
