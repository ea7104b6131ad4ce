import Mathlib

/-!
# Slight.Support.Rolling

A record of which the last part is kept, in a few files of bounded size.  A new item goes
into the newest file, or into a new one if that would grow too large; a file too many is
dropped, and it is the oldest.  An item that is too large by itself has a file of its own.
-/

namespace Support

variable {α : Type}

/-- The size of some items. -/
def total (size : α → Nat) (items : List α) : Nat := (items.map size).sum

/-- The files, the newest first, each with its items in order. -/
structure Rolling (size : α → Nat) (limit keep : Nat) where
  newest : List α
  older : List (List α)
  few : older.length < keep
  bounded : ∀ file ∈ newest :: older, total size file ≤ limit ∨ file.length = 1

section

variable {size : α → Nat}

theorem total_append_singleton (items : List α) (item : α) :
    total size (items ++ [item]) = total size items + size item := by
  rw [total, total, List.map_append, List.sum_append, List.map_singleton, List.sum_singleton]

/-- Items of some size each are no more than their size. -/
theorem length_le_total (hsize : ∀ item, 0 < size item) (items : List α) :
    items.length ≤ total size items := by
  induction items with
  | nil => exact Nat.le_refl 0
  | cons item items ih =>
      have hitem := hsize item
      rw [total] at ih
      rw [total, List.map_cons, List.sum_cons, List.length_cons]
      omega

theorem suffix_flatten {xss yss : List (List α)} (h : xss <:+ yss) :
    xss.flatten <:+ yss.flatten := by
  obtain ⟨front, rfl⟩ := h
  rw [List.flatten_append]
  exact List.suffix_append _ _

end

namespace Rolling

variable {size : α → Nat} {limit keep : Nat}

def files (r : Rolling size limit keep) : List (List α) := r.newest :: r.older

/-- What is kept, in the order it came. -/
def items (r : Rolling size limit keep) : List α := r.files.reverse.flatten

/-- One empty file. -/
def start (h : 0 < keep) : Rolling size limit keep where
  newest := []
  older := []
  few := h
  bounded file hfile := by
    rw [List.mem_singleton.mp hfile]
    exact .inl (Nat.zero_le limit)

/-- A new file. -/
def roll (r : Rolling size limit keep) : Rolling size limit keep where
  newest := []
  older := r.files.take (keep - 1)
  few := by
    have hfew := r.few
    rw [List.length_take]
    omega
  bounded file hfile := by
    rcases List.mem_cons.mp hfile with rfl | hfile
    · exact .inl (Nat.zero_le limit)
    · exact r.bounded file (List.mem_of_mem_take hfile)

/-- An item in the newest file, which is empty or has room for it. -/
def add (r : Rolling size limit keep) (item : α)
    (h : r.newest = [] ∨ total size r.newest + size item ≤ limit) : Rolling size limit keep where
  newest := r.newest ++ [item]
  older := r.older
  few := r.few
  bounded file hfile := by
    rcases List.mem_cons.mp hfile with rfl | hfile
    · rcases h with h | h
      · right
        rw [h]
        rfl
      · left
        rw [total_append_singleton]
        exact h
    · exact r.bounded file (List.mem_cons_of_mem _ hfile)

/-- The newest file has something in it and no room for an item of `bytes` more. -/
def Full (r : Rolling size limit keep) (bytes : Nat) : Prop :=
  0 < total size r.newest ∧ limit < total size r.newest + bytes

instance (r : Rolling size limit keep) (bytes : Nat) : Decidable (r.Full bytes) :=
  inferInstanceAs (Decidable (_ ∧ _))

theorem room_of_not_full (hsize : ∀ item, 0 < size item) {r : Rolling size limit keep} {item : α}
    (h : ¬ r.Full (size item)) :
    r.newest = [] ∨ total size r.newest + size item ≤ limit := by
  by_cases hroom : total size r.newest + size item ≤ limit
  · exact .inr hroom
  · have hempty : ¬ 0 < total size r.newest := fun hpos => h ⟨hpos, by omega⟩
    have hlength := length_le_total hsize r.newest
    exact .inl (List.length_eq_zero_iff.mp (by omega))

/-- The next item. -/
def push (hsize : ∀ item, 0 < size item) (r : Rolling size limit keep) (item : α) :
    Rolling size limit keep :=
  if h : r.Full (size item) then r.roll.add item (.inl rfl)
  else r.add item (room_of_not_full hsize h)

/-! ## what is kept -/

theorem length_files_le (r : Rolling size limit keep) : r.files.length ≤ keep := r.few

/-- The new file takes the place of the oldest. -/
theorem files_roll (r : Rolling size limit keep) : r.roll.files = ([] :: r.files).take keep := by
  have hfew := r.few
  obtain ⟨k, rfl⟩ : ∃ k, keep = k + 1 := ⟨keep - 1, by omega⟩
  rw [List.take_succ_cons]
  rfl

theorem items_roll (r : Rolling size limit keep) : r.roll.items <:+ r.items := by
  have hsuffix := suffix_flatten
    (List.reverse_suffix.mpr (List.take_prefix keep ([] :: r.files)))
  rw [items, files_roll]
  rw [List.reverse_cons, List.flatten_append, List.flatten_singleton, List.append_nil] at hsuffix
  exact hsuffix

theorem items_add (r : Rolling size limit keep) (item : α)
    (h : r.newest = [] ∨ total size r.newest + size item ≤ limit) :
    (r.add item h).items = r.items ++ [item] := by
  unfold items files
  rw [List.reverse_cons, List.reverse_cons, List.flatten_append, List.flatten_append,
    List.flatten_singleton, List.flatten_singleton, List.append_assoc]
  rfl

section

variable (hsize : ∀ item, 0 < size item) (r : Rolling size limit keep)

/-- Only old items are dropped. -/
theorem items_push (item : α) : (r.push hsize item).items <:+ r.items ++ [item] := by
  unfold push
  split
  · rw [items_add]
    obtain ⟨dropped, hitems⟩ := r.items_roll
    rw [← hitems, List.append_assoc]
    exact List.suffix_append _ _
  · next hroom => exact ⟨[], r.items_add item (room_of_not_full hsize hroom)⟩

theorem getLast?_newest_push (item : α) :
    (r.push hsize item).newest.getLast? = some item := by
  unfold push
  split <;> exact List.getLast?_concat

/-- **The newest items are kept**: what a run leaves of its items are the last of them. -/
theorem items_foldl_push (items : List α) :
    (items.foldl (push hsize) r).items <:+ r.items ++ items := by
  induction items generalizing r with
  | nil =>
      rw [List.append_nil]
      exact List.suffix_rfl
  | cons item items ih =>
      refine (ih (r.push hsize item)).trans ?_
      obtain ⟨dropped, hitems⟩ := r.items_push hsize item
      rw [List.append_cons, ← hitems, List.append_assoc]
      exact List.suffix_append _ _

theorem items_foldl_start (h : 0 < keep) (items : List α) :
    (items.foldl (push hsize) (start h : Rolling size limit keep)).items <:+ items :=
  items_foldl_push hsize (start h) items

/-- The last item is in the newest file. -/
theorem getLast?_newest_foldl {items : List α} {last : α} (h : items.getLast? = some last) :
    (items.foldl (push hsize) r).newest.getLast? = some last := by
  obtain ⟨front, rfl⟩ := List.getLast?_eq_some_iff.mp h
  rw [List.foldl_append]
  exact getLast?_newest_push hsize _ last

end

end Rolling

end Support
