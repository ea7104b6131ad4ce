import Slight.Support.Lists

/-!
# Slight.Support.Memo

A bounded memory of answers: what was remembered first is forgotten first.

`Follows` relates a memory to the log of all it was given: it holds the last
`limit` entries of the log, and no key enters the log twice unless `limit` other
keys did in between.
-/

namespace Support

/-- The values remembered under their keys, and the keys from the oldest on. -/
structure Memo (K V : Type) where
  entries : AList fun _ : K => V
  order : List K

namespace Memo

variable {K V : Type} [DecidableEq K]

def empty : Memo K V where
  entries := ∅
  order := []

def recalled (memo : Memo K V) (key : K) : Option V := memo.entries.lookup key

/-- Forgets the oldest keys until at most `limit` are left. -/
def evict (limit : Nat) (entries : AList fun _ : K => V) : List K → Memo K V
  | [] => ⟨entries, []⟩
  | oldest :: order =>
      if limit < (oldest :: order).length then evict limit (entries.erase oldest) order
      else ⟨entries, oldest :: order⟩

/-- Remembers the value, unless the key has one. -/
def remember (limit : Nat) (memo : Memo K V) (key : K) (value : V) : Memo K V :=
  if key ∈ memo.entries then memo
  else evict limit (memo.entries.insert key value) (memo.order ++ [key])

/-! ## eviction -/

theorem order_evict (limit : Nat) (entries : AList fun _ : K => V) (order : List K) :
    (evict limit entries order).order = order.rtake limit := by
  induction order generalizing entries with
  | nil => rw [evict, List.rtake_nil]
  | cons oldest order ih =>
      unfold evict
      rw [List.length_cons]
      split
      · next hlt =>
          have hdrop : order.length + 1 - limit = order.length - limit + 1 := by omega
          rw [ih, List.rtake, List.rtake, List.length_cons, hdrop, List.drop_succ_cons]
      · next hle =>
          have hdrop : order.length + 1 - limit = 0 := by omega
          rw [List.rtake, List.length_cons, hdrop, List.drop_zero]

/-- What is not evicted is still remembered. -/
theorem recall_evict (limit : Nat) (entries : AList fun _ : K => V) (order : List K) (key : K) :
    (evict limit entries order).recalled key =
      if key ∈ order.take (order.length - limit) then none else entries.lookup key := by
  induction order generalizing entries with
  | nil =>
      rw [List.take_nil, if_neg List.not_mem_nil]
      rfl
  | cons oldest order ih =>
      unfold evict
      rw [List.length_cons]
      split
      · next hlt =>
          have htake : order.length + 1 - limit = order.length - limit + 1 := by omega
          rw [ih, htake, List.take_succ_cons]
          by_cases hkey : key = oldest
          · subst hkey
            rw [AList.lookup_erase, ite_self, if_pos List.mem_cons_self]
          · rw [AList.lookup_erase_ne hkey]
            simp only [List.mem_cons, hkey, false_or]
      · next hle =>
          have htake : order.length + 1 - limit = 0 := by omega
          rw [htake, List.take_zero, if_neg List.not_mem_nil]
          rfl

/-! ## the log of what was remembered -/

/-- The log after a key was answered: known keys do not enter it again. -/
def logged (memo : Memo K V) (log : List (K × V)) (key : K) (value : V) : List (K × V) :=
  if key ∈ memo.entries then log else log ++ [(key, value)]

/-- The memory holds the last `limit` entries of the log. -/
structure Follows (limit : Nat) (log : List (K × V)) (memo : Memo K V) : Prop where
  order : memo.order = (log.map Prod.fst).rtake limit
  recalled : ∀ key value, memo.recalled key = some value ↔ (key, value) ∈ log.rtake limit
  spaced : Spaced limit (log.map Prod.fst)

omit [DecidableEq K] in
/-- With distinct keys, what is left of the pairs is what has a key that is left. -/
theorem mem_drop_iff {pairs : List (K × V)} (hnodup : (pairs.map Prod.fst).Nodup) (n : Nat)
    (key : K) (value : V) :
    (key, value) ∈ pairs.drop n ↔
      key ∉ (pairs.map Prod.fst).take n ∧ (key, value) ∈ pairs := by
  have hsplit : pairs.take n ++ pairs.drop n = pairs := List.take_append_drop n pairs
  rw [← hsplit, List.map_append, List.nodup_append] at hnodup
  rw [← List.map_take]
  constructor
  · intro hdrop
    refine ⟨fun htake => ?_, List.mem_of_mem_drop hdrop⟩
    exact hnodup.2.2 key htake key (List.mem_map_of_mem hdrop) rfl
  · rintro ⟨hkey, hmem⟩
    rw [← hsplit] at hmem
    rcases List.mem_append.mp hmem with htake | hdrop
    · exact absurd (List.mem_map_of_mem htake) hkey
    · exact hdrop

namespace Follows

variable {limit : Nat} {log : List (K × V)} {memo : Memo K V}

theorem empty : Follows limit [] (Memo.empty : Memo K V) where
  order := by rw [Memo.empty, List.map_nil, List.rtake_nil]
  recalled key value := by
    rw [Memo.empty, Memo.recalled, AList.lookup_empty, List.rtake_nil]
    simp
  spaced := .nil

theorem nodup (h : Follows limit log memo) : memo.order.Nodup := by
  rw [h.order]
  exact h.spaced.nodup_rtake

theorem length (h : Follows limit log memo) : memo.order.length ≤ limit := by
  rw [h.order]
  exact length_rtake_le _ _

/-- **The two halves agree**: what has a value is what stands in the order. -/
theorem mem_entries (h : Follows limit log memo) (key : K) :
    key ∈ memo.entries ↔ key ∈ memo.order := by
  rw [h.order, ← map_rtake, List.mem_map, ← AList.lookup_isSome, Option.isSome_iff_exists]
  constructor
  · rintro ⟨value, hvalue⟩
    exact ⟨(key, value), (h.recalled key value).mp hvalue, rfl⟩
  · rintro ⟨⟨key', value⟩, hmem, rfl⟩
    exact ⟨value, (h.recalled key' value).mpr hmem⟩

/-- **Remembering** keeps the memory the end of the log. -/
theorem remember (h : Follows limit log memo) (key : K) (value : V) :
    Follows limit (memo.logged log key value) (memo.remember limit key value) := by
  unfold Memo.remember Memo.logged
  split
  · exact h
  · next hnew =>
      have hfresh : key ∉ (log.map Prod.fst).rtake limit := by
        rw [← h.order, ← h.mem_entries]
        exact hnew
      have hspaced : Spaced limit ((log ++ [(key, value)]).map Prod.fst) := by
        rw [List.map_append]
        exact h.spaced.concat hfresh
      have horder : memo.order ++ [key] =
          (log.rtake limit ++ [(key, value)]).map Prod.fst := by
        rw [h.order, List.map_append, map_rtake]
        rfl
      have hnodup : ((log.rtake limit ++ [(key, value)]).map Prod.fst).Nodup := by
        rw [← horder]
        refine List.nodup_append.mpr ⟨h.nodup, List.nodup_singleton key, fun a ha b hb heq => ?_⟩
        rw [heq, List.mem_singleton.mp hb, h.order] at ha
        exact hfresh ha
      constructor
      · rw [order_evict, h.order, rtake_append_singleton, List.map_append]
        rfl
      · intro key' value'
        have hinsert : (memo.entries.insert key value).lookup key' = some value' ↔
            (key', value') ∈ log.rtake limit ++ [(key, value)] := by
          rw [List.mem_append, List.mem_singleton, ← h.recalled key' value', Prod.mk.injEq]
          by_cases hkey : key' = key
          · subst hkey
            rw [AList.lookup_insert, Memo.recalled, AList.lookup_eq_none.mpr hnew]
            simp [eq_comm]
          · rw [AList.lookup_insert_ne hkey]
            simp [hkey, Memo.recalled]
        rw [recall_evict, horder, List.length_map, ← rtake_append_singleton,
          show (log.rtake limit ++ [(key, value)]).rtake limit =
            (log.rtake limit ++ [(key, value)]).drop
              ((log.rtake limit ++ [(key, value)]).length - limit) from rfl,
          mem_drop_iff hnodup, ← hinsert]
        split
        · next hevicted => exact ⟨fun hnone => by contradiction, fun hkept => absurd hevicted hkept.1⟩
        · next hkept => exact ⟨fun hvalue => ⟨hkept, hvalue⟩, fun hboth => hboth.2⟩
      · exact hspaced

end Follows

end Memo

end Support
