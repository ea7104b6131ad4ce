import Mathlib

/-!
# Slight.Support.Upsert

Lists of keys and values under updates in place: a key that is there gets the new value
where it stands, another one goes to the end.  After any number of updates each key is
there once, and its value is the last one it was given.
-/

namespace Support

namespace Pairs

variable {κ α : Type} [DecidableEq κ]

/-- The value of a key, where it stands or at the end. -/
def upsert (key : κ) (value : α) : List (κ × α) → List (κ × α)
  | [] => [(key, value)]
  | (key', value') :: pairs =>
      if key' = key then (key', value) :: pairs else (key', value') :: upsert key value pairs

/-- Some keys and values, one after the other. -/
def upsertAll (pairs more : List (κ × α)) : List (κ × α) :=
  more.foldl (fun pairs (key, value) => upsert key value pairs) pairs

def keys (pairs : List (κ × α)) : List κ := pairs.map Prod.fst

/-- The value a key is given last. -/
def lastValue (pairs : List (κ × α)) (key : κ) : Option α := pairs.reverse.lookup key

variable {pairs more : List (κ × α)} {key key' : κ} {value : α}

/-! ## looking keys up -/

theorem lookup_cons (key key' : κ) (value : α) (pairs : List (κ × α)) :
    List.lookup key ((key', value) :: pairs) =
      if key = key' then some value else pairs.lookup key := by
  rw [List.lookup_cons]
  by_cases h : key = key'
  · rw [if_pos h, beq_iff_eq.mpr h]
  · rw [if_neg h, beq_eq_false_iff_ne.mpr h]

theorem isSome_lookup : (pairs.lookup key).isSome ↔ key ∈ keys pairs := by
  induction pairs with
  | nil => simp [keys]
  | cons pair pairs ih =>
      obtain ⟨key', value⟩ := pair
      rw [lookup_cons, keys, List.map_cons, List.mem_cons, ← keys, ← ih]
      by_cases h : key = key'
      · rw [if_pos h]
        exact ⟨fun _ => .inl h, fun _ => rfl⟩
      · rw [if_neg h]
        exact ⟨.inr, fun hmem => hmem.resolve_left h⟩

omit [DecidableEq κ] in
theorem mem_keys_of_mem (h : (key, value) ∈ pairs) : key ∈ keys pairs :=
  List.mem_map.mpr ⟨_, h, rfl⟩

/-- Where each key is there once, its value is what a search finds. -/
theorem mem_iff_lookup (hnodup : (keys pairs).Nodup) :
    (key, value) ∈ pairs ↔ pairs.lookup key = some value := by
  induction pairs with
  | nil => simp
  | cons pair pairs ih =>
      obtain ⟨key', value'⟩ := pair
      obtain ⟨hfirst, hrest⟩ := List.nodup_cons.mp hnodup
      rw [lookup_cons, List.mem_cons, Prod.mk.injEq]
      by_cases h : key = key'
      · rw [if_pos h, Option.some.injEq]
        constructor
        · rintro (⟨-, rfl⟩ | hmem)
          · rfl
          · exact absurd (mem_keys_of_mem hmem) (h ▸ hfirst)
        · exact fun heq => .inl ⟨h, heq.symm⟩
      · rw [if_neg h, ← ih hrest]
        exact ⟨fun hmem => hmem.resolve_left fun heq => h heq.1, .inr⟩

/-! ## one update -/

theorem keys_upsert (key : κ) (value : α) (pairs : List (κ × α)) :
    keys (upsert key value pairs) =
      if key ∈ keys pairs then keys pairs else keys pairs ++ [key] := by
  induction pairs with
  | nil => rfl
  | cons pair pairs ih =>
      obtain ⟨key', value'⟩ := pair
      have hkeys : keys ((key', value') :: pairs) = key' :: keys pairs := rfl
      rw [upsert, hkeys]
      by_cases h : key' = key
      · rw [if_pos h, if_pos (List.mem_cons.mpr (.inl h.symm))]
        rfl
      · rw [if_neg h]
        show key' :: keys (upsert key value pairs) = _
        rw [ih]
        by_cases hmem : key ∈ keys pairs
        · rw [if_pos hmem, if_pos (List.mem_cons_of_mem _ hmem)]
        · have hnot : key ∉ key' :: keys pairs := by
            rw [List.mem_cons, not_or]
            exact ⟨fun heq => h heq.symm, hmem⟩
          rw [if_neg hmem, if_neg hnot, List.cons_append]

theorem nodup_keys_upsert (h : (keys pairs).Nodup) (key : κ) (value : α) :
    (keys (upsert key value pairs)).Nodup := by
  rw [keys_upsert]
  split
  · exact h
  · next hnew => exact List.nodup_append_comm.mp (List.nodup_cons.mpr ⟨hnew, h⟩)

/-- An update changes one key. -/
theorem lookup_upsert (key key' : κ) (value : α) (pairs : List (κ × α)) :
    (upsert key value pairs).lookup key' =
      if key' = key then some value else pairs.lookup key' := by
  induction pairs with
  | nil => rw [upsert, lookup_cons]
  | cons pair pairs ih =>
      obtain ⟨key₀, value₀⟩ := pair
      rw [upsert]
      by_cases h : key₀ = key
      · rw [if_pos h, lookup_cons, lookup_cons, h]
        by_cases hkey : key' = key
        · rw [if_pos hkey, if_pos hkey]
        · rw [if_neg hkey, if_neg hkey, if_neg hkey]
      · rw [if_neg h, lookup_cons, lookup_cons, ih]
        by_cases hkey : key' = key₀
        · rw [if_pos hkey, if_pos hkey, if_neg (hkey ▸ h)]
        · rw [if_neg hkey, if_neg hkey]

/-! ## any number of updates -/

theorem lastValue_cons (key key' : κ) (value : α) (pairs : List (κ × α)) :
    lastValue ((key', value) :: pairs) key =
      (lastValue pairs key).or (if key = key' then some value else none) := by
  rw [lastValue, List.reverse_cons, List.lookup_append, lookup_cons, lastValue]
  rfl

theorem isSome_lastValue : (lastValue pairs key).isSome ↔ key ∈ keys pairs := by
  rw [lastValue, isSome_lookup, keys, List.map_reverse, List.mem_reverse, keys]

theorem lastValue_append (pairs more : List (κ × α)) (key : κ) :
    lastValue (pairs ++ more) key = (lastValue more key).or (lastValue pairs key) := by
  rw [lastValue, List.reverse_append, List.lookup_append, lastValue, lastValue]

/-- Where each key is there once, its last value is its only one. -/
theorem lastValue_eq_lookup (hnodup : (keys pairs).Nodup) (key : κ) :
    lastValue pairs key = pairs.lookup key := by
  have hreverse : (keys pairs.reverse).Nodup := by
    rw [keys, List.map_reverse]
    exact List.nodup_reverse.mpr hnodup
  refine Option.ext fun value => ?_
  rw [lastValue, ← mem_iff_lookup hreverse, ← mem_iff_lookup hnodup, List.mem_reverse]

theorem nodup_keys_upsertAll (h : (keys pairs).Nodup) (more : List (κ × α)) :
    (keys (upsertAll pairs more)).Nodup := by
  induction more generalizing pairs with
  | nil => exact h
  | cons pair more ih => exact ih (nodup_keys_upsert h pair.1 pair.2)

/-- **The last update counts**. -/
theorem lookup_upsertAll (pairs more : List (κ × α)) (key : κ) :
    (upsertAll pairs more).lookup key = (lastValue more key).or (pairs.lookup key) := by
  induction more generalizing pairs with
  | nil => rfl
  | cons pair more ih =>
      obtain ⟨key', value⟩ := pair
      show (upsertAll (upsert key' value pairs) more).lookup key = _
      rw [ih, lookup_upsert, lastValue_cons]
      cases lastValue more key with
      | some last => rfl
      | none => by_cases h : key = key' <;> simp [h]

end Pairs

end Support
