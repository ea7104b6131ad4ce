import Mathlib
/-!
# Slight.Support.Crash

Crashes of a component that changes its data by one atomic write after another.
A crash keeps the effect of the first `k` writes.  `CrashSafe` says of which
crashes the data still satisfies `J`: those whose last write is one that `ok`
allows to be the last.
-/

namespace Support

variable {D W : Type}

/-- `J` holds of the data after a crash in the middle of the writes `ws`, if the
last write that was done may be the last. -/
def CrashSafe (apply : D → W → D) (ok : W → Prop) (J : D → Prop) (d : D) (ws : List W) : Prop :=
  ∀ k, (∀ w ∈ (ws.take k).getLast?, ok w) → J ((ws.take k).foldl apply d)

namespace CrashSafe

variable {apply : D → W → D} {ok : W → Prop} {J : D → Prop} {d : D} {ws ws' : List W}

/-- A crash before the first write. -/
theorem start (h : CrashSafe apply ok J d ws) : J d := by
  have hnone := h 0
  rw [List.take_zero] at hnone
  exact hnone (fun w hw => by contradiction)

theorem nil (h : J d) : CrashSafe apply ok J d [] := by
  intro k _
  rw [List.take_nil]
  exact h

theorem singleton {w : W} (h : J d) (h' : J (apply d w)) : CrashSafe apply ok J d [w] := by
  intro k _
  cases k with
  | zero => exact h
  | succ k =>
      rw [List.take_succ_cons, List.take_nil]
      exact h'

/-- Two writes of which the first may not be the last. -/
theorem pair {w w' : W} (h : J d) (hw : ¬ ok w) (h' : J (apply (apply d w) w')) :
    CrashSafe apply ok J d [w, w'] := by
  intro k hlast
  match k with
  | 0 => exact h
  | 1 => exact absurd (hlast w rfl) hw
  | k + 2 =>
      rw [List.take_succ_cons, List.take_succ_cons, List.take_nil]
      exact h'

/-- Writes that each keep `J` keep it in every crash. -/
theorem of_forall (h : J d) (hws : ∀ w ∈ ws, ∀ d, J d → J (apply d w)) :
    CrashSafe apply ok J d ws := by
  intro k _
  have hall : ∀ w ∈ ws.take k, ∀ d, J d → J (apply d w) :=
    fun w hw => hws w (List.mem_of_mem_take hw)
  generalize ws.take k = done at hall
  induction done generalizing d with
  | nil => exact h
  | cons w done ih =>
      refine ih (hall w List.mem_cons_self d h) ?_
      exact fun w' hw' => hall w' (List.mem_cons_of_mem w hw')

/-- **Sequencing**: a crash falls into the first writes or into the second. -/
theorem append (h : CrashSafe apply ok J d ws)
    (h' : CrashSafe apply ok J (ws.foldl apply d) ws') :
    CrashSafe apply ok J d (ws ++ ws') := by
  intro k hlast
  rw [List.take_append] at hlast ⊢
  by_cases hk : k ≤ ws.length
  · rw [Nat.sub_eq_zero_of_le hk, List.take_zero, List.append_nil] at hlast ⊢
    exact h k hlast
  · rw [List.take_of_length_le (Nat.le_of_not_le hk)] at hlast ⊢
    rw [List.foldl_append]
    cases hrest : ws'.take (k - ws.length) with
    | nil => exact h'.start
    | cons w rest =>
        rw [← hrest]
        refine h' _ fun last hmem => hlast last ?_
        rw [List.getLast?_append, Option.mem_def.mp hmem]
        rfl

end CrashSafe

end Support
