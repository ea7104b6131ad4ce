import Mathlib

/-!
# Slight.Support.Checked

Machine arithmetic that neither wraps nor loses: the result of an operation, or of a
cast, is the exact integer if the type holds it, and nothing otherwise.
-/

namespace Support

namespace Checked

/-- An integer of `[lo, hi)`. -/
def within (lo hi n : Int) : Option Int :=
  if lo ≤ n ∧ n < hi then some n else none

/-- The integers of an `i64`. -/
def i64 : Int → Option Int := within (-2 ^ 63) (2 ^ 63)

/-- The integers of a `u64`. -/
def u64 : Int → Option Int := within 0 (2 ^ 64)

/-- The integers of a `u32`. -/
def u32 : Int → Option Int := within 0 (2 ^ 32)

variable {α : Type} {n : Int} {next : Int → Option α} {result : Option α}

/-- A step that stays in its range is not seen by the steps after it. -/
theorem within_bind {lo hi : Int} (hlo : lo ≤ n) (hhi : n < hi) (h : next n = result) :
    (within lo hi n >>= next) = result := by
  rw [within, if_pos ⟨hlo, hhi⟩]
  exact h

/-- A run goes on with the result of a step that stays in its type. -/
theorem i64_bind (hlo : -2 ^ 63 ≤ n) (hhi : n < 2 ^ 63) (h : next n = result) :
    (i64 n >>= next) = result :=
  within_bind hlo hhi h

theorem u64_bind (hlo : 0 ≤ n) (hhi : n < 2 ^ 64) (h : next n = result) :
    (u64 n >>= next) = result :=
  within_bind hlo hhi h

theorem u32_bind (hlo : 0 ≤ n) (hhi : n < 2 ^ 32) (h : next n = result) :
    (u32 n >>= next) = result :=
  within_bind hlo hhi h

end Checked

end Support
