import Mathlib

/-!
# Slight.Support.Double

The `Double` nearest to a number, ties to the even significand: 53 binary digits, down to
the unit `2^-1074`.  Overflow is left out, a number above the finite `Double`s is rounded
as if the exponent had no bound.
-/

namespace Support

namespace Double

/-! ## the nearest integer -/

/-- The integer nearest to a number, ties to the even one. -/
def roundEven (y : Rat) : Int :=
  if 1 < 2 * Int.fract y ∨ 2 * Int.fract y = 1 ∧ ⌊y⌋ % 2 = 1 then ⌊y⌋ + 1 else ⌊y⌋

variable {y : Rat} {n : Int}

theorem le_roundEven (h : n ≤ y) : n ≤ roundEven y := by
  have hfloor : n ≤ ⌊y⌋ := Int.le_floor.mpr h
  unfold roundEven
  split <;> omega

theorem roundEven_le (h : y ≤ n) : roundEven y ≤ n := by
  have hfloor : ⌊y⌋ ≤ n := Int.cast_le.mp ((Int.floor_le y).trans h)
  unfold roundEven
  split
  · next hup =>
      by_contra hlt
      have heq : y = n := by
        have hle := Int.floor_le y
        rw [show ⌊y⌋ = n by omega] at hle
        exact le_antisymm h hle
      rw [heq, Int.fract_intCast] at hup
      norm_num at hup
  · exact hfloor

@[simp] theorem roundEven_intCast (n : Int) : roundEven n = n :=
  le_antisymm (roundEven_le le_rfl) (le_roundEven le_rfl)

/-- The tie below an even integer is rounded up. -/
theorem roundEven_lt_iff (hn : n % 2 = 0) : roundEven y < n ↔ 2 * y < 2 * n - 1 := by
  have hsplit := Int.floor_add_fract y
  have hnonneg := Int.fract_nonneg y
  have hlt := Int.fract_lt_one y
  unfold roundEven
  split
  · next hup =>
      have hhalf : 1 ≤ 2 * Int.fract y := by
        rcases hup with hup | hup
        · exact hup.le
        · exact hup.1.ge
      constructor
      · intro h
        have hcast : (⌊y⌋ : Rat) + 2 ≤ n := by exact_mod_cast (by omega : ⌊y⌋ + 2 ≤ n)
        linarith
      · intro h
        by_contra hge
        have hcast : (n : Rat) ≤ ⌊y⌋ + 1 := by exact_mod_cast not_lt.mp hge
        linarith
  · next hdown =>
      rw [not_or, not_lt] at hdown
      constructor
      · intro h
        have hcast : (⌊y⌋ : Rat) + 1 ≤ n := by exact_mod_cast h
        rcases hdown.1.lt_or_eq with hless | heven
        · linarith
        · have hparity : ⌊y⌋ % 2 ≠ 1 := fun hodd => hdown.2 ⟨heven, hodd⟩
          have hcast : (⌊y⌋ : Rat) + 2 ≤ n := by exact_mod_cast (by omega : ⌊y⌋ + 2 ≤ n)
          linarith
      · intro h
        by_contra hge
        have hcast : (n : Rat) ≤ ⌊y⌋ := by exact_mod_cast not_lt.mp hge
        linarith

/-- The tie above an even integer is rounded down. -/
theorem roundEven_le_iff (hn : n % 2 = 0) : roundEven y ≤ n ↔ 2 * y ≤ 2 * n + 1 := by
  have hsplit := Int.floor_add_fract y
  have hnonneg := Int.fract_nonneg y
  have hlt := Int.fract_lt_one y
  unfold roundEven
  split
  · next hup =>
      constructor
      · intro h
        have hcast : (⌊y⌋ : Rat) + 1 ≤ n := by exact_mod_cast h
        linarith
      · intro h
        by_contra hge
        have hcast : (n : Rat) ≤ ⌊y⌋ := by exact_mod_cast (by omega : n ≤ ⌊y⌋)
        rcases hup with hup | hup
        · linarith
        · have hnext : (n : Rat) + 1 ≤ ⌊y⌋ := by exact_mod_cast (by omega : n + 1 ≤ ⌊y⌋)
          linarith
  · next hdown =>
      rw [not_or, not_lt] at hdown
      constructor
      · intro h
        have hcast : (⌊y⌋ : Rat) ≤ n := by exact_mod_cast h
        linarith
      · intro h
        by_contra hge
        have hcast : (n : Rat) + 1 ≤ ⌊y⌋ := by exact_mod_cast (by omega : n + 1 ≤ ⌊y⌋)
        linarith

/-! ## magnitudes -/

/-- The power of two that is the last place of the `Double`s around a magnitude. -/
def exponent (r : Rat) : Int := max (Int.log 2 r - 52) (-1074)

/-- The `Double` nearest to a magnitude. -/
def magnitude (r : Rat) : Rat := roundEven (r / 2 ^ exponent r) * 2 ^ exponent r

variable {r : Rat} {p e : Int}

theorem zpow_split (h : e ≤ p) : (2 : Rat) ^ p = ((2 ^ (p - e).toNat : Int) : Rat) * 2 ^ e := by
  rw [Int.cast_pow, Int.cast_ofNat, ← zpow_natCast, ← zpow_add₀ two_ne_zero]
  congr 1
  omega

/-- Powers of two are `Double`s, so that no magnitude is rounded past one. -/
theorem zpow_le_magnitude (hp : -1074 ≤ p) (h : 2 ^ p ≤ r) : 2 ^ p ≤ magnitude r := by
  have hscaled : ∀ {p : Int}, exponent r ≤ p → 2 ^ p ≤ r → 2 ^ p ≤ magnitude r := by
    intro p hp h
    have hpos : (0 : Rat) < 2 ^ exponent r := zpow_pos two_pos _
    rw [zpow_split hp] at h ⊢
    refine mul_le_mul_of_nonneg_right ?_ hpos.le
    exact_mod_cast le_roundEven ((le_div_iff₀ hpos).mpr h)
  by_cases hexponent : exponent r ≤ p
  · exact hscaled hexponent h
  · have hpos : 0 < r := lt_of_lt_of_le (zpow_pos two_pos _) h
    have hlog := Int.zpow_log_le_self (b := 2) one_lt_two hpos
    have hle : exponent r ≤ Int.log 2 r := by
      unfold exponent at hexponent ⊢
      omega
    exact (zpow_le_zpow_right₀ one_le_two (by omega)).trans (hscaled hle (by exact_mod_cast hlog))

theorem magnitude_le_zpow (hp : -1074 ≤ p) (hpos : 0 < r) (h : r ≤ 2 ^ p) :
    magnitude r ≤ 2 ^ p := by
  have hlog : Int.log 2 r ≤ p := by
    have hmono := Int.log_mono_right (b := 2) hpos h
    rwa [show (2 : Rat) = ((2 : Nat) : Rat) from rfl, Int.log_zpow one_lt_two] at hmono
  have hexponent : exponent r ≤ p := by
    unfold exponent
    omega
  have hscale : (0 : Rat) < 2 ^ exponent r := zpow_pos two_pos _
  rw [zpow_split hexponent] at h ⊢
  refine mul_le_mul_of_nonneg_right ?_ hscale.le
  exact_mod_cast roundEven_le ((div_le_iff₀ hscale).mpr h)

theorem exponent_eq (hlow : 2 ^ (52 + e) ≤ r) (hhigh : r < 2 ^ (53 + e)) (he : -1074 ≤ e) :
    exponent r = e := by
  have hpos : 0 < r := lt_of_lt_of_le (zpow_pos two_pos _) hlow
  have hle := (Int.zpow_le_iff_le_log (b := 2) one_lt_two hpos).mp (by exact_mod_cast hlow)
  have hlt := (Int.lt_zpow_iff_log_lt (b := 2) one_lt_two hpos).mp (by exact_mod_cast hhigh)
  unfold exponent
  omega

@[simp] theorem magnitude_zero : magnitude 0 = 0 := by
  rw [magnitude, zero_div, ← Int.cast_zero, roundEven_intCast, Int.cast_zero, zero_mul]

theorem zpow_natCast_add (k : Nat) (e : Int) : (2 : Rat) ^ ((k : Int) + e) = 2 ^ k * 2 ^ e := by
  rw [zpow_add₀ two_ne_zero, zpow_natCast]

/-- The magnitudes that are rounded below a power of two: they stay half a unit under it, of
the units below. -/
theorem magnitude_lt_zpow_iff (he : -1074 ≤ e) (hr : 0 ≤ r) :
    magnitude r < 2 ^ (53 + e) ↔ r < 2 ^ (53 + e) - 2 ^ e / 2 := by
  have hunit : (0 : Rat) < 2 ^ e := zpow_pos two_pos e
  have hlow : (2 : Rat) ^ (52 + e) = 2 ^ 52 * 2 ^ e := zpow_natCast_add 52 e
  have hhigh : (2 : Rat) ^ (53 + e) = 2 ^ 53 * 2 ^ e := zpow_natCast_add 53 e
  rcases hr.eq_or_lt with rfl | hpos
  · rw [magnitude_zero, hhigh]
    exact ⟨fun _ => by linarith, fun _ => by linarith⟩
  by_cases hsmall : r < 2 ^ (52 + e)
  · have hle := magnitude_le_zpow (by omega) hpos hsmall.le
    rw [hlow] at hle hsmall
    rw [hhigh]
    exact ⟨fun _ => by linarith, fun _ => by linarith⟩
  rw [not_lt] at hsmall
  by_cases hlarge : r < 2 ^ (53 + e)
  · have heven := roundEven_lt_iff (y := r / 2 ^ e) (n := 2 ^ 53) (by norm_num)
    have hcast : ((roundEven (r / 2 ^ e) : Int) : Rat) < 2 ^ 53 ↔
        roundEven (r / 2 ^ e) < 2 ^ 53 := by
      exact_mod_cast Iff.rfl
    rw [magnitude, exponent_eq hsmall hlarge he, hhigh, mul_lt_mul_iff_left₀ hunit, hcast, heven,
      ← mul_div_assoc, div_lt_iff₀ hunit]
    push_cast
    exact ⟨fun _ => by linarith, fun _ => by linarith⟩
  · rw [not_lt] at hlarge
    have hle := zpow_le_magnitude (by omega) hlarge
    exact ⟨fun _ => by linarith, fun _ => by linarith⟩

/-- The magnitudes that are rounded to a power of two or below: they stay within half a
unit over it, of the units above. -/
theorem magnitude_le_zpow_iff (he : -1074 ≤ e) (hr : 0 ≤ r) :
    magnitude r ≤ 2 ^ (52 + e) ↔ r ≤ 2 ^ (52 + e) + 2 ^ e / 2 := by
  have hunit : (0 : Rat) < 2 ^ e := zpow_pos two_pos e
  have hlow : (2 : Rat) ^ (52 + e) = 2 ^ 52 * 2 ^ e := zpow_natCast_add 52 e
  have hhigh : (2 : Rat) ^ (53 + e) = 2 ^ 53 * 2 ^ e := zpow_natCast_add 53 e
  rcases hr.eq_or_lt with rfl | hpos
  · rw [magnitude_zero, hlow]
    exact ⟨fun _ => by linarith, fun _ => by linarith⟩
  by_cases hsmall : r < 2 ^ (52 + e)
  · have hle := magnitude_le_zpow (by omega) hpos hsmall.le
    exact ⟨fun _ => by linarith, fun _ => hle⟩
  rw [not_lt] at hsmall
  by_cases hlarge : r < 2 ^ (53 + e)
  · have heven := roundEven_le_iff (y := r / 2 ^ e) (n := 2 ^ 52) (by norm_num)
    have hcast : ((roundEven (r / 2 ^ e) : Int) : Rat) ≤ 2 ^ 52 ↔
        roundEven (r / 2 ^ e) ≤ 2 ^ 52 := by
      exact_mod_cast Iff.rfl
    rw [magnitude, exponent_eq hsmall hlarge he, hlow, mul_le_mul_iff_left₀ hunit, hcast, heven,
      ← mul_div_assoc, div_le_iff₀ hunit]
    push_cast
    exact ⟨fun _ => by linarith, fun _ => by linarith⟩
  · rw [not_lt] at hlarge
    have hle := zpow_le_magnitude (by omega) hlarge
    rw [hhigh] at hle hlarge
    rw [hlow]
    exact ⟨fun _ => by linarith, fun _ => by linarith⟩

/-- A magnitude that is rounded to `2^63` or more is rounded to an integer. -/
theorem magnitude_eq_intCast (hr : 0 ≤ r) (h : 2 ^ 63 ≤ magnitude r) :
    ∃ n : Int, magnitude r = n := by
  have hpos : 0 < r := by
    rcases hr.eq_or_lt with rfl | hpos
    · norm_num at h
    · exact hpos
  have hexponent : 0 ≤ exponent r := by
    by_contra hneg
    have hlog : Int.log 2 r < 52 := by
      unfold exponent at hneg
      omega
    have hlt : r < 2 ^ (52 : Int) := by
      exact_mod_cast (Int.lt_zpow_iff_log_lt (b := 2) one_lt_two hpos).mpr hlog
    have hle := magnitude_le_zpow (by norm_num) hpos hlt.le
    norm_num at hle h
    linarith
  have hwhole := zpow_split (p := exponent r) (e := 0) hexponent
  refine ⟨roundEven (r / 2 ^ exponent r) * 2 ^ (exponent r - 0).toNat, ?_⟩
  rw [Int.cast_mul, magnitude, hwhole, zpow_zero, mul_one]

/-- A whole magnitude is rounded in its last digits, the ones after the 53rd. -/
theorem magnitude_natCast {m e : Nat} (hlow : 2 ^ (52 + e) ≤ m) (hhigh : m < 2 ^ (53 + e)) :
    magnitude m = ((m / 2 ^ e +
      if 2 ^ e < 2 * (m % 2 ^ e) ∨ 2 * (m % 2 ^ e) = 2 ^ e ∧ m / 2 ^ e % 2 = 1 then 1 else 0) *
        2 ^ e : Nat) := by
  have hexponent : exponent m = e := by
    refine exponent_eq ?_ ?_ (by omega)
    · exact_mod_cast hlow
    · exact_mod_cast hhigh
  have hunit : (2 : Rat) ^ (e : Int) = ((2 ^ e : Nat) : Rat) := by
    rw [zpow_natCast, Nat.cast_pow, Nat.cast_ofNat]
  have hpos : (0 : Rat) < ((2 ^ e : Nat) : Rat) := by exact_mod_cast Nat.two_pow_pos e
  have hfloor : ⌊(m : Rat) / ((2 ^ e : Nat) : Rat)⌋ = (m / 2 ^ e : Nat) := by
    rw [Rat.floor_natCast_div_natCast]
    rfl
  have hup : (1 : Rat) < 2 * ((m % 2 ^ e : Nat) / ((2 ^ e : Nat) : Rat)) ↔
      2 ^ e < 2 * (m % 2 ^ e) := by
    rw [mul_div_assoc', lt_div_iff₀ hpos, one_mul]
    norm_cast
  have htie : (2 : Rat) * ((m % 2 ^ e : Nat) / ((2 ^ e : Nat) : Rat)) = 1 ↔
      2 * (m % 2 ^ e) = 2 ^ e := by
    rw [mul_div_assoc', div_eq_one_iff_eq hpos.ne']
    norm_cast
  have hodd : ((m / 2 ^ e : Nat) : Int) % 2 = 1 ↔ m / 2 ^ e % 2 = 1 := by omega
  rw [magnitude, hexponent, hunit, roundEven, hfloor,
    Int.fract_div_natCast_eq_div_natCast_mod, if_congr (or_congr hup (and_congr htie hodd)) rfl rfl]
  split
  · rw [Nat.cast_mul, Nat.cast_add, Nat.cast_one, Int.cast_add, Int.cast_one, Int.cast_natCast]
  · rw [Nat.cast_mul, Nat.add_zero, Int.cast_natCast]

theorem magnitude_natCast_of_lt {m : Nat} (hm : m < 2 ^ 53) : magnitude m = m := by
  rcases Nat.eq_zero_or_pos m with rfl | hpos
  · exact magnitude_zero
  have hlog : Int.log 2 (m : Rat) < 53 := by
    refine (Int.lt_zpow_iff_log_lt (b := 2) one_lt_two (by exact_mod_cast hpos)).mp ?_
    exact_mod_cast hm
  have hexponent : exponent m ≤ 0 := by
    unfold exponent
    omega
  have hwhole : (m : Rat) / 2 ^ exponent m =
      ((m * 2 ^ (-exponent m).toNat : Int) : Rat) := by
    have hsplit := zpow_split (p := -exponent m) (e := 0) (by omega)
    rw [zpow_zero, mul_one, sub_zero] at hsplit
    rw [div_eq_mul_inv, ← zpow_neg, hsplit, Int.cast_mul, Int.cast_natCast]
  rw [magnitude, hwhole, roundEven_intCast, ← hwhole,
    div_mul_cancel₀ _ (zpow_pos two_pos _).ne']

/-! ## numbers -/

/-- The `Double` nearest to a number. -/
def nearest (q : Rat) : Rat := if q < 0 then -magnitude (-q) else magnitude q

variable {q : Rat}

theorem magnitude_nonneg (hr : 0 ≤ r) : 0 ≤ magnitude r := by
  have hscale : (0 : Rat) < 2 ^ exponent r := zpow_pos two_pos _
  refine mul_nonneg ?_ hscale.le
  exact_mod_cast le_roundEven (n := 0) (by exact_mod_cast div_nonneg hr hscale.le)

/-- The nearest `Double` is a number of a signed 64-bit type, or one of its next
neighbours outside, depending on the halves of the units at the two ends. -/
theorem nearest_in_range_iff :
    -2 ^ 63 ≤ nearest q ∧ nearest q < 2 ^ 63 ↔ -2 ^ 63 - 1024 ≤ q ∧ q < 2 ^ 63 - 512 := by
  unfold nearest
  by_cases hq : q < 0
  · have hnonneg := magnitude_nonneg (neg_nonneg.mpr hq.le)
    have hle := magnitude_le_zpow_iff (e := 11) (by norm_num) (neg_nonneg.mpr hq.le)
    norm_num at hle
    rw [if_pos hq]
    constructor
    · rintro ⟨hlow, -⟩
      have hbound := hle.mp (by linarith)
      exact ⟨by linarith, by linarith⟩
    · rintro ⟨hlow, -⟩
      have hbound := hle.mpr (by linarith)
      exact ⟨by linarith, by linarith⟩
  · have hnonneg := magnitude_nonneg (not_lt.mp hq)
    have hlt := magnitude_lt_zpow_iff (e := 10) (by norm_num) (not_lt.mp hq)
    norm_num at hlt
    rw [if_neg hq]
    constructor
    · rintro ⟨-, hhigh⟩
      have hbound := hlt.mp (by linarith)
      exact ⟨by linarith, by linarith⟩
    · rintro ⟨-, hhigh⟩
      have hbound := hlt.mpr (by linarith)
      exact ⟨by linarith, by linarith⟩

/-- A `Double` outside a signed 64-bit type is an integer. -/
theorem nearest_eq_intCast (h : ¬ (-2 ^ 63 ≤ nearest q ∧ nearest q < 2 ^ 63)) :
    ∃ n : Int, nearest q = n := by
  unfold nearest at h ⊢
  by_cases hq : q < 0
  · have hnonneg := magnitude_nonneg (neg_nonneg.mpr hq.le)
    rw [if_pos hq] at h ⊢
    have hlarge : 2 ^ 63 ≤ magnitude (-q) := by
      by_contra hlt
      exact h ⟨by linarith, by linarith⟩
    obtain ⟨n, hn⟩ := magnitude_eq_intCast (neg_nonneg.mpr hq.le) hlarge
    exact ⟨-n, by rw [hn, Int.cast_neg]⟩
  · have hnonneg := magnitude_nonneg (not_lt.mp hq)
    rw [if_neg hq] at h ⊢
    have hlarge : 2 ^ 63 ≤ magnitude q := by
      by_contra hlt
      exact h ⟨by linarith, by linarith⟩
    exact magnitude_eq_intCast (not_lt.mp hq) hlarge

end Double

end Support
