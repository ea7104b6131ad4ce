import Mathlib

/-!
# Slight.Protocol.Time

Timestamps of the gateway protocol: milliseconds since the epoch as RFC 3339
text, by the era-based conversion of a day count to a civil date.

A day count is what `daysFromCivil` makes of its civil date, and the fields of a
timestamp are digit runs of a fixed width.
-/

namespace Slight

/-- `{n:0width}`: zeros stand between the sign and the digits. -/
def zeroPadded (width : Nat) (n : Int) : String :=
  let digits := toString n.natAbs
  let sign := if n < 0 then "-" else ""
  sign ++ "".pushn '0' (width - sign.length - digits.length) ++ digits

/-- Year, month and day of a day count from 1970-01-01; `/` rounds toward zero
as the host's integer division does. -/
def civilFromDays (days : Int) : Int × Int × Int :=
  let z := days + 719468
  let era := (if 0 ≤ z then z else z - 146096).tdiv 146097
  let doe := z - era * 146097
  let yoe := (doe - doe / 1460 + doe / 36524 - doe / 146096) / 365
  let year := yoe + era * 400
  let doy := doe - (365 * yoe + yoe / 4 - yoe / 100)
  let mp := (5 * doy + 2) / 153
  let day := doy - (153 * mp + 2) / 5 + 1
  let month := if mp < 10 then mp + 3 else mp - 9
  (if month ≤ 2 then year + 1 else year, month, day)

/-- The year a timestamp lies in. -/
def yearFromMs (ms : Int) : Int := (civilFromDays (ms / 1000 / 86400)).1

def rfc3339FromMs (ms : Int) : String :=
  let seconds := ms / 1000
  let millis := ms % 1000
  let days := seconds / 86400
  let secondsOfDay := seconds % 86400
  let (year, month, day) := civilFromDays days
  let hour := secondsOfDay / 3600
  let minute := secondsOfDay % 3600 / 60
  let second := secondsOfDay % 60
  let date := zeroPadded 4 year ++ "-" ++ zeroPadded 2 month ++ "-" ++ zeroPadded 2 day
  let time := zeroPadded 2 hour ++ ":" ++ zeroPadded 2 minute ++ ":" ++ zeroPadded 2 second
  if millis = 0 then date ++ "T" ++ time ++ "Z"
  else date ++ "T" ++ time ++ "." ++ zeroPadded 3 millis ++ "Z"

/-! ## civil dates -/

/-- The day count from 1970-01-01 of a date of the proleptic Gregorian calendar;
a year is counted from March, so that the leap day is its last. -/
def daysFromCivil (year month day : Int) : Int :=
  let y := if month ≤ 2 then year - 1 else year
  let yoe := y % 400
  let mp := if 2 < month then month - 3 else month + 9
  let doy := (153 * mp + 2) / 5 + day - 1
  y / 400 * 146097 + (yoe * 365 + yoe / 4 - yoe / 100 + doy) - 719468

/-- The host's division rounds toward zero, so it shifts a day before the first
era back by an era less a day. -/
theorem era_eq (z : Int) : (if 0 ≤ z then z else z - 146096).tdiv 146097 = z / 146097 := by
  by_cases hz : 0 ≤ z
  · rw [if_pos hz, Int.tdiv_eq_ediv_of_nonneg hz]
  · have hneg : z - 146096 = -(146096 - z) := by omega
    rw [if_neg hz, hneg, Int.neg_tdiv, Int.tdiv_eq_ediv_of_nonneg (by omega)]
    omega

/-- The year of an era a day lies in: a cycle of 4 years has 1460 days before its
leap day, a century 36524, an era 146096. -/
def yearOfEra (doe : Int) : Int := (doe - doe / 1460 + doe / 36524 - doe / 146096) / 365

def dayOfYear (doe : Int) : Int :=
  doe - (365 * yearOfEra doe + yearOfEra doe / 4 - yearOfEra doe / 100)

/-- An era has 400 years. -/
theorem yearOfEra_bounds (doe : Int) (h0 : 0 ≤ doe) (h1 : doe < 146097) :
    0 ≤ yearOfEra doe ∧ yearOfEra doe ≤ 399 := by
  unfold yearOfEra
  omega

/-- A year has at most 366 days. -/
theorem dayOfYear_bounds (doe : Int) (h0 : 0 ≤ doe) (h1 : doe < 146097) :
    0 ≤ dayOfYear doe ∧ dayOfYear doe ≤ 365 := by
  have hyear := yearOfEra_bounds doe h0 h1
  have hdef : yearOfEra doe = (doe - doe / 1460 + doe / 36524 - doe / 146096) / 365 := rfl
  unfold dayOfYear
  -- in each century the three quotients by 36524 and 100 are known
  have hcentury : doe / 36524 = 0 ∨ doe / 36524 = 1 ∨ doe / 36524 = 2 ∨ doe / 36524 = 3 ∨
      doe / 36524 = 4 := by omega
  have hhundred : yearOfEra doe / 100 = 0 ∨ yearOfEra doe / 100 = 1 ∨ yearOfEra doe / 100 = 2 ∨
      yearOfEra doe / 100 = 3 := by omega
  rcases hcentury with h | h | h | h | h <;> rcases hhundred with h' | h' | h' | h' <;>
    rw [h] at hdef <;> rw [h'] <;> omega

/-- The date of a day count, by the year of its era and the day of that year. -/
theorem civilFromDays_eq (days : Int) :
    let doe := (days + 719468) % 146097
    let mp := (5 * dayOfYear doe + 2) / 153
    let month := if mp < 10 then mp + 3 else mp - 9
    let year := yearOfEra doe + (days + 719468) / 146097 * 400
    civilFromDays days =
      (if month ≤ 2 then year + 1 else year, month, dayOfYear doe - (153 * mp + 2) / 5 + 1) := by
  have hdoe : days + 719468 - (days + 719468) / 146097 * 146097 = (days + 719468) % 146097 := by
    omega
  unfold civilFromDays
  dsimp only
  rw [era_eq, hdoe]
  rfl

/-- The month and the day of a date are in the range of the calendar. -/
theorem civilFromDays_bounds (days : Int) :
    1 ≤ (civilFromDays days).2.1 ∧ (civilFromDays days).2.1 ≤ 12 ∧
      1 ≤ (civilFromDays days).2.2 ∧ (civilFromDays days).2.2 ≤ 31 := by
  have hday := dayOfYear_bounds ((days + 719468) % 146097) (by omega) (by omega)
  rw [civilFromDays_eq]
  dsimp only
  generalize dayOfYear ((days + 719468) % 146097) = doy at hday
  split <;> omega

/-- **A date names its day**: the day count of the date of a day is that day. -/
theorem daysFromCivil_civilFromDays (days : Int) :
    daysFromCivil (civilFromDays days).1 (civilFromDays days).2.1 (civilFromDays days).2.2 =
      days := by
  have hyear := yearOfEra_bounds ((days + 719468) % 146097) (by omega) (by omega)
  have hday := dayOfYear_bounds ((days + 719468) % 146097) (by omega) (by omega)
  have hdef : dayOfYear ((days + 719468) % 146097) = (days + 719468) % 146097 -
      (365 * yearOfEra ((days + 719468) % 146097) + yearOfEra ((days + 719468) % 146097) / 4 -
        yearOfEra ((days + 719468) % 146097) / 100) := rfl
  rw [civilFromDays_eq]
  dsimp only
  unfold daysFromCivil
  generalize dayOfYear ((days + 719468) % 146097) = doy at hday hdef
  generalize yearOfEra ((days + 719468) % 146097) = yoe at hyear hdef
  have hmp : 0 ≤ (5 * doy + 2) / 153 ∧ (5 * doy + 2) / 153 ≤ 11 := by omega
  generalize hmpdef : (5 * doy + 2) / 153 = mp at hmp
  generalize hera : (days + 719468) / 146097 = era
  have hquot : (yoe + era * 400) / 400 = era := by omega
  have hrem : (yoe + era * 400) % 400 = yoe := by omega
  by_cases hmarch : mp < 10
  · rw [if_pos hmarch, if_neg (by omega), if_neg (by omega), if_pos (by omega)]
    dsimp only
    rw [Int.add_sub_cancel, hquot, hrem]
    omega
  · rw [if_neg hmarch, if_pos (by omega), if_pos (by omega), if_neg (by omega)]
    dsimp only
    rw [Int.add_sub_cancel, Int.sub_add_cancel, hquot, hrem]
    omega

/-! ## digit runs -/

/-- `chars` are `width` decimal digits that stand for `n`. -/
structure DigitRun (width n : Nat) (chars : List Char) : Prop where
  length : chars.length = width
  isDigit : ∀ c ∈ chars, c.isDigit
  value : Nat.ofDigitChars 10 chars 0 = n

theorem toList_pushn_zero (k : Nat) : ("".pushn '0' k).toList = List.replicate k '0' := by
  rw [String.pushn_eq_repeat_push]
  induction k with
  | zero => rfl
  | succ k ih => rw [Nat.repeat, String.toList_push, ih, ← List.replicate_succ']

/-- A number that fits its width is written as that many digits. -/
theorem digitRun_zeroPadded {width n : Nat} (hw : 0 < width) (hn : n < 10 ^ width) :
    DigitRun width n (zeroPadded width n).toList := by
  have hlen := (Nat.length_toDigits_le_iff (by omega) hw).mpr hn
  have hlist : (zeroPadded width n).toList =
      List.replicate (width - (Nat.toDigits 10 n).length) '0' ++ Nat.toDigits 10 n := by
    have hneg : ¬ ((n : Int) < 0) := by omega
    have hdigits : (toString n).toList = Nat.toDigits 10 n := Nat.toList_repr
    have hlength : (toString n).length = (Nat.toDigits 10 n).length := by
      rw [← hdigits, String.length_toList]
    simp only [zeroPadded, if_neg hneg, Int.natAbs_natCast, String.toList_append,
      toList_pushn_zero, hdigits, hlength]
    simp
  rw [hlist]
  exact {
    length := by
      rw [List.length_append, List.length_replicate]
      omega
    isDigit := by
      intro c hc
      rcases List.mem_append.mp hc with hc | hc
      · rw [List.eq_of_mem_replicate hc]
        rfl
      · exact Nat.isDigit_of_mem_toDigits (by omega) (by omega) hc
    value := by
      rw [Nat.ofDigitChars_append, Nat.ofDigitChars_replicate_zero, Nat.mul_zero,
        Nat.ofDigitChars_ten_toDigits] }

end Slight
