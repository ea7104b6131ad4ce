import Slight.Protocol.Time
import Slight.Support.Checked

/-!
# Slight.Protocol.Calendar

The arithmetic of a timestamp as the host's machine does it, on `i64`, `u64` and `u32`,
and the calendar that its date is one of.

No step leaves its type, for any instant, so the machine computes what `rfc3339FromMs`
says; and the date is a day of the proleptic Gregorian calendar.
-/

namespace Slight

open Support Support.Checked

/-! ## the calendar -/

/-- Every fourth year, but of the centuries only every fourth. -/
def IsLeapYear (year : Int) : Prop :=
  year % 4 = 0 ∧ (year % 100 ≠ 0 ∨ year % 400 = 0)

instance (year : Int) : Decidable (IsLeapYear year) :=
  inferInstanceAs (Decidable (_ ∧ _))

def daysInMonth (year month : Int) : Int :=
  if month = 2 then if IsLeapYear year then 29 else 28
  else if month = 4 ∨ month = 6 ∨ month = 9 ∨ month = 11 then 30
  else 31

/-- The calendar repeats after an era. -/
theorem isLeapYear_add_era (year era : Int) :
    IsLeapYear (year + era * 400) ↔ IsLeapYear year := by
  unfold IsLeapYear
  omega

/-- A year from March on has 366 days only if its last is a leap day. -/
theorem isLeapYear_of_dayOfYear {doe : Int} (h0 : 0 ≤ doe) (h1 : doe < 146097)
    (hlast : dayOfYear doe = 365) : IsLeapYear (yearOfEra doe + 1) := by
  have hyear := yearOfEra_bounds doe h0 h1
  have hdef : yearOfEra doe = (doe - doe / 1460 + doe / 36524 - doe / 146096) / 365 := rfl
  unfold dayOfYear at hlast
  have hcentury : doe / 36524 = 0 ∨ doe / 36524 = 1 ∨ doe / 36524 = 2 ∨ doe / 36524 = 3 ∨
      doe / 36524 = 4 := by omega
  have hhundred : yearOfEra doe / 100 = 0 ∨ yearOfEra doe / 100 = 1 ∨ yearOfEra doe / 100 = 2 ∨
      yearOfEra doe / 100 = 3 := by omega
  have hera : doe / 146096 = 0 ∨ doe / 146096 = 1 := by omega
  -- the leap day of a cycle is in its fourth year
  have hfour : yearOfEra doe % 4 = 3 := by
    have hrem : yearOfEra doe % 4 = 0 ∨ yearOfEra doe % 4 = 1 ∨ yearOfEra doe % 4 = 2 ∨
        yearOfEra doe % 4 = 3 := by omega
    rcases hcentury with h | h | h | h | h <;> rcases hhundred with h' | h' | h' | h' <;>
      rw [h] at hdef <;> rw [h'] at hlast <;> rcases hera with he | he <;> rw [he] at hdef <;>
      rcases hrem with hr | hr | hr | hr <;> omega
  unfold IsLeapYear
  rcases hcentury with h | h | h | h | h <;> rcases hhundred with h' | h' | h' | h' <;>
    rw [h] at hdef <;> rw [h'] at hlast <;> omega

/-- The day of a date is one of its month. -/
theorem civilFromDays_day_le (days : Int) :
    (civilFromDays days).2.2 ≤ daysInMonth (civilFromDays days).1 (civilFromDays days).2.1 := by
  have h0 : 0 ≤ (days + 719468) % 146097 := by omega
  have h1 : (days + 719468) % 146097 < 146097 := by omega
  have hday := dayOfYear_bounds _ h0 h1
  have hleap := isLeapYear_of_dayOfYear h0 h1
  rw [civilFromDays_eq]
  dsimp only
  generalize hyoe : yearOfEra ((days + 719468) % 146097) = yoe at hleap
  generalize dayOfYear ((days + 719468) % 146097) = doy at hday hleap
  generalize (days + 719468) / 146097 = era
  by_cases hfebruary : (5 * doy + 2) / 153 = 11
  · rw [hfebruary]
    have hyear : yoe + era * 400 + 1 = yoe + 1 + era * 400 := by omega
    simp only [daysInMonth, Int.reduceLT, Int.reduceSub, Int.reduceLE, if_true, if_false, hyear,
      isLeapYear_add_era]
    split
    · omega
    · next hcommon =>
      have hlast : doy ≠ 365 := fun h => hcommon (hleap h)
      omega
  · have hmonth : (5 * doy + 2) / 153 = 0 ∨ (5 * doy + 2) / 153 = 1 ∨ (5 * doy + 2) / 153 = 2 ∨
        (5 * doy + 2) / 153 = 3 ∨ (5 * doy + 2) / 153 = 4 ∨ (5 * doy + 2) / 153 = 5 ∨
        (5 * doy + 2) / 153 = 6 ∨ (5 * doy + 2) / 153 = 7 ∨ (5 * doy + 2) / 153 = 8 ∨
        (5 * doy + 2) / 153 = 9 ∨ (5 * doy + 2) / 153 = 10 := by omega
    rcases hmonth with h | h | h | h | h | h | h | h | h | h | h <;> rw [h] <;>
      simp [daysInMonth] <;> omega

/-! ## the machine -/

/-- `civil_from_days`, each operation and each cast checked. -/
def checkedCivilFromDays (days : Int) : Option (Int × Int × Int) := do
  let z ← Checked.i64 (days + 719468)
  let shifted ← Checked.i64 (if 0 ≤ z then z else z - 146096)
  let era ← Checked.i64 (shifted.tdiv 146097)
  let eraDays ← Checked.i64 (era * 146097)
  let doe ← Checked.i64 (z - eraDays)
  let doe ← Checked.u64 doe
  let yoe ← Checked.u64 (doe - doe / 1460)
  let yoe ← Checked.u64 (yoe + doe / 36524)
  let yoe ← Checked.u64 (yoe - doe / 146096)
  let yoe ← Checked.u64 (yoe / 365)
  let year ← Checked.i64 yoe
  let eraYears ← Checked.i64 (era * 400)
  let year ← Checked.i64 (year + eraYears)
  let yearDays ← Checked.u64 (365 * yoe)
  let yearDays ← Checked.u64 (yearDays + yoe / 4)
  let yearDays ← Checked.u64 (yearDays - yoe / 100)
  let doy ← Checked.u64 (doe - yearDays)
  let mp ← Checked.u64 (5 * doy)
  let mp ← Checked.u64 (mp + 2)
  let mp ← Checked.u64 (mp / 153)
  let monthDays ← Checked.u64 (153 * mp)
  let monthDays ← Checked.u64 (monthDays + 2)
  let day ← Checked.u64 (doy - monthDays / 5)
  let day ← Checked.u64 (day + 1)
  let day ← Checked.u32 day
  let month ← Checked.u64 (if mp < 10 then mp + 3 else mp - 9)
  let month ← Checked.u32 month
  let year ← Checked.i64 (if month ≤ 2 then year + 1 else year)
  return (year, month, day)

/-- **No step leaves its type**: what the machine computes is the date of the day. -/
theorem checkedCivilFromDays_eq {days : Int} (hlo : -2 ^ 62 ≤ days) (hhi : days < 2 ^ 62) :
    checkedCivilFromDays days = some (civilFromDays days) := by
  have h0 : 0 ≤ (days + 719468) % 146097 := by omega
  have h1 : (days + 719468) % 146097 < 146097 := by omega
  have hyear := yearOfEra_bounds _ h0 h1
  have hday := dayOfYear_bounds _ h0 h1
  have hdoe : days + 719468 - (days + 719468) / 146097 * 146097 = (days + 719468) % 146097 := by
    omega
  rw [civilFromDays_eq, checkedCivilFromDays]
  -- the era, and the day of the era
  refine i64_bind (by omega) (by omega) ?_
  refine i64_bind (by split <;> omega) (by split <;> omega) ?_
  rw [era_eq]
  refine i64_bind (by omega) (by omega) (i64_bind (by omega) (by omega) ?_)
  rw [hdoe]
  refine i64_bind (by omega) (by omega) (u64_bind (by omega) (by omega) ?_)
  -- the year of the era, which is in the range of its own definition
  have hyoe : ((days + 719468) % 146097 - (days + 719468) % 146097 / 1460 +
      (days + 719468) % 146097 / 36524 - (days + 719468) % 146097 / 146096) / 365 =
      yearOfEra ((days + 719468) % 146097) := rfl
  have hdoy : (days + 719468) % 146097 - (365 * yearOfEra ((days + 719468) % 146097) +
      yearOfEra ((days + 719468) % 146097) / 4 - yearOfEra ((days + 719468) % 146097) / 100) =
      dayOfYear ((days + 719468) % 146097) := rfl
  generalize (days + 719468) % 146097 = doe at *
  have hera : -2 ^ 50 ≤ (days + 719468) / 146097 ∧ (days + 719468) / 146097 < 2 ^ 50 := by omega
  generalize (days + 719468) / 146097 = era at *
  refine u64_bind (by omega) (by omega) (u64_bind (by omega) (by omega) ?_)
  refine u64_bind (by omega) (by omega) ?_
  rw [hyoe]
  generalize yearOfEra doe = yoe at *
  generalize dayOfYear doe = doy at *
  refine u64_bind (by omega) (by omega) (i64_bind (by omega) (by omega) ?_)
  refine i64_bind (by omega) (by omega) (i64_bind (by omega) (by omega) ?_)
  -- the day of the year
  refine u64_bind (by omega) (by omega) (u64_bind (by omega) (by omega) ?_)
  refine u64_bind (by omega) (by omega) ?_
  rw [hdoy]
  refine u64_bind (by omega) (by omega) ?_
  -- the month and the day
  have hmp : 0 ≤ (5 * doy + 2) / 153 ∧ (5 * doy + 2) / 153 ≤ 11 ∧
      0 ≤ doy - (153 * ((5 * doy + 2) / 153) + 2) / 5 := by omega
  refine u64_bind (by omega) (by omega) (u64_bind (by omega) (by omega) ?_)
  refine u64_bind (by omega) (by omega) ?_
  generalize (5 * doy + 2) / 153 = mp at *
  refine u64_bind (by omega) (by omega) (u64_bind (by omega) (by omega) ?_)
  refine u64_bind (by omega) (by omega) (u64_bind (by omega) (by omega) ?_)
  refine u32_bind (by omega) (by omega) ?_
  have hmonth : 0 ≤ (if mp < 10 then mp + 3 else mp - 9) ∧
      (if mp < 10 then mp + 3 else mp - 9) ≤ 12 := by
    split <;> omega
  generalize (if mp < 10 then mp + 3 else mp - 9) = month at *
  refine u64_bind (by omega) (by omega) (u32_bind (by omega) (by omega) ?_)
  exact i64_bind (by split <;> omega) (by split <;> omega) rfl

/-! ## timestamps -/

/-- The fields of a timestamp. -/
structure DateTime where
  year : Int
  month : Int
  day : Int
  hour : Int
  minute : Int
  second : Int
  millis : Int

namespace DateTime

/-- A day of the calendar and a time of the day. -/
structure Valid (time : DateTime) : Prop where
  month : 1 ≤ time.month ∧ time.month ≤ 12
  day : 1 ≤ time.day ∧ time.day ≤ daysInMonth time.year time.month
  hour : 0 ≤ time.hour ∧ time.hour < 24
  minute : 0 ≤ time.minute ∧ time.minute < 60
  second : 0 ≤ time.second ∧ time.second < 60
  millis : 0 ≤ time.millis ∧ time.millis < 1000

/-- The milliseconds from the epoch to a timestamp. -/
def toMs (time : DateTime) : Int :=
  (daysFromCivil time.year time.month time.day * 86400 +
    (time.hour * 3600 + time.minute * 60 + time.second)) * 1000 + time.millis

def format (time : DateTime) : String :=
  let date := zeroPadded 4 time.year ++ "-" ++ zeroPadded 2 time.month ++ "-" ++
    zeroPadded 2 time.day
  let clock := zeroPadded 2 time.hour ++ ":" ++ zeroPadded 2 time.minute ++ ":" ++
    zeroPadded 2 time.second
  if time.millis = 0 then date ++ "T" ++ clock ++ "Z"
  else date ++ "T" ++ clock ++ "." ++ zeroPadded 3 time.millis ++ "Z"

end DateTime

/-- The fields that `rfc3339_from_ms` writes, each operation checked. -/
def checkedDateTime (ms : Int) : Option DateTime := do
  let seconds ← Checked.i64 (ms / 1000)
  let millis ← Checked.i64 (ms % 1000)
  let days ← Checked.i64 (seconds / 86400)
  let secondsOfDay ← Checked.i64 (seconds % 86400)
  let (year, month, day) ← checkedCivilFromDays days
  let hour ← Checked.i64 (secondsOfDay.tdiv 3600)
  let minute ← Checked.i64 (secondsOfDay.tmod 3600)
  let minute ← Checked.i64 (minute.tdiv 60)
  let second ← Checked.i64 (secondsOfDay.tmod 60)
  return { year, month, day, hour, minute, second, millis }

def checkedRfc3339FromMs (ms : Int) : Option String :=
  (checkedDateTime ms).map DateTime.format

/-- The fields of an instant, as unbounded integers. -/
def dateTimeOf (ms : Int) : DateTime :=
  let date := civilFromDays (ms / 1000 / 86400)
  let secondsOfDay := ms / 1000 % 86400
  { year := date.1
    month := date.2.1
    day := date.2.2
    hour := secondsOfDay / 3600
    minute := secondsOfDay % 3600 / 60
    second := secondsOfDay % 60
    millis := ms % 1000 }

theorem format_dateTimeOf (ms : Int) : (dateTimeOf ms).format = rfc3339FromMs ms := by
  rw [rfc3339FromMs, DateTime.format]
  rfl

theorem checkedDateTime_eq {ms : Int} (hlo : -2 ^ 63 ≤ ms) (hhi : ms < 2 ^ 63) :
    checkedDateTime ms = some (dateTimeOf ms) := by
  have hday : 0 ≤ ms / 1000 % 86400 ∧ ms / 1000 % 86400 < 86400 := by omega
  rw [checkedDateTime]
  refine i64_bind (by omega) (by omega) (i64_bind (by omega) (by omega) ?_)
  refine i64_bind (by omega) (by omega) (i64_bind (by omega) (by omega) ?_)
  rw [checkedCivilFromDays_eq (by omega) (by omega), Int.tdiv_eq_ediv_of_nonneg hday.1,
    Int.tmod_eq_emod_of_nonneg hday.1, Int.tmod_eq_emod_of_nonneg hday.1]
  refine i64_bind (by omega) (by omega) (i64_bind (by omega) (by omega) ?_)
  rw [Int.tdiv_eq_ediv_of_nonneg (by omega)]
  exact i64_bind (by omega) (by omega) (i64_bind (by omega) (by omega) rfl)

theorem valid_dateTimeOf (ms : Int) : (dateTimeOf ms).Valid := by
  have hdate := civilFromDays_bounds (ms / 1000 / 86400)
  have hday := civilFromDays_day_le (ms / 1000 / 86400)
  constructor
  · exact ⟨hdate.1, hdate.2.1⟩
  · exact ⟨hdate.2.2.1, hday⟩
  all_goals
    dsimp only [dateTimeOf]
    omega

theorem toMs_dateTimeOf (ms : Int) : (dateTimeOf ms).toMs = ms := by
  rw [DateTime.toMs]
  dsimp only [dateTimeOf]
  rw [daysFromCivil_civilFromDays]
  omega

/-- **Timestamps are right for every instant**: no step of the conversion leaves its
type, the fields are a day of the calendar and a time of the day, and they stand for
the instant they were made from. -/
theorem timestamp_correct (ms : Int64) :
    ∃ time, checkedDateTime ms.toInt = some time ∧
      checkedRfc3339FromMs ms.toInt = some time.format ∧
      time.format = rfc3339FromMs ms.toInt ∧ time.Valid ∧ time.toMs = ms.toInt := by
  have htime := checkedDateTime_eq ms.le_toInt ms.toInt_lt
  refine ⟨dateTimeOf ms.toInt, htime, ?_, format_dateTimeOf _, valid_dateTimeOf _,
    toMs_dateTimeOf _⟩
  rw [checkedRfc3339FromMs, htime]
  rfl

end Slight
