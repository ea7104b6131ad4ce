import Slight.Protocol.Time

/-!
# Slight.Client.Timestamp

The client's reader of RFC 3339 timestamps: fixed-width fields of a date and a
time, an optional fraction, and the offset from UTC.  A date is an exact number
of seconds from the epoch.

What the host writes for an instant of the years 0 to 9999 reads back as that
instant.
-/

namespace Slight

/-- A point in time, in seconds since 1970-01-01 UTC. -/
structure Date where
  secondsSince1970 : Rat
  deriving DecidableEq

/-- The date of a host timestamp. -/
def Date.ofMs (ms : Int) : Date := ⟨ms / 1000⟩

namespace Timestamp

/-! ## reading fields -/

/-- `width` decimal digits. -/
def digits (width : Nat) (input : List Char) : Option (Nat × List Char) :=
  let front := input.take width
  if front.length = width ∧ front.all Char.isDigit then
    some (Nat.ofDigitChars 10 front 0, input.drop width)
  else none

/-- The character `c`. -/
def literal (c : Char) : List Char → Option (List Char)
  | [] => none
  | head :: rest => if head = c then some rest else none

/-- The digits after a decimal point, as a fraction. -/
def fraction (input : List Char) : Option (Rat × List Char) := do
  let input ← literal '.' input
  let front := input.takeWhile Char.isDigit
  if front = [] then none
  else some (Nat.ofDigitChars 10 front 0 / 10 ^ front.length, input.dropWhile Char.isDigit)

/-- `Z`, or a signed offset from UTC in hours and minutes; in seconds. -/
def offset : List Char → Option (Int × List Char)
  | 'Z' :: rest => some (0, rest)
  | '+' :: rest => do
      let (hours, rest) ← digits 2 rest
      let (minutes, rest) ← digits 2 ((literal ':' rest).getD rest)
      some (hours * 3600 + minutes * 60, rest)
  | '-' :: rest => do
      let (hours, rest) ← digits 2 rest
      let (minutes, rest) ← digits 2 ((literal ':' rest).getD rest)
      some (-(hours * 3600 + minutes * 60), rest)
  | _ => none

/-- What follows the seconds, to the end of the text. -/
def fractionAndOffset (includingFractionalSeconds : Bool) (input : List Char) :
    Option (Rat × Int) := do
  let (part, rest) ← if includingFractionalSeconds then fraction input else some (0, input)
  let (shift, rest) ← offset rest
  if rest = [] then some (part, shift) else none

/-- A date, a time and an offset in the ISO 8601 form. -/
def iso8601 (includingFractionalSeconds : Bool) (string : String) : Option Date := do
  let (year, rest) ← digits 4 string.toList
  let (month, rest) ← digits 2 (← literal '-' rest)
  let (day, rest) ← digits 2 (← literal '-' rest)
  let (hour, rest) ← digits 2 (← literal 'T' rest)
  let (minute, rest) ← digits 2 (← literal ':' rest)
  let (second, rest) ← digits 2 (← literal ':' rest)
  let (part, shift) ← fractionAndOffset includingFractionalSeconds rest
  if 1 ≤ month ∧ month ≤ 12 ∧ 1 ≤ day ∧ day ≤ 31 ∧ hour < 24 ∧ minute < 60 ∧ second < 60 then
    let seconds := daysFromCivil year month day * 86400 + hour * 3600 + minute * 60 + second - shift
    some ⟨seconds + part⟩
  else none

end Timestamp

open Timestamp

/-- With fractional seconds first, then without. -/
def parseTimestamp (string : String) : Option Date :=
  (iso8601 true string).or (iso8601 false string)

namespace Timestamp

/-! ## reading what was written -/

theorem digits_append {width n : Nat} {chars rest : List Char} (hrun : DigitRun width n chars) :
    digits width (chars ++ rest) = some (n, rest) := by
  have hall : chars.all Char.isDigit := List.all_eq_true.mpr hrun.isDigit
  unfold digits
  rw [List.take_left' hrun.length, List.drop_left' hrun.length, if_pos ⟨hrun.length, hall⟩,
    hrun.value]

@[simp] theorem literal_cons (c : Char) (rest : List Char) : literal c (c :: rest) = some rest := by
  rw [literal, if_pos rfl]

theorem digits_zeroPadded {width n : Nat} {rest : List Char} (hw : 0 < width)
    (hn : n < 10 ^ width) : digits width ((zeroPadded width n).toList ++ rest) = some (n, rest) :=
  digits_append (digitRun_zeroPadded hw hn)

theorem fraction_zeroPadded {width n : Nat} (hw : 0 < width) (hn : n < 10 ^ width) :
    fraction ('.' :: ((zeroPadded width n).toList ++ ['Z'])) =
      some ((n : Rat) / 10 ^ width, ['Z']) := by
  have hrun := digitRun_zeroPadded hw hn
  have hstop : (['Z'] : List Char).takeWhile Char.isDigit = [] := rfl
  have hdrop : (['Z'] : List Char).dropWhile Char.isDigit = ['Z'] := rfl
  have hne : (zeroPadded width n).toList ≠ [] := by
    rw [← List.length_pos_iff, hrun.length]
    exact hw
  unfold fraction
  rw [literal_cons]
  dsimp only [bind, Option.bind]
  rw [List.takeWhile_append_of_pos hrun.isDigit, hstop, List.append_nil,
    List.dropWhile_append_of_pos hrun.isDigit, hdrop, if_neg hne, hrun.value, hrun.length]

theorem fractionAndOffset_zeroPadded {width n : Nat} (hw : 0 < width) (hn : n < 10 ^ width) :
    fractionAndOffset true ('.' :: ((zeroPadded width n).toList ++ ['Z'])) =
      some ((n : Rat) / 10 ^ width, 0) := by
  unfold fractionAndOffset
  rw [if_pos rfl, fraction_zeroPadded hw hn]
  rfl

/-- A timestamp in the fixed-width form is read field by field up to its seconds. -/
theorem iso8601_fields {year month day hour minute second : Nat} (fractional : Bool)
    (text : String) (tail : List Char) (hyear : year < 10 ^ 4)
    (hmonth : 1 ≤ month ∧ month ≤ 12) (hday : 1 ≤ day ∧ day ≤ 31) (hhour : hour < 24)
    (hminute : minute < 60) (hsecond : second < 60)
    (htext : text.toList = (zeroPadded 4 year).toList ++ '-' :: ((zeroPadded 2 month).toList ++
      '-' :: ((zeroPadded 2 day).toList ++ 'T' :: ((zeroPadded 2 hour).toList ++
      ':' :: ((zeroPadded 2 minute).toList ++ ':' :: ((zeroPadded 2 second).toList ++ tail)))))) :
    iso8601 fractional text = (fractionAndOffset fractional tail).map fun (part, shift) =>
      let seconds :=
        daysFromCivil year month day * 86400 + hour * 3600 + minute * 60 + second - shift
      ⟨seconds + part⟩ := by
  have hbounds : 1 ≤ month ∧ month ≤ 12 ∧ 1 ≤ day ∧ day ≤ 31 ∧ hour < 24 ∧ minute < 60 ∧
      second < 60 := by omega
  have htwo : ∀ {n : Nat} {rest : List Char}, n < 10 ^ 2 →
      digits 2 ((zeroPadded 2 n).toList ++ rest) = some (n, rest) :=
    fun hn => digits_zeroPadded (by omega) hn
  unfold iso8601
  dsimp only [Option.bind_eq_bind]
  rw [htext, digits_zeroPadded (by omega) hyear, Option.bind_some]
  rw [literal_cons, Option.bind_some, htwo (by omega), Option.bind_some]
  dsimp only
  rw [literal_cons, Option.bind_some, htwo (by omega), Option.bind_some]
  dsimp only
  rw [literal_cons, Option.bind_some, htwo (by omega), Option.bind_some]
  dsimp only
  rw [literal_cons, Option.bind_some, htwo (by omega), Option.bind_some]
  dsimp only
  rw [literal_cons, Option.bind_some, htwo (by omega), Option.bind_some]
  dsimp only
  simp only [if_pos hbounds]
  cases fractionAndOffset fractional tail <;> rfl

end Timestamp

open Timestamp

/-- **Timestamps survive**: what the host writes for an instant of the years 0 to
9999 reads back as that instant. -/
theorem parseTimestamp_rfc3339FromMs {ms : Int}
    (hyear : 0 ≤ yearFromMs ms ∧ yearFromMs ms ≤ 9999) :
    parseTimestamp (rfc3339FromMs ms) = some (Date.ofMs ms) := by
  have hbounds := civilFromDays_bounds (ms / 1000 / 86400)
  have hdays := daysFromCivil_civilFromDays (ms / 1000 / 86400)
  unfold yearFromMs at hyear
  unfold rfc3339FromMs
  dsimp only
  generalize civilFromDays (ms / 1000 / 86400) = date at hbounds hdays hyear
  obtain ⟨year, month, day⟩ := date
  dsimp only at hbounds hdays hyear ⊢
  generalize hhour : ms / 1000 % 86400 / 3600 = hour
  generalize hminute : ms / 1000 % 86400 % 3600 / 60 = minute
  generalize hsecond : ms / 1000 % 86400 % 60 = second
  generalize hmillis : ms % 1000 = millis
  lift year to Nat using by omega
  lift month to Nat using by omega
  lift day to Nat using by omega
  lift hour to Nat using by omega
  lift minute to Nat using by omega
  lift second to Nat using by omega
  lift millis to Nat using by omega
  have hsplit : daysFromCivil year month day * 86400 + hour * 3600 + minute * 60 + second =
      ms / 1000 := by
    rw [hdays]
    omega
  have hfields := fun (fractional : Bool) (text : String) (tail : List Char) =>
    iso8601_fields fractional text tail (show year < 10 ^ 4 by omega)
      (show 1 ≤ month ∧ month ≤ 12 by omega) (show 1 ≤ day ∧ day ≤ 31 by omega)
      (show hour < 24 by omega) (show minute < 60 by omega) (show second < 60 by omega)
  unfold parseTimestamp
  by_cases hwhole : (millis : Int) = 0
  · -- a whole second is written without a fraction, and only the second form reads it
    rw [if_pos hwhole, hfields true _ ['Z'] (by simp), hfields false _ ['Z'] (by simp)]
    have hfirst : fractionAndOffset true ['Z'] = none := rfl
    have hsecond : fractionAndOffset false ['Z'] = some (0, 0) := rfl
    rw [hfirst, hsecond]
    dsimp only [Option.map, Option.or]
    rw [Int.sub_zero, hsplit, Date.ofMs]
    have hms : (ms : Rat) = (ms / 1000 : Int) * 1000 := by
      have hint : ms = ms / 1000 * 1000 := by omega
      exact_mod_cast hint
    congr 2
    rw [hms]
    ring
  · rw [if_neg hwhole, hfields true _ ('.' :: ((zeroPadded 3 millis).toList ++ ['Z'])) (by simp)]
    rw [fractionAndOffset_zeroPadded (by omega) (show millis < 10 ^ 3 by omega)]
    dsimp only [Option.map, Option.or]
    rw [Int.sub_zero, hsplit, Date.ofMs]
    have hms : (ms : Rat) = (ms / 1000 : Int) * 1000 + millis := by
      have hint : ms = ms / 1000 * 1000 + millis := by omega
      exact_mod_cast hint
    congr 2
    rw [hms]
    ring

namespace Timestamp

theorem digits_eq_none {width : Nat} {input : List Char} {c : Char} (hmem : c ∈ input.take width)
    (hdigit : c.isDigit = false) : digits width input = none := by
  unfold digits
  refine if_neg fun h => ?_
  have hall := List.all_eq_true.mp h.2 c hmem
  rw [hdigit] at hall
  cases hall

/-- A year is read in four digits, and then a dash. -/
theorem iso8601_eq_none (fractional : Bool) {string : String}
    (h : (digits 4 string.toList).bind (fun front => literal '-' front.2) = none) :
    iso8601 fractional string = none := by
  unfold iso8601
  cases hyear : digits 4 string.toList with
  | none => rfl
  | some front =>
      rw [hyear] at h
      rw [Option.bind_some] at h
      rw [Option.bind_eq_bind, Option.bind_some]
      dsimp only
      rw [h]
      rfl

theorem year_eq_none {year : Int} (hyear : ¬ (0 ≤ year ∧ year ≤ 9999)) (tail : List Char) :
    (digits 4 ((zeroPadded 4 year).toList ++ tail)).bind (fun front => literal '-' front.2) =
      none := by
  have hdigits : (toString year.natAbs).toList = Nat.toDigits 10 year.natAbs := Nat.toList_repr
  have hlength : (toString year.natAbs).length = (Nat.toDigits 10 year.natAbs).length := by
    rw [← hdigits, String.length_toList]
  by_cases hneg : year < 0
  · -- the sign is not a digit
    have hsign : ∃ rest, (zeroPadded 4 year).toList = '-' :: rest := by
      simp only [zeroPadded, if_pos hneg]
      simp
    obtain ⟨rest, hrest⟩ := hsign
    rw [hrest, digits_eq_none (c := '-') (by simp) rfl]
    rfl
  · -- a fifth digit stands where the dash should
    have hlong : 4 < (Nat.toDigits 10 year.natAbs).length := by
      by_contra hshort
      have hlt := (Nat.length_toDigits_le_iff (b := 10) (by omega) (by omega)).mp
        (Nat.le_of_not_lt hshort)
      omega
    have hlist : (zeroPadded 4 year).toList = Nat.toDigits 10 year.natAbs := by
      simp only [zeroPadded, if_neg hneg, String.toList_append, toList_pushn_zero, hdigits,
        hlength]
      simp
      omega
    obtain ⟨c, rest, hdrop⟩ :
        ∃ c rest, (Nat.toDigits 10 year.natAbs).drop 4 = c :: rest := by
      refine List.exists_cons_of_ne_nil fun hnil => ?_
      have := List.drop_eq_nil_iff.mp hnil
      omega
    have hmem : c ∈ Nat.toDigits 10 year.natAbs :=
      List.mem_of_mem_drop (hdrop ▸ List.mem_cons_self)
    have hne : c ≠ '-' := by
      rintro rfl
      exact absurd (Nat.isDigit_of_mem_toDigits (by omega) (by omega) hmem) (by decide)
    have hrest : (Nat.toDigits 10 year.natAbs ++ tail).drop 4 = c :: (rest ++ tail) := by
      rw [List.drop_append_of_le_length (by omega), hdrop, List.cons_append]
    rw [hlist]
    unfold digits
    dsimp only
    split
    · rw [Option.bind_some, hrest, literal, if_neg hne]
    · rfl

end Timestamp

/-- **Which timestamps are read**: those of the years 0 to 9999. -/
theorem parseTimestamp_rfc3339FromMs_isSome_iff (ms : Int) :
    (parseTimestamp (rfc3339FromMs ms)).isSome ↔ 0 ≤ yearFromMs ms ∧ yearFromMs ms ≤ 9999 := by
  constructor
  · intro hsome
    by_contra hyear
    have htext : ∃ tail, (rfc3339FromMs ms).toList =
        (zeroPadded 4 (yearFromMs ms)).toList ++ tail := by
      unfold rfc3339FromMs yearFromMs
      dsimp only
      split <;> simp
    obtain ⟨tail, htail⟩ := htext
    have hnone := fun fractional => iso8601_eq_none fractional
      (htail ▸ year_eq_none hyear tail)
    rw [parseTimestamp, hnone true, hnone false] at hsome
    cases hsome
  · intro hyear
    rw [parseTimestamp_rfc3339FromMs hyear]
    rfl

end Slight
