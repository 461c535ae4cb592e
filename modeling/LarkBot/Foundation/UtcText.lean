import Mathlib.Data.Nat.Find
import Mathlib.Order.Basic
import LarkBot.Foundation.Decimal

/-! # Times in UTC as texts

A time is a number of microseconds since the beginning of year 1 in the proleptic Gregorian
calendar. Its text is the one of ISO 8601, without a fraction where there is none. Times up to
the end of year 9999 are ordered like their texts (`Foundation.timeText_lt`), although the
texts differ in length, and are read back from them (`Foundation.readTime_timeText`).
-/

namespace Foundation

/-- The days before a year. -/
def daysBeforeYear (year : Nat) : Nat :=
  365 * (year - 1) + (year - 1) / 4 - (year - 1) / 100 + (year - 1) / 400

def isLeap (year : Nat) : Bool := year % 4 = 0 && (year % 100 ≠ 0 || year % 400 = 0)

/-- The days before a month in its year. -/
def daysBeforeMonth (leap : Bool) (month : Nat) : Nat :=
  [0, 31, 59, 90, 120, 151, 181, 212, 243, 273, 304, 334].getD (month - 1) 0 +
    if leap && 2 < month then 1 else 0

/-- The year of a day, counted from the first day of year 1. -/
def yearOf (day : Nat) : Nat := Nat.findGreatest (fun year => daysBeforeYear year ≤ day)
    (day / 365 + 1)

/-- The month of a day of a year. -/
def monthOf (leap : Bool) (dayOfYear : Nat) : Nat :=
  Nat.findGreatest (fun month => daysBeforeMonth leap month ≤ dayOfYear) 12

/-- Year, month and day. -/
def dateOf (day : Nat) : List Nat :=
  let year := yearOf day
  let dayOfYear := day - daysBeforeYear year
  let month := monthOf (isLeap year) dayOfYear
  [year, month, dayOfYear - daysBeforeMonth (isLeap year) month + 1]

/-- The day of a date. -/
def dayNumber (year month day : Nat) : Nat :=
  daysBeforeYear year + daysBeforeMonth (isLeap year) month + (day - 1)

example : dateOf 0 = [1, 1, 1] := by decide
example : dateOf 738944 = [2024, 2, 29] := by decide
example : dateOf 3652058 = [9999, 12, 31] := by decide

section Calendar

variable {day other : Nat}

/-- A day does not come before its year. -/
theorem daysBeforeYear_le (day : Nat) : daysBeforeYear (yearOf day) ≤ day :=
  Nat.findGreatest_spec (P := fun year => daysBeforeYear year ≤ day)
    (Nat.succ_le_succ (Nat.zero_le _)) (Nat.zero_le day)

/-- Years are counted from one. -/
theorem yearOf_pos (day : Nat) : 0 < yearOf day :=
  Nat.findGreatest_pos.mpr ⟨1, Nat.one_pos, Nat.succ_le_succ (Nat.zero_le _), Nat.zero_le day⟩

/-- A day comes before the next year. -/
theorem lt_daysBeforeYear (day : Nat) : day < daysBeforeYear (yearOf day + 1) := by
  by_cases bounded : yearOf day + 1 ≤ day / 365 + 1
  · exact Nat.lt_of_not_le (Nat.findGreatest_is_greatest
      (P := fun year => daysBeforeYear year ≤ day) (Nat.lt_succ_self _) bounded)
  · have past : day / 365 < yearOf day := by omega
    have centuries : yearOf day / 100 ≤ yearOf day / 4 :=
      Nat.div_le_div_left (by decide) (by decide)
    unfold daysBeforeYear
    rw [Nat.add_sub_cancel]
    omega

/-- The next quotient is larger by one at a multiple. -/
theorem succ_div_eq (value divisor : Nat) :
    (value + 1) / divisor = value / divisor + if (value + 1) % divisor = 0 then 1 else 0 := by
  rw [Nat.succ_div]
  simp only [Nat.dvd_iff_mod_eq_zero]

/-- A year has 365 days, and one more where it is a leap year. -/
theorem daysBeforeYear_succ {year : Nat} (positive : 0 < year) :
    daysBeforeYear (year + 1) = daysBeforeYear year + if isLeap year then 366 else 365 := by
  obtain ⟨past, rfl⟩ := Nat.exists_eq_succ_of_ne_zero (Nat.ne_of_gt positive)
  have fewer : past / 100 ≤ past / 4 := Nat.div_le_div_left (by decide) (by decide)
  have fourth : (past + 1) % 100 = 0 → (past + 1) % 4 = 0 := by omega
  have century : (past + 1) % 400 = 0 → (past + 1) % 100 = 0 := by omega
  unfold daysBeforeYear isLeap
  rw [Nat.succ_eq_add_one, Nat.add_sub_cancel, Nat.add_sub_cancel, succ_div_eq past 4,
    succ_div_eq past 100, succ_div_eq past 400]
  generalize past / 4 = fours at fewer ⊢
  generalize past / 100 = hundreds at fewer ⊢
  by_cases four : (past + 1) % 4 = 0
  · by_cases hundred : (past + 1) % 100 = 0
    · by_cases whole : (past + 1) % 400 = 0
      · simp only [four, hundred, whole, ↓reduceIte, decide_true, ne_eq, not_true_eq_false,
          decide_false, Bool.or_true, Bool.and_true]
        omega
      · simp only [four, hundred, whole, ↓reduceIte, decide_true, ne_eq, not_true_eq_false,
          decide_false, Bool.or_false, Bool.and_false, Bool.false_eq_true]
        omega
    · have whole : (past + 1) % 400 ≠ 0 := fun whole => hundred (century whole)
      simp only [four, hundred, whole, ↓reduceIte, decide_true, ne_eq, not_false_eq_true,
        Bool.true_or, Bool.and_true]
      omega
  · have hundred : (past + 1) % 100 ≠ 0 := fun hundred => four (fourth hundred)
    have whole : (past + 1) % 400 ≠ 0 := fun whole => hundred (century whole)
    simp only [four, hundred, whole, ↓reduceIte, decide_false, Bool.false_and, Bool.false_eq_true]
    omega

/-- A later day is in the same year or in a later one. -/
theorem yearOf_mono (le : day ≤ other) : yearOf day ≤ yearOf other := by
  refine Nat.findGreatest_mono (fun year before => Nat.le_trans before le) ?_
  have quotient := Nat.div_le_div_right (c := 365) le
  omega

/-- A year has as many days as its length. -/
theorem dayOfYear_lt (day : Nat) :
    day - daysBeforeYear (yearOf day) < if isLeap (yearOf day) then 366 else 365 := by
  have next := lt_daysBeforeYear day
  rw [daysBeforeYear_succ (yearOf_pos day)] at next
  have before := daysBeforeYear_le day
  omega

section Months

variable {leap : Bool} {dayOfYear other : Nat}

/-- A day does not come before its month. -/
theorem daysBeforeMonth_le (leap : Bool) (dayOfYear : Nat) :
    daysBeforeMonth leap (monthOf leap dayOfYear) ≤ dayOfYear := by
  have january : daysBeforeMonth leap 1 ≤ dayOfYear := by
    cases leap <;> exact Nat.zero_le dayOfYear
  exact Nat.findGreatest_spec (P := fun month => daysBeforeMonth leap month ≤ dayOfYear)
    (by decide) january

/-- A later day of a year is in the same month or in a later one. -/
theorem monthOf_mono (le : dayOfYear ≤ other) : monthOf leap dayOfYear ≤ monthOf leap other :=
  Nat.findGreatest_mono (fun _ before => Nat.le_trans before le) le_rfl

/-- A year has twelve months. -/
theorem monthOf_le (leap : Bool) (dayOfYear : Nat) : monthOf leap dayOfYear ≤ 12 :=
  Nat.findGreatest_le 12

/-- No month has more than 31 days. -/
theorem dayOfMonth_lt (within : dayOfYear < if leap then 366 else 365) :
    dayOfYear - daysBeforeMonth leap (monthOf leap dayOfYear) < 31 := by
  have bounded := monthOf_le leap dayOfYear
  have lengths : ∀ leap, ∀ month < 12,
      daysBeforeMonth leap (month + 1) ≤ daysBeforeMonth leap month + 31 := by decide
  have december : ∀ leap : Bool, (if leap then 366 else 365) = daysBeforeMonth leap 12 + 31 := by
    decide
  by_cases last : monthOf leap dayOfYear = 12
  · rw [last]
    rw [december leap] at within
    omega
  · have next : dayOfYear < daysBeforeMonth leap (monthOf leap dayOfYear + 1) :=
      Nat.lt_of_not_le (Nat.findGreatest_is_greatest
        (P := fun month => daysBeforeMonth leap month ≤ dayOfYear) (Nat.lt_succ_self _) (by omega))
    have length := lengths leap (monthOf leap dayOfYear) (by omega)
    omega

end Months

/-- Later days have later dates. -/
theorem dateOf_lt (less : day < other) : dateOf day < dateOf other := by
  have below := daysBeforeYear_le day
  have above := daysBeforeYear_le other
  unfold dateOf
  by_cases years : yearOf day < yearOf other
  · exact List.Lex.rel years
  · have sameYear : yearOf day = yearOf other := by
      have mono := yearOf_mono (Nat.le_of_lt less)
      omega
    rw [← sameYear] at above ⊢
    apply List.Lex.cons
    have later : day - daysBeforeYear (yearOf day) < other - daysBeforeYear (yearOf day) := by omega
    generalize day - daysBeforeYear (yearOf day) = first at later ⊢
    generalize other - daysBeforeYear (yearOf day) = second at later ⊢
    have start := daysBeforeMonth_le (isLeap (yearOf day)) first
    by_cases months : monthOf (isLeap (yearOf day)) first < monthOf (isLeap (yearOf day)) second
    · exact List.Lex.rel months
    · have sameMonth : monthOf (isLeap (yearOf day)) first =
          monthOf (isLeap (yearOf day)) second := by
        have mono : monthOf (isLeap (yearOf day)) first ≤ monthOf (isLeap (yearOf day)) second :=
          monthOf_mono (Nat.le_of_lt later)
        omega
      rw [← sameMonth]
      refine List.Lex.cons (List.Lex.rel ?_)
      omega

/-- A day is the day of its date. -/
theorem dayNumber_dateOf (day : Nat) : ∃ year month dayOfMonth,
    dateOf day = [year, month, dayOfMonth] ∧ dayNumber year month dayOfMonth = day := by
  refine ⟨_, _, _, rfl, ?_⟩
  have year := daysBeforeYear_le day
  have month := daysBeforeMonth_le (isLeap (yearOf day)) (day - daysBeforeYear (yearOf day))
  unfold dayNumber
  omega

end Calendar

/-- The digits of a date. -/
def dateLayout : Layout := [(4, ['-']), (2, ['-']), (2, ['T'])]

/-- The digits of a time of day. -/
def clockLayout : Layout := [(2, [':']), (2, [':']), (2, [])]

/-- Hour, minute and second of a second of a day. -/
def clockOf (second : Nat) : List Nat := [second / 3600, second % 3600 / 60, second % 60]

/-- The days up to the end of year 9999. -/
def maxDays : Nat := 3652059

/-- The microseconds up to the end of year 9999. -/
def maxTime : Nat := maxDays * 86400 * 1000000

section Fields

variable {day other second later : Nat}

/-- The fields of a date fit their widths up to the last day of year 9999. -/
theorem dateOf_fits (bound : day < maxDays) : Fits dateLayout (dateOf day) := by
  have year : yearOf day ≤ 9999 := by
    have before := daysBeforeYear_le day
    by_contra many
    have ten : daysBeforeYear 10000 = maxDays := by decide
    unfold daysBeforeYear at before ten
    have fewer : (yearOf day - 1) / 100 ≤ (yearOf day - 1) / 4 :=
      Nat.div_le_div_left (by decide) (by decide)
    unfold maxDays at bound ten
    omega
  have month := monthOf_le (isLeap (yearOf day)) (day - daysBeforeYear (yearOf day))
  have dayOfMonth : day - daysBeforeYear (yearOf day) - daysBeforeMonth (isLeap (yearOf day))
      (monthOf (isLeap (yearOf day)) (day - daysBeforeYear (yearOf day))) < 31 :=
    dayOfMonth_lt (dayOfYear_lt day)
  refine ⟨?_, ?_, ?_, trivial⟩ <;> omega

/-- The fields of a time of day fit their widths. -/
theorem clockOf_fits (bound : second < 86400) : Fits clockLayout (clockOf second) := by
  refine ⟨?_, ?_, ?_, trivial⟩ <;> omega

/-- A later second of the day has later fields. -/
theorem clockOf_lt (less : second < later) : clockOf second < clockOf later := by
  unfold clockOf
  by_cases hours : second / 3600 < later / 3600
  · exact List.Lex.rel hours
  · have sameHour : second / 3600 = later / 3600 := by omega
    rw [sameHour]
    apply List.Lex.cons
    by_cases minutes : second % 3600 / 60 < later % 3600 / 60
    · exact List.Lex.rel minutes
    · have sameMinute : second % 3600 / 60 = later % 3600 / 60 := by omega
      rw [sameMinute]
      refine List.Lex.cons (List.Lex.rel ?_)
      omega

end Fields

/-- The fraction of a second, if there is one. -/
def fractionText (micro : Nat) : List Char := if micro = 0 then [] else '.' :: padded 6 micro

/-- The offset of UTC. -/
def utcText : List Char := ['+', '0', '0', ':', '0', '0']

/-- `YYYY-MM-DDTHH:MM:SS`, a fraction of six digits where there is one, and `+00:00`. -/
def timeText (time : Nat) : List Char :=
  writeFields dateLayout (dateOf (time / 1000000 / 86400)) ++
    (writeFields clockLayout (clockOf (time / 1000000 % 86400)) ++
      (fractionText (time % 1000000) ++ utcText))

/-- A text without a fraction comes before those with one: `+` before `.`. -/
theorem fractionText_lt {micro later : Nat} (bound : later < 1000000) (less : micro < later) :
    fractionText micro ++ utcText < fractionText later ++ utcText := by
  unfold fractionText
  rw [if_neg (by omega : later ≠ 0)]
  split
  next => exact List.Lex.rel (by decide)
  next =>
    apply append_lt_append (List.Lex.cons (padded_lt_padded bound less))
    rw [List.length_cons, List.length_cons, length_padded, length_padded]

/-- Earlier times have smaller texts. -/
theorem timeText_lt {time later : Nat} (bound : later < maxTime) (less : time < later) :
    timeText time < timeText later := by
  unfold maxTime at bound
  have dayBound : time / 1000000 / 86400 < maxDays := by omega
  have laterBound : later / 1000000 / 86400 < maxDays := by omega
  unfold timeText
  by_cases days : time / 1000000 / 86400 < later / 1000000 / 86400
  · refine append_lt_append (writeFields_lt_writeFields (dateOf_fits dayBound)
      (dateOf_fits laterBound) (dateOf_lt days)) ?_
    rw [length_writeFields (dateOf_fits dayBound), length_writeFields (dateOf_fits laterBound)]
  · have sameDay : time / 1000000 / 86400 = later / 1000000 / 86400 := by omega
    rw [sameDay]
    apply List.append_left_lt
    have fits : Fits clockLayout (clockOf (time / 1000000 % 86400)) :=
      clockOf_fits (Nat.mod_lt _ (by decide))
    have laterFits : Fits clockLayout (clockOf (later / 1000000 % 86400)) :=
      clockOf_fits (Nat.mod_lt _ (by decide))
    by_cases seconds : time / 1000000 % 86400 < later / 1000000 % 86400
    · apply append_lt_append (writeFields_lt_writeFields fits laterFits (clockOf_lt seconds))
      rw [length_writeFields fits, length_writeFields laterFits]
    · have sameSecond : time / 1000000 % 86400 = later / 1000000 % 86400 := by omega
      rw [sameSecond]
      refine List.append_left_lt (fractionText_lt (Nat.mod_lt _ (by decide)) ?_)
      omega

/-- The fraction, and what follows it. -/
def readFraction : List Char → Option (Nat × List Char)
  | '.' :: rest => (readDigits 0 (rest.take 6)).map fun micro => (micro, rest.drop 6)
  | rest => some (0, rest)

/-- The time of numbers that were read. -/
def timeOf (date clock : List Nat) (micro : Nat) : Option Nat :=
  match date, clock with
  | [year, month, day], [hour, minute, second] =>
      some ((dayNumber year month day * 86400 + (hour * 3600 + minute * 60 + second)) * 1000000 +
        micro)
  | _, _ => none

/-- The time that a text writes; a text that is not the one of its time writes none. -/
def readTime (chars : List Char) : Option Nat :=
  (readFields dateLayout chars).bind fun date =>
    (readFields clockLayout date.2).bind fun clock =>
      (readFraction clock.2).bind fun fraction =>
        (timeOf date.1 clock.1 fraction.1).filter fun time => timeText time = chars

/-- A fraction of a second is read back from its digits, and the zone is left over. -/
theorem readFraction_fractionText {micro : Nat} (bound : micro < 1000000) :
    readFraction (fractionText micro ++ utcText) = some (micro, utcText) := by
  unfold fractionText
  split
  next whole =>
    rw [whole]
    rfl
  next =>
    rw [List.cons_append, readFraction, List.take_left' (length_padded 6 micro),
      List.drop_left' (length_padded 6 micro), readDigits_padded bound]
    rfl

/-- A time is read back from its text. -/
theorem readTime_timeText {time : Nat} (bound : time < maxTime) :
    readTime (timeText time) = some time := by
  unfold maxTime at bound
  have dateFits : Fits dateLayout (dateOf (time / 1000000 / 86400)) := dateOf_fits (by omega)
  have clockFits : Fits clockLayout (clockOf (time / 1000000 % 86400)) :=
    clockOf_fits (Nat.mod_lt _ (by decide))
  obtain ⟨year, month, day, date, number⟩ := dayNumber_dateOf (time / 1000000 / 86400)
  have read : timeOf (dateOf (time / 1000000 / 86400)) (clockOf (time / 1000000 % 86400))
      (time % 1000000) = some time := by
    rw [date, clockOf, timeOf, number]
    congr 1
    omega
  have canonical : (some time).filter (fun other => decide (timeText other = timeText time)) =
      some time := by
    simp only [Option.filter_some, decide_true, ↓reduceIte]
  unfold readTime
  rw [timeText, readFields_writeFields dateFits, Option.bind_some,
    readFields_writeFields clockFits, Option.bind_some,
    readFraction_fractionText (Nat.mod_lt _ (by decide)), Option.bind_some, read]
  exact canonical

end Foundation
