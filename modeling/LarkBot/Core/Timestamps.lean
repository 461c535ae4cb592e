import Mathlib.Data.String.Basic
import LarkBot.Foundation.Rounding
import LarkBot.Foundation.UtcText
import LarkBot.Codex.Model

/-! # Stored times

A time is stored as the text that `isoformat` makes of it in UTC. Such texts are ordered like
their instants, and an instant is read back from its text.
-/

namespace LarkBot

open Foundation

/-- The microseconds before the epoch, from the beginning of year 1. -/
def unixEpoch : Int := 719162 * 86400 * 1000000

/-- The microseconds of an instant from the beginning of year 1. -/
def sinceYearOne (instant : Int) : Int := instant + unixEpoch

/-- The instant lies in the years 1 to 9999. -/
def InRange (instant : Instant) : Prop :=
  0 ≤ sinceYearOne instant ∧ sinceYearOne instant < maxTime

instance (instant : Instant) : Decidable (InRange instant) := inferInstanceAs (Decidable (_ ∧ _))

/-- `isoformat` of an instant in UTC. -/
def isoformat (instant : Instant) : String := String.ofList (timeText (sinceYearOne instant).toNat)

example : isoformat (-1) = "1969-12-31T23:59:59.999999+00:00" := by decide

/-- The error of `astimezone` for a value that has no date in UTC. -/
def dateOutOfRange : PyError := ⟨.other "OverflowError", "date value out of range"⟩

/-- `serialize_datetime`, where `astimezone` finds no date for some values. -/
def serializeDatetime (value : DateTime) : Except PyError String :=
  if InRange (asUtc value) then .ok (isoformat (asUtc value)) else .error dateOutOfRange

/-- `datetime.fromisoformat`, of the texts that `isoformat` makes. -/
def fromIsoformat (text : String) : Except PyError Instant :=
  match readTime text.toList with
  | some time => .ok (time - unixEpoch)
  | none => .error (valueError ("Invalid isoformat string: '" ++ text ++ "'"))

/-- `total_seconds()` of a difference of times, which divides its microseconds. -/
def totalSeconds (difference : Int) : BinaryFraction :=
  let seconds := floatQuotient difference.natAbs 1000000
  if difference < 0 then ⟨-seconds.mantissa, seconds.bits⟩ else seconds

/-- The seconds between times in order are not less than a bound that the microseconds reach. -/
theorem totalSeconds_reaches {difference : Int} {bound : Nat} (inOrder : 0 ≤ difference)
    (reached : bound * 1000000 ≤ difference) : (totalSeconds difference).AtLeast bound := by
  obtain ⟨micros, rfl⟩ := Int.eq_ofNat_of_zero_le inOrder
  unfold totalSeconds
  dsimp only
  rw [if_neg (Int.not_lt.mpr inOrder), Int.natAbs_natCast]
  apply floatQuotient_reaches (by decide)
  omega

/-- The seconds between times in order are not less than a bound up to `2 ^ 34` if and only if the
microseconds are not. -/
theorem totalSeconds_atLeast {difference bound : Int} (inOrder : 0 ≤ difference)
    (small : bound ≤ 2 ^ 34) :
    (totalSeconds difference).AtLeast bound ↔ bound * 1000000 ≤ difference := by
  obtain ⟨micros, rfl⟩ := Int.eq_ofNat_of_zero_le inOrder
  unfold totalSeconds
  dsimp only
  rw [if_neg (Int.not_lt.mpr inOrder), Int.natAbs_natCast]
  by_cases negative : bound < 0
  · -- a negative bound is reached by every difference
    have mantissa : 0 ≤ (floatQuotient micros 1000000).mantissa := Int.natCast_nonneg _
    have scaled := Int.mul_nonpos_of_nonpos_of_nonneg (Int.le_of_lt negative)
      (Int.le_of_lt (Int.pow_pos (n := 2) (m := (floatQuotient micros 1000000).bits) (by decide)))
    apply iff_of_true (scaled.trans mantissa)
    omega
  · obtain ⟨bound, rfl⟩ := Int.eq_ofNat_of_zero_le (Int.not_lt.mp negative)
    have scale : scaleOf 1000000 = 20 := by decide
    have enough : bound * 2 ^ scaleOf 1000000 ≤ 2 ^ 54 := by
      rw [scale]
      omega
    rw [floatQuotient_atLeast (by decide) enough]
    omega

example : (totalSeconds ((2 ^ 34 + 1) * 1000000 - 1)).AtLeast (2 ^ 34 + 1) := by decide

variable {instant other : Int}

/-- Of two instants with a date in UTC the later one has the greater text. -/
theorem isoformat_lt (later : InRange other) (less : instant < other) (inRange : InRange instant) :
    isoformat instant < isoformat other := by
  unfold InRange sinceYearOne at later inRange
  apply String.lt_iff_toList_lt.mpr
  unfold isoformat sinceYearOne
  rw [String.toList_ofList, String.toList_ofList]
  exact timeText_lt (by omega) (by omega)

/-- Two instants with a date in UTC have the same text exactly when they are the same. -/
theorem isoformat_inj (inRange : InRange instant) (otherRange : InRange other) :
    isoformat instant = isoformat other ↔ instant = other := by
  constructor
  · intro same
    rcases lt_trichotomy instant other with less | equal | greater
    · exact absurd same (ne_of_lt (isoformat_lt otherRange less inRange))
    · exact equal
    · exact absurd same.symm (ne_of_lt (isoformat_lt inRange greater otherRange))
  · exact congrArg isoformat

/-- Instants are ordered like their texts. -/
theorem isoformat_lt_iff (inRange : InRange instant) (otherRange : InRange other) :
    isoformat instant < isoformat other ↔ instant < other := by
  constructor
  · intro less
    by_contra notLess
    rcases lt_or_eq_of_le (not_lt.mp notLess) with greater | equal
    · exact absurd less (lt_asymm (isoformat_lt inRange greater otherRange))
    · exact absurd less (equal ▸ lt_irrefl _)
  · intro less
    exact isoformat_lt otherRange less inRange

/-- Texts of instants with a date in UTC are ordered like the instants. -/
theorem isoformat_le_iff (inRange : InRange instant) (otherRange : InRange other) :
    isoformat instant ≤ isoformat other ↔ instant ≤ other := by
  rw [← not_lt, ← not_lt, isoformat_lt_iff otherRange inRange]

/-- An instant is read back from its text. -/
theorem fromIsoformat_isoformat (inRange : InRange instant) :
    fromIsoformat (isoformat instant) = .ok instant := by
  unfold InRange sinceYearOne at inRange
  unfold fromIsoformat isoformat sinceYearOne
  rw [String.toList_ofList, readTime_timeText (by omega)]
  have same : (((instant + unixEpoch).toNat : Nat) : Int) - unixEpoch = instant := by omega
  exact congrArg Except.ok same

end LarkBot
