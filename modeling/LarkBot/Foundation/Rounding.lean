import Mathlib.Data.Nat.Log
import Mathlib.Tactic.Ring

/-! # Quotients as floats

The quotient of two numbers as a binary fraction of 53 bits, rounded to the nearest one and to the
even one of two. Such a quotient is not below a number if and only if the exact one is, as long as
the number is so small that its neighbours are closer to it than a part of the divisor
(`Foundation.floatQuotient_atLeast`).
-/

namespace Foundation

variable {dividend divisor bound : Nat}

/-- The natural number nearest to a quotient, and the even one of two. -/
def roundedQuotient (dividend divisor : Nat) : Nat :=
  let quotient := dividend / divisor
  let twice := 2 * (dividend % divisor)
  if twice < divisor ∨ twice = divisor ∧ quotient % 2 = 0 then quotient else quotient + 1

/-- Rounding does not fall below a number that the quotient reaches. -/
theorem le_roundedQuotient (positive : 0 < divisor) (reached : bound * divisor ≤ dividend) :
    bound ≤ roundedQuotient dividend divisor := by
  have below : bound ≤ dividend / divisor := (Nat.le_div_iff_mul_le positive).mpr reached
  unfold roundedQuotient
  dsimp only
  split
  · exact below
  · exact Nat.le_succ_of_le below

/-- Rounding does not reach a number that is more than a half above the quotient. -/
theorem roundedQuotient_lt (far : 2 * dividend + divisor < 2 * (bound * divisor)) :
    roundedQuotient dividend divisor < bound := by
  have positive : 0 < divisor := by
    by_contra zero
    rw [Nat.eq_zero_of_not_pos zero] at far
    omega
  have parts := Nat.div_add_mod dividend divisor
  rw [Nat.mul_comm] at parts
  have quotient : dividend / divisor < bound := by
    apply (Nat.div_lt_iff_lt_mul positive).mpr
    omega
  unfold roundedQuotient
  dsimp only
  split
  · exact quotient
  next up =>
    -- the remainder is a half at least, so the next number is still below the bound
    by_contra reached
    have next : bound = dividend / divisor + 1 := by omega
    rw [next, Nat.add_mul, Nat.one_mul] at far
    omega

/-- A number with so many bits after the point. -/
structure BinaryFraction where
  mantissa : Int
  bits : Nat
  deriving DecidableEq

/-- The fraction is not below an integer. -/
def BinaryFraction.AtLeast (fraction : BinaryFraction) (bound : Int) : Prop :=
  bound * 2 ^ fraction.bits ≤ fraction.mantissa

instance (fraction : BinaryFraction) (bound : Int) : Decidable (fraction.AtLeast bound) :=
  inferInstanceAs (Decidable (_ ≤ _))

/-- A power of two above the divisor. -/
def scaleOf (divisor : Nat) : Nat := Nat.log2 divisor + 1

/-- A quotient below `2 ^ 53` as the nearest float. Its first bit is found in the quotient of the
dividend by less than one, which is not zero. -/
def floatQuotient (dividend divisor : Nat) : BinaryFraction :=
  let first := Nat.log2 (dividend * 2 ^ scaleOf divisor / divisor)
  let bits := 52 + scaleOf divisor - first
  ⟨roundedQuotient (dividend * 2 ^ bits) divisor, bits⟩

/-- A divisor is less than the power of two that it is scaled to. -/
theorem lt_two_pow_scaleOf (divisor : Nat) : divisor < 2 ^ scaleOf divisor :=
  Nat.lt_log2_self

/-- A quotient below a small number has bits enough to tell it from that number. -/
theorem floatQuotient_bits (positive : 0 < divisor) (small : bound * 2 ^ scaleOf divisor ≤ 2 ^ 54)
    (below : dividend < bound * divisor) :
    scaleOf divisor ≤ (floatQuotient dividend divisor).bits + 1 := by
  have scaled : dividend * 2 ^ scaleOf divisor / divisor < 2 ^ 54 := by
    apply (Nat.div_lt_iff_lt_mul positive).mpr
    calc dividend * 2 ^ scaleOf divisor
        < bound * divisor * 2 ^ scaleOf divisor :=
          Nat.mul_lt_mul_of_pos_right below (Nat.two_pow_pos _)
      _ = bound * 2 ^ scaleOf divisor * divisor := by ring
      _ ≤ 2 ^ 54 * divisor := Nat.mul_le_mul_right divisor small
  have first : Nat.log2 (dividend * 2 ^ scaleOf divisor / divisor) ≤ 53 := by
    by_cases zero : dividend * 2 ^ scaleOf divisor / divisor = 0
    · rw [zero]
      decide
    · exact Nat.le_of_lt_succ ((Nat.log2_lt zero).mpr scaled)
  unfold floatQuotient
  dsimp only
  omega

/-- The float of a quotient is not below a number that the quotient reaches. -/
theorem floatQuotient_reaches (positive : 0 < divisor) (reached : bound * divisor ≤ dividend) :
    (floatQuotient dividend divisor).AtLeast bound := by
  unfold BinaryFraction.AtLeast floatQuotient
  dsimp only
  generalize 52 + scaleOf divisor - Nat.log2 (dividend * 2 ^ scaleOf divisor / divisor) = bits
  have cast : (bound : Int) * 2 ^ bits = ((bound * 2 ^ bits : Nat) : Int) := by
    rw [Nat.cast_mul, Nat.cast_pow]
    rfl
  rw [cast, Int.ofNat_le]
  apply le_roundedQuotient positive
  calc bound * 2 ^ bits * divisor = bound * divisor * 2 ^ bits := by ring
    _ ≤ dividend * 2 ^ bits := Nat.mul_le_mul_right _ reached

/-- The float of a quotient is not below a small number if and only if the quotient is not. -/
theorem floatQuotient_atLeast (positive : 0 < divisor)
    (small : bound * 2 ^ scaleOf divisor ≤ 2 ^ 54) :
    (floatQuotient dividend divisor).AtLeast bound ↔ bound * divisor ≤ dividend := by
  refine ⟨fun reached => ?_, floatQuotient_reaches positive⟩
  by_contra short
  have enough := @floatQuotient_bits dividend divisor bound positive small
  unfold BinaryFraction.AtLeast at reached
  unfold floatQuotient at enough reached
  dsimp only at enough reached
  generalize 52 + scaleOf divisor - Nat.log2 (dividend * 2 ^ scaleOf divisor / divisor) = bits at *
  have cast : (bound : Int) * 2 ^ bits = ((bound * 2 ^ bits : Nat) : Int) := by
    rw [Nat.cast_mul, Nat.cast_pow]
    rfl
  rw [cast, Int.ofNat_le] at reached
  have below : dividend + 1 ≤ bound * divisor := Nat.lt_of_not_le short
  have half : divisor < 2 * 2 ^ bits := by
    calc divisor < 2 ^ scaleOf divisor := lt_two_pow_scaleOf divisor
      _ ≤ 2 ^ (bits + 1) := Nat.pow_le_pow_right (by decide) (enough below)
      _ = 2 * 2 ^ bits := Nat.pow_succ'
  have far : 2 * (dividend * 2 ^ bits) + divisor < 2 * (bound * 2 ^ bits * divisor) := by
    calc 2 * (dividend * 2 ^ bits) + divisor
        < 2 * (dividend * 2 ^ bits) + 2 * 2 ^ bits := Nat.add_lt_add_left half _
      _ = 2 * ((dividend + 1) * 2 ^ bits) := by ring
      _ ≤ 2 * (bound * divisor * 2 ^ bits) :=
        Nat.mul_le_mul_left 2 (Nat.mul_le_mul_right _ below)
      _ = 2 * (bound * 2 ^ bits * divisor) := by ring
  exact absurd reached (Nat.not_le.mpr (roundedQuotient_lt far))

end Foundation
