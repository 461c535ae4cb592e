import Mathlib.Algebra.Ring.Nat
import Mathlib.Data.List.Lex

/-! # Decimal fields

Numbers written with leading zeros in fixed numbers of digits, one after another with fixed
separators between them. Such texts are compared like the lists of their numbers, and the
numbers can be read back.
-/

namespace Foundation

section Lists

variable {α : Type*} [LT α] {first second rest other : List α}

/-- Texts of the same length are compared before what follows them. -/
theorem append_lt_append (lower : first < second) (sameLength : first.length = second.length) :
    first ++ rest < second ++ other := by
  induction lower with
  | nil => cases sameLength
  | rel lower => exact List.Lex.rel lower
  | cons _ ih => exact List.Lex.cons (ih (Nat.succ.inj sameLength))

end Lists

/-- The digit of a number below ten. -/
def digit (value : Nat) : Char := Char.ofNat (48 + value)

/-- The number that a digit writes. -/
def digitValue (char : Char) : Option Nat :=
  if 48 ≤ char.toNat ∧ char.toNat < 58 then some (char.toNat - 48) else none

/-- The digit of a smaller number is the smaller character. -/
theorem digit_lt_digit {lower higher : Nat} (bound : higher < 10) (less : lower < higher) :
    digit lower < digit higher := by
  have table : ∀ higher < 10, ∀ lower < higher, digit lower < digit higher := by decide
  exact table higher bound lower less

/-- A digit is read back as its value. -/
theorem digitValue_digit {value : Nat} (bound : value < 10) :
    digitValue (digit value) = some value := by
  have table : ∀ value < 10, digitValue (digit value) = some value := by decide
  exact table value bound

/-- A number in so many digits. -/
def padded : Nat → Nat → List Char
  | 0, _ => []
  | width + 1, value => padded width (value / 10) ++ [digit (value % 10)]

/-- A padded number has as many characters as its width. -/
@[simp] theorem length_padded (width value : Nat) : (padded width value).length = width := by
  induction width generalizing value with
  | zero => rfl
  | succ width ih => rw [padded, List.length_append, ih, List.length_singleton]

/-- Numbers that fit are compared like their digits. -/
theorem padded_lt_padded {width lower higher : Nat} (fits : higher < 10 ^ width)
    (less : lower < higher) : padded width lower < padded width higher := by
  induction width generalizing lower higher with
  | zero =>
      rw [Nat.pow_zero] at fits
      omega
  | succ width ih =>
      rw [padded, padded]
      have fits' : higher / 10 < 10 ^ width := by
        rw [Nat.div_lt_iff_lt_mul (by decide), ← Nat.pow_succ]
        exact fits
      by_cases leading : lower / 10 < higher / 10
      · apply append_lt_append (ih fits' leading)
        rw [length_padded, length_padded]
      · have same : lower / 10 = higher / 10 := by omega
        rw [same]
        refine List.append_left_lt (List.Lex.rel (digit_lt_digit ?_ ?_))
        · exact Nat.mod_lt _ (by decide)
        · omega

/-- The number that digits write, after what was read already. -/
def readDigits : Nat → List Char → Option Nat
  | value, [] => some value
  | value, char :: rest =>
      (digitValue char).bind fun digit => readDigits (10 * value + digit) rest

/-- Digits are read from left to right, so a text is read as its two parts are, one
after the other. -/
theorem readDigits_append (value : Nat) (chars rest : List Char) :
    readDigits value (chars ++ rest) =
      (readDigits value chars).bind fun value => readDigits value rest := by
  induction chars generalizing value with
  | nil => rfl
  | cons char chars ih =>
      rw [List.cons_append, readDigits, readDigits, Option.bind_assoc]
      congr 1
      funext digit
      exact ih _

/-- A number that fits its width is read back from its padded digits. -/
theorem readDigits_padded {width value : Nat} (fits : value < 10 ^ width) :
    readDigits 0 (padded width value) = some value := by
  induction width generalizing value with
  | zero =>
      rw [Nat.pow_zero] at fits
      obtain rfl : value = 0 := by omega
      rfl
  | succ width ih =>
      have fits' : value / 10 < 10 ^ width := by
        rw [Nat.div_lt_iff_lt_mul (by decide), ← Nat.pow_succ]
        exact fits
      rw [padded, readDigits_append, ih fits', Option.bind_some, readDigits,
        digitValue_digit (Nat.mod_lt _ (by decide)), Option.bind_some, readDigits,
        Nat.div_add_mod]

/-- How the fields of a text are written: their digits, and what separates them from the next. -/
abbrev Layout := List (Nat × List Char)

/-- The numbers, one in each field. -/
def writeFields : Layout → List Nat → List Char
  | (width, separator) :: layout, value :: values =>
      padded width value ++ (separator ++ writeFields layout values)
  | _, _ => []

/-- Every field has a number that fits into it. -/
def Fits : Layout → List Nat → Prop
  | (width, _) :: layout, value :: values => value < 10 ^ width ∧ Fits layout values
  | [], [] => True
  | _, _ => False

/-- The length of a text in a layout. -/
def layoutLength (layout : Layout) : Nat :=
  (layout.map fun field => field.1 + field.2.length).sum

/-- Fields that fit their layout are written to exactly its length. -/
theorem length_writeFields {layout : Layout} {values : List Nat} (fits : Fits layout values) :
    (writeFields layout values).length = layoutLength layout := by
  induction layout generalizing values with
  | nil => rfl
  | cons field layout ih =>
      cases values with
      | nil => cases fits
      | cons value values =>
          rw [writeFields, List.length_append, List.length_append, length_padded, ih fits.2,
            layoutLength, layoutLength, List.map_cons, List.sum_cons, Nat.add_assoc]

/-- Lists of numbers that fit are compared like the texts of their fields. -/
theorem writeFields_lt_writeFields {layout : Layout} {lower higher : List Nat}
    (lowerFits : Fits layout lower) (higherFits : Fits layout higher) (less : lower < higher) :
    writeFields layout lower < writeFields layout higher := by
  induction layout generalizing lower higher with
  | nil =>
      cases higher with
      | nil => exact absurd less (List.not_lt_nil _)
      | cons => cases higherFits
  | cons field layout ih =>
      cases lower with
      | nil => cases lowerFits
      | cons first lower =>
          cases higher with
          | nil => cases higherFits
          | cons second higher =>
              rw [writeFields, writeFields]
              rcases List.cons_lt_cons_iff.mp less with leading | ⟨rfl, later⟩
              · apply append_lt_append (padded_lt_padded higherFits.1 leading)
                rw [length_padded, length_padded]
              · exact List.append_left_lt (List.append_left_lt (ih lowerFits.2 higherFits.2 later))

/-- The numbers of the fields, and what follows them. -/
def readFields : Layout → List Char → Option (List Nat × List Char)
  | [], chars => some ([], chars)
  | (width, separator) :: layout, chars =>
      if (chars.drop width).take separator.length = separator then
        (readDigits 0 (chars.take width)).bind fun value =>
          (readFields layout (chars.drop (width + separator.length))).map fun read =>
            (value :: read.1, read.2)
      else none

/-- Fields that fit their layout are read back from what is written of them, and the
rest is left over. -/
theorem readFields_writeFields {layout : Layout} {values : List Nat} (fits : Fits layout values)
    (rest : List Char) :
    readFields layout (writeFields layout values ++ rest) = some (values, rest) := by
  induction layout generalizing values with
  | nil =>
      cases values with
      | nil => rfl
      | cons => cases fits
  | cons field layout ih =>
      cases values with
      | nil => cases fits
      | cons value values =>
          obtain ⟨width, separator⟩ := field
          have digits : ((padded width value ++ (separator ++ writeFields layout values)) ++
              rest).take width = padded width value := by
            rw [List.append_assoc, List.take_left' (length_padded width value)]
          have dropped : ((padded width value ++ (separator ++ writeFields layout values)) ++
              rest).drop width = separator ++ (writeFields layout values ++ rest) := by
            rw [List.append_assoc, List.drop_left' (length_padded width value), List.append_assoc]
          rw [writeFields, readFields, digits, ← List.drop_drop, dropped, List.take_left,
            List.drop_left, if_pos rfl, readDigits_padded fits.1, ih fits.2]
          rfl

end Foundation
