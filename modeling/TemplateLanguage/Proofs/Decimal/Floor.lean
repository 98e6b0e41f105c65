import Mathlib.Data.Rat.Floor
import Mathlib.Tactic.FieldSimp
import Mathlib.Tactic.Linarith
import TemplateLanguage.Decimal.Round
import TemplateLanguage.Proofs.Decimal.Order

/-!
# The floor and the ceiling of a decimal

Cutting the places of a decimal, and stepping away from zero where the cut went the
wrong way, gives the greatest integer that is not above the decimal, or the least one
that is not below it.  The integer is a decimal without places, and equal integers are
the same decimal.
-/

namespace TemplateLanguage.Decimal

/-- Zero carries no sign. -/
def PlainZero (number : Decimal) : Prop :=
  number.negative = true → number.mantissa ≠ 0

/-- A decimal without places after the point, written in the only way. -/
structure IsInteger (number : Decimal) : Prop where
  scale_eq : number.scale = 0
  plainZero : number.PlainZero

/-- Integers of equal value are the same decimal. -/
theorem IsInteger.eq_of_value_eq {number other : Decimal} (integer : number.IsInteger)
    (otherInteger : other.IsInteger) (same : number.value = other.value) : number = other := by
  rw [value_eq, value_eq, integer.scale_eq, otherInteger.scale_eq, pow_zero, div_one, div_one]
    at same
  have coefficients : number.coefficient = other.coefficient := by exact_mod_cast same
  have mantissas : number.mantissa = other.mantissa := by
    rw [← natAbs_coefficient, ← natAbs_coefficient, coefficients]
  have signs : number.negative = other.negative := by
    have plain := integer.plainZero
    have otherPlain := otherInteger.plainZero
    rw [coefficient, coefficient] at coefficients
    cases negative : number.negative <;> cases otherNegative : other.negative <;>
      simp only [PlainZero, negative, otherNegative, if_true, Bool.false_eq_true, if_false,
        true_implies] at coefficients plain otherPlain ⊢ <;> omega
  have scales : number.scale = other.scale := integer.scale_eq.trans otherInteger.scale_eq.symm
  cases number
  cases other
  simp_all

section

variable {negative : Bool} {mantissa scale : ℕ} {number : Decimal}

theorem plainZero_of_ofUnsignedZero?
    (made : ofUnsignedZero? negative mantissa scale = some number) : number.PlainZero := by
  rw [ofUnsignedZero?, ofParts?] at made
  split at made
  · cases made
    intro signed
    simp only [Bool.and_eq_true, bne_iff_ne] at signed
    exact signed.2
  · cases made

end

/-! ## The floor -/

/-- A decimal by the digits before the point and those after it. -/
theorem value_eq_parts (number : Decimal) :
    number.value =
      if number.negative then -(number.whole + (number.fraction : ℚ) / 10 ^ number.scale)
      else number.whole + (number.fraction : ℚ) / 10 ^ number.scale := by
  have parts : number.mantissa = 10 ^ number.scale * number.whole + number.fraction :=
    (Nat.div_add_mod number.mantissa number.unit).symm
  have quotient : (number.mantissa : ℚ) / 10 ^ number.scale =
      number.whole + (number.fraction : ℚ) / 10 ^ number.scale := by
    rw [parts]
    push_cast
    field_simp
  rw [value_eq, coefficient]
  split
  · rw [Int.cast_neg, Int.cast_natCast, neg_div, quotient]
  · rw [Int.cast_natCast, quotient]

theorem value_truncate (number : Decimal) :
    number.truncate.value = if number.negative then -(number.whole : ℚ) else number.whole := by
  simp only [value_eq, truncate, coefficient, pow_zero, div_one]
  split <;> simp

theorem value_stepAway (number : Decimal) (cut : number.fraction ≠ 0) :
    (number.stepAway cut).value =
      if number.negative then -(number.whole + 1 : ℚ) else number.whole + 1 := by
  simp only [value_eq, stepAway, coefficient, pow_zero, div_one]
  split <;> simp

theorem value_eq_floor {number rounded : Decimal} {integer : ℤ} (same : rounded.value = integer)
    (le : (integer : ℚ) ≤ number.value) (lt : number.value < integer + 1) :
    rounded.value = ⌊number.value⌋ := by
  rw [same, Int.floor_eq_iff.mpr ⟨le, lt⟩]

/-- The floor of a decimal is the greatest integer that is not above it. -/
theorem value_floor (number : Decimal) : number.floor.value = ⌊number.value⌋ := by
  have scale : (0 : ℚ) < 10 ^ number.scale := by positivity
  have small : (number.fraction : ℚ) / 10 ^ number.scale < 1 := by
    rw [div_lt_one scale]
    exact_mod_cast Nat.mod_lt number.mantissa number.unit_pos
  have parts := value_eq_parts number
  rw [Decimal.floor]
  by_cases cut : number.fraction ≠ 0
  · have positive : (0 : ℚ) < (number.fraction : ℚ) / 10 ^ number.scale :=
      div_pos (by exact_mod_cast Nat.pos_of_ne_zero cut) scale
    rw [dif_pos cut]
    by_cases negative : number.negative = true
    · rw [if_pos negative] at parts ⊢
      have away : (number.stepAway cut).value = (-(number.whole + 1) : ℤ) := by
        rw [value_stepAway, if_pos negative]
        push_cast
        rfl
      apply value_eq_floor away
      · rw [parts]
        push_cast
        linarith
      · rw [parts]
        push_cast
        linarith
    · rw [if_neg negative] at parts ⊢
      have kept : number.truncate.value = (number.whole : ℤ) := by
        rw [value_truncate, if_neg negative, Int.cast_natCast]
      apply value_eq_floor kept
      · rw [parts, Int.cast_natCast]
        linarith
      · rw [parts, Int.cast_natCast]
        linarith
  · have integral : number.truncate.value = number.value := by
      rw [value_truncate, parts, not_not.mp cut, Nat.cast_zero, zero_div, add_zero]
    rw [dif_neg cut, ← integral, value_truncate]
    split
    · rw [← Int.cast_natCast, ← Int.cast_neg, Int.floor_intCast]
    · rw [Int.floor_natCast, Int.cast_natCast]

/-! ## The ceiling -/

/-- A decimal with the other sign. -/
def negate (number : Decimal) : Decimal :=
  { number with negative := !number.negative }

theorem value_negate (number : Decimal) : number.negate.value = -number.value := by
  rw [value_eq, value_eq, negate, coefficient, coefficient]
  cases number.negative with
  | false => simp [neg_div]
  | true => simp [neg_div]

/-- The ceiling is the floor on the other side of zero. -/
theorem ceiling_eq_negate_floor_negate (number : Decimal) :
    number.ceiling = number.negate.floor.negate := by
  have parts : number.negate.fraction = number.fraction := rfl
  rw [ceiling, floor]
  by_cases cut : number.fraction ≠ 0
  · rw [dif_pos cut, dif_pos (parts ▸ cut)]
    cases negative : number.negative <;>
      simp [negate, stepAway, truncate, whole, unit, negative]
  · rw [dif_neg cut, dif_neg (parts ▸ cut)]
    simp [negate, truncate, whole, unit]

/-- The ceiling of a decimal is the least integer that is not below it. -/
theorem value_ceiling (number : Decimal) : number.ceiling.value = ⌈number.value⌉ := by
  calc number.ceiling.value = -(⌊-number.value⌋ : ℚ) := by
        rw [ceiling_eq_negate_floor_negate, value_negate, value_floor, value_negate]
    _ = ⌈number.value⌉ := by rw [Int.floor_neg, Int.cast_neg, neg_neg]

/-! ## Integers -/

theorem isInteger_floor {number : Decimal} (plain : number.PlainZero) :
    number.floor.IsInteger := by
  rw [Decimal.floor]
  by_cases cut : number.fraction ≠ 0
  · rw [dif_pos cut]
    cases negative : number.negative with
    | false =>
        constructor
        · rfl
        · intro signed
          cases negative.symm.trans signed
    | true =>
        constructor
        · rfl
        · exact fun _ => Nat.succ_ne_zero _
  · rw [dif_neg cut]
    rw [not_not] at cut
    constructor
    · rfl
    · intro signed none
      have whole : number.mantissa = number.unit * number.whole + number.fraction :=
        (Nat.div_add_mod number.mantissa number.unit).symm
      have zero : number.whole = 0 := none
      rw [cut, zero, Nat.mul_zero] at whole
      exact plain signed whole

end TemplateLanguage.Decimal
