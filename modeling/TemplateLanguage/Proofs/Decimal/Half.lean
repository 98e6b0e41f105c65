import Mathlib.Tactic.Ring
import TemplateLanguage.Proofs.Decimal.Floor
import TemplateLanguage.Proofs.Rounding.Nearest

/-!
# Adding one half to a decimal

The sum of a decimal and one half is exact as long as its digits fit.  Where they do
not fit, the sum gives up its last place and is rounded to the nearest decimal with one
place less, a half to the even one.  Only the greatest decimal has no sum with one half.
-/

namespace TemplateLanguage.Decimal

open Rounding

/-- Places of the sum with one half. -/
def sumPlaces (number : Decimal) : ℕ :=
  max number.scale 1

/-- The digits of the sum with one half. -/
def halfSum (number : Decimal) : ℤ :=
  number.coefficient * 10 ^ (number.sumPlaces - number.scale) + 5 * 10 ^ (number.sumPlaces - 1)

theorem scale_le_sumPlaces (number : Decimal) : number.scale ≤ number.sumPlaces :=
  le_max_left _ _

theorem one_le_sumPlaces (number : Decimal) : 1 ≤ number.sumPlaces :=
  le_max_right _ _

theorem sumPlaces_le (number : Decimal) : number.sumPlaces ≤ 28 :=
  max_le number.scale_le (by decide)

theorem sumPlaces_of_one_lt {number : Decimal} (many : 1 < number.sumPlaces) :
    number.sumPlaces = number.scale := by
  rw [sumPlaces] at many ⊢
  omega

theorem pow_sumPlaces (number : Decimal) :
    (10 : ℚ) ^ number.sumPlaces = 10 ^ (number.sumPlaces - 1) * 10 := by
  rw [← pow_succ, Nat.sub_add_cancel number.one_le_sumPlaces]

theorem halfSum_eq (number : Decimal) :
    (number.halfSum : ℚ) = (number.value + 1 / 2) * 10 ^ number.sumPlaces := by
  have scale : (10 : ℚ) ^ number.sumPlaces =
      10 ^ number.scale * 10 ^ (number.sumPlaces - number.scale) := by
    rw [← pow_add, Nat.add_sub_cancel' number.scale_le_sumPlaces]
  have digits : number.value * 10 ^ number.sumPlaces =
      number.coefficient * 10 ^ (number.sumPlaces - number.scale) := by
    rw [value_eq, scale]
    field_simp
  rw [add_mul, digits, pow_sumPlaces, halfSum]
  push_cast
  ring

/-- The sum without its last place. -/
theorem halfSum_div_ten (number : Decimal) :
    (number.halfSum : ℚ) / 10 = (number.value + 1 / 2) * 10 ^ (number.sumPlaces - 1) := by
  rw [halfSum_eq, pow_sumPlaces]
  ring

/-- The sum with one half of an integer. -/
theorem halfSum_of_scale_eq_zero {number : Decimal} (integral : number.scale = 0) :
    number.halfSum = 10 * number.coefficient + 5 := by
  simp only [halfSum, sumPlaces, integral]
  norm_num
  ring

theorem halfSum_of_scale_ne_zero {number : Decimal} (pointed : number.scale ≠ 0) :
    number.halfSum = number.coefficient + 5 * 10 ^ (number.scale - 1) := by
  have places : number.sumPlaces = number.scale := max_eq_left (Nat.one_le_iff_ne_zero.mpr pointed)
  rw [halfSum, places, Nat.sub_self, pow_zero, mul_one]

theorem add?_half (number : Decimal) :
    number.add? half =
      fit? (decide (number.halfSum < 0)) number.halfSum.natAbs number.sumPlaces 0
        number.sumPlaces :=
  rfl

section

variable {negative : Bool} {mantissa scale left : ℕ}

theorem fit?_of_lt (fits : mantissa < mantissaLimit) :
    fit? negative mantissa scale 0 left = ofUnsignedZero? negative mantissa scale := by
  have same : divideToEven mantissa (Nat.pow 10 0) = mantissa := by
    simp [divideToEven, Nat.mod_one]
  cases left with
  | zero => rw [fit?, same, Nat.sub_zero]
  | succ left => rw [fit?, same, if_pos fits, Nat.sub_zero]

theorem fit?_of_le (crowded : mantissaLimit ≤ mantissa)
    (kept : divideToEven mantissa 10 < mantissaLimit ∨ left = 0) :
    fit? negative mantissa scale 0 (left + 1) =
      ofUnsignedZero? negative (divideToEven mantissa 10) (scale - 1) := by
  have same : divideToEven mantissa (Nat.pow 10 0) = mantissa := by
    simp [divideToEven, Nat.mod_one]
  have dropped : Nat.pow 10 (0 + 1) = 10 := rfl
  rw [fit?, same, if_neg (Nat.not_lt.mpr crowded)]
  cases left with
  | zero => rw [fit?, dropped]
  | succ left => rw [fit?, dropped, if_pos (kept.resolve_right (Nat.succ_ne_zero left))]

end

/-- Only the sum of one half and the greatest decimal cannot be made to fit. -/
theorem divideToEven_halfSum_lt {number : Decimal}
    (less : number.value ≠ (mantissaLimit : ℚ) - 1) :
    divideToEven number.halfSum.natAbs 10 < mantissaLimit := by
  have bound := number.natAbs_coefficient_lt
  rw [mantissaLimit_eq] at bound ⊢
  by_cases integral : number.scale = 0
  · have other : number.coefficient ≠ 79228162514264337593543950335 := by
      intro greatest
      apply less
      rw [value_eq, greatest, integral, mantissaLimit_eq]
      norm_num
    rw [halfSum_of_scale_eq_zero integral, divideToEven]
    split <;> omega
  · have unit : (10 : ℤ) ^ (number.scale - 1) ≤ 10 ^ 27 :=
      pow_le_pow_right₀ (by norm_num) (by have := number.scale_le; omega)
    have positive : (0 : ℤ) < 10 ^ (number.scale - 1) := by positivity
    rw [halfSum_of_scale_ne_zero integral, divideToEven]
    generalize (10 : ℤ) ^ (number.scale - 1) = half at unit positive
    split <;> omega

theorem halfSum_of_greatest {number : Decimal} (greatest : number.value = (mantissaLimit : ℚ) - 1) :
    number.halfSum = 10 * mantissaLimit - 5 ∧ number.scale = 0 := by
  have bound := number.natAbs_coefficient_lt
  have scale : (0 : ℚ) < 10 ^ number.scale := by positivity
  rw [value_eq, div_eq_iff scale.ne'] at greatest
  have digits : number.coefficient = (mantissaLimit - 1) * 10 ^ number.scale := by
    exact_mod_cast greatest
  have integral : number.scale = 0 := by
    by_contra pointed
    have unit : (10 : ℤ) ≤ 10 ^ number.scale := by
      calc (10 : ℤ) = 10 ^ 1 := by norm_num
        _ ≤ 10 ^ number.scale :=
            pow_le_pow_right₀ (by norm_num) (Nat.one_le_iff_ne_zero.mpr pointed)
    rw [mantissaLimit_eq] at bound digits
    norm_num at digits
    omega
  rw [integral, pow_zero, mul_one] at digits
  constructor
  · rw [halfSum_of_scale_eq_zero integral, digits]
    ring
  · exact integral

/-- An integer that takes the sign of another one. -/
def withSign (signed : ℤ) (magnitude : ℕ) : ℤ :=
  if signed < 0 then -magnitude else magnitude

theorem withSign_natAbs (signed : ℤ) : withSign signed signed.natAbs = signed := by
  rw [withSign]
  split <;> omega

theorem value_of_withSign {signed : ℤ} {magnitude scale : ℕ} {number : Decimal}
    (made : ofUnsignedZero? (decide (signed < 0)) magnitude scale = some number) :
    number.value = withSign signed magnitude / 10 ^ scale := by
  rw [value_of_ofUnsignedZero? made, withSign]
  by_cases negative : signed < 0
  · rw [if_pos negative, if_pos (decide_eq_true negative), Int.cast_neg, Int.cast_natCast]
  · rw [if_neg negative, if_neg (by simp [negative]), Int.cast_natCast]

/-- Rounding a quotient by its size rounds it with its sign. -/
theorem nearestEven_withSign (dividend : ℤ) {divisor : ℕ} (positive : 0 < divisor) :
    NearestEven (withSign dividend (divideToEven dividend.natAbs divisor))
      (dividend / divisor) := by
  have nearest := nearestEven_divideToEven dividend.natAbs positive
  rw [withSign]
  by_cases negative : dividend < 0
  · have size : ((dividend.natAbs : ℤ) : ℚ) = -dividend := by
      rw [Int.ofNat_natAbs_of_nonpos negative.le, Int.cast_neg]
    rw [Int.cast_natCast] at size
    rw [if_pos negative, ← neg_neg (dividend : ℚ), neg_div, ← size]
    exact nearest.neg
  · have size : ((dividend.natAbs : ℤ) : ℚ) = dividend := by
      rw [Int.natAbs_of_nonneg (Int.not_lt.mp negative)]
    rw [Int.cast_natCast] at size
    rw [if_neg negative, ← size]
    exact nearest

/-- The sum with one half is exact if its digits fit. -/
theorem exists_add?_half_of_lt {number : Decimal}
    (fits : number.halfSum.natAbs < mantissaLimit) :
    ∃ sum, number.add? half = some sum ∧ sum.PlainZero ∧ sum.value = number.value + 1 / 2 := by
  obtain ⟨sum, made⟩ := exists_ofUnsignedZero? (decide (number.halfSum < 0)) fits
    number.sumPlaces_le
  refine ⟨sum, ((add?_half number).trans (fit?_of_lt fits)).trans made,
    plainZero_of_ofUnsignedZero? made, ?_⟩
  rw [value_of_withSign made, withSign_natAbs, halfSum_eq, mul_div_cancel_right₀]
  positivity

/-- Where the digits of the sum do not fit, it gives up its last place. -/
theorem exists_add?_half_of_le {number : Decimal}
    (crowded : mantissaLimit ≤ number.halfSum.natAbs)
    (less : number.value ≠ (mantissaLimit : ℚ) - 1) :
    ∃ sum rounded, number.add? half = some sum ∧ sum.PlainZero ∧
      NearestEven rounded ((number.value + 1 / 2) * 10 ^ (number.sumPlaces - 1)) ∧
      sum.value = rounded / 10 ^ (number.sumPlaces - 1) := by
  have kept := divideToEven_halfSum_lt less
  obtain ⟨sum, made⟩ := exists_ofUnsignedZero? (decide (number.halfSum < 0)) kept
    ((Nat.sub_le number.sumPlaces 1).trans number.sumPlaces_le)
  have dropped : number.add? half = some sum := by
    rw [add?_half, ← made, ← fit?_of_le crowded (.inl kept),
      Nat.sub_add_cancel number.one_le_sumPlaces]
  refine ⟨sum, _, dropped, plainZero_of_ofUnsignedZero? made, ?_, value_of_withSign made⟩
  rw [← halfSum_div_ten]
  exact nearestEven_withSign number.halfSum (by decide)

theorem add?_half_of_greatest {number : Decimal}
    (greatest : number.value = (mantissaLimit : ℚ) - 1) : number.add? half = none := by
  obtain ⟨sum, integral⟩ := halfSum_of_greatest greatest
  have places : number.sumPlaces = 1 := by rw [sumPlaces, integral]; rfl
  have digits : number.halfSum.natAbs = 792281625142643375935439503355 := by
    rw [sum, mantissaLimit_eq]
    rfl
  have tooGreat : ¬(divideToEven 792281625142643375935439503355 10 < mantissaLimit ∧
      1 - 1 ≤ 28) := by decide
  rw [add?_half, digits, places, fit?_of_le (by decide) (.inr rfl), ofUnsignedZero?, ofParts?,
    dif_neg tooGreat]

end TemplateLanguage.Decimal
