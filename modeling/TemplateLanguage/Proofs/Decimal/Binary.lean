import TemplateLanguage.Decimal.Binary
import TemplateLanguage.Proofs.Binary.Spelling

/-!
# Decimals as binary numbers

On its way to a binary number a decimal is rounded many times.  The steps may lose
places, but a bound that is a power of two survives all of them: the binary number is
finite, and it is not beyond the limit of decimals.
-/

namespace TemplateLanguage

open Rounding

namespace Binary

variable {format : BinaryFormat} {negative : Bool} {magnitude : Magnitude}

theorem ofMagnitude_eq (canonical : format.Canonical magnitude.mantissa magnitude.exponent) :
    (ofMagnitude negative magnitude : Binary format) =
      finite negative magnitude.mantissa magnitude.exponent canonical :=
  dif_pos canonical

theorem abs_toRat_ofMagnitude
    (canonical : format.Canonical magnitude.mantissa magnitude.exponent) :
    |(ofMagnitude negative magnitude : Binary format).toRat| = magnitude.toRat := by
  rw [ofMagnitude_eq canonical, abs_toRat]

end Binary

namespace Decimal

variable {quotient : Quotient}

theorem toRat_near_pow (exponent : ℕ) : (near ⟨2 ^ exponent, 1⟩).toRat = 2 ^ exponent :=
  Binary.toRat_nearestMagnitude_pow (by decide)
    ((show BinaryFormat.double.least ≤ 0 by decide).trans (Int.natCast_nonneg exponent))

theorem toRat_near_mono {greater : Quotient} (positive : 0 < quotient.divisor)
    (greaterPositive : 0 < greater.divisor) (le : quotient.toRat ≤ greater.toRat) :
    (near quotient).toRat ≤ (near greater).toRat :=
  Binary.toRat_nearestMagnitude_mono (by decide) positive greaterPositive le

theorem toRat_near_le_pow (exponent : ℕ) (positive : 0 < quotient.divisor)
    (le : quotient.toRat ≤ 2 ^ exponent) : (near quotient).toRat ≤ 2 ^ exponent := by
  rw [← toRat_near_pow]
  apply toRat_near_mono positive Nat.one_pos
  rw [Quotient.toRat_natCast]
  exact_mod_cast le

theorem pow_le_toRat_near (exponent : ℕ) (positive : 0 < quotient.divisor)
    (le : 2 ^ exponent ≤ quotient.toRat) : 2 ^ exponent ≤ (near quotient).toRat := by
  rw [← toRat_near_pow]
  apply toRat_near_mono Nat.one_pos positive
  rw [Quotient.toRat_natCast]
  exact_mod_cast le

theorem one_le_toRat_near (positive : 0 < quotient.divisor) (le : 1 ≤ quotient.toRat) :
    1 ≤ (near quotient).toRat :=
  pow_le_toRat_near 0 positive le

/-! ## The power of ten -/

theorem multiply_divisor_pos (first second : Binary.Magnitude) :
    0 < (first.value.multiply second.value).divisor :=
  Nat.mul_pos first.value_divisor_pos second.value_divisor_pos

theorem one_le_near_multiply {first second : Binary.Magnitude} (large : 1 ≤ first.toRat)
    (otherLarge : 1 ≤ second.toRat) : 1 ≤ (near (first.value.multiply second.value)).toRat := by
  apply one_le_toRat_near (multiply_divisor_pos first second)
  rw [Quotient.toRat_multiply, Binary.Magnitude.toRat_value, Binary.Magnitude.toRat_value]
  exact one_le_mul_of_one_le_of_one_le large otherLarge

theorem one_le_nearPower {result base : Binary.Magnitude} (exponent : ℕ)
    (large : 1 ≤ result.toRat) (baseLarge : 1 ≤ base.toRat) :
    1 ≤ (nearPower result base exponent).toRat := by
  induction result, base, exponent using nearPower.induct with
  | case1 result base =>
      rw [nearPower, if_pos rfl]
      exact large
  | case2 result base exponent nonzero next ih =>
      have larger : 1 ≤ next.toRat := by
        simp only [next]
        split
        · exact one_le_near_multiply large baseLarge
        · exact large
      rw [nearPower, if_neg nonzero]
      exact ih larger (one_le_near_multiply baseLarge baseLarge)

theorem one_le_nearUnit (scale : ℕ) : 1 ≤ (nearUnit scale).toRat := by
  apply one_le_nearPower
  · exact one_le_toRat_near Nat.one_pos (by rw [Quotient.toRat_natCast]; norm_num)
  · exact one_le_toRat_near Nat.one_pos (by rw [Quotient.toRat_natCast]; norm_num)

/-! ## The sum of the parts -/

theorem divideHalfUp_le (dividend : ℕ) {divisor : ℕ} (positive : 0 < divisor) :
    (divideHalfUp dividend divisor : ℚ) ≤ dividend / divisor + 1 / 2 := by
  have unit : (0 : ℚ) < divisor := by exact_mod_cast positive
  have cut : (divideHalfUp dividend divisor : ℚ) * (2 * divisor) ≤ 2 * dividend + divisor := by
    exact_mod_cast Nat.div_mul_le_self (2 * dividend + divisor) (2 * divisor)
  have split : (dividend : ℚ) / divisor + 1 / 2 = (2 * dividend + divisor) / (2 * divisor) := by
    field_simp
  rw [split, le_div_iff₀ (by positivity)]
  exact cut

/-- Digits before the point, where others follow. -/
theorem whole_lt_of_fraction_ne_zero {number : Decimal} (cut : number.fraction ≠ 0) :
    number.whole < 2 ^ 93 := by
  have pointed : number.scale ≠ 0 := by
    intro integral
    rw [fraction, unit, integral] at cut
    exact cut (Nat.mod_one _)
  have unit : 10 ≤ number.unit := Nat.le_self_pow pointed 10
  have quotient : number.whole ≤ number.mantissa / 10 := Nat.div_le_div_left unit (by decide)
  have bound := number.mantissa_lt
  rw [mantissaLimit_eq] at bound
  omega

theorem divide_divisor_pos {first second : Quotient} (positive : 0 < first.divisor)
    (otherPositive : 0 < second.divisor) (large : 1 ≤ second.toRat) :
    0 < (first.divide second).divisor :=
  Nat.mul_pos positive
    (otherPositive.trans_le ((Quotient.one_le_toRat_iff otherPositive).mp large))

/-- The part after the point is at most one. -/
theorem part_le_one (number : Decimal) :
    (near ((near ⟨number.fraction, 1⟩).value.divide (near ⟨number.unit, 1⟩).value)).toRat ≤ 1 := by
  have large : 1 ≤ (near ⟨number.unit, 1⟩).toRat := by
    apply one_le_toRat_near Nat.one_pos
    rw [Quotient.toRat_natCast]
    exact_mod_cast number.unit_pos
  have le : (near ⟨number.fraction, 1⟩).toRat ≤ (near ⟨number.unit, 1⟩).toRat := by
    apply toRat_near_mono Nat.one_pos Nat.one_pos
    rw [Quotient.toRat_natCast, Quotient.toRat_natCast]
    exact_mod_cast (Nat.mod_lt _ number.unit_pos).le
  have positive := divide_divisor_pos (near ⟨number.fraction, 1⟩).value_divisor_pos
    (near ⟨number.unit, 1⟩).value_divisor_pos ((Binary.Magnitude.toRat_value _).symm ▸ large)
  have one := toRat_near_le_pow 0 positive
  rw [pow_zero, Quotient.toRat_divide, Binary.Magnitude.toRat_value,
    Binary.Magnitude.toRat_value] at one
  exact one ((div_le_one (zero_lt_one.trans_le large)).mpr le)

/-- Rounding a number to places keeps it below four times a bound of at least one. -/
theorem divide_divideHalfUp_le {sum unit : Binary.Magnitude} {bound : ℚ} (large : 1 ≤ unit.toRat)
    (one : 1 ≤ bound) (le : sum.toRat ≤ bound) :
    (divideHalfUp (near (sum.value.multiply unit.value)).value.dividend
        (near (sum.value.multiply unit.value)).value.divisor : ℚ) / unit.toRat ≤ 4 * bound := by
  have scaled : (near (sum.value.multiply unit.value)).toRat ≤ 2 * (sum.toRat * unit.toRat) := by
    have twice : (near (sum.value.multiply unit.value)).toRat ≤ _ :=
      Binary.toRat_nearestMagnitude_le_two_mul (by decide) (multiply_divisor_pos sum unit)
    rw [Quotient.toRat_multiply, Binary.Magnitude.toRat_value, Binary.Magnitude.toRat_value]
      at twice
    exact twice
  have rounded := divideHalfUp_le (near (sum.value.multiply unit.value)).value.dividend
    (near (sum.value.multiply unit.value)).value_divisor_pos
  rw [← Quotient.toRat, Binary.Magnitude.toRat_value] at rounded
  have product : sum.toRat * unit.toRat ≤ bound * unit.toRat :=
    mul_le_mul_of_nonneg_right le (zero_le_one.trans large)
  have half : 1 ≤ bound * unit.toRat := one_le_mul_of_one_le_of_one_le one large
  rw [div_le_iff₀ (zero_lt_one.trans_le large)]
  linarith

/-- The size of a decimal is rounded last, and it is not beyond the limit. -/
theorem exists_toMagnitude_eq (number : Decimal) :
    ∃ quotient : Quotient, 0 < quotient.divisor ∧ number.toMagnitude = near quotient ∧
      quotient.toRat ≤ 2 ^ 96 := by
  rw [toMagnitude]
  by_cases integral : number.fraction = 0
  · refine ⟨⟨number.whole, 1⟩, Nat.one_pos, if_pos integral, ?_⟩
    have bound : number.whole ≤ 2 ^ 96 := (Nat.div_le_self _ _).trans number.mantissa_lt.le
    rw [Quotient.toRat_natCast]
    exact_mod_cast bound
  · have whole : (near ⟨number.whole, 1⟩).toRat ≤ 2 ^ 93 := by
      apply toRat_near_le_pow _ Nat.one_pos
      rw [Quotient.toRat_natCast]
      exact_mod_cast (whole_lt_of_fraction_ne_zero integral).le
    have part := number.part_le_one
    generalize near ((near ⟨number.fraction, 1⟩).value.divide (near ⟨number.unit, 1⟩).value) =
      fraction at part
    have sum : (near ((near ⟨number.whole, 1⟩).value.add fraction.value)).toRat ≤ 2 ^ 94 := by
      apply toRat_near_le_pow _ (Nat.mul_pos (Binary.Magnitude.value_divisor_pos _)
        (Binary.Magnitude.value_divisor_pos _))
      rw [Quotient.toRat_add (Binary.Magnitude.value_divisor_pos _)
        (Binary.Magnitude.value_divisor_pos _), Binary.Magnitude.toRat_value,
        Binary.Magnitude.toRat_value]
      linarith
    have unit := one_le_nearUnit number.scale
    refine ⟨_, ?_, if_neg integral, ?_⟩
    · exact divide_divisor_pos Nat.one_pos (Binary.Magnitude.value_divisor_pos _)
        ((Binary.Magnitude.toRat_value _).symm ▸ unit)
    · rw [Quotient.toRat_divide, Quotient.toRat_natCast, Binary.Magnitude.toRat_value]
      have bound := divide_divideHalfUp_le unit (by norm_num) sum
      norm_num at bound ⊢
      exact bound

/-- Rounding what is not beyond the limit gives a finite number that is not beyond it. -/
theorem nearest_spec (negative : Bool) (positive : 0 < quotient.divisor)
    (bound : quotient.toRat ≤ 2 ^ 96) :
    (Binary.nearest negative quotient : Binary .double).isFinite = true ∧
      |(Binary.nearest negative quotient : Binary .double).toRat| ≤ 2 ^ 96 := by
  have small := toRat_near_le_pow 96 positive bound
  have canonical : BinaryFormat.double.Canonical (near quotient).mantissa
      (near quotient).exponent :=
    Binary.canonical_nearestMagnitude (by decide) (by decide)
      (show 96 < BinaryFormat.double.greatest + BinaryFormat.double.precision by decide) positive
      (by exact_mod_cast small)
  rw [Binary.nearest, ← near]
  constructor
  · rw [Binary.ofMagnitude_eq canonical]
    rfl
  · rw [Binary.abs_toRat_ofMagnitude canonical]
    exact small

theorem toBinary_spec (number : Decimal) :
    number.toBinary.isFinite = true ∧ |number.toBinary.toRat| ≤ 2 ^ 96 := by
  obtain ⟨quotient, positive, last, bound⟩ := number.exists_toMagnitude_eq
  rw [toBinary, last]
  exact nearest_spec _ positive bound

end Decimal

end TemplateLanguage
