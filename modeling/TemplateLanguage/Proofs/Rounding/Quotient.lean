import Mathlib.Data.Int.Log
import Mathlib.Data.Rat.Floor
import Mathlib.Order.Compare
import Mathlib.Tactic.FieldSimp
import Mathlib.Tactic.Push
import Mathlib.Tactic.Ring
import TemplateLanguage.Rounding

/-!
# The values of quotients

A quotient of natural numbers stands for a rational number.  The operations on
quotients are those on rational numbers, and the order of magnitude is the integral
logarithm.
-/

namespace TemplateLanguage.Rounding

/-- Orders that agree both ways are the same. -/
theorem compare_eq_compare {α β : Type*} [LinearOrder α] [LinearOrder β] {first second : α}
    {value other : β} (lessIff : first < second ↔ value < other)
    (greaterIff : second < first ↔ other < value) :
    compare first second = compare value other := by
  rcases lt_trichotomy first second with less | same | greater
  · rw [compare_lt_iff_lt.mpr less, compare_lt_iff_lt.mpr (lessIff.mp less)]
  · have equal : value = other := by
      apply le_antisymm
      · exact not_lt.mp (mt greaterIff.mpr same.not_gt)
      · exact not_lt.mp (mt lessIff.mpr same.not_lt)
    rw [compare_eq_iff_eq.mpr same, compare_eq_iff_eq.mpr equal]
  · rw [compare_gt_iff_gt.mpr greater, compare_gt_iff_gt.mpr (greaterIff.mp greater)]

namespace Quotient

variable {quotient other : Quotient}

/-- The rational number that a quotient stands for. -/
def toRat (quotient : Quotient) : ℚ :=
  quotient.dividend / quotient.divisor

theorem scale_divisor_pos {base : ℕ} (positive : 0 < quotient.divisor) (baseLe : 0 < base)
    (exponent : ℤ) : 0 < (quotient.scale base exponent).divisor := by
  cases exponent with
  | ofNat exponent => exact positive
  | negSucc exponent => exact Nat.mul_pos positive (Nat.pow_pos baseLe)

theorem toRat_scale (quotient : Quotient) (base : ℕ) (exponent : ℤ) :
    (quotient.scale base exponent).toRat = quotient.toRat * (base : ℚ) ^ exponent := by
  cases exponent with
  | ofNat exponent =>
      simp only [toRat, scale, Nat.pow_eq, Int.ofNat_eq_natCast, zpow_natCast]
      push_cast
      ring
  | negSucc exponent =>
      simp only [toRat, scale, Nat.pow_eq, zpow_negSucc]
      push_cast
      rw [div_mul_eq_div_div, div_eq_mul_inv]

theorem toRat_natCast (number : ℕ) : toRat ⟨number, 1⟩ = number := by
  rw [toRat, Nat.cast_one, div_one]

theorem toRat_nonneg (quotient : Quotient) : 0 ≤ quotient.toRat :=
  div_nonneg (Nat.cast_nonneg _) (Nat.cast_nonneg _)

theorem one_le_toRat_iff (positive : 0 < quotient.divisor) :
    1 ≤ quotient.toRat ↔ quotient.divisor ≤ quotient.dividend := by
  have divisor : (0 : ℚ) < quotient.divisor := by exact_mod_cast positive
  rw [toRat, one_le_div divisor]
  exact_mod_cast Iff.rfl

theorem toRat_add (positive : 0 < quotient.divisor) (otherPositive : 0 < other.divisor) :
    (quotient.add other).toRat = quotient.toRat + other.toRat := by
  have divisor : (quotient.divisor : ℚ) ≠ 0 := by exact_mod_cast positive.ne'
  have otherDivisor : (other.divisor : ℚ) ≠ 0 := by exact_mod_cast otherPositive.ne'
  simp only [toRat, add]
  push_cast
  field_simp

theorem toRat_multiply (quotient other : Quotient) :
    (quotient.multiply other).toRat = quotient.toRat * other.toRat := by
  simp only [toRat, multiply]
  push_cast
  exact mul_div_mul_comm _ _ _ _

theorem toRat_divide (quotient other : Quotient) :
    (quotient.divide other).toRat = quotient.toRat / other.toRat := by
  simp only [toRat, divide]
  push_cast
  exact (div_div_div_eq _ _ _ _).symm

theorem order_eq_compare (positive : 0 < quotient.divisor) (otherPositive : 0 < other.divisor) :
    quotient.order other = compare quotient.toRat other.toRat := by
  have divisor : (0 : ℚ) < quotient.divisor := by exact_mod_cast positive
  have otherDivisor : (0 : ℚ) < other.divisor := by exact_mod_cast otherPositive
  apply compare_eq_compare
  · rw [toRat, toRat, div_lt_div_iff₀ divisor otherDivisor]
    exact_mod_cast Iff.rfl
  · rw [toRat, toRat, div_lt_div_iff₀ otherDivisor divisor]
    exact_mod_cast Iff.rfl

end Quotient

/-! ## Orders of magnitude -/

theorem digitCount_eq_log {base number : ℕ} (large : 1 < base) (positive : number ≠ 0) :
    digitCount base number = Nat.log base number + 1 := by
  induction number using Nat.strongRecOn with
  | ind number ih =>
      rw [digitCount, dif_pos ⟨large, positive⟩]
      by_cases small : number < base
      · rw [Nat.div_eq_of_lt small, digitCount, dif_neg (by simp), Nat.log_of_lt small]
      · have le : base ≤ number := Nat.not_lt.mp small
        have next : number / base ≠ 0 := (Nat.div_pos le (Nat.zero_lt_of_lt large)).ne'
        rw [ih _ (Nat.div_lt_self (Nat.pos_of_ne_zero positive) large) next,
          Nat.log_of_one_lt_of_le large le, Nat.add_comm]

/-- The logarithm of a quotient is the difference of logarithms or one less. -/
theorem log_toRat_bounds {base : ℕ} {quotient : Quotient} (large : 1 < base)
    (nonzero : quotient.dividend ≠ 0) (positive : 0 < quotient.divisor) :
    (Nat.log base quotient.dividend : ℤ) - Nat.log base quotient.divisor - 1 ≤
        Int.log base quotient.toRat ∧
      Int.log base quotient.toRat ≤
        (Nat.log base quotient.dividend : ℤ) - Nat.log base quotient.divisor := by
  have scale : (0 : ℚ) < base := by exact_mod_cast Nat.zero_lt_of_lt large
  have dividend : (0 : ℚ) < quotient.dividend := by exact_mod_cast Nat.pos_of_ne_zero nonzero
  have divisor : (0 : ℚ) < quotient.divisor := by exact_mod_cast positive
  have dividendLow : (base : ℚ) ^ (Nat.log base quotient.dividend : ℤ) ≤ quotient.dividend := by
    exact_mod_cast Nat.pow_log_le_self base nonzero
  have dividendHigh : (quotient.dividend : ℚ) <
      (base : ℚ) ^ (Nat.log base quotient.dividend + 1 : ℤ) := by
    exact_mod_cast Nat.lt_pow_succ_log_self large quotient.dividend
  have divisorLow : (base : ℚ) ^ (Nat.log base quotient.divisor : ℤ) ≤ quotient.divisor := by
    exact_mod_cast Nat.pow_log_le_self base positive.ne'
  have divisorHigh : (quotient.divisor : ℚ) <
      (base : ℚ) ^ (Nat.log base quotient.divisor + 1 : ℤ) := by
    exact_mod_cast Nat.lt_pow_succ_log_self large quotient.divisor
  have value : 0 < quotient.toRat := div_pos dividend divisor
  generalize (Nat.log base quotient.dividend : ℤ) = high at *
  generalize (Nat.log base quotient.divisor : ℤ) = low at *
  constructor
  · rw [← Int.zpow_le_iff_le_log large value, Quotient.toRat,
      le_div_iff₀ divisor]
    calc (base : ℚ) ^ (high - low - 1) * quotient.divisor
        ≤ base ^ (high - low - 1) * base ^ (low + 1) :=
          mul_le_mul_of_nonneg_left divisorHigh.le (zpow_pos scale _).le
      _ = base ^ high := by
          rw [← zpow_add₀ scale.ne']
          congr 1
          omega
      _ ≤ quotient.dividend := dividendLow
  · rw [← Int.lt_add_one_iff, ← Int.lt_zpow_iff_log_lt large value, Quotient.toRat, div_lt_iff₀ divisor]
    calc (quotient.dividend : ℚ) < base ^ (high + 1) := dividendHigh
      _ = base ^ (high - low + 1) * base ^ low := by
          rw [← zpow_add₀ scale.ne']
          congr 1
          omega
      _ ≤ base ^ (high - low + 1) * quotient.divisor :=
          mul_le_mul_of_nonneg_left divisorLow (zpow_pos scale _).le

/-- The order of magnitude is the integral logarithm. -/
theorem magnitude_eq_log {base : ℕ} {quotient : Quotient} (large : 1 < base)
    (nonzero : quotient.dividend ≠ 0) (positive : 0 < quotient.divisor) :
    magnitude base quotient = Int.log base quotient.toRat := by
  have scale : (0 : ℚ) < base := by exact_mod_cast Nat.zero_lt_of_lt large
  have value : 0 < quotient.toRat :=
    div_pos (by exact_mod_cast Nat.pos_of_ne_zero nonzero) (by exact_mod_cast positive)
  have bounds := log_toRat_bounds large nonzero positive
  have shifted : ∀ guess : ℤ, (quotient.scale base (-guess)).divisor ≤
      (quotient.scale base (-guess)).dividend ↔ guess ≤ Int.log base quotient.toRat := by
    intro guess
    rw [← Quotient.one_le_toRat_iff (Quotient.scale_divisor_pos positive
        (Nat.zero_lt_of_lt large) _), Quotient.toRat_scale, zpow_neg, ← div_eq_mul_inv,
      one_le_div (zpow_pos scale _), Int.zpow_le_iff_le_log large value]
  simp only [magnitude, shifted, digitCount_eq_log large nonzero,
    digitCount_eq_log large positive.ne']
  split <;> omega

end TemplateLanguage.Rounding
