import Mathlib.Algebra.Order.Field.Basic
import Mathlib.Algebra.Order.Ring.Abs
import Mathlib.Data.Rat.Cast.Order
import Mathlib.Tactic.Positivity
import TemplateLanguage.Decimal.Basic
import TemplateLanguage.Proofs.Rounding.Quotient

/-!
# The order of decimals

A decimal stands for a rational number, and decimals are ordered as these are.
So the order is total and transitive, and decimals of equal value, such as `2.0`
and `2.00`, are alike to it.
-/

namespace TemplateLanguage.Decimal

/-- The rational number that a decimal stands for. -/
def value (number : Decimal) : ℚ :=
  number.coefficient / number.unit

theorem mantissaLimit_eq : mantissaLimit = 79228162514264337593543950336 := by
  decide

theorem value_eq (number : Decimal) :
    number.value = (number.coefficient : ℚ) / 10 ^ number.scale := by
  simp [value, unit, Nat.pow_eq]

theorem natAbs_coefficient (number : Decimal) : number.coefficient.natAbs = number.mantissa := by
  rw [coefficient]
  split <;> simp

theorem natAbs_coefficient_lt (number : Decimal) : number.coefficient.natAbs < mantissaLimit :=
  number.natAbs_coefficient.symm ▸ number.mantissa_lt

theorem abs_value_lt (number : Decimal) :
    |number.value| < mantissaLimit / 10 ^ number.scale := by
  have scale : (0 : ℚ) < 10 ^ number.scale := by positivity
  have bound : ((number.coefficient.natAbs : ℤ) : ℚ) < mantissaLimit := by
    exact_mod_cast number.natAbs_coefficient_lt
  rw [Int.natCast_natAbs, Int.cast_abs] at bound
  rw [value_eq, abs_div, abs_of_pos scale]
  exact div_lt_div_of_pos_right bound scale

theorem order_eq_compare_value (first second : Decimal) :
    first.order second = compare first.value second.value := by
  have firstUnit : (0 : ℚ) < first.unit := by exact_mod_cast first.unit_pos
  have secondUnit : (0 : ℚ) < second.unit := by exact_mod_cast second.unit_pos
  apply Rounding.compare_eq_compare
  · rw [value, value, div_lt_div_iff₀ firstUnit secondUnit]
    exact_mod_cast Iff.rfl
  · rw [value, value, div_lt_div_iff₀ secondUnit firstUnit]
    exact_mod_cast Iff.rfl

instance : Std.TransCmp order where
  eq_swap {first second} := by
    rw [order_eq_compare_value, order_eq_compare_value]
    exact Std.OrientedCmp.eq_swap
  isLE_trans {first second third} := by
    rw [order_eq_compare_value, order_eq_compare_value, order_eq_compare_value]
    exact Std.TransCmp.isLE_trans

/-- Integers of 64 bits are decimals. -/
theorem exists_ofInt? {value : Int} (least : -2 ^ 63 ≤ value) (greatest : value < 2 ^ 63) :
    ∃ number, ofInt? value = some number := by
  have bound : value.natAbs < mantissaLimit := by
    have limit : 2 ^ 64 ≤ mantissaLimit := by decide
    omega
  rw [ofInt?, ofParts?, dif_pos ⟨bound, Nat.zero_le _⟩]
  exact ⟨_, rfl⟩

theorem scale_of_ofInt? {integer : ℤ} {number : Decimal}
    (fits : ofInt? integer = some number) : number.scale = 0 := by
  rw [ofInt?, ofParts?] at fits
  split at fits
  · cases fits
    rfl
  · cases fits

theorem value_of_ofInt? {integer : ℤ} {number : Decimal}
    (fits : ofInt? integer = some number) : number.value = integer := by
  rw [value, unit, coefficient_of_ofInt? fits, scale_of_ofInt? fits]
  exact div_one _

section

variable {negative : Bool} {mantissa scale : ℕ} {number : Decimal}

theorem exists_ofUnsignedZero? (negative : Bool) (fits : mantissa < mantissaLimit)
    (places : scale ≤ 28) : ∃ number, ofUnsignedZero? negative mantissa scale = some number := by
  rw [ofUnsignedZero?, ofParts?, dif_pos ⟨fits, places⟩]
  exact ⟨_, rfl⟩

theorem value_of_ofUnsignedZero? (made : ofUnsignedZero? negative mantissa scale = some number) :
    number.value = (if negative then -(mantissa : ℚ) else mantissa) / 10 ^ scale := by
  rw [ofUnsignedZero?, ofParts?] at made
  split at made
  · cases made
    rw [value_eq, coefficient]
    cases negative with
    | false => simp
    | true =>
        by_cases zero : mantissa = 0
        · simp [zero]
        · simp [zero]
  · cases made

end

end TemplateLanguage.Decimal
