import TemplateLanguage.Proofs.Binary.Shortest

/-!
# How many digits the shortest text has

A decimal grid that is four times as fine as the last bit of a number has a point close
enough below the number.  So the search ends on a grid that is not much finer, and the
digits after the point are few, however small the number is.
-/

namespace TemplateLanguage.Binary

open Rounding

variable {format : BinaryFormat} {number : Magnitude} {grid : ℤ}

theorem quarter_le_gapBelow (format : BinaryFormat) (number : Magnitude) :
    1 / 4 ≤ gapBelow format number := by
  rw [gapBelow]
  split <;> norm_num

/-- A point that is closely below a number lies in its interval. -/
theorem holds_of_close (format : BinaryFormat) {point : ℚ} (nonzero : number.mantissa ≠ 0)
    (le : point ≤ number.toRat) (close : number.toRat < point + 2 ^ number.exponent / 4) :
    (Interval.around format number).Holds point := by
  have unit : (0 : ℚ) < 2 ^ number.exponent := zpow_pos two_pos _
  have gap := mul_le_mul_of_nonneg_right (quarter_le_gapBelow format number) unit.le
  left
  rw [(toRat_around nonzero).1, (toRat_around nonzero).2]
  rw [Magnitude.toRat] at le close
  constructor <;> linarith

/-- On a grid that is fine enough the point below a number is found. -/
theorem onGrid?_ne_none_of_fine (format : BinaryFormat) (nonzero : number.mantissa ≠ 0)
    (fine : (10 : ℚ) ^ grid ≤ 2 ^ number.exponent / 4) :
    onGrid? (Interval.around format number) number.value grid ≠ none := by
  have unit : (0 : ℚ) < 10 ^ grid := zpow_pos (by norm_num) _
  have quotient : 0 ≤ number.toRat / 10 ^ grid := div_nonneg number.toRat_nonneg unit.le
  have below : (⌊number.toRat / 10 ^ grid⌋₊ : ℚ) * 10 ^ grid ≤ number.toRat :=
    (le_div_iff₀ unit).mp (Nat.floor_le quotient)
  have above : number.toRat < (⌊number.toRat / 10 ^ grid⌋₊ + 1 : ℚ) * 10 ^ grid :=
    (div_lt_iff₀ unit).mp (Nat.lt_floor_add_one _)
  have close : number.toRat <
      (⌊number.toRat / 10 ^ grid⌋₊ : ℚ) * 10 ^ grid + 2 ^ number.exponent / 4 := by
    linarith
  have holds := holds_of_close format nonzero below close
  rw [← Magnitude.toRat_value] at below above holds
  exact onGrid?_ne_none (Magnitude.value_divisor_pos _) (Magnitude.value_divisor_pos _)
    number.value_divisor_pos below above holds

/-- The finest grid that the search for the digits of a fraction can need. -/
def fineGrid (number : Magnitude) : ℤ :=
  Int.log 10 ((2 : ℚ) ^ number.exponent / 4)

theorem fineGrid_bounds (number : Magnitude) :
    (10 : ℚ) ^ fineGrid number ≤ 2 ^ number.exponent / 4 ∧
      (2 : ℚ) ^ number.exponent < 40 * 10 ^ fineGrid number := by
  have quarter : (0 : ℚ) < 2 ^ number.exponent / 4 := div_pos (zpow_pos two_pos _) (by norm_num)
  have above := Int.lt_zpow_succ_log_self (b := 10) (by decide) ((2 : ℚ) ^ number.exponent / 4)
  rw [zpow_add_one₀ (by norm_num), Nat.cast_ofNat] at above
  refine ⟨Int.zpow_log_le_self (by decide) quarter, ?_⟩
  rw [fineGrid]
  linarith

/-- A negative power of two is at least four times the power of ten. -/
theorem four_mul_ten_zpow_le {exponent : ℤ} (fraction : exponent < 0) :
    (10 : ℚ) ^ exponent ≤ 2 ^ exponent / 4 := by
  obtain ⟨places, same⟩ := Int.eq_negSucc_of_lt_zero fraction
  have powers : (2 : ℚ) ^ (places + 1) * 4 ≤ 10 ^ (places + 1) := by
    have fives : (5 : ℚ) ≤ 5 ^ (places + 1) := le_self_pow₀ (by norm_num) (Nat.succ_ne_zero places)
    calc (2 : ℚ) ^ (places + 1) * 4 ≤ 2 ^ (places + 1) * 5 ^ (places + 1) :=
          mul_le_mul_of_nonneg_left (by linarith) (by positivity)
      _ = 10 ^ (places + 1) := by rw [← mul_pow]; norm_num
  rw [same, zpow_negSucc, zpow_negSucc, inv_eq_one_div, inv_eq_one_div, div_div]
  exact one_div_le_one_div_of_le (by positivity) powers

theorem fineGrid_le_exponent_shortest (format : BinaryFormat) (nonzero : number.mantissa ≠ 0)
    (fraction : number.exponent < 0) :
    fineGrid number ≤ (shortest format number).exponent := by
  have some : (1 : ℚ) ≤ number.mantissa := by exact_mod_cast Nat.pos_of_ne_zero nonzero
  have unit : (0 : ℚ) < 2 ^ number.exponent := zpow_pos two_pos _
  have quarter : (0 : ℚ) < 2 ^ number.exponent / 4 := by linarith
  have least : min 0 number.exponent ≤ fineGrid number := by
    rw [min_eq_right fraction.le, fineGrid, ← Int.zpow_le_iff_le_log (by decide) quarter]
    exact four_mul_ten_zpow_le fraction
  have coarse : fineGrid number ≤ Int.log 10 number.toRat := by
    apply Int.log_mono_right quarter
    calc (2 : ℚ) ^ number.exponent / 4 ≤ 1 * 2 ^ number.exponent := by linarith
      _ ≤ number.toRat := mul_le_mul_of_nonneg_right some unit.le
  have reached := onGrid?_ne_none_of_fine format nonzero (fineGrid_bounds number).1
  exact (shortest_spec_of_reached format nonzero reached least coarse).2.1

/-- The shortest digits of a fraction exceed its mantissa by less than two digits. -/
theorem coefficient_shortest_lt (precise : number.mantissa < 2 ^ format.precision)
    (nonzero : number.mantissa ≠ 0) (fraction : number.exponent < 0) :
    (shortest format number).coefficient < 40 * 2 ^ format.precision := by
  have unit : (0 : ℚ) < 2 ^ number.exponent := zpow_pos two_pos _
  have step : (0 : ℚ) < 10 ^ (shortest format number).exponent := zpow_pos (by norm_num) _
  have bound : (number.mantissa : ℚ) + 1 ≤ 2 ^ format.precision := by exact_mod_cast precise
  have high := (bounds_of_holds nonzero (shortest_spec format nonzero).1).2.1
  rw [div_le_iff₀ unit, Scientific.toRat] at high
  have wide : (2 : ℚ) ^ number.exponent < 40 * 10 ^ (shortest format number).exponent :=
    (fineGrid_bounds number).2.trans_le (mul_le_mul_of_nonneg_left
      (zpow_le_zpow_right₀ (by norm_num) (fineGrid_le_exponent_shortest format nonzero fraction))
      (by norm_num))
  have digits : ((shortest format number).coefficient : ℚ) *
      10 ^ (shortest format number).exponent <
        40 * 2 ^ format.precision * 10 ^ (shortest format number).exponent := by
    calc ((shortest format number).coefficient : ℚ) * 10 ^ (shortest format number).exponent
        ≤ (number.mantissa + 1 / 2) * 2 ^ number.exponent := high
      _ ≤ 2 ^ format.precision * 2 ^ number.exponent :=
          mul_le_mul_of_nonneg_right (by linarith) unit.le
      _ < 2 ^ format.precision * (40 * 10 ^ (shortest format number).exponent) :=
          mul_lt_mul_of_pos_left wide (by positivity)
      _ = 40 * 2 ^ format.precision * 10 ^ (shortest format number).exponent := by ring
  exact_mod_cast lt_of_mul_lt_mul_right digits step.le

end TemplateLanguage.Binary
