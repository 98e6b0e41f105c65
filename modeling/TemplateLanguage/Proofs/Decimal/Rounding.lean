import TemplateLanguage.Proofs.Decimal.Half

/-!
# Rounding decimals to integers

A decimal is rounded by adding one half and taking the floor.  The floor is exact, and
so is the sum as long as its digits fit.  Where they do not fit, giving up the last
place may carry the sum to the next integer; then the decimal is rounded to an integer
that is too great by one.

For all that, rounding keeps the order of decimals, and rounding twice is rounding
once.
-/

namespace TemplateLanguage.Decimal

open Rounding

/-! ## Rounding -/

/-- The digits of the sum with one half do not fit, and without its last place the
sum is the next integer. -/
structure Overruns (number : Decimal) : Prop where
  crowded : mantissaLimit ≤ number.halfSum.natAbs
  less : number.value ≠ (mantissaLimit : ℚ) - 1
  carried : NearestEven ((⌊number.value + 1 / 2⌋ + 1) * 10 ^ (number.sumPlaces - 1))
    ((number.value + 1 / 2) * 10 ^ (number.sumPlaces - 1))

theorem round_of_add?_half {number sum : Decimal} (made : number.add? half = some sum) :
    number.round = sum.floor := by
  rw [round, made, Option.getD_some]

theorem round_of_greatest {number : Decimal}
    (greatest : number.value = (mantissaLimit : ℚ) - 1) : number.round = number.floor := by
  rw [round, add?_half_of_greatest greatest, Option.getD_none]

theorem plainZero_of_greatest {number : Decimal}
    (greatest : number.value = (mantissaLimit : ℚ) - 1) : number.PlainZero := by
  intro _ zero
  rw [value_eq, coefficient, zero, mantissaLimit_eq] at greatest
  norm_num at greatest

theorem isInteger_round (number : Decimal) : number.round.IsInteger := by
  rcases Nat.lt_or_ge number.halfSum.natAbs mantissaLimit with fits | crowded
  · obtain ⟨sum, made, plain, _⟩ := exists_add?_half_of_lt fits
    rw [round_of_add?_half made]
    exact isInteger_floor plain
  · by_cases greatest : number.value = (mantissaLimit : ℚ) - 1
    · rw [round_of_greatest greatest]
      exact isInteger_floor (plainZero_of_greatest greatest)
    · obtain ⟨sum, _, made, plain, _⟩ := exists_add?_half_of_le crowded greatest
      rw [round_of_add?_half made]
      exact isInteger_floor plain

/-- A number that is rounded to a grid of integral step stays between the same
integers, unless it is rounded to the upper one. -/
theorem floor_div_of_nearestEven {rounded : ℤ} {number : ℚ} {places : ℕ}
    (nearest : NearestEven rounded (number * 10 ^ places)) :
    ⌊(rounded : ℚ) / 10 ^ places⌋ =
      if rounded = (⌊number⌋ + 1) * 10 ^ places then ⌊number⌋ + 1 else ⌊number⌋ := by
  have unit : (0 : ℚ) < 10 ^ places := by positivity
  have above : rounded ≤ (⌊number⌋ + 1) * 10 ^ places := by
    apply nearest.le_intCast
    push_cast
    exact mul_le_mul_of_nonneg_right (Int.lt_floor_add_one number).le unit.le
  have below : ⌊number⌋ * 10 ^ places ≤ rounded := by
    apply nearest.intCast_le
    push_cast
    exact mul_le_mul_of_nonneg_right (Int.floor_le number) unit.le
  split
  · rename_i carried
    rw [carried]
    push_cast
    rw [mul_div_cancel_right₀ _ unit.ne']
    exact_mod_cast Int.floor_intCast (⌊number⌋ + 1)
  · rename_i kept
    have before : rounded < (⌊number⌋ + 1) * 10 ^ places := lt_of_le_of_ne above kept
    rw [Int.floor_eq_iff, le_div_iff₀ unit, div_lt_iff₀ unit]
    constructor
    · exact_mod_cast below
    · exact_mod_cast before

/-- A decimal that overruns is rounded to the integer after the right one. -/
theorem value_round_of_overruns {number : Decimal} (overruns : number.Overruns) :
    number.round.value = (⌊number.value + 1 / 2⌋ + 1 : ℤ) := by
  obtain ⟨sum, rounded, made, _, nearest, value⟩ :=
    exists_add?_half_of_le overruns.crowded overruns.less
  rw [round_of_add?_half made, value_floor, value, floor_div_of_nearestEven nearest,
    if_pos (nearest.unique overruns.carried)]

/-- All other decimals are rounded to the nearest integer, a half up. -/
theorem value_round {number : Decimal} (regular : ¬number.Overruns) :
    number.round.value = ⌊number.value + 1 / 2⌋ := by
  rcases Nat.lt_or_ge number.halfSum.natAbs mantissaLimit with fits | crowded
  · obtain ⟨sum, made, _, value⟩ := exists_add?_half_of_lt fits
    rw [round_of_add?_half made, value_floor, value]
  · by_cases greatest : number.value = (mantissaLimit : ℚ) - 1
    · rw [round_of_greatest greatest, value_floor, greatest, Int.cast_inj, ← Nat.cast_one,
        ← Nat.cast_sub (by decide), Int.floor_natCast]
      symm
      rw [Int.floor_eq_iff]
      constructor <;> push_cast <;> linarith
    · obtain ⟨sum, rounded, made, _, nearest, value⟩ := exists_add?_half_of_le crowded greatest
      rw [round_of_add?_half made, value_floor, value, floor_div_of_nearestEven nearest, if_neg]
      intro carried
      exact regular ⟨crowded, greatest, carried ▸ nearest⟩

/-! ## Order and repetition -/

theorem floor_halfSum (number : Decimal) :
    ⌊number.value + 1 / 2⌋ = number.halfSum / 10 ^ number.sumPlaces := by
  have sum : number.value + 1 / 2 = (number.halfSum : ℚ) / (10 ^ number.sumPlaces : ℕ) := by
    rw [halfSum_eq]
    push_cast
    rw [mul_div_cancel_right₀]
    positivity
  rw [sum, Rat.floor_intCast_div_natCast]
  push_cast
  rfl

/-- The sum is less than the integer after it. -/
theorem halfSum_lt (number : Decimal) :
    number.halfSum < (⌊number.value + 1 / 2⌋ + 1) * 10 ^ number.sumPlaces := by
  rw [floor_halfSum]
  exact Int.lt_ediv_add_one_mul_self _ (by positivity)

/-- The sum is carried to the next integer if it is at most half a place below. -/
theorem carried_iff (number : Decimal) :
    NearestEven ((⌊number.value + 1 / 2⌋ + 1) * 10 ^ (number.sumPlaces - 1))
        ((number.value + 1 / 2) * 10 ^ (number.sumPlaces - 1)) ↔
      (⌊number.value + 1 / 2⌋ + 1) * 10 ^ number.sumPlaces - number.halfSum ≤ 5 ∧
        ((⌊number.value + 1 / 2⌋ + 1) * 10 ^ number.sumPlaces - number.halfSum = 5 →
          Even ((⌊number.value + 1 / 2⌋ + 1) * 10 ^ (number.sumPlaces - 1))) := by
  have below := number.halfSum_lt
  have unit : ∀ factor : ℤ, factor * 10 ^ number.sumPlaces =
      10 * (factor * 10 ^ (number.sumPlaces - 1)) := by
    intro factor
    rw [mul_left_comm, ← pow_succ', Nat.sub_add_cancel number.one_le_sumPlaces]
  rw [unit] at below
  rw [← halfSum_div_ten, unit]
  generalize (⌊number.value + 1 / 2⌋ + 1) * 10 ^ (number.sumPlaces - 1) = next at below ⊢
  have nearest : NearestEven next (number.halfSum / (10 : ℤ)) ↔ _ :=
    nearestEven_div_iff (by decide)
  have near : 2 * (10 * next - number.halfSum) ≤ 10 ↔ 10 * next - number.halfSum ≤ 5 := by omega
  have tie : 2 * (10 * next - number.halfSum) = 10 ↔ 10 * next - number.halfSum = 5 := by omega
  rw [Int.cast_ofNat, abs_of_pos (by omega), near, tie] at nearest
  exact nearest

/-- A rounded decimal is one of the two integers about the sum. -/
theorem value_round_cases (number : Decimal) :
    number.Overruns ∧ number.round.value = (⌊number.value + 1 / 2⌋ + 1 : ℤ) ∨
      ¬number.Overruns ∧ number.round.value = ⌊number.value + 1 / 2⌋ := by
  by_cases overruns : number.Overruns
  · exact .inl ⟨overruns, value_round_of_overruns overruns⟩
  · exact .inr ⟨overruns, value_round overruns⟩

theorem abs_value_round_sub_le (number : Decimal) :
    |number.round.value - (number.value + 1 / 2)| ≤ 1 := by
  have below := Int.floor_le (number.value + 1 / 2)
  have above := Int.lt_floor_add_one (number.value + 1 / 2)
  rw [abs_le]
  rcases number.value_round_cases with ⟨_, value⟩ | ⟨_, value⟩
  · rw [value]
    push_cast
    constructor <;> linarith
  · rw [value]
    constructor <;> linarith

/-- An integer that overruns is odd. -/
theorem Overruns.coefficient_odd {number : Decimal} (overruns : number.Overruns)
    (integral : number.scale = 0) : number.coefficient % 2 = 1 := by
  have places : number.sumPlaces = 1 := by rw [sumPlaces, integral]; rfl
  have carried := (carried_iff _).mp overruns.carried
  rw [floor_halfSum, places, halfSum_of_scale_eq_zero integral] at carried
  have even := carried.2 (by omega)
  rw [Int.even_iff] at even
  omega

/-- Only integers have a sum below zero that does not fit. -/
theorem Overruns.scale_eq_zero {number : Decimal} (overruns : number.Overruns)
    (negative : number.halfSum < 0) : number.scale = 0 := by
  by_contra pointed
  have crowded := overruns.crowded
  have bound := number.natAbs_coefficient_lt
  have positive : (0 : ℤ) < 10 ^ (number.scale - 1) := by positivity
  rw [halfSum_of_scale_ne_zero pointed] at crowded negative
  omega

/-- A decimal with more than one place is too small to be rounded to an integer that
overruns. -/
theorem natAbs_coefficient_round_lt {number : Decimal} (many : 1 < number.scale) :
    (10 * number.round.coefficient + 5).natAbs < mantissaLimit := by
  have small : |number.value| < (mantissaLimit : ℚ) / 10 ^ 2 :=
    number.abs_value_lt.trans_le
      (div_le_div_of_nonneg_left (Nat.cast_nonneg _) (by norm_num)
        (pow_le_pow_right₀ (by norm_num) many))
  have close := number.abs_value_round_sub_le
  rw [value_eq number.round, number.isInteger_round.scale_eq, pow_zero, div_one, abs_le] at close
  rw [mantissaLimit_eq, abs_lt] at small
  norm_num at small
  have high : (number.round.coefficient : ℚ) < 792281625142643375935439505 := by linarith
  have low : -792281625142643375935439505 < (number.round.coefficient : ℚ) := by linarith
  have highInt : number.round.coefficient < 792281625142643375935439505 := by exact_mod_cast high
  have lowInt : -792281625142643375935439505 < number.round.coefficient := by exact_mod_cast low
  rw [mantissaLimit_eq]
  omega

/-- The result of rounding does not overrun. -/
theorem not_overruns_round (number : Decimal) : ¬number.round.Overruns := by
  intro again
  have integral := number.isInteger_round.scale_eq
  have odd := again.coefficient_odd integral
  have crowded := again.crowded
  rw [halfSum_of_scale_eq_zero integral] at crowded
  have value : number.round.value = number.round.coefficient := by
    rw [value_eq, integral, pow_zero, div_one]
  have few : number.scale ≤ 1 := by
    by_contra many
    exact Nat.not_lt.mpr crowded (natAbs_coefficient_round_lt (Nat.not_le.mp many))
  have places : number.sumPlaces = 1 := max_eq_right few
  have bound := number.natAbs_coefficient_lt
  rw [mantissaLimit_eq] at bound crowded
  rcases number.value_round_cases with ⟨overruns, rounded⟩ | ⟨regular, rounded⟩
  · rw [value, Int.cast_inj] at rounded
    by_cases integer : number.scale = 0
    · have next : number.coefficient % 2 = 1 := overruns.coefficient_odd integer
      rw [floor_halfSum, places, halfSum_of_scale_eq_zero integer] at rounded
      omega
    · have one : number.scale = 1 := by omega
      have carried := (carried_iff _).mp overruns.carried
      have sum := overruns.crowded
      rw [← rounded, places, halfSum_of_scale_ne_zero integer, one] at carried
      rw [floor_halfSum, places, halfSum_of_scale_ne_zero integer, one] at rounded
      rw [halfSum_of_scale_ne_zero integer, one, mantissaLimit_eq] at sum
      omega
  · rw [value, Int.cast_inj, floor_halfSum, places] at rounded
    by_cases integer : number.scale = 0
    · have sum := halfSum_of_scale_eq_zero integer
      have same : number.round.coefficient = number.coefficient := by
        rw [rounded, sum]
        omega
      have sums : number.round.halfSum = number.halfSum := by
        rw [halfSum_of_scale_eq_zero integral, same, sum]
      have values : number.round.value = number.value := by
        rw [value, same, value_eq, integer, pow_zero, div_one]
      have samePlaces : number.round.sumPlaces = number.sumPlaces := by
        rw [sumPlaces, sumPlaces, integral, integer]
      apply regular
      constructor
      · exact sums ▸ again.crowded
      · exact values ▸ again.less
      · exact samePlaces ▸ values ▸ again.carried
    · have one : number.scale = 1 := by omega
      rw [halfSum_of_scale_ne_zero integer, one] at rounded
      omega

theorem round_round (number : Decimal) : number.round.round = number.round := by
  have integer := number.isInteger_round
  apply (isInteger_round number.round).eq_of_value_eq integer
  have value : number.round.value = number.round.coefficient := by
    rw [value_eq, integer.scale_eq, pow_zero, div_one]
  rw [value_round number.not_overruns_round, value, Int.cast_inj, Int.floor_eq_iff]
  constructor <;> linarith

section

variable {number greater : Decimal}

/-- The sum of a decimal that overruns is at most half a place below the next integer. -/
theorem Overruns.gap_le (overruns : number.Overruns) :
    ((⌊number.value + 1 / 2⌋ : ℚ) + 1 - (number.value + 1 / 2)) * 10 ^ number.sumPlaces ≤ 5 := by
  have carried := ((carried_iff _).mp overruns.carried).1
  rw [sub_mul, ← halfSum_eq]
  exact_mod_cast carried

/-- Every sum is at least one unit of its last place below the next integer. -/
theorem one_le_gap (number : Decimal) :
    1 ≤ ((⌊number.value + 1 / 2⌋ : ℚ) + 1 - (number.value + 1 / 2)) * 10 ^ number.sumPlaces := by
  rw [sub_mul, ← halfSum_eq]
  exact_mod_cast Int.le_sub_left_of_add_le number.halfSum_lt

/-- A decimal between one that overruns and the next integer has no more places, since
with more of them it would be ten times smaller. -/
theorem Overruns.sumPlaces_le (overruns : number.Overruns)
    (same : ⌊number.value + 1 / 2⌋ = ⌊greater.value + 1 / 2⌋) :
    greater.sumPlaces ≤ number.sumPlaces := by
  by_contra more
  have unit : (0 : ℚ) < 10 ^ number.sumPlaces := by positivity
  have tenfold : (10 : ℚ) ^ number.sumPlaces * 10 ≤ 10 ^ greater.scale := by
    rw [← pow_succ, ← sumPlaces_of_one_lt (by have := number.one_le_sumPlaces; omega)]
    exact pow_le_pow_right₀ (by norm_num) (Nat.not_le.mp more)
  have least : (10 : ℚ) ^ number.sumPlaces ≤ 10 ^ 27 :=
    pow_le_pow_right₀ (by norm_num) (by have := greater.sumPlaces_le; omega)
  have bound := greater.abs_value_lt
  rw [lt_div_iff₀ (by positivity)] at bound
  have small := (mul_le_mul_of_nonneg_left tenfold (abs_nonneg greater.value)).trans_lt bound
  have crowded : (mantissaLimit : ℚ) ≤ |number.value + 1 / 2| * 10 ^ number.sumPlaces := by
    rw [← abs_of_pos unit, ← abs_mul, ← halfSum_eq]
    have size := overruns.crowded
    rw [← Int.ofNat_le, Int.natCast_natAbs] at size
    exact_mod_cast size
  have near : |number.value + 1 / 2| ≤ |greater.value| + 3 / 2 := by
    have before := Int.floor_le (number.value + 1 / 2)
    have sameAfter := Int.floor_le (greater.value + 1 / 2)
    have after := Int.lt_floor_add_one (greater.value + 1 / 2)
    have next := Int.lt_floor_add_one (number.value + 1 / 2)
    have upper := le_abs_self greater.value
    have lower := neg_abs_le greater.value
    rw [same] at before next
    rw [abs_le]
    constructor <;> linarith
  have large := crowded.trans (mul_le_mul_of_nonneg_right near unit.le)
  rw [mantissaLimit_eq] at small large
  push_cast at small large
  linarith

/-- A decimal between one that overruns and the next integer has no fewer places, since
with fewer of them it would not be as near to the integer. -/
theorem Overruns.le_sumPlaces (overruns : number.Overruns) (le : number.value ≤ greater.value)
    (same : ⌊number.value + 1 / 2⌋ = ⌊greater.value + 1 / 2⌋) :
    number.sumPlaces ≤ greater.sumPlaces := by
  by_contra fewer
  have gap := overruns.gap_le
  have otherGap := one_le_gap greater
  rw [← same] at otherGap
  have close : (⌊number.value + 1 / 2⌋ : ℚ) + 1 - (greater.value + 1 / 2) ≤
      ⌊number.value + 1 / 2⌋ + 1 - (number.value + 1 / 2) := by linarith
  have tenfold : (10 : ℚ) ^ greater.sumPlaces * 10 ≤ 10 ^ number.sumPlaces := by
    rw [← pow_succ]
    exact pow_le_pow_right₀ (by norm_num) (Nat.not_le.mp fewer)
  have positive := pos_of_mul_pos_left (zero_lt_one.trans_le otherGap) (by positivity)
  have product := mul_le_mul close tenfold (by positivity) (positive.le.trans close)
  linarith

/-- Between a decimal that overruns and the next integer all decimals overrun. -/
theorem Overruns.mono (overruns : number.Overruns) (le : number.value ≤ greater.value)
    (same : ⌊number.value + 1 / 2⌋ = ⌊greater.value + 1 / 2⌋) : greater.Overruns := by
  have places := le_antisymm (overruns.sumPlaces_le same) (overruns.le_sumPlaces le same)
  have carried := (carried_iff _).mp overruns.carried
  have unit : (0 : ℚ) < 10 ^ number.sumPlaces := by positivity
  have sums : number.halfSum ≤ greater.halfSum := by
    have cast : (number.halfSum : ℚ) ≤ greater.halfSum := by
      rw [halfSum_eq, halfSum_eq, places]
      exact mul_le_mul_of_nonneg_right (by linarith) unit.le
    exact_mod_cast cast
  have below := greater.halfSum_lt
  rw [same] at carried
  rw [places] at below
  constructor
  · have crowded := overruns.crowded
    rw [mantissaLimit_eq] at crowded ⊢
    rcases Int.lt_or_le number.halfSum 0 with negative | nonneg
    · -- The sum ends in a five, and so it is well below the limit.
      have digits := halfSum_of_scale_eq_zero (overruns.scale_eq_zero negative)
      omega
    · omega
  · intro greatest
    obtain ⟨sum, integral⟩ := halfSum_of_greatest greatest
    have one : greater.sumPlaces = 1 := by rw [sumPlaces, integral]; rfl
    rw [floor_halfSum, ← places, one, sum, mantissaLimit_eq] at carried
    rw [sum, mantissaLimit_eq] at sums
    apply overruns.less
    have sameSum : (number.halfSum : ℚ) = greater.halfSum := by
      rw [sum, mantissaLimit_eq]
      exact_mod_cast (by omega : number.halfSum = 10 * 79228162514264337593543950336 - 5)
    rw [halfSum_eq, halfSum_eq, places] at sameSum
    have values := mul_right_cancel₀ unit.ne' sameSum
    linarith
  · rw [carried_iff, places]
    constructor
    · omega
    · intro tie
      exact carried.2 (by omega)

/-- Rounding keeps the order of decimals. -/
theorem value_round_mono (le : number.value ≤ greater.value) :
    number.round.value ≤ greater.round.value := by
  have floors : ⌊number.value + 1 / 2⌋ ≤ ⌊greater.value + 1 / 2⌋ :=
    Int.floor_le_floor (by linarith)
  rcases number.value_round_cases with ⟨overruns, value⟩ | ⟨_, value⟩
  · rcases greater.value_round_cases with ⟨_, other⟩ | ⟨regular, other⟩
    · rw [value, other, Int.cast_le]
      omega
    · rw [value, other, Int.cast_le]
      by_contra before
      exact regular (overruns.mono le (by omega))
  · rcases greater.value_round_cases with ⟨_, other⟩ | ⟨_, other⟩
    · rw [value, other, Int.cast_le]
      omega
    · rw [value, other, Int.cast_le]
      exact floors

end

end TemplateLanguage.Decimal
