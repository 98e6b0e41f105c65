import TemplateLanguage.Binary.Basic
import TemplateLanguage.Proofs.Rounding.Nearest
import TemplateLanguage.Proofs.Rounding.Quotient

/-!
# Rounding to a binary format

The numbers of a format that are about a given number form a grid, whose step is a
power of two.  Rounding takes the nearest point of this grid, and of two such points
the even one.  It keeps the order of numbers, and it keeps the numbers of the format
as they are.
-/

namespace TemplateLanguage.Binary

open Rounding

variable {format : BinaryFormat}

/-! ## Exact values -/

namespace Magnitude

/-- The rational number that a magnitude stands for. -/
def toRat (number : Magnitude) : ℚ :=
  number.mantissa * 2 ^ number.exponent

theorem value_divisor_pos (number : Magnitude) : 0 < number.value.divisor :=
  Quotient.scale_divisor_pos Nat.one_pos two_pos _

theorem toRat_value (number : Magnitude) : number.value.toRat = number.toRat := by
  rw [value, Quotient.toRat_scale, Quotient.toRat, Nat.cast_one, div_one, toRat, Nat.cast_two]

theorem toRat_nonneg (number : Magnitude) : 0 ≤ number.toRat :=
  mul_nonneg (Nat.cast_nonneg _) (zpow_pos two_pos _).le

end Magnitude

/-! ## The grid of a format -/

/-- The exponent of the step of a format about a number. -/
def gridOf (format : BinaryFormat) (number : ℚ) : ℤ :=
  max format.least (Int.log 2 number - format.precision + 1)

theorem exponentOf_eq_gridOf {quotient : Quotient} (nonzero : quotient.dividend ≠ 0)
    (positive : 0 < quotient.divisor) :
    exponentOf format quotient = gridOf format quotient.toRat := by
  rw [exponentOf, magnitude_eq_log Nat.one_lt_two nonzero positive, gridOf]

theorem gridOf_mono (format : BinaryFormat) {number greater : ℚ} (positive : 0 < number)
    (le : number ≤ greater) : gridOf format number ≤ gridOf format greater := by
  have logs := Int.log_mono_right (b := 2) positive le
  rw [gridOf, gridOf]
  omega

/-- No more points of the grid are below a number than a mantissa can count. -/
theorem div_gridOf_lt (format : BinaryFormat) (number : ℚ) :
    number / 2 ^ gridOf format number < 2 ^ format.precision := by
  rw [div_lt_iff₀ (zpow_pos two_pos _), ← zpow_natCast, ← zpow_add₀ two_ne_zero]
  calc number < 2 ^ (Int.log 2 number + 1) := Int.lt_zpow_succ_log_self Nat.one_lt_two number
    _ ≤ 2 ^ ((format.precision : ℤ) + gridOf format number) :=
        zpow_le_zpow_right₀ one_le_two (by rw [gridOf]; omega)

/-- Unless the grid is the finest one, mantissas have full precision. -/
theorem le_div_gridOf {number : ℚ} (positive : 0 < number) (full : 0 < format.precision)
    (coarse : format.least < gridOf format number) :
    2 ^ (format.precision - 1) ≤ number / 2 ^ gridOf format number := by
  rw [le_div_iff₀ (zpow_pos two_pos _), ← zpow_natCast, ← zpow_add₀ two_ne_zero]
  calc (2 : ℚ) ^ (((format.precision - 1 : ℕ) : ℤ) + gridOf format number)
      ≤ 2 ^ Int.log 2 number := zpow_le_zpow_right₀ one_le_two (by rw [gridOf] at coarse ⊢; omega)
    _ ≤ number := Int.zpow_log_le_self Nat.one_lt_two positive

variable {number : ℚ} {rounded : ℕ}

theorem nearestEven_grid_le (nearest : NearestEven rounded (number / 2 ^ gridOf format number)) :
    rounded ≤ 2 ^ format.precision := by
  have bound : (rounded : ℤ) ≤ 2 ^ format.precision := by
    apply nearest.le_intCast
    push_cast
    exact (div_gridOf_lt format number).le
  exact_mod_cast bound

theorem le_nearestEven_grid (nearest : NearestEven rounded (number / 2 ^ gridOf format number))
    (positive : 0 < number) (full : 0 < format.precision)
    (coarse : format.least < gridOf format number) : 2 ^ (format.precision - 1) ≤ rounded := by
  have bound : 2 ^ (format.precision - 1) ≤ (rounded : ℤ) := by
    apply nearest.intCast_le
    push_cast
    exact le_div_gridOf positive full coarse
  exact_mod_cast bound

/-! ## Rounding -/

/-- A mantissa and an exponent, where a mantissa with one bit too many gives its last
one to the exponent. -/
def carried (format : BinaryFormat) (mantissa : ℕ) (exponent : ℤ) : Magnitude :=
  if mantissa = 2 ^ format.precision then ⟨2 ^ (format.precision - 1), exponent + 1⟩
  else ⟨mantissa, exponent⟩

theorem toRat_carried (full : 0 < format.precision) (mantissa : ℕ) (exponent : ℤ) :
    (carried format mantissa exponent).toRat = mantissa * 2 ^ exponent := by
  rw [carried]
  split
  · rename_i overflow
    have whole : (2 : ℚ) ^ format.precision = 2 ^ (format.precision - 1) * 2 := by
      rw [← pow_succ, Nat.sub_add_cancel full]
    rw [overflow, Magnitude.toRat, zpow_add_one₀ two_ne_zero]
    push_cast
    rw [whole]
    ring
  · rfl

variable {quotient greater : Quotient}

/-- Rounding takes the nearest point of the grid. -/
theorem exists_eq_carried (format : BinaryFormat) (nonzero : quotient.dividend ≠ 0)
    (positive : 0 < quotient.divisor) :
    ∃ mantissa : ℕ, NearestEven mantissa (quotient.toRat / 2 ^ gridOf format quotient.toRat) ∧
      nearestMagnitude format quotient =
        carried format mantissa (gridOf format quotient.toRat) := by
  have nearest := nearestEven_divideToEven
    (quotient.scale 2 (-exponentOf format quotient)).dividend
    (Quotient.scale_divisor_pos positive two_pos (-exponentOf format quotient))
  rw [← Quotient.toRat, Quotient.toRat_scale, zpow_neg, ← div_eq_mul_inv, Nat.cast_ofNat]
    at nearest
  rw [nearestMagnitude, if_neg nonzero, ← exponentOf_eq_gridOf nonzero positive]
  exact ⟨_, nearest, rfl⟩

theorem exists_nearestEven (full : 0 < format.precision) (positive : 0 < quotient.divisor) :
    ∃ rounded : ℕ, NearestEven rounded (quotient.toRat / 2 ^ gridOf format quotient.toRat) ∧
      (nearestMagnitude format quotient).toRat = rounded * 2 ^ gridOf format quotient.toRat := by
  by_cases zero : quotient.dividend = 0
  · have value : quotient.toRat = 0 := by rw [Quotient.toRat, zero, Nat.cast_zero, zero_div]
    rw [nearestMagnitude, if_pos zero, value, zero_div]
    exact ⟨0, NearestEven.intCast 0, by simp [Magnitude.toRat]⟩
  · obtain ⟨mantissa, nearest, made⟩ := exists_eq_carried format zero positive
    exact ⟨mantissa, nearest, made ▸ toRat_carried full _ _⟩

/-- Rounding keeps the order of numbers. -/
theorem toRat_nearestMagnitude_mono (full : 0 < format.precision)
    (positive : 0 < quotient.divisor) (greaterPositive : 0 < greater.divisor)
    (le : quotient.toRat ≤ greater.toRat) :
    (nearestMagnitude format quotient).toRat ≤ (nearestMagnitude format greater).toRat := by
  obtain ⟨rounded, nearest, value⟩ := exists_nearestEven full positive
  obtain ⟨other, otherNearest, otherValue⟩ := exists_nearestEven full greaterPositive
  have step : ∀ number, (0 : ℚ) < 2 ^ gridOf format number := fun _ => zpow_pos two_pos _
  rw [value, otherValue]
  rcases (Quotient.toRat_nonneg quotient).eq_or_lt with zero | nonzero
  · have none : rounded = 0 := by
      rw [← zero, zero_div] at nearest
      exact_mod_cast nearest.unique (NearestEven.intCast 0)
    rw [none, Nat.cast_zero, zero_mul]
    exact mul_nonneg (Nat.cast_nonneg _) (step _).le
  · rcases (gridOf_mono format nonzero le).eq_or_lt with same | finer
    · rw [same] at nearest ⊢
      have mono := nearest.mono otherNearest (div_le_div_of_nonneg_right le (step _).le)
      exact mul_le_mul_of_nonneg_right (by exact_mod_cast mono) (step _).le
    · -- On the coarser grid even the least mantissa is as great as all on the finer one.
      have most : (rounded : ℚ) ≤ 2 ^ format.precision := by
        exact_mod_cast nearestEven_grid_le nearest
      have least : (2 : ℚ) ^ (format.precision - 1) ≤ other := by
        exact_mod_cast le_nearestEven_grid otherNearest (nonzero.trans_le le) full
          ((le_max_left _ _).trans_lt finer)
      calc (rounded : ℚ) * 2 ^ gridOf format quotient.toRat
          ≤ 2 ^ format.precision * 2 ^ gridOf format quotient.toRat :=
            mul_le_mul_of_nonneg_right most (step _).le
        _ = 2 ^ (format.precision - 1) * 2 ^ (gridOf format quotient.toRat + 1) := by
            rw [zpow_add_one₀ two_ne_zero, ← Nat.sub_add_cancel full, pow_succ,
              Nat.add_sub_cancel]
            ring
        _ ≤ 2 ^ (format.precision - 1) * 2 ^ gridOf format greater.toRat :=
            mul_le_mul_of_nonneg_left (zpow_le_zpow_right₀ one_le_two finer) (by positivity)
        _ ≤ other * 2 ^ gridOf format greater.toRat :=
            mul_le_mul_of_nonneg_right least (step _).le

/-- Rounding keeps the points of the grid. -/
theorem toRat_nearestMagnitude_of_grid (whole : ℤ) (full : 0 < format.precision)
    (positive : 0 < quotient.divisor)
    (same : quotient.toRat = whole * 2 ^ gridOf format quotient.toRat) :
    (nearestMagnitude format quotient).toRat = quotient.toRat := by
  obtain ⟨rounded, nearest, value⟩ := exists_nearestEven full positive
  have point : quotient.toRat / 2 ^ gridOf format quotient.toRat = whole :=
    (div_eq_iff (zpow_pos two_pos _).ne').mpr same
  rw [point] at nearest
  have exact : (rounded : ℤ) = whole := nearest.unique (NearestEven.intCast whole)
  rw [value, ← Int.cast_natCast, exact, ← same]

/-- Rounding keeps the numbers of the format. -/
theorem toRat_nearestMagnitude_of_eq {number : Magnitude} (full : 0 < format.precision)
    (positive : 0 < quotient.divisor) (precise : number.mantissa < 2 ^ format.precision)
    (least : format.least ≤ number.exponent) (same : quotient.toRat = number.toRat) :
    (nearestMagnitude format quotient).toRat = number.toRat := by
  rw [← same]
  by_cases zero : number.mantissa = 0
  · have none : quotient.toRat = 0 := by
      rw [same, Magnitude.toRat, zero, Nat.cast_zero, zero_mul]
    apply toRat_nearestMagnitude_of_grid 0 full positive
    rw [none, Int.cast_zero, zero_mul]
  · have nonzero : 0 < quotient.toRat := by
      rw [same, Magnitude.toRat]
      exact mul_pos (by exact_mod_cast Nat.pos_of_ne_zero zero) (zpow_pos two_pos _)
    have grid : gridOf format quotient.toRat ≤ number.exponent := by
      have bound : Int.log 2 quotient.toRat < format.precision + number.exponent := by
        rw [← Int.lt_zpow_iff_log_lt Nat.one_lt_two nonzero, same, Magnitude.toRat, Nat.cast_ofNat,
          zpow_add₀ two_ne_zero, zpow_natCast]
        exact mul_lt_mul_of_pos_right (by exact_mod_cast precise) (zpow_pos two_pos _)
      rw [gridOf]
      omega
    obtain ⟨finer, split⟩ := Int.le.dest grid
    apply toRat_nearestMagnitude_of_grid (number.mantissa * 2 ^ finer) full positive
    have power : (2 : ℚ) ^ number.exponent = 2 ^ gridOf format quotient.toRat * 2 ^ finer := by
      rw [← split, zpow_add₀ two_ne_zero, zpow_natCast]
    rw [Int.cast_mul, Int.cast_pow, Int.cast_natCast, Int.cast_ofNat, mul_assoc,
      mul_comm (2 ^ finer), ← power, same, Magnitude.toRat]

/-- Rounding keeps powers of two. -/
theorem toRat_nearestMagnitude_pow {exponent : ℕ} (full : 0 < format.precision)
    (least : format.least ≤ exponent) :
    (nearestMagnitude format ⟨2 ^ exponent, 1⟩).toRat = 2 ^ exponent := by
  have value : Magnitude.toRat ⟨1, exponent⟩ = 2 ^ exponent := by
    rw [Magnitude.toRat, Nat.cast_one, one_mul, zpow_natCast]
  have same : Quotient.toRat ⟨2 ^ exponent, 1⟩ = Magnitude.toRat ⟨1, exponent⟩ := by
    rw [Quotient.toRat_natCast, value]
    push_cast
    rfl
  have precise : 1 < 2 ^ format.precision := Nat.one_lt_two_pow full.ne'
  exact (toRat_nearestMagnitude_of_eq full Nat.one_pos precise least same).trans value

/-- Rounding does not more than double a number. -/
theorem toRat_nearestMagnitude_le_two_mul (full : 0 < format.precision)
    (positive : 0 < quotient.divisor) :
    (nearestMagnitude format quotient).toRat ≤ 2 * quotient.toRat := by
  obtain ⟨rounded, nearest, value⟩ := exists_nearestEven full positive
  have step : (0 : ℚ) < 2 ^ gridOf format quotient.toRat := zpow_pos two_pos _
  have twice : (rounded : ℚ) ≤ 2 * (quotient.toRat / 2 ^ gridOf format quotient.toRat) := by
    have near := (abs_le.mp nearest.near).2
    push_cast at near
    rcases Nat.eq_zero_or_pos rounded with zero | some
    · rw [zero, Nat.cast_zero]
      exact mul_nonneg two_pos.le (div_nonneg quotient.toRat_nonneg step.le)
    · have one : (1 : ℚ) ≤ rounded := by exact_mod_cast some
      linarith
  rw [value]
  calc (rounded : ℚ) * 2 ^ gridOf format quotient.toRat
      ≤ 2 * (quotient.toRat / 2 ^ gridOf format quotient.toRat) *
          2 ^ gridOf format quotient.toRat := mul_le_mul_of_nonneg_right twice step.le
    _ = 2 * quotient.toRat := by rw [mul_assoc, div_mul_cancel₀ _ step.ne']

theorem canonical_of_toRat_le {number : Magnitude} {limit : ℤ}
    (full : 0 < format.precision) (range : format.least ≤ format.greatest)
    (bound : limit < format.greatest + format.precision)
    (precise : number.mantissa < 2 ^ format.precision) (least : format.least ≤ number.exponent)
    (lead : 2 ^ (format.precision - 1) ≤ number.mantissa ∨ number.exponent = format.least)
    (small : number.toRat ≤ 2 ^ limit) :
    format.Canonical number.mantissa number.exponent := by
  refine ⟨precise, least, ?_, lead⟩
  rcases lead with lead | finest
  · have power : (2 : ℚ) ^ (((format.precision - 1 : ℕ) : ℤ) + number.exponent) ≤ 2 ^ limit := by
      rw [zpow_add₀ two_ne_zero, zpow_natCast]
      exact (mul_le_mul_of_nonneg_right (by exact_mod_cast lead) (zpow_pos two_pos _).le).trans
        small
    rw [zpow_le_zpow_iff_right₀ one_lt_two] at power
    omega
  · exact finest.trans_le range

/-- A rounded number that is not too great is a number of the format. -/
theorem canonical_nearestMagnitude {limit : ℤ} (full : 0 < format.precision)
    (range : format.least ≤ format.greatest)
    (bound : limit < format.greatest + format.precision) (positive : 0 < quotient.divisor)
    (small : (nearestMagnitude format quotient).toRat ≤ 2 ^ limit) :
    format.Canonical (nearestMagnitude format quotient).mantissa
      (nearestMagnitude format quotient).exponent := by
  have half : 2 ^ (format.precision - 1) < 2 ^ format.precision :=
    Nat.pow_lt_pow_right Nat.one_lt_two (Nat.sub_lt full Nat.one_pos)
  by_cases zero : quotient.dividend = 0
  · rw [nearestMagnitude, if_pos zero]
    exact ⟨Nat.pow_pos two_pos, le_rfl, range, .inr rfl⟩
  · have nonzero : 0 < quotient.toRat :=
      div_pos (by exact_mod_cast Nat.pos_of_ne_zero zero) (by exact_mod_cast positive)
    obtain ⟨mantissa, nearest, made⟩ := exists_eq_carried format zero positive
    have least : format.least ≤ gridOf format quotient.toRat := le_max_left _ _
    rw [made] at small ⊢
    rw [carried] at small ⊢
    by_cases overflow : mantissa = 2 ^ format.precision
    · rw [if_pos overflow] at small ⊢
      exact canonical_of_toRat_le full range bound half (least.trans (by simp)) (.inl le_rfl) small
    · rw [if_neg overflow] at small ⊢
      apply canonical_of_toRat_le full range bound _ least _ small
      · exact lt_of_le_of_ne (nearestEven_grid_le nearest) overflow
      · rcases least.eq_or_lt with finest | coarse
        · exact .inr finest.symm
        · exact .inl (le_nearestEven_grid nearest nonzero full coarse)

end TemplateLanguage.Binary
