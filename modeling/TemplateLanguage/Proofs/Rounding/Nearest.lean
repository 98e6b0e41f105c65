import Mathlib.Algebra.Order.Field.Basic
import Mathlib.Algebra.Order.Ring.Abs
import Mathlib.Data.Rat.Cast.Order
import Mathlib.Tactic.FieldSimp
import Mathlib.Tactic.Linarith
import Mathlib.Tactic.Push
import Mathlib.Tactic.Ring
import TemplateLanguage.Rounding

/-!
# Nearest integers

Rounding to the nearest integer, a half to the even one, is said here without a
division: an integer is nearest to a rational number if it is at most one half
away, and even if it is exactly one half away.  There is one such integer for each
number, and greater numbers do not have a smaller one.
-/

namespace TemplateLanguage.Rounding

/-- An integer is nearest to a number, and it is even if there are two such
integers. -/
structure NearestEven (rounded : ℤ) (number : ℚ) : Prop where
  near : |rounded - number| ≤ 1 / 2
  even : |rounded - number| = 1 / 2 → Even rounded

namespace NearestEven

variable {rounded other : ℤ} {number greater : ℚ}

theorem intCast (rounded : ℤ) : NearestEven rounded rounded := by
  constructor
  · simp
  · intro tie
    norm_num at tie

protected theorem neg (nearest : NearestEven rounded number) :
    NearestEven (-rounded) (-number) := by
  have same : |((-rounded : ℤ) : ℚ) - -number| = |rounded - number| := by
    rw [Int.cast_neg, neg_sub_neg, abs_sub_comm]
  constructor
  · rw [same]
    exact nearest.near
  · intro tie
    rw [same] at tie
    exact (nearest.even tie).neg

/-- A greater number has no smaller nearest integer. -/
theorem mono (nearest : NearestEven rounded number) (otherNearest : NearestEven other greater)
    (le : number ≤ greater) : rounded ≤ other := by
  by_contra before
  have gap : (other : ℚ) + 1 ≤ rounded := by exact_mod_cast Int.not_le.mp before
  have below := (abs_le.mp nearest.near).2
  have above := (abs_le.mp otherNearest.near).1
  -- Both must be exactly one half away from one number, and next to each other.
  have tie : (rounded : ℚ) - number = 1 / 2 := by linarith
  have otherTie : (other : ℚ) - greater = -(1 / 2) := by linarith
  have next : rounded = other + 1 := by
    have : (rounded : ℚ) = other + 1 := by linarith
    exact_mod_cast this
  have even := nearest.even (by rw [tie]; norm_num)
  have otherEven := otherNearest.even (by rw [otherTie]; norm_num)
  rw [next] at even
  exact (Int.not_even_iff_odd.mpr otherEven.add_one) even

theorem unique (nearest : NearestEven rounded number) (otherNearest : NearestEven other number) :
    rounded = other :=
  le_antisymm (nearest.mono otherNearest le_rfl) (otherNearest.mono nearest le_rfl)

theorem le_intCast (nearest : NearestEven rounded number) (le : number ≤ other) :
    rounded ≤ other :=
  nearest.mono (intCast other) le

theorem intCast_le (nearest : NearestEven rounded number) (le : other ≤ number) :
    other ≤ rounded :=
  (intCast other).mono nearest le

end NearestEven

/-- The integer nearest to a quotient, told without a division. -/
theorem nearestEven_div_iff {rounded dividend divisor : ℤ} (positive : 0 < divisor) :
    NearestEven rounded (dividend / divisor) ↔
      2 * |divisor * rounded - dividend| ≤ divisor ∧
        (2 * |divisor * rounded - dividend| = divisor → Even rounded) := by
  have scale : (0 : ℚ) < divisor := by exact_mod_cast positive
  have distance : |(rounded : ℚ) - dividend / divisor| =
      (|divisor * rounded - dividend| : ℤ) / divisor := by
    have same : (rounded : ℚ) - dividend / divisor =
        (divisor * rounded - dividend) / divisor := by
      field_simp
    rw [same, abs_div, abs_of_pos scale]
    push_cast
    rfl
  have nearIff : |(rounded : ℚ) - dividend / divisor| ≤ 1 / 2 ↔
      2 * |divisor * rounded - dividend| ≤ divisor := by
    rw [distance, div_le_div_iff₀ scale two_pos, one_mul, mul_comm]
    exact_mod_cast Iff.rfl
  have tieIff : |(rounded : ℚ) - dividend / divisor| = 1 / 2 ↔
      2 * |divisor * rounded - dividend| = divisor := by
    rw [distance, div_eq_div_iff scale.ne' two_ne_zero, one_mul, mul_comm]
    exact_mod_cast Iff.rfl
  constructor
  · intro nearest
    exact ⟨nearIff.mp nearest.near, fun tie => nearest.even (tieIff.mpr tie)⟩
  · rintro ⟨near, even⟩
    exact ⟨nearIff.mpr near, fun tie => even (tieIff.mp tie)⟩

/-- The rounded quotient is nearest to the exact one. -/
theorem nearestEven_divideToEven (dividend : ℕ) {divisor : ℕ} (positive : 0 < divisor) :
    NearestEven (divideToEven dividend divisor) (dividend / divisor) := by
  have scale : (0 : ℚ) < divisor := by exact_mod_cast positive
  have parts : (dividend : ℚ) / divisor =
      (dividend / divisor : ℕ) + ((dividend % divisor : ℕ) : ℚ) / divisor := by
    have whole : ((divisor * (dividend / divisor) + dividend % divisor : ℕ) : ℚ) = dividend :=
      congrArg Nat.cast (Nat.div_add_mod dividend divisor)
    push_cast at whole
    rw [← whole]
    field_simp
  have nonneg : (0 : ℚ) ≤ ((dividend % divisor : ℕ) : ℚ) / divisor := by positivity
  have small : ((dividend % divisor : ℕ) : ℚ) / divisor < 1 := by
    rw [div_lt_one scale]
    exact_mod_cast Nat.mod_lt dividend positive
  have tieIff : ((dividend % divisor : ℕ) : ℚ) / divisor = 1 / 2 ↔
      2 * (dividend % divisor) = divisor := by
    rw [div_eq_div_iff scale.ne' two_ne_zero, one_mul, mul_comm]
    exact_mod_cast Iff.rfl
  have downIff : ((dividend % divisor : ℕ) : ℚ) / divisor < 1 / 2 ↔
      2 * (dividend % divisor) < divisor := by
    rw [div_lt_div_iff₀ scale two_pos, one_mul, mul_comm]
    exact_mod_cast Iff.rfl
  rw [parts]
  simp only [divideToEven]
  split
  · rename_i down
    have distance : |((dividend / divisor : ℕ) : ℤ) -
        (((dividend / divisor : ℕ) : ℚ) + ((dividend % divisor : ℕ) : ℚ) / divisor)| =
          ((dividend % divisor : ℕ) : ℚ) / divisor := by
      rw [Int.cast_natCast, sub_add_cancel_left, abs_neg, abs_of_nonneg nonneg]
    constructor
    · rw [distance]
      rcases down with less | ⟨tie, _⟩
      · exact (downIff.mpr less).le
      · exact (tieIff.mpr tie).le
    · rw [distance, tieIff]
      intro tie
      rcases down with less | ⟨_, even⟩
      · exact absurd tie less.ne
      · exact_mod_cast Nat.even_iff.mpr even
  · rename_i up
    rw [not_or, not_and] at up
    have distance : |((dividend / divisor + 1 : ℕ) : ℤ) -
        (((dividend / divisor : ℕ) : ℚ) + ((dividend % divisor : ℕ) : ℚ) / divisor)| =
          1 - ((dividend % divisor : ℕ) : ℚ) / divisor := by
      rw [Int.cast_natCast, Nat.cast_succ, add_sub_add_left_eq_sub,
        abs_of_nonneg (sub_nonneg.mpr small.le)]
    constructor
    · rw [distance]
      have atLeast := le_of_not_gt (mt downIff.mp up.1)
      linarith
    · rw [distance]
      intro tie
      have half : ((dividend % divisor : ℕ) : ℚ) / divisor = 1 / 2 := by linarith
      have odd := up.2 (tieIff.mp half)
      have even : Even (dividend / divisor + 1) := by
        rw [Nat.even_add_one, Nat.even_iff]
        exact odd
      exact_mod_cast even

end TemplateLanguage.Rounding
