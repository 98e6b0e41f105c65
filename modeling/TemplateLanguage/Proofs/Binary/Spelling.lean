import TemplateLanguage.Proofs.Binary.Digits
import TemplateLanguage.Proofs.Decimal.Spelling
import TemplateLanguage.Proofs.Value.Order

/-!
# The numbers that the texts of binary numbers spell

The shortest text of a binary number spells a decimal number that need not be the
exact one.  Still, texts of numbers of one format are ordered as the numbers are.
-/

namespace TemplateLanguage

open Rounding

/-- The text of digits with an exponent spells the number that they stand for. -/
theorem Scientific.spelled_render (negative : Bool) (number : Scientific) :
    spelled (signText negative ++ number.render) =
      if negative then -number.toRat else number.toRat := by
  rw [Scientific.render]
  cases shape : number.exponent with
  | ofNat exponent =>
      have value : number.toRat = (number.coefficient * 10 ^ exponent : ℕ) / 10 ^ 0 := by
        rw [Scientific.toRat, shape, Int.ofNat_eq_natCast, zpow_natCast]
        push_cast
        ring
      rw [value]
      exact spelled_signText negative _ 0
  | negSucc exponent =>
      have value : number.toRat = (number.coefficient : ℚ) / 10 ^ (exponent + 1) := by
        rw [Scientific.toRat, shape, zpow_negSucc, div_eq_mul_inv]
      rw [value]
      exact spelled_signText negative _ _

namespace Binary

variable {format : BinaryFormat}

/-! ## Exact values -/

/-- The exact value of a finite number. -/
def toRat : Binary format → ℚ
  | finite negative mantissa exponent _ =>
      if negative then -Magnitude.toRat ⟨mantissa, exponent⟩
      else Magnitude.toRat ⟨mantissa, exponent⟩
  | _ => 0

theorem abs_toRat {mantissa : ℕ} {exponent : ℤ} (negative : Bool)
    (canonical : format.Canonical mantissa exponent) :
    |(finite negative mantissa exponent canonical).toRat| =
      Magnitude.toRat ⟨mantissa, exponent⟩ := by
  rw [toRat]
  cases negative with
  | false => exact abs_of_nonneg (Magnitude.toRat_nonneg _)
  | true => exact (abs_neg _).trans (abs_of_nonneg (Magnitude.toRat_nonneg _))

theorem exists_signedValue? {number : Binary format} (finite : number.isFinite = true) :
    ∃ value divisor, number.signedValue? = some (value, divisor) ∧ 0 < divisor ∧
      number.toRat = (value : ℚ) / divisor := by
  cases number with
  | nan | infinite => cases finite
  | finite negative mantissa exponent canonical =>
      refine ⟨_, _, rfl, Magnitude.value_divisor_pos _, ?_⟩
      have exact := Magnitude.toRat_value ⟨mantissa, exponent⟩
      rw [Quotient.toRat] at exact
      rw [toRat, ← exact]
      cases negative with
      | false => simp
      | true => simp [neg_div]

/-- Finite numbers are ordered by their exact values. -/
theorem order?_eq_compare {first second : Binary format} (finite : first.isFinite = true)
    (otherFinite : second.isFinite = true) :
    first.order? second = some (compare first.toRat second.toRat) := by
  obtain ⟨value, divisor, signed, positive, exact⟩ := exists_signedValue? finite
  obtain ⟨other, otherDivisor, otherSigned, otherPositive, otherExact⟩ :=
    exists_signedValue? otherFinite
  have unit : (0 : ℚ) < divisor := by exact_mod_cast positive
  have otherUnit : (0 : ℚ) < otherDivisor := by exact_mod_cast otherPositive
  have order : first.order? second =
      some (compare (value * otherDivisor) (other * divisor)) := by
    cases first with
    | nan | infinite => cases finite
    | finite =>
        cases second with
        | nan | infinite => cases otherFinite
        | finite => simp only [order?, signed, otherSigned]
  rw [order, exact, otherExact]
  congr 1
  apply compare_eq_compare
  · rw [div_lt_div_iff₀ unit otherUnit]
    exact_mod_cast Iff.rfl
  · rw [div_lt_div_iff₀ otherUnit unit]
    exact_mod_cast Iff.rfl

/-! ## Spelled values -/

/-- The number that the text of a magnitude spells. -/
def Magnitude.shown (format : BinaryFormat) (number : Magnitude) : ℚ :=
  if number.mantissa = 0 then 0 else (shortest format number).toRat

theorem spelled_render_finite (negative : Bool) {mantissa : ℕ} {exponent : ℤ}
    (canonical : format.Canonical mantissa exponent) :
    spelled (finite negative mantissa exponent canonical).render =
      if negative then -Magnitude.shown format ⟨mantissa, exponent⟩
      else Magnitude.shown format ⟨mantissa, exponent⟩ := by
  rw [render, Magnitude.shown]
  by_cases zero : mantissa = 0
  · rw [if_pos zero, if_pos zero]
    have digits : ['0'] = positional 0 0 := rfl
    rw [digits, spelled_signText]
    simp
  · rw [if_neg zero, if_neg zero]
    exact Scientific.spelled_render negative _

/-- The text of a finite number is in positional notation.  If there are digits after the
point, the last one is not zero, and the digits are few. -/
theorem exists_render_eq {number : Binary format} (finite : number.isFinite = true) :
    ∃ negative coefficient places,
      number.render = signText negative ++ positional coefficient places ∧
        (coefficient % 10 ≠ 0 ∨ places = 0) ∧
        (coefficient < 40 * 2 ^ format.precision ∨ places = 0) := by
  cases number with
  | nan | infinite => cases finite
  | finite negative mantissa exponent canonical =>
      rw [render]
      by_cases zero : mantissa = 0
      · rw [if_pos zero]
        exact ⟨negative, 0, 0, rfl, .inr rfl, .inr rfl⟩
      · rw [if_neg zero, Scientific.render]
        have nonzero : Magnitude.mantissa ⟨mantissa, exponent⟩ ≠ 0 := zero
        obtain ⟨_, least, digit⟩ := shortest_spec format nonzero
        split
        · exact ⟨negative, _, 0, rfl, .inr rfl, .inr rfl⟩
        · rename_i places shape
          have fraction : Magnitude.exponent ⟨mantissa, exponent⟩ < 0 := by
            rw [shape] at least
            omega
          have few := coefficient_shortest_lt canonical.1 nonzero fraction
          exact ⟨negative, _, _, rfl, .inl digit, .inl few⟩

/-- What the text of a number spells is rounded to the number. -/
theorem exists_shown {number : Magnitude} (full : 0 < format.precision)
    (canonical : format.Canonical number.mantissa number.exponent) :
    ∃ quotient : Quotient, 0 < quotient.divisor ∧ quotient.toRat = number.shown format ∧
      (nearestMagnitude format quotient).toRat = number.toRat := by
  rw [Magnitude.shown]
  by_cases zero : number.mantissa = 0
  · refine ⟨⟨0, 1⟩, Nat.one_pos, ?_, ?_⟩
    · rw [if_pos zero]
      simp [Quotient.toRat]
    · simp [nearestMagnitude, Magnitude.toRat, zero]
  · rw [if_neg zero]
    have holds := (shortest_spec format zero).1
    rw [← Scientific.toRat_value] at holds
    exact ⟨_, Scientific.value_divisor_pos _, Scientific.toRat_value _,
      toRat_nearestMagnitude_of_holds full (Scientific.value_divisor_pos _) canonical zero holds⟩

/-- Greater numbers of a format have no smaller exponents. -/
theorem exponent_le_of_toRat_le {number greater : Magnitude} (full : 0 < format.precision)
    (canonical : format.Canonical number.mantissa number.exponent)
    (otherCanonical : format.Canonical greater.mantissa greater.exponent)
    (le : number.toRat ≤ greater.toRat) : number.exponent ≤ greater.exponent := by
  by_contra before
  have coarse : number.exponent ≠ format.least := by
    have least := otherCanonical.2.1
    omega
  have lead : (2 : ℚ) ^ (format.precision - 1) ≤ number.mantissa := by
    exact_mod_cast canonical.2.2.2.resolve_right coarse
  have precise : (greater.mantissa : ℚ) < 2 ^ format.precision := by
    exact_mod_cast otherCanonical.1
  have unit : (0 : ℚ) < 2 ^ greater.exponent := zpow_pos two_pos _
  have less : greater.toRat < number.toRat := by
    calc (greater.mantissa : ℚ) * 2 ^ greater.exponent
        < 2 ^ format.precision * 2 ^ greater.exponent := mul_lt_mul_of_pos_right precise unit
      _ = 2 ^ (format.precision - 1) * 2 ^ (greater.exponent + 1) := by
          rw [zpow_add_one₀ two_ne_zero, ← Nat.sub_add_cancel full, pow_succ, Nat.add_sub_cancel]
          ring
      _ ≤ 2 ^ (format.precision - 1) * 2 ^ number.exponent :=
          mul_le_mul_of_nonneg_left (zpow_le_zpow_right₀ one_le_two (by omega)) (by positivity)
      _ ≤ number.mantissa * 2 ^ number.exponent :=
          mul_le_mul_of_nonneg_right lead (zpow_pos two_pos _).le
  exact less.not_ge le

/-- A number of a format has only one canonical form. -/
theorem eq_of_toRat_eq {number other : Magnitude} (full : 0 < format.precision)
    (canonical : format.Canonical number.mantissa number.exponent)
    (otherCanonical : format.Canonical other.mantissa other.exponent)
    (same : number.toRat = other.toRat) : number = other := by
  have exponent : number.exponent = other.exponent :=
    le_antisymm (exponent_le_of_toRat_le full canonical otherCanonical same.le)
      (exponent_le_of_toRat_le full otherCanonical canonical same.ge)
  rw [Magnitude.toRat, Magnitude.toRat, exponent,
    mul_left_inj' (zpow_pos two_pos _).ne', Nat.cast_inj] at same
  cases number
  cases other
  simp_all

theorem shown_nonneg (format : BinaryFormat) (number : Magnitude) : 0 ≤ number.shown format := by
  rw [Magnitude.shown]
  split
  · exact le_rfl
  · exact mul_nonneg (Nat.cast_nonneg _) (zpow_pos (by norm_num) _).le

/-- Texts of magnitudes are ordered as the magnitudes are. -/
theorem shown_lt_iff {first second : Magnitude} (full : 0 < format.precision)
    (canonical : format.Canonical first.mantissa first.exponent)
    (otherCanonical : format.Canonical second.mantissa second.exponent) :
    first.shown format < second.shown format ↔ first.toRat < second.toRat := by
  obtain ⟨quotient, positive, spells, exact⟩ := exists_shown full canonical
  obtain ⟨other, otherPositive, otherSpells, otherExact⟩ := exists_shown full otherCanonical
  constructor
  · intro less
    have le : first.toRat ≤ second.toRat := by
      rw [← exact, ← otherExact]
      apply toRat_nearestMagnitude_mono full positive otherPositive
      rw [spells, otherSpells]
      exact less.le
    apply lt_of_le_of_ne le
    intro same
    rw [eq_of_toRat_eq full canonical otherCanonical same] at less
    exact lt_irrefl _ less
  · intro less
    by_contra notLess
    rw [← exact, ← otherExact] at less
    apply less.not_ge
    apply toRat_nearestMagnitude_mono full otherPositive positive
    rw [spells, otherSpells]
    exact not_lt.mp notLess

theorem canonical_zero (range : format.least ≤ format.greatest) :
    format.Canonical 0 format.least :=
  ⟨Nat.pow_pos two_pos, le_rfl, range, .inr rfl⟩

theorem shown_pos_iff {number : Magnitude} (full : 0 < format.precision)
    (canonical : format.Canonical number.mantissa number.exponent) :
    0 < number.shown format ↔ 0 < number.toRat := by
  have range := canonical.2.1.trans canonical.2.2.1
  have iff : Magnitude.shown format ⟨0, format.least⟩ < number.shown format ↔ _ :=
    shown_lt_iff full (canonical_zero range) canonical
  rw [Magnitude.shown, if_pos rfl, Magnitude.toRat, Nat.cast_zero, zero_mul] at iff
  exact iff

/-- Signs reverse two orders alike. -/
theorem signed_lt_iff {negative otherNegative : Bool} {size other value otherValue : ℚ}
    (sizeNonneg : 0 ≤ size) (otherNonneg : 0 ≤ other) (valueNonneg : 0 ≤ value)
    (otherValueNonneg : 0 ≤ otherValue) (lessIff : size < other ↔ value < otherValue)
    (greaterIff : other < size ↔ otherValue < value) (posIff : 0 < size ↔ 0 < value)
    (otherPosIff : 0 < other ↔ 0 < otherValue) :
    (if negative then -size else size) < (if otherNegative then -other else other) ↔
      (if negative then -value else value) <
        (if otherNegative then -otherValue else otherValue) := by
  cases negative with
  | false =>
      cases otherNegative with
      | false => exact lessIff
      | true =>
          simp only [Bool.false_eq_true, if_false, if_true]
          constructor <;> intro less <;> linarith
  | true =>
      cases otherNegative with
      | false =>
          simp only [Bool.false_eq_true, if_false, if_true]
          have some : ∀ {first second : ℚ}, 0 ≤ first → 0 ≤ second →
              (-first < second ↔ 0 < first ∨ 0 < second) := by
            intro first second nonneg otherNonneg
            constructor
            · intro less
              by_contra none
              rw [not_or, not_lt, not_lt] at none
              linarith
            · rintro (positive | positive) <;> linarith
          rw [some sizeNonneg otherNonneg, some valueNonneg otherValueNonneg, posIff, otherPosIff]
      | true =>
          simp only [if_true, neg_lt_neg_iff]
          exact greaterIff

/-- Texts of numbers of one format are ordered as the numbers are. -/
theorem spelled_render_lt_iff {first second : Binary format} (full : 0 < format.precision)
    (finite : first.isFinite = true) (otherFinite : second.isFinite = true) :
    spelled first.render < spelled second.render ↔ first.toRat < second.toRat := by
  cases first with
  | nan | infinite => cases finite
  | finite negative mantissa exponent canonical =>
      cases second with
      | nan | infinite => cases otherFinite
      | finite other otherMantissa otherExponent otherCanonical =>
          rw [spelled_render_finite, spelled_render_finite, toRat, toRat]
          exact signed_lt_iff (shown_nonneg format _) (shown_nonneg format _)
            (Magnitude.toRat_nonneg _) (Magnitude.toRat_nonneg _)
            (shown_lt_iff full canonical otherCanonical)
            (shown_lt_iff full otherCanonical canonical)
            (shown_pos_iff full canonical) (shown_pos_iff full otherCanonical)

/-- Texts stay on their side of a power of two. -/
theorem pow_le_toRat_of_shown {number : Magnitude} {exponent : ℕ} (full : 0 < format.precision)
    (canonical : format.Canonical number.mantissa number.exponent)
    (least : format.least ≤ exponent) (le : 2 ^ exponent ≤ number.shown format) :
    2 ^ exponent ≤ number.toRat := by
  obtain ⟨quotient, positive, spells, exact⟩ := exists_shown full canonical
  rw [← toRat_nearestMagnitude_pow full least, ← exact]
  apply toRat_nearestMagnitude_mono full Nat.one_pos positive
  rw [Quotient.toRat_natCast, spells]
  exact_mod_cast le

theorem toRat_le_pow_of_shown {number : Magnitude} {exponent : ℕ} (full : 0 < format.precision)
    (canonical : format.Canonical number.mantissa number.exponent)
    (least : format.least ≤ exponent) (le : number.shown format ≤ 2 ^ exponent) :
    number.toRat ≤ 2 ^ exponent := by
  obtain ⟨quotient, positive, spells, exact⟩ := exists_shown full canonical
  rw [← toRat_nearestMagnitude_pow full least, ← exact]
  apply toRat_nearestMagnitude_mono full positive Nat.one_pos
  rw [Quotient.toRat_natCast, spells]
  exact_mod_cast le

/-- Numbers of one format are compared as their texts are. -/
theorem order?_eq_compare_spelled {first second : Binary format} (full : 0 < format.precision)
    (finite : first.isFinite = true) (otherFinite : second.isFinite = true) :
    first.order? second = some (compare (spelled first.render) (spelled second.render)) := by
  rw [order?_eq_compare finite otherFinite]
  congr 1
  exact compare_eq_compare (spelled_render_lt_iff full finite otherFinite).symm
    (spelled_render_lt_iff full otherFinite finite).symm

end Binary

end TemplateLanguage
