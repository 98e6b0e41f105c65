import TemplateLanguage.Proofs.Decimal.Places

/-!
# Integers about a number that is read

A text with more places than a decimal has is rounded to the places that it has.  If its
digits are few, the number is less than one tenth, so it still lies between the same
integers, unless nothing is left of it.
-/

namespace TemplateLanguage

open Rounding

namespace Decimal

/-- Half of the last place that a decimal can have. -/
def halfPlace : ℚ :=
  1 / 2 / 10 ^ 28

end Decimal

/-! ## Brackets -/

/-- A number and what it is read as lie between the same integers, unless nothing is left
of the number. -/
structure SameBrackets (value read : ℚ) : Prop where
  floor_eq : ¬(-Decimal.halfPlace < value ∧ value < 0) → ⌊read⌋ = ⌊value⌋
  ceil_eq : ¬(0 < value ∧ value < Decimal.halfPlace) → ⌈read⌉ = ⌈value⌉

namespace SameBrackets

variable {value read : ℚ}

protected theorem refl (value : ℚ) : SameBrackets value value :=
  ⟨fun _ => rfl, fun _ => rfl⟩

protected theorem neg (same : SameBrackets value read) : SameBrackets (-value) (-read) := by
  constructor
  · intro left
    rw [Int.floor_neg, Int.floor_neg, same.ceil_eq]
    rintro ⟨positive, small⟩
    exact left ⟨neg_lt_neg small, neg_lt_zero.mpr positive⟩
  · intro left
    rw [Int.ceil_neg, Int.ceil_neg, same.floor_eq]
    rintro ⟨small, negative⟩
    exact left ⟨neg_pos.mpr negative, neg_lt.mp small⟩

theorem signed (negative : Bool) (same : SameBrackets value read) :
    SameBrackets (if negative then -value else value) (if negative then -read else read) := by
  cases negative with
  | false => exact same
  | true => exact same.neg

/-- Below one a number lies between the same integers unless it is lost. -/
theorem of_unit (nonneg : 0 ≤ value) (lt : value < 1) (readNonneg : 0 ≤ read) (readLt : read < 1)
    (lost : read = 0 ↔ value < Decimal.halfPlace) : SameBrackets value read := by
  have half : 0 < Decimal.halfPlace := by norm_num [Decimal.halfPlace]
  constructor
  · intro _
    rw [Int.floor_eq_zero_iff.mpr ⟨readNonneg, readLt⟩, Int.floor_eq_zero_iff.mpr ⟨nonneg, lt⟩]
  · intro left
    rcases nonneg.eq_or_lt with zero | positive
    · rw [lost.mpr (zero ▸ half), ← zero]
    · have kept : 0 < read := lt_of_le_of_ne readNonneg fun none =>
        left ⟨positive, lost.mp none.symm⟩
      have one : ∀ {number : ℚ}, 0 < number → number < 1 → ⌈number⌉ = 1 := by
        intro number positive lt
        rw [Int.ceil_eq_iff]
        push_cast
        exact ⟨by linarith, lt.le⟩
      rw [one kept readLt, one positive lt]

end SameBrackets

namespace Decimal

/-- Digits that are rounded to the places of a decimal lie between the same integers. -/
theorem sameBrackets_divideHalfUp {coefficient places : ℕ} (few : coefficient < 10 ^ 28)
    (long : 28 < places) :
    SameBrackets (coefficient / 10 ^ places)
      (divideHalfUp coefficient (10 ^ (places - 28)) / 10 ^ 28) := by
  obtain ⟨extra, rfl⟩ := Nat.exists_eq_add_of_lt long
  have cut : 28 + extra + 1 - 28 = extra + 1 := by omega
  have large : 1 < 10 ^ (extra + 1) := Nat.one_lt_pow (Nat.succ_ne_zero extra) (by decide)
  have scale : (10 : ℚ) ^ (28 + extra + 1) = 10 ^ 28 * (10 ^ (extra + 1) : ℕ) := by
    rw [Nat.add_assoc, pow_add]
    push_cast
    rfl
  rw [cut, scale]
  generalize 10 ^ (extra + 1) = unit at large
  have lost : divideHalfUp coefficient unit = 0 ↔ 2 * coefficient < unit := by
    rw [divideHalfUp, Nat.div_eq_zero_iff]
    omega
  have unitPos : (0 : ℚ) < unit := by exact_mod_cast (show 0 < unit by omega)
  apply SameBrackets.of_unit
  · positivity
  · rw [div_lt_one (by positivity)]
    exact_mod_cast few.trans_le (Nat.le_mul_of_pos_right _ (by omega))
  · positivity
  · rw [div_lt_one (by positivity)]
    exact_mod_cast divideHalfUp_lt few large
  · have half : (coefficient : ℚ) / (10 ^ 28 * unit) < halfPlace ↔
        2 * (coefficient : ℚ) < unit := by
      rw [halfPlace, mul_comm, ← div_div, div_lt_div_iff_of_pos_right (by positivity),
        div_lt_div_iff₀ unitPos two_pos, one_mul, mul_comm]
    rw [div_eq_zero_iff, or_iff_left (by positivity), Nat.cast_eq_zero, lost, half]
    exact_mod_cast Iff.rfl

/-- A number that few digits spell, or as many as fit and no places, lies between the same
integers when it is rounded to the places of a decimal. -/
theorem sameBrackets_toPlaces (negative : Bool) {coefficient places : ℕ}
    (few : places = 0 ∨ coefficient < 10 ^ 28) :
    SameBrackets (spelled (signText negative ++ positional coefficient places))
      (toPlaces (spelled (signText negative ++ positional coefficient places))) := by
  rw [spelled_signText, toPlaces_signed]
  by_cases fits : places ≤ 28
  · rw [toPlaces_div_of_le _ fits]
    exact .refl _
  · rw [not_le] at fits
    have digits : coefficient < 10 ^ 28 := few.resolve_left (Nat.ne_of_gt (Nat.zero_lt_of_lt fits))
    rw [toPlaces_div_of_lt _ fits]
    exact (sameBrackets_divideHalfUp digits fits).signed negative

end Decimal

end TemplateLanguage
