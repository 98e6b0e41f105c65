import TemplateLanguage.Number.Cast
import TemplateLanguage.Proofs.Decimal.Rounding
import TemplateLanguage.Proofs.Number.Value
import TemplateLanguage.Proofs.Value.Order

/-!
# Rounding numbers

Numbers that are not floating-point numbers are rounded as decimals.  Integers stay
as they are.  A decimal becomes the nearest integer, a half going up, but the integer
after that one if the sum with one half overruns.
-/

namespace TemplateLanguage

/-- Integers of 64 bits are far from the limit of decimals. -/
theorem Decimal.not_overruns_of_lt {number : Decimal} (integral : number.scale = 0)
    (small : number.coefficient.natAbs < 2 ^ 64) : ¬number.Overruns := by
  intro overruns
  have crowded := overruns.crowded
  rw [halfSum_of_scale_eq_zero integral, mantissaLimit_eq] at crowded
  omega

namespace Number

/-- An integer is a decimal without places, and it has at most 64 bits. -/
theorem integer_of_toDecimal? {number : Number} {decimal : Decimal}
    (exact : number.isFloating = false) (integer : ∀ value, number ≠ .decimal value)
    (converts : number.toDecimal? = some decimal) :
    decimal.scale = 0 ∧ decimal.coefficient.natAbs < 2 ^ 64 := by
  cases represents : number.integer? with
  | some value =>
      obtain ⟨least, greatest⟩ := bounds_of_integer? represents
      rw [(eq_of_integer? represents).2.1] at converts
      rw [Decimal.coefficient_of_ofInt? converts]
      exact ⟨Decimal.scale_of_ofInt? converts, by omega⟩
  | none =>
      cases number with
      | byte | short | int | long => cases represents
      | float | double => cases exact
      | decimal value => exact absurd rfl (integer value)

end Number

namespace NumericCast

theorem apply_round_of_toDecimal? {number : Number} {decimal : Decimal}
    (converts : number.toDecimal? = some decimal) :
    NumericCast.round.apply number = .ok (.decimal decimal.round) := by
  rw [apply, roundWith, converts]

/-- Rounding a number that is not a floating-point number. -/
theorem apply_round {number : Number} (exact : number.isFloating = false) :
    ∃ decimal rounded, number.toDecimal? = some decimal ∧ decimal.value = number.value ∧
      NumericCast.round.apply number = .ok (.decimal rounded) ∧ rounded.scale = 0 ∧
      (decimal.Overruns → rounded.value = ⌊number.value + 1 / 2⌋ + 1) ∧
      (¬decimal.Overruns → rounded.value = ⌊number.value + 1 / 2⌋) ∧
      ((∀ value, number ≠ .decimal value) → rounded.value = number.value) ∧
      NumericCast.round.apply (.decimal rounded) = .ok (.decimal rounded) ∧
      ∀ greater other, greater.isFloating = false → number.value ≤ greater.value →
        NumericCast.round.apply greater = .ok (.decimal other) → rounded.value ≤ other.value := by
  obtain ⟨decimal, converts⟩ := Number.exists_toDecimal? exact
  have value := Number.value_eq_value exact converts
  refine ⟨decimal, decimal.round, converts, value.symm, apply_round_of_toDecimal? converts,
    decimal.isInteger_round.scale_eq, ?_, ?_, ?_, ?_, ?_⟩
  · intro overruns
    rw [value, Decimal.value_round_of_overruns overruns, Int.cast_add, Int.cast_one]
  · intro regular
    rw [value, Decimal.value_round regular]
  · intro integer
    obtain ⟨integral, small⟩ := Number.integer_of_toDecimal? exact integer converts
    have digits : decimal.value = decimal.coefficient := by
      rw [Decimal.value_eq, integral, pow_zero, div_one]
    rw [value, Decimal.value_round (Decimal.not_overruns_of_lt integral small), digits,
      Int.cast_inj, Int.floor_eq_iff]
    constructor <;> linarith
  · have again : Number.toDecimal? (.decimal decimal.round) = some decimal.round := rfl
    rw [apply_round_of_toDecimal? again, Decimal.round_round]
  · intro greater other otherExact le rounds
    obtain ⟨otherDecimal, otherConverts⟩ := Number.exists_toDecimal? otherExact
    rw [apply_round_of_toDecimal? otherConverts] at rounds
    cases rounds
    apply Decimal.value_round_mono
    rw [← value, ← Number.value_eq_value otherExact otherConverts]
    exact le

/-- The decimal `7.4999999999999999999999999999`. -/
def belowHalf : Decimal :=
  ⟨false, 74999999999999999999999999999, 28, by decide, by decide⟩

/-- The sum of this decimal and one half is eight but for its last place. -/
theorem apply_round_belowHalf :
    Number.isFloating (.decimal belowHalf) = false ∧
      ∃ rounded, NumericCast.round.apply (.decimal belowHalf) = .ok (.decimal rounded) ∧
        belowHalf.Overruns ∧ ⌊Number.value (.decimal belowHalf) + 1 / 2⌋ = 7 ∧
        rounded.value = 8 := by
  obtain ⟨decimal, rounded, converts, _, rounds, _, overrun, regular, _⟩ :=
    apply_round (show Number.isFloating (.decimal belowHalf) = false from rfl)
  cases converts
  have floor : ⌊Number.value (.decimal belowHalf) + 1 / 2⌋ = 7 := by
    rw [Number.value_eq_value rfl rfl, Decimal.value_eq, Int.floor_eq_iff]
    norm_num [belowHalf, Decimal.coefficient]
  have same : rounded = ⟨false, 8, 0, by decide, Nat.zero_le 28⟩ := by
    have computed : NumericCast.round.apply (.decimal belowHalf) =
        .ok (.decimal ⟨false, 8, 0, by decide, Nat.zero_le 28⟩) := by decide +kernel
    rw [computed] at rounds
    cases rounds
    rfl
  have value : rounded.value = 8 := by
    rw [same, Decimal.value_eq]
    norm_num [Decimal.coefficient]
  have overruns : belowHalf.Overruns := by
    by_contra not
    have small := regular not
    rw [value, floor] at small
    norm_num at small
  exact ⟨rfl, rounded, rounds, overruns, floor, value⟩

/-- An integer that its sum with one half carries to the next one. -/
def oddInteger : Decimal :=
  (Decimal.ofInt? 7922816251426433759354395035).get (by decide)

/-- Rounding does not keep every integer. -/
theorem apply_round_oddInteger :
    ∃ rounded, NumericCast.round.apply (.decimal oddInteger) = .ok (.decimal rounded) ∧
      Number.value (.decimal oddInteger) = 7922816251426433759354395035 ∧
      rounded.value = 7922816251426433759354395036 ∧
      rounded.value ≠ ⌊Number.value (.decimal oddInteger) + 1 / 2⌋ := by
  have value : Number.value (.decimal oddInteger) = 7922816251426433759354395035 := by
    rw [Number.value_eq_value rfl rfl, oddInteger, Decimal.value_of_ofInt? (Option.some_get _).symm]
    norm_num
  have floor : ⌊Number.value (.decimal oddInteger) + 1 / 2⌋ = 7922816251426433759354395035 := by
    rw [value, Int.floor_eq_iff]
    norm_num
  refine ⟨⟨false, 7922816251426433759354395036, 0, by decide, Nat.zero_le 28⟩, by decide +kernel,
    value, ?_, ?_⟩
  · rw [Decimal.value_eq]
    norm_num [Decimal.coefficient]
  · rw [floor, Decimal.value_eq]
    norm_num [Decimal.coefficient]

end NumericCast

end TemplateLanguage
