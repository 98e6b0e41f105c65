import Mathlib.Data.Rat.Cast.Order
import Mathlib.Tactic.NormNum
import TemplateLanguage.Decimal.Text
import TemplateLanguage.Proofs.Decimal.Digits
import TemplateLanguage.Proofs.Decimal.Order

/-!
# The numbers that texts spell

A text in positional notation spells a rational number, and the text of a decimal
spells the decimal.
-/

namespace TemplateLanguage

/-- The number that digits with at most one point among them spell. -/
def spelledSize (text : List Char) : ℚ :=
  Nat.ofDigitChars 10 (text.filter Char.isDigit) 0 /
    10 ^ ((text.dropWhile Char.isDigit).drop 1).length

/-- The number that digits spell, after a minus sign or none. -/
def spelled : List Char → ℚ
  | '-' :: text => -spelledSize text
  | text => spelledSize text

theorem spelledSize_positional (coefficient places : ℕ) :
    spelledSize (positional coefficient places) = coefficient / 10 ^ places := by
  by_cases pointed : places = 0
  · have digits : ∀ char ∈ Nat.toDigits 10 coefficient, char.isDigit = true :=
      fun _ => isDigit_of_mem_toDigits
    have none : (Nat.toDigits 10 coefficient ++ []).dropWhile Char.isDigit = [] :=
      List.dropWhile_append_of_pos digits
    rw [List.append_nil] at none
    rw [spelledSize, pointed, positional_of_zero, List.filter_eq_self.mpr digits,
      Nat.ofDigitChars_ten_toDigits, none]
    rfl
  · have whole : ∀ char ∈ Nat.toDigits 10 (coefficient / Nat.pow 10 places),
        char.isDigit = true := fun _ => isDigit_of_mem_toDigits
    have fraction : ∀ char ∈ fractionDigits coefficient places, char.isDigit = true :=
      fun _ => isDigit_of_mem_fractionDigits
    rw [spelledSize, positional_of_ne_zero _ pointed, List.filter_append,
      List.filter_cons_of_neg (by decide), List.filter_eq_self.mpr whole,
      List.filter_eq_self.mpr fraction, ofDigitChars_positional _ pointed,
      List.dropWhile_append_of_pos whole, List.dropWhile_cons_of_neg (by decide), List.drop_one,
      List.tail_cons, length_fractionDigits pointed]

/-- Positional notation starts with a digit. -/
theorem exists_positional_eq_cons (coefficient places : ℕ) :
    ∃ digit rest, positional coefficient places = digit :: rest ∧ digit.isDigit = true := by
  have starts : ∀ number, ∃ digit rest, Nat.toDigits 10 number = digit :: rest ∧
      digit.isDigit = true := by
    intro number
    cases written : Nat.toDigits 10 number with
    | nil => exact absurd written Nat.toDigits_ne_nil
    | cons digit rest =>
        exact ⟨digit, rest, rfl, isDigit_of_mem_toDigits (written ▸ List.mem_cons_self)⟩
  by_cases pointed : places = 0
  · rw [pointed, positional_of_zero]
    exact starts coefficient
  · obtain ⟨digit, rest, written, isDigit⟩ := starts (coefficient / Nat.pow 10 places)
    rw [positional_of_ne_zero _ pointed, written, List.cons_append]
    exact ⟨digit, _, rfl, isDigit⟩

theorem spelled_positional (coefficient places : ℕ) :
    spelled (positional coefficient places) = coefficient / 10 ^ places := by
  rw [← spelledSize_positional, spelled]
  intro text sign
  obtain ⟨digit, rest, written, isDigit⟩ := exists_positional_eq_cons coefficient places
  rw [written, List.cons.injEq] at sign
  rw [sign.1] at isDigit
  exact absurd isDigit (by decide)

theorem spelled_signText (negative : Bool) (coefficient places : ℕ) :
    spelled (signText negative ++ positional coefficient places) =
      if negative then -(coefficient / 10 ^ places : ℚ) else coefficient / 10 ^ places := by
  cases negative with
  | false => exact spelled_positional coefficient places
  | true => exact congrArg Neg.neg (spelledSize_positional coefficient places)

theorem abs_spelled_signText (negative : Bool) (coefficient places : ℕ) :
    |spelled (signText negative ++ positional coefficient places)| =
      coefficient / 10 ^ places := by
  have nonneg : (0 : ℚ) ≤ coefficient / 10 ^ places := by positivity
  rw [spelled_signText]
  cases negative with
  | false => exact abs_of_nonneg nonneg
  | true => exact (abs_neg _).trans (abs_of_nonneg nonneg)

/-- The text of a decimal spells the decimal. -/
theorem Decimal.spelled_render (number : Decimal) : spelled number.render = number.value := by
  rw [Decimal.render, spelled_signText, Decimal.value, Decimal.coefficient, Decimal.unit,
    Nat.pow_eq]
  cases number.negative with
  | false => simp
  | true => simp [neg_div]

end TemplateLanguage
