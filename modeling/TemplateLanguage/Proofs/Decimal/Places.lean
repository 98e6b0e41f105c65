import Mathlib.Algebra.Order.Round
import TemplateLanguage.Proofs.Decimal.Floor
import TemplateLanguage.Proofs.Decimal.Reading

/-!
# The places of a decimal

A text with more places than a decimal has is rounded to the places that it has, a half away from
zero: the first digit that is cut decides.  So a text with few digits is read as the number that
it spells, rounded to these places.  Rounding keeps the order of numbers, and it leaves the values
of decimals alone.
-/

namespace TemplateLanguage

open Rounding

/-! ## Rounding to places -/

namespace Rounding

/-- A number rounded to the places that a decimal has, a half away from zero. -/
def toPlaces (value : ℚ) : ℚ :=
  if value < 0 then -(round (-value * 10 ^ 28) / 10 ^ 28) else round (value * 10 ^ 28) / 10 ^ 28

theorem toPlaces_of_nonneg {value : ℚ} (nonneg : 0 ≤ value) :
    toPlaces value = round (value * 10 ^ 28) / 10 ^ 28 :=
  if_neg (not_lt.mpr nonneg)

theorem toPlaces_neg (value : ℚ) : toPlaces (-value) = -toPlaces value := by
  rcases lt_trichotomy value 0 with negative | rfl | positive
  · rw [toPlaces_of_nonneg (neg_pos.mpr negative).le, toPlaces, if_pos negative, neg_neg]
  · rw [neg_zero, toPlaces_of_nonneg le_rfl, zero_mul, round_zero, Int.cast_zero, zero_div,
      neg_zero]
  · rw [toPlaces_of_nonneg positive.le, toPlaces, if_pos (neg_lt_zero.mpr positive), neg_neg]

theorem toPlaces_signed (negative : Bool) (value : ℚ) :
    toPlaces (if negative then -value else value) =
      if negative then -toPlaces value else toPlaces value := by
  cases negative with
  | false => rfl
  | true => exact toPlaces_neg value

theorem round_mono {first second : ℚ} (le : first ≤ second) : round first ≤ round second := by
  rw [round_eq, round_eq]
  exact Int.floor_mono (add_le_add_left le _)

theorem toPlaces_le_of_nonneg {first second : ℚ} (nonneg : 0 ≤ first) (le : first ≤ second) :
    toPlaces first ≤ toPlaces second := by
  rw [toPlaces_of_nonneg nonneg, toPlaces_of_nonneg (nonneg.trans le)]
  have rounded := round_mono (mul_le_mul_of_nonneg_right le (by positivity : (0 : ℚ) ≤ 10 ^ 28))
  exact div_le_div_of_nonneg_right (by exact_mod_cast rounded) (by positivity)

theorem toPlaces_nonneg {value : ℚ} (nonneg : 0 ≤ value) : 0 ≤ toPlaces value := by
  have least := toPlaces_le_of_nonneg le_rfl nonneg
  rwa [toPlaces_of_nonneg le_rfl, zero_mul, round_zero, Int.cast_zero, zero_div] at least

theorem toPlaces_mono {first second : ℚ} (le : first ≤ second) :
    toPlaces first ≤ toPlaces second := by
  rcases le_total 0 first with nonneg | negative
  · exact toPlaces_le_of_nonneg nonneg le
  · have flipped := toPlaces_neg first
    have positive := neg_nonneg.mpr negative
    rcases le_total 0 second with otherNonneg | otherNegative
    · have low := toPlaces_nonneg positive
      have high := toPlaces_nonneg otherNonneg
      linarith
    · have kept := toPlaces_le_of_nonneg (neg_nonneg.mpr otherNegative) (neg_le_neg le)
      rw [toPlaces_neg, toPlaces_neg] at kept
      exact neg_le_neg_iff.mp kept

theorem round_div (dividend : ℕ) {divisor : ℕ} (positive : 0 < divisor) :
    round ((dividend : ℚ) / divisor) = divideHalfUp dividend divisor := by
  have nonzero : (divisor : ℚ) ≠ 0 := by exact_mod_cast positive.ne'
  have sum : (dividend : ℚ) / divisor + 1 / 2 =
      (2 * dividend + divisor : ℕ) / (2 * divisor : ℕ) := by
    push_cast
    field_simp
  rw [round_eq, sum, Rat.floor_natCast_div_natCast, divideHalfUp, Int.natCast_ediv]

/-- Rounding to places leaves a number with no more places alone. -/
theorem toPlaces_div_of_le (coefficient : ℕ) {places : ℕ} (few : places ≤ 28) :
    toPlaces (coefficient / 10 ^ places) = coefficient / 10 ^ places := by
  have scale : (10 : ℚ) ^ 28 = 10 ^ places * 10 ^ (28 - places) := by
    rw [← pow_add, Nat.add_sub_cancel' few]
  have whole : (coefficient / 10 ^ places : ℚ) * 10 ^ 28 =
      (coefficient * 10 ^ (28 - places) : ℕ) := by
    rw [scale]
    push_cast
    field_simp
  rw [toPlaces_of_nonneg (by positivity), whole, round_natCast, scale]
  push_cast
  field_simp

theorem toPlaces_div_of_lt (coefficient : ℕ) {places : ℕ} (many : 28 < places) :
    toPlaces (coefficient / 10 ^ places) =
      divideHalfUp coefficient (10 ^ (places - 28)) / 10 ^ 28 := by
  have scale : (10 : ℚ) ^ places = (10 ^ (places - 28) : ℕ) * 10 ^ 28 := by
    push_cast
    rw [← pow_add, Nat.sub_add_cancel many.le]
  have cut : (coefficient / 10 ^ places : ℚ) * 10 ^ 28 =
      coefficient / (10 ^ (places - 28) : ℕ) := by
    rw [scale]
    field_simp
  rw [toPlaces_of_nonneg (by positivity), cut, round_div _ (Nat.pow_pos (by decide)),
    Int.cast_natCast]

end Rounding

/-! ## Reading too many places -/

namespace Decimal

theorem digit_le {char : Char} (isDigit : char.isDigit = true) : char.toNat - '0'.toNat ≤ 9 := by
  have bounds := Char.isDigit_iff_toNat.mp isDigit
  have zero : '0'.toNat = 48 := rfl
  have last : '9'.toNat = 57 := rfl
  omega

theorem ofDigitChars_lt {digits : List Char}
    (allDigits : ∀ char ∈ digits, char.isDigit = true) :
    Nat.ofDigitChars 10 digits 0 < 10 ^ digits.length := by
  induction digits with
  | nil => exact Nat.one_pos
  | cons char others ih =>
      have below := ih fun other member => allDigits other (List.mem_cons_of_mem char member)
      have nine := digit_le (allDigits char List.mem_cons_self)
      rw [Nat.ofDigitChars_cons, Nat.ofDigitChars_eq_ofDigitChars_zero, List.length_cons,
        Nat.pow_succ, Nat.mul_zero, Nat.zero_add]
      calc 10 ^ others.length * (char.toNat - '0'.toNat) + Nat.ofDigitChars 10 others 0
          < 10 ^ others.length * 9 + 10 ^ others.length :=
            Nat.add_lt_add_of_le_of_lt (Nat.mul_le_mul_left _ nine) below
        _ = 10 ^ others.length * 10 := by ring

/-- The first digit that is cut tells on which side of a half the cut is. -/
theorem divideHalfUp_eq {unit kept digit rest : ℕ} (small : rest < unit) (nine : digit ≤ 9) :
    divideHalfUp (unit * (10 * kept + digit) + rest) (unit * 10) =
      if 5 ≤ digit then kept + 1 else kept := by
  have digits : unit * (10 * kept + digit) = 10 * (unit * kept) + unit * digit := by ring
  have least := Nat.zero_le (unit * digit)
  have most := Nat.mul_le_mul_left unit nine
  rw [divideHalfUp, digits]
  split
  · rename_i up
    have half := Nat.mul_le_mul_left unit up
    apply Nat.div_eq_of_lt_le
    · linarith
    · linarith
  · rename_i down
    have half := Nat.mul_le_mul_left unit (Nat.le_of_lt_succ (Nat.not_le.mp down))
    apply Nat.div_eq_of_lt_le
    · linarith
    · linarith

theorem round?_of_lt {read : Partial} {digit : ℕ} (room : read.mantissa + 1 < mantissaLimit) :
    read.round? digit =
      some ⟨if 5 ≤ digit then read.mantissa + 1 else read.mantissa, read.scale⟩ := by
  have fits : (if 5 ≤ digit then read.mantissa + 1 else read.mantissa) < mantissaLimit := by
    split <;> omega
  exact if_pos fits

/-- Few digits with too many places are rounded to the places that a decimal has. -/
theorem readFraction?_of_overlong {digits : List Char}
    (allDigits : ∀ char ∈ digits, char.isDigit = true)
    (few : Nat.ofDigitChars 10 digits 0 < 10 ^ 28) (long : 28 < digits.length) :
    readFraction? ⟨0, 0⟩ digits =
      some ⟨divideHalfUp (Nat.ofDigitChars 10 digits 0) (10 ^ (digits.length - 28)), 28⟩ := by
  obtain ⟨kept, char, rest, split, length⟩ : ∃ kept char rest,
      digits = kept ++ char :: rest ∧ kept.length = 28 :=
    ⟨digits.take 28, digits[28], digits.drop 29, by simp, by simp; omega⟩
  subst split
  -- The digit after those that are kept decides, whatever follows it.
  have keptDigits : ∀ other ∈ kept, other.isDigit = true :=
    fun other member => allDigits other (List.mem_append_left _ member)
  have restDigits : ∀ other ∈ rest, other.isDigit = true :=
    fun other member => allDigits other (List.mem_append_right _ (List.mem_cons_of_mem _ member))
  have isDigit : char.isDigit = true :=
    allDigits char (List.mem_append_right _ List.mem_cons_self)
  have places : (kept ++ char :: rest).length - 28 = rest.length + 1 := by
    rw [List.length_append, List.length_cons]
    omega
  have limit : 10 ^ 28 < mantissaLimit := by decide
  rw [Nat.ofDigitChars_append] at few
  have fits := (ofDigitChars_ge (char :: rest) (Nat.ofDigitChars 10 kept 0)).trans_lt few
  have full : ¬(10 * Nat.ofDigitChars 10 kept 0 + (char.toNat - '0'.toNat) < mantissaLimit ∧
      kept.length < 28) := fun room => room.2.ne length
  have rounded : divideHalfUp (Nat.ofDigitChars 10 (kept ++ char :: rest) 0)
      (10 ^ (rest.length + 1)) =
        if 5 ≤ char.toNat - '0'.toNat then Nat.ofDigitChars 10 kept 0 + 1
        else Nat.ofDigitChars 10 kept 0 := by
    rw [Nat.ofDigitChars_append, Nat.ofDigitChars_cons, Nat.ofDigitChars_eq_ofDigitChars_zero,
      Nat.pow_succ, divideHalfUp_eq (ofDigitChars_lt restDigits) (digit_le isDigit)]
  rw [places, rounded, readFraction?_append keptDigits (fits.trans limit) (by omega),
    Nat.zero_add, readFraction?, digit?_of_isDigit isDigit, Option.bind_some]
  simp only [if_neg full]
  rw [round?_of_lt (show Nat.ofDigitChars 10 kept 0 + 1 < mantissaLimit by omega), length]

/-- A text with few digits and too many places is rounded to the places that a decimal
has. -/
theorem ofText?_of_overlong (negative : Bool) {coefficient places : ℕ}
    (few : coefficient < 10 ^ 28) (long : 28 < places) :
    ofText? (signText negative ++ positional coefficient places) =
      ofUnsignedZero? negative (divideHalfUp coefficient (10 ^ (places - 28))) 28 := by
  have pointed : places ≠ 0 := (Nat.zero_lt_of_lt long).ne'
  have whole : coefficient / Nat.pow 10 places = 0 :=
    Nat.div_eq_of_lt (few.trans (Nat.pow_lt_pow_right (by decide) long))
  have digits : Nat.ofDigitChars 10 (fractionDigits coefficient places) 0 = coefficient := by
    have all := ofDigitChars_positional coefficient pointed
    rw [whole, Nat.ofDigitChars_append] at all
    exact all
  have read : readWhole? 0 (positional coefficient places) =
      some ⟨divideHalfUp coefficient (10 ^ (places - 28)), 28⟩ := by
    rw [positional_of_ne_zero _ pointed, whole,
      readWhole?_append (fun _ => isDigit_of_mem_toDigits) (by decide),
      Nat.ofDigitChars_ten_toDigits, readWhole?,
      readFraction?_of_overlong (fun _ => isDigit_of_mem_fractionDigits) (digits.symm ▸ few)
        (by rw [length_fractionDigits pointed]; exact long), digits,
      length_fractionDigits pointed]
  rw [ofText?_signText, read]
  rfl

theorem divideHalfUp_lt {dividend divisor : ℕ} (few : dividend < 10 ^ 28)
    (large : 1 < divisor) : divideHalfUp dividend divisor < 10 ^ 28 := by
  rw [divideHalfUp, Nat.div_lt_iff_lt_mul (by omega)]
  omega

/-! ## Reading a text -/

theorem toPlaces_value (number : Decimal) : toPlaces number.value = number.value := by
  have value : number.value = if number.negative then -(number.mantissa / 10 ^ number.scale : ℚ)
      else number.mantissa / 10 ^ number.scale := by
    rw [← spelled_signText, ← spelled_render, render]
  rw [value, toPlaces_signed, toPlaces_div_of_le _ number.scale_le]

/-- Few digits, or as many as fit and no places, are read as the number that they spell, rounded
to the places that a decimal has. -/
theorem exists_ofText?_toPlaces (negative : Bool) {coefficient places : ℕ}
    (few : places = 0 ∧ coefficient < mantissaLimit ∨ coefficient < 10 ^ 28) :
    ∃ read, ofText? (signText negative ++ positional coefficient places) = some read ∧
      read.value = toPlaces (spelled (signText negative ++ positional coefficient places)) := by
  have limit : 10 ^ 28 < mantissaLimit := by decide
  rw [spelled_signText, toPlaces_signed]
  by_cases fits : places ≤ 28
  · have small : coefficient < mantissaLimit := by omega
    obtain ⟨read, made⟩ := exists_ofUnsignedZero? negative small fits
    refine ⟨read, (ofText?_positional negative small fits).trans made, ?_⟩
    rw [value_of_ofUnsignedZero? made, apply_ite (· / _), neg_div, toPlaces_div_of_le _ fits]
  · rw [not_le] at fits
    have digits : coefficient < 10 ^ 28 := few.resolve_left fun none => by omega
    have small : divideHalfUp coefficient (10 ^ (places - 28)) < mantissaLimit :=
      (divideHalfUp_lt digits (Nat.one_lt_pow (by omega) (by decide))).trans limit
    obtain ⟨read, made⟩ := exists_ofUnsignedZero? negative small le_rfl
    refine ⟨read, (ofText?_of_overlong negative digits fits).trans made, ?_⟩
    rw [value_of_ofUnsignedZero? made, apply_ite (· / _), neg_div, toPlaces_div_of_lt _ fits]

end Decimal

end TemplateLanguage
