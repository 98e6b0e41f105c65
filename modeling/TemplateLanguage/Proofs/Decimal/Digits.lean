import TemplateLanguage.Decimal.Text

/-!
# The digits of decimals

The text of a decimal shows all of its parts: the sign, the digits of the
mantissa, and as many of them after the point as the scale says.  So the parts
can be read back from the text, and different decimals have different texts.
-/

namespace TemplateLanguage

/-- The digits after the point. -/
def fractionDigits (coefficient places : Nat) : List Char :=
  (Nat.toDigits 10 (coefficient % Nat.pow 10 places)).leftpad places '0'

theorem length_fractionDigits {coefficient places : Nat} (pointed : places ≠ 0) :
    (fractionDigits coefficient places).length = places := by
  have fits : (Nat.toDigits 10 (coefficient % Nat.pow 10 places)).length ≤ places := by
    rw [Nat.length_toDigits_le_iff (by decide) (Nat.pos_of_ne_zero pointed)]
    exact Nat.mod_lt _ (Nat.pow_pos (by decide))
  rw [fractionDigits, List.length_leftpad, Nat.max_eq_left fits]

theorem isDigit_of_mem_toDigits {number : Nat} {char : Char}
    (member : char ∈ Nat.toDigits 10 number) : char.isDigit = true :=
  Nat.isDigit_of_mem_toDigits (by decide) (by decide) member

theorem isDigit_of_mem_fractionDigits {coefficient places : Nat} {char : Char}
    (member : char ∈ fractionDigits coefficient places) : char.isDigit = true := by
  rw [fractionDigits, List.leftpad, List.mem_append] at member
  rcases member with padding | digit
  · rw [(List.mem_replicate.mp padding).2]
    decide
  · exact isDigit_of_mem_toDigits digit

theorem positional_of_zero (coefficient : Nat) :
    positional coefficient 0 = Nat.toDigits 10 coefficient := by
  rw [positional, if_pos rfl, Nat.pow_eq, Nat.pow_zero, Nat.div_one]

theorem positional_of_ne_zero {places : Nat} (coefficient : Nat) (pointed : places ≠ 0) :
    positional coefficient places =
      Nat.toDigits 10 (coefficient / Nat.pow 10 places) ++
        '.' :: fractionDigits coefficient places := by
  rw [positional, if_neg pointed]
  rfl

/-- The digits before the point and those after it are the digits of the
coefficient. -/
theorem ofDigitChars_positional {places : Nat} (coefficient : Nat) (pointed : places ≠ 0) :
    Nat.ofDigitChars 10 (Nat.toDigits 10 (coefficient / Nat.pow 10 places) ++
      fractionDigits coefficient places) 0 = coefficient := by
  have fraction : Nat.ofDigitChars 10 (fractionDigits coefficient places) 0 =
      coefficient % Nat.pow 10 places := by
    rw [fractionDigits, List.leftpad, Nat.ofDigitChars_append, Nat.ofDigitChars_replicate_zero,
      Nat.mul_zero, Nat.ofDigitChars_ten_toDigits]
  rw [Nat.ofDigitChars_append, Nat.ofDigitChars_ten_toDigits,
    Nat.ofDigitChars_eq_ofDigitChars_zero, fraction, length_fractionDigits pointed]
  exact Nat.div_add_mod coefficient (10 ^ places)

namespace Decimal

/-- The decimal that a sign and digits with a point in them spell out. -/
def ofDigits? (negative : Bool) (text : List Char) : Option Decimal :=
  ofParts? negative (Nat.ofDigitChars 10 (text.filter Char.isDigit) 0)
    ((text.dropWhile Char.isDigit).drop 1).length

theorem ofParts?_parts (number : Decimal) :
    ofParts? number.negative number.mantissa number.scale = some number :=
  dif_pos ⟨number.mantissa_lt, number.scale_le⟩

/-- The parts of a decimal are read back from its digits. -/
theorem ofDigits?_positional (number : Decimal) :
    ofDigits? number.negative (positional number.mantissa number.scale) = some number := by
  by_cases pointed : number.scale = 0
  · have digits : ∀ char ∈ Nat.toDigits 10 number.mantissa, char.isDigit = true :=
      fun _ => isDigit_of_mem_toDigits
    have none : (Nat.toDigits 10 number.mantissa ++ []).dropWhile Char.isDigit = [] :=
      List.dropWhile_append_of_pos digits
    rw [List.append_nil] at none
    rw [← ofParts?_parts number, ofDigits?, pointed, positional_of_zero,
      List.filter_eq_self.mpr digits, Nat.ofDigitChars_ten_toDigits, none]
    rfl
  · rw [← ofParts?_parts number, ofDigits?, positional_of_ne_zero _ pointed]
    have whole : ∀ char ∈ Nat.toDigits 10 (number.mantissa / Nat.pow 10 number.scale),
        char.isDigit = true := fun _ => isDigit_of_mem_toDigits
    have fraction : ∀ char ∈ fractionDigits number.mantissa number.scale,
        char.isDigit = true := fun _ => isDigit_of_mem_fractionDigits
    rw [List.filter_append, List.filter_cons_of_neg (by decide), List.filter_eq_self.mpr whole,
      List.filter_eq_self.mpr fraction, ofDigitChars_positional _ pointed,
      List.dropWhile_append_of_pos whole, List.dropWhile_cons_of_neg (by decide), List.drop_one,
      List.tail_cons, length_fractionDigits pointed]

end Decimal

end TemplateLanguage
