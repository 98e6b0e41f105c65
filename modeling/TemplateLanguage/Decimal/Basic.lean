/-!
# Decimal numbers

A decimal is a sign, a mantissa of at most 96 bits and a scale, the number of
places after the point.  The scale belongs to the number: `2.0` and `2.00` are
different decimals of equal value.  Zero may carry a sign.
-/

namespace TemplateLanguage

/-- The least mantissa that is too great. -/
def Decimal.mantissaLimit : Nat :=
  Nat.pow 2 96

/-- The decimal `±mantissa / 10 ^ scale`. -/
structure Decimal where
  negative : Bool
  mantissa : Nat
  scale : Nat
  mantissa_lt : mantissa < Decimal.mantissaLimit
  scale_le : scale ≤ 28
  deriving DecidableEq, Repr

namespace Decimal

/-- The decimal of given parts, if the mantissa and the scale are in range. -/
def ofParts? (negative : Bool) (mantissa scale : Nat) : Option Decimal :=
  if bounds : mantissa < mantissaLimit ∧ scale ≤ 28 then
    some ⟨negative, mantissa, scale, bounds.1, bounds.2⟩
  else
    none

/-- The decimal of given parts, in which zero has no sign. -/
def ofUnsignedZero? (negative : Bool) (mantissa scale : Nat) : Option Decimal :=
  ofParts? (negative && mantissa != 0) mantissa scale

/-- The decimal of an integer, if it has at most 96 bits. -/
def ofInt? (value : Int) : Option Decimal :=
  ofParts? (decide (value < 0)) value.natAbs 0

/-- The mantissa with its sign. -/
def coefficient (number : Decimal) : Int :=
  if number.negative then -(number.mantissa : Int) else number.mantissa

/-- The power of ten that divides the mantissa. -/
def unit (number : Decimal) : Nat :=
  Nat.pow 10 number.scale

/-- Digits before the point. -/
def whole (number : Decimal) : Nat :=
  number.mantissa / number.unit

/-- Digits after the point, as a number. -/
def fraction (number : Decimal) : Nat :=
  number.mantissa % number.unit

/-- Order by value. -/
def order (first second : Decimal) : Ordering :=
  compare (first.coefficient * second.unit) (second.coefficient * first.unit)

/-- The integer part, rounding toward zero. -/
def toInt (number : Decimal) : Int :=
  if number.negative then -(number.whole : Int) else number.whole

theorem coefficient_of_ofInt? {value : Int} {number : Decimal}
    (fits : ofInt? value = some number) : number.coefficient = value := by
  unfold ofInt? ofParts? at fits
  split at fits
  · cases fits
    by_cases negative : value < 0
    · simp only [coefficient, negative, decide_true, if_true]
      omega
    · simp only [coefficient, negative, decide_false, Bool.false_eq_true, if_false]
      omega
  · cases fits

theorem unit_pos (number : Decimal) : 0 < number.unit :=
  Nat.pow_pos (by decide)

end Decimal

end TemplateLanguage
