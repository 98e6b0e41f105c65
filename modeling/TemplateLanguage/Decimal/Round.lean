import TemplateLanguage.Decimal.Basic
import TemplateLanguage.Rounding

/-!
# Rounding decimals

`floor` and `ceiling` cut the places after the point and step away from zero
where the cut went the wrong way; the sign of a negative number stays even
when nothing else is left of it.  `round` adds one half and takes the floor.

A sum is exact when its mantissa fits.  Otherwise it gives up the fewest
places that make it fit, rounding a half to the even neighbour.
-/

namespace TemplateLanguage.Decimal

/-- Cut the places after the point. -/
def truncate (number : Decimal) : Decimal :=
  { negative := number.negative
    mantissa := number.whole
    scale := 0
    mantissa_lt := Nat.lt_of_le_of_lt (Nat.div_le_self _ _) number.mantissa_lt
    scale_le := Nat.zero_le 28 }

theorem whole_succ_lt {number : Decimal} (cut : number.fraction ≠ 0) :
    number.whole + 1 < mantissaLimit := by
  have scaled : 10 ≤ number.unit := by
    unfold fraction unit at cut
    cases shape : number.scale with
    | zero => simp [shape, Nat.mod_one] at cut
    | succ scale =>
        have := Nat.pow_pos (n := scale) (show 0 < 10 by decide)
        simp only [unit, shape, Nat.pow_eq, Nat.pow_succ]
        omega
  have quotient : number.whole ≤ number.mantissa / 10 :=
    Nat.div_le_div_left scaled (by decide)
  have := number.mantissa_lt
  have : mantissaLimit = 79228162514264337593543950336 := by decide
  omega

/-- The next integer away from zero, where places were cut. -/
def stepAway (number : Decimal) (cut : number.fraction ≠ 0) : Decimal :=
  { negative := number.negative
    mantissa := number.whole + 1
    scale := 0
    mantissa_lt := whole_succ_lt cut
    scale_le := Nat.zero_le 28 }

/-- The greatest integer that is not above a decimal. -/
def floor (number : Decimal) : Decimal :=
  if cut : number.fraction ≠ 0 then
    if number.negative then number.stepAway cut else number.truncate
  else
    number.truncate

/-- The least integer that is not below a decimal. -/
def ceiling (number : Decimal) : Decimal :=
  if cut : number.fraction ≠ 0 then
    if number.negative then number.truncate else number.stepAway cut
  else
    number.truncate

/-- Give up the fewest places, at least `dropped` of them and at most `left`
more, so that the mantissa fits. -/
def fit? (negative : Bool) (mantissa scale dropped : Nat) : Nat → Option Decimal
  | 0 =>
      ofUnsignedZero? negative (Rounding.divideToEven mantissa (Nat.pow 10 dropped))
        (scale - dropped)
  | left + 1 =>
      let rounded := Rounding.divideToEven mantissa (Nat.pow 10 dropped)
      if rounded < mantissaLimit then ofUnsignedZero? negative rounded (scale - dropped)
      else fit? negative mantissa scale (dropped + 1) left

/-- The sum of two decimals at the greater scale, if it can be made to fit. -/
def add? (first second : Decimal) : Option Decimal :=
  let scale := max first.scale second.scale
  let sum := first.coefficient * Nat.pow 10 (scale - first.scale)
    + second.coefficient * Nat.pow 10 (scale - second.scale)
  fit? (decide (sum < 0)) sum.natAbs scale 0 scale

/-- One half. -/
def half : Decimal :=
  ⟨false, 5, 1, by decide, by decide⟩

/-- The integer nearest to a decimal, a half going up; a decimal to which one
half cannot be added is its own floor. -/
def round (number : Decimal) : Decimal :=
  ((number.add? half).getD number).floor

end TemplateLanguage.Decimal
