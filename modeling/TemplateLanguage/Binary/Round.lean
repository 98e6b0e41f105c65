import TemplateLanguage.Binary.Basic

/-!
# Rounding binary numbers to integers

`floor` and `ceiling` cut the places after the point and step away from zero
where the cut went the wrong way; zero keeps the sign of the number.  `round`
adds one half, which is rounded to the format like every sum, and takes the
floor.
-/

namespace TemplateLanguage.Binary

variable {format : BinaryFormat}

/-- The integral number next to a number, the one above it or the one below
it. -/
def toIntegral (up : Bool) : Binary format → Binary format
  | finite negative mantissa exponent canonical =>
      if 0 ≤ exponent then finite negative mantissa exponent canonical
      else
        let unit := Nat.pow 2 exponent.natAbs
        let whole := mantissa / unit
        -- The cut goes toward zero, so a step is due on one side of zero only.
        let away := negative != up && mantissa % unit != 0
        nearest negative ⟨if away then whole + 1 else whole, 1⟩
  | number => number

/-- The greatest integral number that is not above a number. -/
def floor (number : Binary format) : Binary format :=
  number.toIntegral false

/-- The least integral number that is not below a number. -/
def ceiling (number : Binary format) : Binary format :=
  number.toIntegral true

/-- The sum of a number and one half. -/
def addHalf (number : Binary format) : Binary format :=
  match number.signedValue? with
  | some (value, divisor) =>
      let sum := 2 * value + divisor
      nearest (decide (sum < 0)) ⟨sum.natAbs, 2 * divisor⟩
  | none => number

/-- The integer nearest to a number, a half going up, but for the rounding of
the sum. -/
def round (number : Binary format) : Binary format :=
  number.addHalf.floor

end TemplateLanguage.Binary
