import TemplateLanguage.Binary.Shortest
import TemplateLanguage.Decimal.Text

/-!
# Decimals and binary numbers

A binary number becomes the decimal that its shortest text spells, so that the
number nearest to one tenth becomes one tenth.

A decimal becomes a binary number by parts: the digits before the point and
those after it are converted each on its own and added, and the sum is rounded
to as many places as the decimal has.  Every step rounds to the format with 53
bits, so the result need not be the nearest number.
-/

namespace TemplateLanguage

open Rounding

namespace Decimal

/-- The decimal that the shortest text of a binary number spells, if the
number is finite and not too great.

Where the text has no decimal, it could be read as a binary number with 53 bits
and that number be converted.  This second attempt is not made here, as it never
has a result: the text spells 2 ^ 96 or more, and so does what it is read as. -/
def ofBinary? {format : BinaryFormat} (number : Binary format) : Option Decimal :=
  if number.isFinite then ofText? number.render else none

/-- The number with 53 bits that is nearest to a quotient. -/
def near (quotient : Quotient) : Binary.Magnitude :=
  Binary.nearestMagnitude .double quotient

/-- A product of two powers, by repeated squaring, each product rounded. -/
def nearPower (result base : Binary.Magnitude) (exponent : Nat) : Binary.Magnitude :=
  if exponent = 0 then result
  else
    let next := if exponent % 2 = 1 then near (result.value.multiply base.value) else result
    nearPower next (near (base.value.multiply base.value)) (exponent / 2)
termination_by exponent
decreasing_by omega

/-- The power of ten by which a decimal is rounded on its way. -/
def nearUnit (scale : Nat) : Binary.Magnitude :=
  nearPower (near ⟨1, 1⟩) (near ⟨10, 1⟩) scale

/-- The size of a decimal as a binary number. -/
def toMagnitude (number : Decimal) : Binary.Magnitude :=
  let whole := near ⟨number.whole, 1⟩
  if number.fraction = 0 then whole
  else
    let part := near ((near ⟨number.fraction, 1⟩).value.divide (near ⟨number.unit, 1⟩).value)
    let sum := near (whole.value.add part.value)
    let unit := nearUnit number.scale
    let scaled := (near (sum.value.multiply unit.value)).value
    let rounded := divideHalfUp scaled.dividend scaled.divisor
    near (Quotient.divide ⟨rounded, 1⟩ unit.value)

/-- A decimal as a binary number. -/
def toBinary (number : Decimal) : Binary .double :=
  let negative := number.negative && (number.scale != 0 || number.mantissa != 0)
  .ofMagnitude negative number.toMagnitude

end Decimal

end TemplateLanguage
