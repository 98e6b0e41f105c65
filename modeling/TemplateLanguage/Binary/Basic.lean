import TemplateLanguage.Rounding

/-!
# Binary floating-point numbers

A format fixes the precision of mantissas and the range of exponents.  A
finite number of the format is a signed mantissa times a power of two in its
canonical form: the mantissa has full precision unless the exponent is the
least one.  Besides there are two infinities and one number that is none.

`Binary.nearest` rounds an exact quotient to the format, to the nearest number
and a half to the even mantissa; every operation goes through it.
-/

namespace TemplateLanguage

open Rounding

/-- A binary floating-point format. -/
structure BinaryFormat where
  /-- Number of bits of a mantissa. -/
  precision : Nat
  /-- The exponent of the smallest numbers. -/
  least : Int
  /-- The exponent of the greatest numbers. -/
  greatest : Int
  deriving DecidableEq, Repr

namespace BinaryFormat

/-- The format with mantissas of 24 bits. -/
def single : BinaryFormat :=
  ⟨24, -149, 104⟩

/-- The format with mantissas of 53 bits. -/
def double : BinaryFormat :=
  ⟨53, -1074, 971⟩

/-- The mantissas and exponents that finite numbers have. -/
def Canonical (format : BinaryFormat) (mantissa : Nat) (exponent : Int) : Prop :=
  mantissa < Nat.pow 2 format.precision ∧ format.least ≤ exponent ∧ exponent ≤ format.greatest ∧
    (Nat.pow 2 (format.precision - 1) ≤ mantissa ∨ exponent = format.least)

instance (format : BinaryFormat) (mantissa : Nat) (exponent : Int) :
    Decidable (format.Canonical mantissa exponent) :=
  inferInstanceAs (Decidable (_ ∧ _))

end BinaryFormat

/-- A number of a binary format. -/
inductive Binary (format : BinaryFormat) where
  /-- Not a number. -/
  | nan
  | infinite (negative : Bool)
  /-- The number `±mantissa * 2 ^ exponent`. -/
  | finite (negative : Bool) (mantissa : Nat) (exponent : Int)
      (canonical : format.Canonical mantissa exponent)
  deriving DecidableEq, Repr

namespace Binary

variable {format : BinaryFormat}

/-- A nonnegative number `mantissa * 2 ^ exponent` of any size. -/
structure Magnitude where
  mantissa : Nat
  exponent : Int
  deriving DecidableEq, Repr

namespace Magnitude

/-- The exact value. -/
def value (magnitude : Magnitude) : Quotient :=
  Quotient.scale ⟨magnitude.mantissa, 1⟩ 2 magnitude.exponent

end Magnitude

/-- The exponent with which a format writes an exact quotient. -/
def exponentOf (format : BinaryFormat) (quotient : Quotient) : Int :=
  max format.least (magnitude 2 quotient - format.precision + 1)

/-- The number nearest to an exact quotient, if there were no greatest
exponent. -/
def nearestMagnitude (format : BinaryFormat) (quotient : Quotient) : Magnitude :=
  if quotient.dividend = 0 then ⟨0, format.least⟩
  else
    let exponent := exponentOf format quotient
    let scaled := quotient.scale 2 (-exponent)
    let mantissa := divideToEven scaled.dividend scaled.divisor
    if mantissa = Nat.pow 2 format.precision then ⟨Nat.pow 2 (format.precision - 1), exponent + 1⟩
    else ⟨mantissa, exponent⟩

/-- A signed magnitude as a number; one that is too great becomes infinite. -/
def ofMagnitude (negative : Bool) (magnitude : Magnitude) : Binary format :=
  if canonical : format.Canonical magnitude.mantissa magnitude.exponent then
    .finite negative magnitude.mantissa magnitude.exponent canonical
  else
    .infinite negative

/-- The number nearest to an exact quotient with a sign. -/
def nearest (negative : Bool) (quotient : Quotient) : Binary format :=
  ofMagnitude negative (nearestMagnitude format quotient)

/-- The number nearest to an integer. -/
def ofInt (value : Int) : Binary format :=
  nearest (decide (value < 0)) ⟨value.natAbs, 1⟩

/-- The nearest number of another format. -/
def convert {other : BinaryFormat} : Binary format → Binary other
  | nan => nan
  | infinite negative => infinite negative
  | finite negative mantissa exponent _ => nearest negative (Magnitude.value ⟨mantissa, exponent⟩)

/-- Whether a number is neither infinite nor none. -/
def isFinite : Binary format → Bool
  | finite .. => true
  | _ => false

/-- An exact signed value as an integer over a divisor, for finite numbers. -/
def signedValue? : Binary format → Option (Int × Nat)
  | finite negative mantissa exponent _ =>
      let value := Magnitude.value ⟨mantissa, exponent⟩
      some (if negative then -(value.dividend : Int) else value.dividend, value.divisor)
  | _ => none

/-- Order by value.  Both zeros are equal, and what is not a number has no
order. -/
def order? (first second : Binary format) : Option Ordering :=
  match first, second with
  | nan, _ | _, nan => none
  | infinite negative, infinite other => some (compare other negative)
  | infinite negative, finite .. => some (if negative then .lt else .gt)
  | finite .., infinite negative => some (if negative then .gt else .lt)
  | first, second =>
      match first.signedValue?, second.signedValue? with
      | some (value, divisor), some (other, otherDivisor) =>
          some (compare (value * otherDivisor) (other * divisor))
      | _, _ => none

/-- The integer part clamped to a range, rounding toward zero.  What is not a
number counts as zero. -/
def toIntClamped (least greatest : Int) : Binary format → Int
  | nan => 0
  | infinite negative => if negative then least else greatest
  | finite negative mantissa exponent _ =>
      let value := Magnitude.value ⟨mantissa, exponent⟩
      let whole : Int := (value.dividend / value.divisor : Nat)
      max least (min greatest (if negative then -whole else whole))

/-- Number of bits of the interchange encoding. -/
def encodingWidth (format : BinaryFormat) : Nat :=
  format.precision + Nat.log2 (format.greatest - format.least + 3).toNat

/-- The interchange encoding, for what is a number. -/
def encoding? : Binary format → Option Nat
  | nan => none
  | infinite negative =>
      some (signBit negative + (format.greatest - format.least + 2).toNat * lead)
  | finite negative mantissa exponent _ =>
      some (signBit negative + (exponent - format.least).toNat * lead + mantissa)
where
  /-- The weight of the leading bit of a mantissa. -/
  lead : Nat := Nat.pow 2 (format.precision - 1)
  /-- The weight of the sign. -/
  signBit (negative : Bool) : Nat :=
    if negative then Nat.pow 2 (encodingWidth format - 1) else 0

/-- The interchange encoding in hexadecimal digits. -/
def hex? (number : Binary format) : Option (List Char) :=
  number.encoding?.map fun bits =>
    (Nat.toDigits 16 bits).leftpad (encodingWidth format / 4) '0'

end Binary

end TemplateLanguage
