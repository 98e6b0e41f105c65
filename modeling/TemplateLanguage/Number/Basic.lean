import TemplateLanguage.Binary.Text
import TemplateLanguage.Decimal.Binary

/-!
# Numbers with their representation

A number of the data keeps the representation in which it was produced: a
signed integer of one of four widths, a binary number of one of two formats,
or a decimal.

Conversions to an integer round toward zero.  What comes from an integer or a
decimal then keeps its low bits, and what comes from a binary number is
clamped to the range of 32 or 64 bits first.
-/

namespace TemplateLanguage

/-- A number with its representation. -/
inductive Number where
  | byte (value : Int8)
  | short (value : Int16)
  | int (value : Int32)
  | long (value : Int64)
  | float (value : Binary .single)
  | double (value : Binary .double)
  | decimal (value : Decimal)
  deriving DecidableEq, Repr

namespace Number

/-- The name of a number's representation. -/
def typeName : Number → String
  | byte _ => "byte"
  | short _ => "short"
  | int _ => "int"
  | long _ => "long"
  | float _ => "float"
  | double _ => "double"
  | decimal _ => "decimal"

/-- Whether a number is a binary floating-point number. -/
def isFloating : Number → Bool
  | float _ | double _ => true
  | _ => false

/-- The text of an integer. -/
def renderInt (value : Int) : List Char :=
  signText (decide (value < 0)) ++ Nat.toDigits 10 value.natAbs

/-- The text of a number. -/
def render : Number → List Char
  | byte value => renderInt value.toInt
  | short value => renderInt value.toInt
  | int value => renderInt value.toInt
  | long value => renderInt value.toInt
  | float value => value.render
  | double value => value.render
  | decimal value => value.render

/-- The integer part of a number, rounding toward zero; a binary number is
clamped to a range. -/
def integerPart (least greatest : Int) : Number → Int
  | byte value => value.toInt
  | short value => value.toInt
  | int value => value.toInt
  | long value => value.toInt
  | float value => value.toIntClamped least greatest
  | double value => value.toIntClamped least greatest
  | decimal value => value.toInt

/-- A number as an integer of 32 bits. -/
def toInt32 (number : Number) : Int32 :=
  .ofInt (number.integerPart Int32.minValue.toInt Int32.maxValue.toInt)

/-- A number as an integer of 64 bits. -/
def toInt64 (number : Number) : Int64 :=
  .ofInt (number.integerPart Int64.minValue.toInt Int64.maxValue.toInt)

/-- A number as an integer of 16 bits. -/
def toInt16 : Number → Int16
  | long value => .ofInt value.toInt
  | number => .ofInt number.toInt32.toInt

/-- A number as an integer of 8 bits. -/
def toInt8 : Number → Int8
  | long value => .ofInt value.toInt
  | number => .ofInt number.toInt32.toInt

/-- A number as a binary number with 53 bits. -/
def toDouble : Number → Binary .double
  | byte value => .ofInt value.toInt
  | short value => .ofInt value.toInt
  | int value => .ofInt value.toInt
  | long value => .ofInt value.toInt
  | float value => value.convert
  | double value => value
  | decimal value => value.toBinary

/-- A number as a binary number with 24 bits. -/
def toSingle : Number → Binary .single
  | int value => .ofInt value.toInt
  | long value => .ofInt value.toInt
  | float value => value
  | number => number.toDouble.convert

/-- A number as a decimal.  Infinities, what is not a number, and numbers that
are too great have none. -/
def toDecimal? : Number → Option Decimal
  | byte value => Decimal.ofInt? value.toInt
  | short value => Decimal.ofInt? value.toInt
  | int value => Decimal.ofInt? value.toInt
  | long value => Decimal.ofInt? value.toInt
  | float value => Decimal.ofBinary? value
  | double value => Decimal.ofBinary? value
  | decimal value => some value

/-- Order by value: exact if both numbers are decimals, and as binary numbers
otherwise. -/
def order? (first second : Number) : Option Ordering :=
  match first.toDecimal?, second.toDecimal? with
  | some first, some second => some (first.order second)
  | _, _ => first.toDouble.order? second.toDouble

end Number

end TemplateLanguage
