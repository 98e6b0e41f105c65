import TemplateLanguage.Binary.Basic

/-!
# Reading binary numbers

A number is read from digits with an optional point and an optional power of
ten, and rounded once, from its exact value.
-/

namespace TemplateLanguage.Binary

open Rounding

variable {format : BinaryFormat}

/-- The number that digits spell. -/
def ofDigits (digits : List Char) : Nat :=
  digits.foldl (fun number digit => 10 * number + (digit.toNat - '0'.toNat)) 0

/-- The number nearest to `coefficient * 10 ^ exponent`.  Values beyond the
range of the format are told by their number of digits, before any power of
ten is computed. -/
def ofScientific (negative : Bool) (coefficient : Nat) (exponent : Int) : Binary format :=
  let digits : Int := digitCount 10 coefficient + exponent
  if coefficient = 0 ∨ digits < format.least then nearest negative ⟨0, 1⟩
  else if format.greatest + format.precision < digits then .infinite negative
  else nearest negative (Quotient.scale ⟨coefficient, 1⟩ 10 exponent)

/-- Read an integer: digits after an optional sign. -/
def readExponent? (text : List Char) : Option Int :=
  let digits? (text : List Char) : Option Nat :=
    if text ≠ [] ∧ text.all Char.isDigit then some (ofDigits text) else none
  match text with
  | '-' :: text => (digits? text).map fun exponent => -(exponent : Int)
  | '+' :: text => (digits? text).map Int.ofNat
  | text => (digits? text).map Int.ofNat

/-- Read a number without sign. -/
def ofUnsigned? (negative : Bool) (text : List Char) : Option (Binary format) :=
  let whole := text.takeWhile Char.isDigit
  let afterWhole := text.dropWhile Char.isDigit
  let (fraction, afterFraction) :=
    match afterWhole with
    | '.' :: rest => (rest.takeWhile Char.isDigit, rest.dropWhile Char.isDigit)
    | rest => ([], rest)
  let exponent? :=
    match afterFraction with
    | [] => some 0
    | 'e' :: rest | 'E' :: rest => readExponent? rest
    | _ => none
  if whole = [] ∧ fraction = [] then none
  else
    exponent?.map fun exponent =>
      ofScientific negative (ofDigits (whole ++ fraction)) (exponent - fraction.length)

/-- Read a number, which may be infinite or none. -/
def ofText? (text : List Char) : Option (Binary format) :=
  let (negative, unsigned) :=
    match text with
    | '-' :: rest => (true, rest)
    | '+' :: rest => (false, rest)
    | rest => (false, rest)
  let word := String.ofList (unsigned.map Char.toLower)
  if word = "nan" then some .nan
  else if word = "inf" ∨ word = "infinity" then some (.infinite negative)
  else ofUnsigned? negative unsigned

end TemplateLanguage.Binary
