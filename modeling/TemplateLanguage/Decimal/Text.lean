import TemplateLanguage.Decimal.Basic
import TemplateLanguage.Positional

/-!
# Decimals as text

A decimal is written with all of its places, and with at least one digit
before the point.

Reading keeps as many digits as fit.  The first digit after the point that
does not fit rounds the ones before it, and the digits after that one are
dropped; a digit before the point that does not fit makes the text unreadable.
-/

namespace TemplateLanguage.Decimal

/-- The text of a decimal. -/
def render (number : Decimal) : List Char :=
  signText number.negative ++ positional number.mantissa number.scale

/-- The value of a digit. -/
def digit? (char : Char) : Option Nat :=
  if char.isDigit then some (char.toNat - '0'.toNat) else none

/-- A mantissa and a scale that are being read. -/
structure Partial where
  mantissa : Nat
  scale : Nat
  deriving DecidableEq, Repr

/-- Round by a digit that does not fit. -/
def Partial.round? (read : Partial) (digit : Nat) : Option Partial :=
  let mantissa := if 5 ≤ digit then read.mantissa + 1 else read.mantissa
  if mantissa < mantissaLimit then some { read with mantissa }
  else if read.scale = 0 then none
  else some { mantissa := (mantissa + 4) / 10, scale := read.scale - 1 }

/-- Read the digits after the point. -/
def readFraction? (read : Partial) : List Char → Option Partial
  | [] => some read
  | char :: rest =>
      (digit? char).bind fun digit =>
        let mantissa := 10 * read.mantissa + digit
        if mantissa < mantissaLimit ∧ read.scale < 28 then
          readFraction? { mantissa, scale := read.scale + 1 } rest
        else
          read.round? digit

/-- Read the digits before the point and those after it. -/
def readWhole? (mantissa : Nat) : List Char → Option Partial
  | [] => some { mantissa, scale := 0 }
  | '.' :: rest => readFraction? { mantissa, scale := 0 } rest
  | char :: rest =>
      (digit? char).bind fun digit =>
        let next := 10 * mantissa + digit
        if next < mantissaLimit then readWhole? next rest else none

/-- Read a decimal without sign and give it one; zero has no sign. -/
def ofUnsigned? (negative : Bool) (text : List Char) : Option Decimal :=
  if text.any Char.isDigit then
    (readWhole? 0 text).bind fun read =>
      ofUnsignedZero? negative read.mantissa read.scale
  else
    none

/-- Read a decimal. -/
def ofText? : List Char → Option Decimal
  | '-' :: text => ofUnsigned? true text
  | '+' :: text => ofUnsigned? false text
  | text => ofUnsigned? false text

end TemplateLanguage.Decimal
