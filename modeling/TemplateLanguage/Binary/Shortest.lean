import TemplateLanguage.Binary.Basic
import TemplateLanguage.Positional

/-!
# The shortest text of a binary number

A finite number is written with the fewest digits that still identify it among
the numbers of its format.  The reals that round to it form an interval around
it, whose ends belong to it when its mantissa is even.  The search goes
through decimal grids from coarse to fine and stops at the first one with a
point in the interval; of the two neighbours of the number on that grid the
nearer one is taken, and the greater one of two equally near.

The text is positional for numbers of every size.
-/

namespace TemplateLanguage

open Rounding

/-- The number `coefficient * 10 ^ exponent`. -/
structure Scientific where
  coefficient : Nat
  exponent : Int
  deriving DecidableEq, Repr

namespace Scientific

/-- The exact value. -/
def value (number : Scientific) : Quotient :=
  Quotient.scale ⟨number.coefficient, 1⟩ 10 number.exponent

/-- Move the zeros at the end of the coefficient into the exponent. -/
def strip (coefficient : Nat) (exponent : Int) : Scientific :=
  if shorter : coefficient ≠ 0 ∧ coefficient % 10 = 0 then strip (coefficient / 10) (exponent + 1)
  else ⟨coefficient, exponent⟩
termination_by coefficient
decreasing_by exact Nat.div_lt_self (Nat.pos_of_ne_zero shorter.1) (by decide)

/-- The text in positional notation. -/
def render (number : Scientific) : List Char :=
  match number.exponent with
  | .ofNat exponent => positional (number.coefficient * Nat.pow 10 exponent) 0
  | .negSucc exponent => positional number.coefficient (exponent + 1)

end Scientific

namespace Binary

/-- The reals that round to a number: all between two ends, and perhaps the
ends. -/
structure Interval where
  low : Quotient
  high : Quotient
  closed : Bool
  deriving DecidableEq, Repr

namespace Interval

/-- Whether an interval contains an exact quotient. -/
def contains (interval : Interval) (quotient : Quotient) : Bool :=
  match interval.low.order quotient, quotient.order interval.high with
  | .lt, .lt => true
  | .eq, .lt | .lt, .eq | .eq, .eq => interval.closed
  | _, _ => false

/-- The reals that round to a positive number.  The gap below a number with
the least mantissa of full precision is half as wide as the gap above. -/
def around (format : BinaryFormat) (number : Magnitude) : Interval :=
  let quarter := number.exponent - 2
  let below :=
    if number.mantissa = Nat.pow 2 (format.precision - 1) ∧ number.exponent ≠ format.least then 1
    else 2
  { low := Magnitude.value ⟨4 * number.mantissa - below, quarter⟩
    high := Magnitude.value ⟨4 * number.mantissa + 2, quarter⟩
    closed := number.mantissa % 2 = 0 }

end Interval

/-- The neighbour of a value on a decimal grid that lies in an interval, the
nearer one if both do. -/
def onGrid? (interval : Interval) (value : Quotient) (exponent : Int) : Option Nat :=
  let scaled := value.scale 10 (-exponent)
  let down := scaled.dividend / scaled.divisor
  let rest := scaled.dividend % scaled.divisor
  match interval.contains (Scientific.value ⟨down, exponent⟩),
      interval.contains (Scientific.value ⟨down + 1, exponent⟩) with
  | true, true => some (if 2 * rest < scaled.divisor then down else down + 1)
  | true, false => some down
  | false, true => some (down + 1)
  | false, false => none

/-- Search decimal grids from a given one to finer ones. -/
def searchGrids (interval : Interval) (value : Quotient) (exponent : Int) : Nat → Scientific
  | 0 =>
      let scaled := value.scale 10 (-exponent)
      ⟨scaled.dividend / scaled.divisor, exponent⟩
  | finer + 1 =>
      match onGrid? interval value exponent with
      | some coefficient => Scientific.strip coefficient exponent
      | none => searchGrids interval value (exponent - 1) finer

/-- The fewest digits that identify a positive number in its format.  On the
grid of its own exponent the number is a point, so the search ends there. -/
def shortest (format : BinaryFormat) (number : Magnitude) : Scientific :=
  let value := number.value
  let coarsest := magnitude 10 value
  searchGrids (Interval.around format number) value coarsest
    (coarsest - min 0 number.exponent + 1).toNat

/-- The text of a number. -/
def render {format : BinaryFormat} : Binary format → List Char
  | nan => ['N', 'a', 'N']
  | infinite negative => signText negative ++ ['i', 'n', 'f']
  | finite negative mantissa exponent _ =>
      signText negative ++
        if mantissa = 0 then ['0'] else (shortest format ⟨mantissa, exponent⟩).render

end Binary

end TemplateLanguage
