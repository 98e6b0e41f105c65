/-!
# Rounding exact quotients

Numbers between which a conversion has to choose are exact quotients of
natural numbers.  This file rounds a quotient to an integer and finds the
order of magnitude of a quotient in a given base.
-/

namespace TemplateLanguage.Rounding

/-- A quotient rounded to the nearest integer, a half to the even one. -/
def divideToEven (dividend divisor : Nat) : Nat :=
  let quotient := dividend / divisor
  let twice := 2 * (dividend % divisor)
  if twice < divisor ∨ (twice = divisor ∧ quotient % 2 = 0) then quotient
  else quotient + 1

/-- A quotient rounded to the nearest integer, a half to the greater one. -/
def divideHalfUp (dividend divisor : Nat) : Nat :=
  (2 * dividend + divisor) / (2 * divisor)

/-- A quotient of natural numbers. -/
structure Quotient where
  dividend : Nat
  divisor : Nat
  deriving DecidableEq, Repr

namespace Quotient

/-- A quotient times a power of a base. -/
def scale (quotient : Quotient) (base : Nat) : Int → Quotient
  | .ofNat exponent => { quotient with dividend := quotient.dividend * Nat.pow base exponent }
  | .negSucc exponent => { quotient with divisor := quotient.divisor * Nat.pow base (exponent + 1) }

/-- The sum of two quotients. -/
def add (first second : Quotient) : Quotient :=
  { dividend := first.dividend * second.divisor + second.dividend * first.divisor
    divisor := first.divisor * second.divisor }

/-- The product of two quotients. -/
def multiply (first second : Quotient) : Quotient :=
  ⟨first.dividend * second.dividend, first.divisor * second.divisor⟩

/-- The quotient of two quotients. -/
def divide (first second : Quotient) : Quotient :=
  ⟨first.dividend * second.divisor, first.divisor * second.dividend⟩

/-- Order by value. -/
def order (first second : Quotient) : Ordering :=
  compare (first.dividend * second.divisor) (second.dividend * first.divisor)

end Quotient

/-- Number of digits of a number in a base; zero has none. -/
def digitCount (base number : Nat) : Nat :=
  if shorter : 1 < base ∧ number ≠ 0 then 1 + digitCount base (number / base) else 0
termination_by number
decreasing_by exact Nat.div_lt_self (Nat.pos_of_ne_zero shorter.2) shorter.1

/-- The exponent of the greatest power of a base that is not above a positive
quotient. -/
def magnitude (base : Nat) (quotient : Quotient) : Int :=
  let guess : Int := digitCount base quotient.dividend - digitCount base quotient.divisor
  let shifted := quotient.scale base (-guess)
  if shifted.divisor ≤ shifted.dividend then guess else guess - 1

end TemplateLanguage.Rounding
