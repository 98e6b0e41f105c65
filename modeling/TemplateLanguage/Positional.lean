/-!
# Positional notation

The text of a natural number of units, where a unit is a power of ten.
-/

namespace TemplateLanguage

/-- The text of `coefficient / 10 ^ places`, with exactly that many digits
after the point, and with no point if there are none. -/
def positional (coefficient places : Nat) : List Char :=
  let whole := Nat.toDigits 10 (coefficient / Nat.pow 10 places)
  if places = 0 then whole
  else whole ++ '.' :: (Nat.toDigits 10 (coefficient % Nat.pow 10 places)).leftpad places '0'

/-- A minus sign where it is needed. -/
def signText (negative : Bool) : List Char :=
  if negative then ['-'] else []

end TemplateLanguage
