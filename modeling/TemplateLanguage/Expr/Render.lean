import TemplateLanguage.Decimal.Text
import TemplateLanguage.Expr.Basic
import TemplateLanguage.Text

/-!
# Expressions as text

An expression is written with as few parentheses as its grouping needs.  Every
expression has a binding strength, and every operand position asks for a least
strength; an operand that binds more weakly is put into parentheses.

The binary operators associate to the left, so the right operand must bind
more tightly than the operator itself.  A negative number binds like a prefix
operator.
-/

namespace TemplateLanguage

namespace Operator

/-- The strength with which a prefix operator binds. -/
def prefixStrength : Nat :=
  7

/-- The strength with which an operator binds. -/
def strength : Operator → Nat
  | disjunction => 1
  | conjunction => 2
  | equals | notEquals => 3
  | lessThan | greaterThan => 4
  | add | subtract => 5
  | multiply | divide | modulo => 6
  | fallback => 8

end Operator

namespace Expr

/-- The strength of an expression that never needs parentheses. -/
def atomStrength : Nat :=
  9

/-- The strength with which an expression binds. -/
def strength : Expr → Nat
  | binary operator _ _ => operator.strength
  | negation _ => Operator.prefixStrength
  | number value => if value.negative then Operator.prefixStrength else atomStrength
  | _ => atomStrength

/-- Put a text into parentheses where they are needed. -/
def group (needed : Bool) (text : List Char) : List Char :=
  if needed then '(' :: text ++ [')'] else text

/-- The inside of a quoted string, with backslashes and quotes escaped. -/
def escapeQuoted (value : List Char) : List Char :=
  value.flatMap fun char => if char = '\\' ∨ char = '"' then ['\\', char] else [char]

/-- The text of a string. -/
def renderString (value : List Char) (raw : Bool) : List Char :=
  if raw then 'r' :: '"' :: value ++ ['"']
  else '"' :: escapeQuoted value ++ ['"']

mutual

/-- The text of an expression. -/
def render (expression : Expr) : List Char :=
  match expression with
  | identifier name => name.toList
  | boolean value => if value then ['t', 'r', 'u', 'e'] else ['f', 'a', 'l', 's', 'e']
  | number value => value.render
  | text value raw => renderString value.toList raw
  | dot target key =>
      group (target.strength < atomStrength) target.render ++ '.' :: key.toList
  | index target key =>
      group (target.strength < atomStrength) target.render ++ '[' :: key.render ++ [']']
  | call target arguments =>
      group (target.strength < atomStrength) target.render
        ++ '(' :: Text.join [',', ' '] (renderAll arguments) ++ [')']
  | builtin target name =>
      group (target.strength < atomStrength) target.render ++ '?' :: name.toList
  | sequence items => '[' :: Text.join [',', ' '] (renderAll items) ++ [']']
  | parenthesized inner => '(' :: inner.render ++ [')']
  | negation inner => '!' :: group (inner.strength < Operator.prefixStrength) inner.render
  | binary .fallback left right =>
      group (left.strength < atomStrength) left.render
        ++ '!' :: group (right.strength < atomStrength) right.render
  | binary operator left right =>
      group (left.strength < operator.strength) left.render
        ++ ' ' :: operator.symbol.toList ++ ' '
        :: group (right.strength < operator.strength + 1) right.render
  | invalid => ['<', 'i', 'n', 'v', 'a', 'l', 'i', 'd', '>']

/-- The texts of several expressions. -/
def renderAll (expressions : List Expr) : List (List Char) :=
  match expressions with
  | [] => []
  | expression :: rest => expression.render :: renderAll rest

end

/-- The text of an expression as a string. -/
def toText (expression : Expr) : String :=
  String.ofList expression.render

theorem renderAll_eq_map (expressions : List Expr) :
    renderAll expressions = expressions.map render := by
  induction expressions with
  | nil => rfl
  | cons expression rest ih => simp [renderAll, ih]

end Expr

end TemplateLanguage
