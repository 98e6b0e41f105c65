import TemplateLanguage.Expr.Basic
import TemplateLanguage.Proofs.Token.Reading

/-!
# Well-formed expressions

The expressions that can be written: nothing in them is invalid, what is
written as a name is one, and no raw string holds the quote that would end it.
Numbers and other strings are arbitrary.
-/

namespace TemplateLanguage.Expr

/-- Expressions whose names are names and whose raw strings hold no quote. -/
inductive WellFormed : Expr → Prop
  | identifier {name : String} : Token.isName name.toList = true → WellFormed (identifier name)
  | boolean (value : Bool) : WellFormed (boolean value)
  | number (value : Decimal) : WellFormed (number value)
  | quoted (value : String) : WellFormed (text value false)
  | raw {value : String} : '"' ∉ value.toList → WellFormed (text value true)
  | dot {target : Expr} {key : String} : WellFormed target → Token.isName key.toList = true →
      WellFormed (dot target key)
  | index {target key : Expr} : WellFormed target → WellFormed key →
      WellFormed (index target key)
  | call {target : Expr} {arguments : List Expr} : WellFormed target →
      (∀ argument ∈ arguments, WellFormed argument) → WellFormed (call target arguments)
  | builtin {target : Expr} {name : String} : WellFormed target →
      Token.isName name.toList = true → WellFormed (builtin target name)
  | sequence {items : List Expr} : (∀ item ∈ items, WellFormed item) →
      WellFormed (sequence items)
  | parenthesized {inner : Expr} : WellFormed inner → WellFormed (parenthesized inner)
  | negation {inner : Expr} : WellFormed inner → WellFormed (negation inner)
  | binary (operator : Operator) {left right : Expr} : WellFormed left → WellFormed right →
      WellFormed (binary operator left right)

/-- Substitution keeps expressions well formed. -/
theorem WellFormed.substitute {expression replacement : Expr} (formed : WellFormed expression)
    (name : String) (replacementFormed : WellFormed replacement) :
    WellFormed (expression.substitute name replacement) := by
  induction formed with
  | @identifier other named =>
      rw [Expr.substitute]
      by_cases same : other = name
      · rw [if_pos same]
        exact replacementFormed
      · rw [if_neg same]
        exact .identifier named
  | boolean value => exact .boolean value
  | number value => exact .number value
  | quoted value => exact .quoted value
  | raw unquoted => exact .raw unquoted
  | dot _ named ih => exact .dot ih named
  | index _ _ ihTarget ihKey => exact .index ihTarget ihKey
  | call _ _ ihTarget ihArguments =>
      rw [Expr.substitute, substituteAll_eq_map]
      apply WellFormed.call ihTarget
      exact List.forall_mem_map.mpr ihArguments
  | builtin _ named ih => exact .builtin ih named
  | sequence _ ih =>
      rw [Expr.substitute, substituteAll_eq_map]
      exact .sequence (List.forall_mem_map.mpr ih)
  | parenthesized _ ih => exact .parenthesized ih
  | negation _ ih => exact .negation ih
  | binary operator _ _ ihLeft ihRight => exact .binary operator ihLeft ihRight

end TemplateLanguage.Expr
