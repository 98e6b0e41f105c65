import TemplateLanguage.Decimal.Basic

/-!
# Expressions

Expressions as trees of their own, apart from any template.  `Expr.invalid`
stands for an operand that is no expression or is missing.

An expression with an identifier in it can be read as a template of
expressions: `Expr.substitute` replaces every occurrence of the identifier.
-/

namespace TemplateLanguage

/-- The operators between two operands. -/
inductive Operator where
  | add
  | subtract
  | multiply
  | divide
  | modulo
  | equals
  | notEquals
  | lessThan
  | greaterThan
  | conjunction
  | disjunction
  /-- The right operand replaces a missing left one. -/
  | fallback
  deriving DecidableEq, Repr

namespace Operator

/-- All operators. -/
def all : List Operator :=
  [add, subtract, multiply, divide, modulo, equals, notEquals, lessThan, greaterThan,
    conjunction, disjunction, fallback]

/-- The spelling of an operator. -/
def symbol : Operator → String
  | add => "+"
  | subtract => "-"
  | multiply => "*"
  | divide => "/"
  | modulo => "%"
  | equals => "=="
  | notEquals => "!="
  | lessThan => "<"
  | greaterThan => ">"
  | conjunction => "&&"
  | disjunction => "||"
  | fallback => "!"

/-- The operator with a given spelling. -/
def ofSymbol? (text : String) : Option Operator :=
  all.find? fun operator => operator.symbol = text

end Operator

/-- An expression. -/
inductive Expr where
  | identifier (name : String)
  | boolean (value : Bool)
  | number (value : Decimal)
  /-- A string; a raw one knows no escapes. -/
  | text (value : String) (raw : Bool)
  /-- The value under a fixed key. -/
  | dot (target : Expr) (key : String)
  /-- The value under a computed key. -/
  | index (target key : Expr)
  | call (target : Expr) (arguments : List Expr)
  | builtin (target : Expr) (name : String)
  | sequence (items : List Expr)
  | parenthesized (inner : Expr)
  | negation (inner : Expr)
  | binary (operator : Operator) (left right : Expr)
  | invalid
  deriving Repr

namespace Expr

/-- What holds of an expression whenever it holds of its parts holds of all
expressions. -/
@[induction_eliminator]
theorem parts_induction {motive : Expr → Prop}
    (identifier : ∀ name, motive (identifier name))
    (boolean : ∀ value, motive (boolean value))
    (number : ∀ value, motive (number value))
    (text : ∀ value raw, motive (text value raw))
    (dot : ∀ target key, motive target → motive (dot target key))
    (index : ∀ target key, motive target → motive key → motive (index target key))
    (call : ∀ target arguments, motive target → (∀ argument ∈ arguments, motive argument) →
      motive (call target arguments))
    (builtin : ∀ target name, motive target → motive (builtin target name))
    (sequence : ∀ items, (∀ item ∈ items, motive item) → motive (sequence items))
    (parenthesized : ∀ inner, motive inner → motive (parenthesized inner))
    (negation : ∀ inner, motive inner → motive (negation inner))
    (binary : ∀ operator left right, motive left → motive right →
      motive (binary operator left right))
    (invalid : motive invalid) (expression : Expr) : motive expression := by
  refine @Expr.rec motive (fun expressions => ∀ expression ∈ expressions, motive expression)
    identifier boolean number text dot index call builtin sequence parenthesized negation binary
    invalid ?_ ?_ expression
  · exact fun _ absent => absurd absent List.not_mem_nil
  · intro first others holdsFirst holdsOthers expression member
    rcases List.mem_cons.mp member with rfl | member
    · exact holdsFirst
    · exact holdsOthers expression member

/-- Whether an expression can be assigned to. -/
def isAssignable : Expr → Bool
  | identifier _ | dot _ _ | index _ _ => true
  | _ => false

mutual

/-- Replace a variable by an expression.  Keys and names of built-ins are not
variables. -/
def substitute (expression : Expr) (name : String) (replacement : Expr) : Expr :=
  match expression with
  | identifier other => if other = name then replacement else identifier other
  | boolean value => boolean value
  | number value => number value
  | text value raw => text value raw
  | dot target key => dot (target.substitute name replacement) key
  | index target key =>
      index (target.substitute name replacement) (key.substitute name replacement)
  | call target arguments =>
      call (target.substitute name replacement) (substituteAll arguments name replacement)
  | builtin target builtinName => builtin (target.substitute name replacement) builtinName
  | sequence items => sequence (substituteAll items name replacement)
  | parenthesized inner => parenthesized (inner.substitute name replacement)
  | negation inner => negation (inner.substitute name replacement)
  | binary operator left right =>
      binary operator (left.substitute name replacement) (right.substitute name replacement)
  | invalid => invalid

/-- Replace a variable in each of several expressions. -/
def substituteAll (expressions : List Expr) (name : String) (replacement : Expr) : List Expr :=
  match expressions with
  | [] => []
  | expression :: rest =>
      expression.substitute name replacement :: substituteAll rest name replacement

end

theorem substituteAll_eq_map (expressions : List Expr) (name : String) (replacement : Expr) :
    substituteAll expressions name replacement =
      expressions.map fun expression => expression.substitute name replacement := by
  induction expressions with
  | nil => rfl
  | cons expression rest ih => simp [substituteAll, ih]

end Expr

end TemplateLanguage
