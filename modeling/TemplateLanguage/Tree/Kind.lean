import TemplateLanguage.Dictionary
import TemplateLanguage.Expr.Basic

/-!
# Kinds of nodes

A template is made of nodes, and the kind of a node says which construct it
stands for.  Each constructor documents the children that belong to it; where
a kind refers to a child, it holds the number of the child's node.
-/

namespace TemplateLanguage

/-- The number of a node in its tree.  It has 32 bits, as trees stay below
2 ^ 32 nodes. -/
abbrev NodeId :=
  Nat

namespace NodeId

/-- How a node is named in a message. -/
def text (id : NodeId) : String :=
  "#" ++ toString id

end NodeId

/-- Whether calling a macro yields a value. -/
inductive MacroKind where
  /-- Writes output and returns nothing. -/
  | procedure
  /-- Must return a value. -/
  | function
  deriving DecidableEq, Repr

/-- The spellings of an assignment. -/
inductive AssignDirective where
  /-- Assigns to a variable that is already declared. -/
  | set
  /-- Assigns to a global variable; deprecated. -/
  | assign
  /-- Assigns to a variable of the enclosing macro; deprecated. -/
  | setLocal
  deriving DecidableEq, Repr

namespace AssignDirective

/-- The word of an assignment. -/
def keyword : AssignDirective → String
  | set => "set"
  | assign => "assign"
  | setLocal => "local"

end AssignDirective

/-- Kinds of expressions, apart from strings and built-ins. -/
inductive ExprKind where
  | identifier (name : String)
  | boolean (value : Bool)
  | number (value : Decimal)
  /-- Children: the target. -/
  | dot (key : String)
  /-- Children: the target and the key. -/
  | index
  /-- Children: the target and the arguments. -/
  | call
  /-- Children: the items. -/
  | sequence
  /-- Children: the inner expression. -/
  | parenthesized
  /-- Children: the operand. -/
  | negation
  /-- Children: both operands. -/
  | binary (operator : Operator)
  deriving DecidableEq, Repr

/-- Kinds of nodes. -/
inductive NodeKind where
  /-- Children: the values of the parameters. -/
  | header (parameters : Entries String NodeId)
  /-- Children: the body. -/
  | macroDefinition (name : String) (kind : MacroKind)
  /-- Children: statements, which have a scope of their own. -/
  | block
  /-- Children: the expression to write. -/
  | interpolation
  /-- Children: the escape expression and the body. -/
  | escapeBlock (parameter : String)
  /-- Children: the body. -/
  | noEscapeBlock
  /-- Children: the sequence and the body. -/
  | listBlock (index : String) (value : Option String)
  /-- No children. -/
  | breakDirective
  /-- Children: the returned value, if any. -/
  | returnDirective
  /-- Children: targets and values in turn. -/
  | assignment (directive : AssignDirective) (targets : List NodeId)
  /-- Children: the target and the body. -/
  | blockAssignment (directive : AssignDirective) (target : NodeId)
  /-- Children: the initial values. -/
  | declaration (names : List String)
  /-- No children. -/
  | importDirective (path namespaceName : String)
  /-- Children: the value. -/
  | setting (key : String)
  /-- No children. -/
  | stringLiteral (value : String) (raw : Bool)
  /-- Children: the target. -/
  | builtin (name : String)
  /-- Children: see `ExprKind`. -/
  | expression (kind : ExprKind)
  deriving DecidableEq, Repr

namespace NodeKind

/-- What a node is called in a message. -/
def description : NodeKind → String
  | header _ => "template header"
  | macroDefinition name .procedure => "macro " ++ name
  | macroDefinition name .function => "function " ++ name
  | block => "block"
  | interpolation => "interpolation"
  | escapeBlock _ => "escape block"
  | noEscapeBlock => "noescape block"
  | listBlock _ _ => "list block"
  | breakDirective => "break directive"
  | returnDirective => "return directive"
  | assignment directive _ => directive.keyword ++ " directive"
  | blockAssignment directive _ => directive.keyword ++ " block"
  | declaration _ => "var directive"
  | importDirective _ _ => "import directive"
  | setting _ => "setting directive"
  | stringLiteral _ _ => "string literal"
  | builtin name => "?" ++ name ++ " built-in"
  | expression _ => "expression"

/-- Whether a node is an expression and not a directive. -/
def isExpression : NodeKind → Bool
  | stringLiteral _ _ | builtin _ | expression _ => true
  | _ => false

/-- Whether macros may stand inside a node where variables are declared
strictly. -/
def admitsMacros : NodeKind → Bool
  | block | escapeBlock _ | noEscapeBlock => true
  | _ => false

/-- Whether a node holds statements in a scope of their own. -/
def isBlock : NodeKind → Bool
  | block => true
  | _ => false

/-- Whether a node repeats its body. -/
def isList : NodeKind → Bool
  | listBlock _ _ => true
  | _ => false

/-- Whether a node escapes the interpolations of its body. -/
def isEscape : NodeKind → Bool
  | escapeBlock _ => true
  | _ => false

/-- Whether a node is the header of a template. -/
def isHeader : NodeKind → Bool
  | header _ => true
  | _ => false

/-- The kind of macro that a node defines. -/
def macroKind? : NodeKind → Option MacroKind
  | macroDefinition _ kind => some kind
  | _ => none

/-- Whether a node can be assigned to. -/
def isAssignable : NodeKind → Bool
  | expression (.identifier _) | expression (.dot _) | expression .index => true
  | _ => false

end NodeKind

end TemplateLanguage
