import TemplateLanguage.Expr.Render
import TemplateLanguage.Tree.Basic

/-!
# Expressions held by a tree

Every node can be read as an expression.  A directive, and an operand that is
missing, is read as `Expr.invalid`, so that the expression of any node can be
written.
-/

namespace TemplateLanguage

namespace ExprKind

/-- The expression of a kind with given operands. -/
def assemble (kind : ExprKind) (operands : List Expr) : Expr :=
  let operand (position : Nat) : Expr := operands.getD position .invalid
  match kind with
  | identifier name => .identifier name
  | boolean value => .boolean value
  | number value => .number value
  | dot key => .dot (operand 0) key
  | index => .index (operand 0) (operand 1)
  | call => .call (operand 0) (operands.drop 1)
  | sequence => .sequence operands
  | parenthesized => .parenthesized (operand 0)
  | negation => .negation (operand 0)
  | binary operator => .binary operator (operand 0) (operand 1)

end ExprKind

namespace NodeKind

/-- The expression of a node of a kind whose children are given operands. -/
def assemble (kind : NodeKind) (operands : List Expr) : Expr :=
  match kind with
  | stringLiteral value raw => .text value raw
  | builtin name => .builtin (operands.getD 0 .invalid) name
  | expression kind => kind.assemble operands
  | _ => .invalid

end NodeKind

namespace Tree

/-- The expression that a node holds. -/
def expression (tree : Tree) (id : NodeId) : Expr :=
  match tree.kind? id with
  | none => .invalid
  | some kind =>
      kind.assemble ((tree.children id).attach.map fun child => tree.expression child.1)
termination_by id
decreasing_by exact lt_of_mem_children child.2

/-- Whether a node can be assigned to. -/
def isAssignable (tree : Tree) (id : NodeId) : Bool :=
  tree.hasKind NodeKind.isAssignable id

/-- The expression that the first child of a node holds. -/
def firstExpression (tree : Tree) (id : NodeId) : Expr :=
  ((tree.children id).head?.map tree.expression).getD .invalid

theorem expression_eq (tree : Tree) (id : NodeId) :
    tree.expression id =
      ((tree.kind? id).map fun kind =>
        kind.assemble ((tree.children id).map tree.expression)).getD .invalid := by
  rw [expression]
  split
  · simp_all
  · simp_all [List.map_subtype, List.unattach_attach]

end Tree

end TemplateLanguage
