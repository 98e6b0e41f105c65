import TemplateLanguage.Tree.Basic

/-!
# Visiting nodes

A visitor has one hook for each kind of nodes.  By default a hook visits the
children of its node in order; a hook can also do nothing, and then the nodes below
are not visited.  Visiting a node calls the hook for its kind.

The children of a node are counted first, and then looked up one after the other
by index.  A visit that comes to a node or to a child that is not there has no
result.  Since every child of a tree has a smaller number than its parent, a
visit ends.
-/

namespace TemplateLanguage

/-- What a hook does with its node. -/
inductive Hook where
  /-- Visits the children in order. -/
  | children
  | nothing
  deriving DecidableEq, Repr

/-- The hooks of a visitor. -/
structure Visitor where
  header : Hook := .children
  macroDefinition : Hook := .children
  block : Hook := .children
  interpolation : Hook := .children
  escapeBlock : Hook := .children
  noEscapeBlock : Hook := .children
  listBlock : Hook := .children
  breakDirective : Hook := .children
  returnDirective : Hook := .children
  assignment : Hook := .children
  blockAssignment : Hook := .children
  declaration : Hook := .children
  importDirective : Hook := .children
  setting : Hook := .children
  stringLiteral : Hook := .children
  builtin : Hook := .children
  expression : Hook := .children
  deriving DecidableEq, Repr

/-- The hook that is called for nodes of a kind. -/
def Visitor.hook (visitor : Visitor) : NodeKind → Hook
  | .header _ => visitor.header
  | .macroDefinition _ _ => visitor.macroDefinition
  | .block => visitor.block
  | .interpolation => visitor.interpolation
  | .escapeBlock _ => visitor.escapeBlock
  | .noEscapeBlock => visitor.noEscapeBlock
  | .listBlock _ _ => visitor.listBlock
  | .breakDirective => visitor.breakDirective
  | .returnDirective => visitor.returnDirective
  | .assignment _ _ => visitor.assignment
  | .blockAssignment _ _ => visitor.blockAssignment
  | .declaration _ => visitor.declaration
  | .importDirective _ _ => visitor.importDirective
  | .setting _ => visitor.setting
  | .stringLiteral _ _ => visitor.stringLiteral
  | .builtin _ => visitor.builtin
  | .expression _ => visitor.expression

namespace Tree

mutual

/-- Visit a node after the nodes `visited`: the nodes visited by the end, in
order. -/
def visit (tree : Tree) (visitor : Visitor) (id : NodeId) (visited : List NodeId) :
    Option (List NodeId) :=
  match tree.kind? id with
  | none => none
  | some kind =>
      match visitor.hook kind with
      | .nothing => some (visited ++ [id])
      | .children =>
          tree.visitChildren visitor id 0 (tree.children id).length (visited ++ [id])
termination_by (id, 1, 0)

/-- Visit some children of a node, from an index on. -/
def visitChildren (tree : Tree) (visitor : Visitor) (id index remaining : Nat)
    (visited : List NodeId) : Option (List NodeId) :=
  match remaining with
  | 0 => some visited
  | remaining + 1 =>
      match _found : (tree.children id)[index]? with
      | none => none
      | some child =>
          (tree.visit visitor child visited).bind fun visited =>
            tree.visitChildren visitor id (index + 1) remaining visited
termination_by (id, 0, remaining)
decreasing_by
  · exact Prod.Lex.left _ _ (lt_of_mem_children (List.mem_of_getElem? _found))
  · exact Prod.Lex.right _ (Prod.Lex.right _ (Nat.lt_succ_self remaining))

end

theorem visit_of_hook_eq_nothing {tree : Tree} {visitor : Visitor} {id : NodeId}
    {kind : NodeKind} (found : tree.kind? id = some kind)
    (hook : visitor.hook kind = .nothing) (visited : List NodeId) :
    tree.visit visitor id visited = some (visited ++ [id]) := by
  simp only [visit, found, hook]

theorem visit_of_hook_eq_children {tree : Tree} {visitor : Visitor} {id : NodeId}
    {kind : NodeKind} (found : tree.kind? id = some kind)
    (hook : visitor.hook kind = .children) (visited : List NodeId) :
    tree.visit visitor id visited =
      tree.visitChildren visitor id 0 (tree.children id).length (visited ++ [id]) := by
  simp only [visit, found, hook]

theorem visitChildren_succ {tree : Tree} {id index child : NodeId}
    (found : (tree.children id)[index]? = some child) (visitor : Visitor)
    (remaining : Nat) (visited : List NodeId) :
    tree.visitChildren visitor id index (remaining + 1) visited =
      (tree.visit visitor child visited).bind
        (tree.visitChildren visitor id (index + 1) remaining) := by
  rw [visitChildren]
  split
  · rename_i missing
    rw [found] at missing
    cases missing
  · rename_i other again
    rw [found] at again
    cases again
    rfl

end Tree

end TemplateLanguage
