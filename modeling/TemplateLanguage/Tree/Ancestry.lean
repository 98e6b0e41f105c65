import TemplateLanguage.Tree.Basic

/-!
# Ancestors

The ancestors of a node, nearest first, and the nearest one of a kind.
-/

namespace TemplateLanguage.Tree

/-- The ancestors of a node, nearest first. -/
def ancestors (tree : Tree) (id : NodeId) : List NodeId :=
  match _above : tree.parent? id with
  | none => []
  | some parent => parent :: tree.ancestors parent
termination_by tree.size - id
decreasing_by
  exact Nat.sub_lt_sub_left (Nat.lt_trans (lt_of_parent? _above) (parent?_lt_size _above))
    (lt_of_parent? _above)

/-- The nearest ancestor whose kind has a property. -/
def firstAncestor? (tree : Tree) (property : NodeKind → Bool) (id : NodeId) : Option NodeId :=
  (tree.ancestors id).find? (tree.hasKind property)

/-- The node itself if its kind has a property, or else the nearest ancestor
whose kind has it. -/
def ancestorOrSelf? (tree : Tree) (property : NodeKind → Bool) (id : NodeId) : Option NodeId :=
  (id :: tree.ancestors id).find? (tree.hasKind property)

/-- The first child that is a block: the body of a directive. -/
def body? (tree : Tree) (id : NodeId) : Option NodeId :=
  (tree.children id).find? (tree.hasKind NodeKind.isBlock)

theorem ancestors_of_parent?_eq_none {tree : Tree} {id : NodeId}
    (root : tree.parent? id = none) : tree.ancestors id = [] := by
  rw [ancestors]
  split
  · rfl
  · rename_i above
    rw [root] at above
    cases above

theorem ancestors_of_parent?_eq_some {tree : Tree} {id parent : NodeId}
    (above : tree.parent? id = some parent) :
    tree.ancestors id = parent :: tree.ancestors parent := by
  rw [ancestors]
  split
  · rename_i none
    rw [above] at none
    cases none
  · rename_i other found
    rw [above] at found
    cases found
    rfl

end TemplateLanguage.Tree
