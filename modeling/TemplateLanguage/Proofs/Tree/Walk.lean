import TemplateLanguage.Tree.Ancestry
import TemplateLanguage.Tree.Tour

/-!
# Walks down a tree

A walk from a root goes to the children of the nodes it reaches, except below
the nodes to which it does not descend.  The nodes that it reaches are those of
the preorder, and each of them has the root among its ancestors or is the root.
-/

namespace TemplateLanguage.Tree

/-- A walk from a root reaches a node. -/
inductive Reaches (tree : Tree) (descends : NodeId → Bool) (root : NodeId) : NodeId → Prop
  | root : Reaches tree descends root root
  | child {id child : NodeId} : Reaches tree descends root id → descends id = true →
      child ∈ tree.children id → Reaches tree descends root child

variable {tree : Tree}

theorem children_of_kind?_eq_none {id : NodeId} (absent : tree.kind? id = none) :
    tree.children id = [] := by
  rw [children, Option.map_eq_none_iff.mp absent]
  rfl

theorem exists_kind? {id : NodeId} (present : id < tree.size) :
    ∃ kind, tree.kind? id = some kind :=
  ⟨_, congrArg (Option.map Node.kind) (Array.getElem?_eq_getElem present)⟩

theorem lt_size_of_kind? {id : NodeId} {kind : NodeKind} (found : tree.kind? id = some kind) :
    id < tree.size := by
  obtain ⟨node, present, _⟩ := Option.map_eq_some_iff.mp found
  exact lt_size_of_node? present

/-! ## Induction from the leaves -/

/-- What holds of a node whenever it holds of its children holds of all
nodes. -/
theorem children_induction (tree : Tree) {motive : NodeId → Prop}
    (node : ∀ id, (∀ child ∈ tree.children id, motive child) → motive id) (id : NodeId) :
    motive id := by
  induction id using Nat.strongRecOn with
  | _ id ih => exact node id fun child member => ih child (lt_of_mem_children member)

/-! ## Nodes reached -/

theorem mem_preorder_iff {descends : NodeId → Bool} {id other : NodeId} :
    other ∈ tree.preorder descends id ↔
      other = id ∨
        descends id = true ∧ ∃ child ∈ tree.children id, other ∈ tree.preorder descends child := by
  rw [preorder_eq, List.mem_cons]
  by_cases down : descends id = true
  · simp [down]
  · simp [down]

theorem mem_preorder_self (descends : NodeId → Bool) (id : NodeId) :
    id ∈ tree.preorder descends id :=
  mem_preorder_iff.mpr (Or.inl rfl)

/-- A preorder holds the children of the nodes it descends to. -/
theorem mem_preorder_of_mem_children {descends : NodeId → Bool} {root id child : NodeId}
    (member : id ∈ tree.preorder descends root) (down : descends id = true)
    (isChild : child ∈ tree.children id) : child ∈ tree.preorder descends root := by
  induction root using tree.children_induction with
  | node root ih =>
      rcases mem_preorder_iff.mp member with rfl | ⟨rootDown, top, isTop, below⟩
      · exact mem_preorder_iff.mpr
          (Or.inr ⟨down, child, isChild, mem_preorder_self descends child⟩)
      · exact mem_preorder_iff.mpr (Or.inr ⟨rootDown, top, isTop, ih top isTop below⟩)

/-- What a walk reaches from a child it reaches from the node. -/
theorem Reaches.of_child {descends : NodeId → Bool} {id child other : NodeId}
    (down : descends id = true) (isChild : child ∈ tree.children id)
    (reached : tree.Reaches descends child other) : tree.Reaches descends id other := by
  induction reached with
  | root => exact .child .root down isChild
  | child _ lower member ih => exact .child ih lower member

/-- The nodes that a walk reaches are the nodes of the preorder. -/
theorem reaches_iff_mem_preorder {descends : NodeId → Bool} {root id : NodeId} :
    tree.Reaches descends root id ↔ id ∈ tree.preorder descends root := by
  constructor
  · intro reached
    induction reached with
    | root => exact mem_preorder_self descends root
    | child _ down member ih => exact mem_preorder_of_mem_children ih down member
  · intro member
    induction root using tree.children_induction with
    | node root ih =>
        rcases mem_preorder_iff.mp member with rfl | ⟨down, top, isTop, below⟩
        · exact .root
        · exact (ih top isTop below).of_child down isTop

/-! ## Chains of ancestors -/

/-- The ancestors of a child are the node and the ancestors of the node. -/
theorem ancestors_of_mem_children {id child : NodeId} (member : child ∈ tree.children id) :
    tree.ancestors child = id :: tree.ancestors id :=
  ancestors_of_parent?_eq_some (mem_children_iff.mp member)

/-- From a root without parent, a walk to a node passes all its ancestors. -/
theorem Reaches.of_mem_ancestors {descends : NodeId → Bool} {root id above : NodeId}
    (reached : tree.Reaches descends root id) (topmost : tree.parent? root = none)
    (member : above ∈ tree.ancestors id) : tree.Reaches descends root above := by
  induction reached with
  | root =>
      rw [ancestors_of_parent?_eq_none topmost] at member
      cases member
  | child reached _ isChild ih =>
      rw [ancestors_of_mem_children isChild] at member
      rcases List.mem_cons.mp member with rfl | member
      · exact reached
      · exact ih member

theorem lt_of_mem_ancestors {id other : NodeId} (above : other ∈ tree.ancestors id) :
    id < other := by
  fun_induction tree.ancestors id with
  | case1 => simp at above
  | case2 id parent isParent ih =>
      rcases List.mem_cons.mp above with rfl | higher
      · exact lt_of_parent? isParent
      · exact Nat.lt_trans (lt_of_parent? isParent) (ih higher)

theorem lt_size_of_mem_ancestors {id other : NodeId} (above : other ∈ tree.ancestors id) :
    other < tree.size := by
  fun_induction tree.ancestors id with
  | case1 => simp at above
  | case2 id parent isParent ih =>
      rcases List.mem_cons.mp above with rfl | higher
      · exact parent?_lt_size isParent
      · exact ih higher

end TemplateLanguage.Tree
