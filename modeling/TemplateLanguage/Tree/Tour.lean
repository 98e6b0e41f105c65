import TemplateLanguage.Tree.Basic

/-!
# Going through a tree

A tour enters a node, tours its children in order, and leaves the node.  A
tour can be told not to go below some nodes; it still enters and leaves them.
`Tree.preorder` lists only the nodes entered.

A pass over a tree is a fold over its tour.
-/

namespace TemplateLanguage

/-- A step of a tour. -/
inductive Visit where
  | enter (id : NodeId)
  | leave (id : NodeId)
  deriving DecidableEq, Repr

namespace Visit

/-- The node that is entered or left. -/
def node : Visit → NodeId
  | enter id => id
  | leave id => id

/-- The node that is entered. -/
def entered? : Visit → Option NodeId
  | enter id => some id
  | leave _ => none

end Visit

namespace Tree

/-- Enter and leave a node and all nodes below it, except below the nodes to
which the tour does not descend. -/
def tour (tree : Tree) (descends : NodeId → Bool) (id : NodeId) : List Visit :=
  let inside :=
    if descends id then
      (tree.children id).attach.flatMap fun child => tree.tour descends child.1
    else
      []
  .enter id :: inside ++ [.leave id]
termination_by id
decreasing_by exact lt_of_mem_children child.2

/-- A node and the nodes below it, each before the nodes below it. -/
def preorder (tree : Tree) (descends : NodeId → Bool) (id : NodeId) : List NodeId :=
  let inside :=
    if descends id then
      (tree.children id).attach.flatMap fun child => tree.preorder descends child.1
    else
      []
  id :: inside
termination_by id
decreasing_by exact lt_of_mem_children child.2

theorem tour_eq (tree : Tree) (descends : NodeId → Bool) (id : NodeId) :
    tree.tour descends id =
      .enter id
        :: (if descends id then (tree.children id).flatMap (tree.tour descends) else [])
        ++ [.leave id] := by
  rw [tour]
  split <;> simp [List.flatMap_subtype, List.unattach_attach]

theorem preorder_eq (tree : Tree) (descends : NodeId → Bool) (id : NodeId) :
    tree.preorder descends id =
      id :: if descends id then (tree.children id).flatMap (tree.preorder descends) else [] := by
  rw [preorder]
  split <;> simp [List.flatMap_subtype, List.unattach_attach]

/-- The nodes that a tour enters, in order, are the preorder. -/
theorem filterMap_entered?_tour (tree : Tree) (descends : NodeId → Bool) (id : NodeId) :
    (tree.tour descends id).filterMap Visit.entered? = tree.preorder descends id := by
  induction id using Nat.strongRecOn with
  | _ id ih =>
      rw [tour_eq, preorder_eq]
      by_cases down : descends id = true
      · have inside : ∀ children : List NodeId, (∀ child ∈ children, child < id) →
            (children.flatMap (tree.tour descends)).filterMap Visit.entered? =
              children.flatMap (tree.preorder descends) := by
          intro children
          induction children with
          | nil => simp
          | cons child rest inner =>
              intro smaller
              simp only [List.flatMap_cons, List.filterMap_append]
              rw [ih child (smaller child (by simp)),
                inner fun other member => smaller other (by simp [member])]
        simp [down, Visit.entered?, inside _ fun child member => lt_of_mem_children member]
      · simp [down, Visit.entered?]

end Tree

end TemplateLanguage
