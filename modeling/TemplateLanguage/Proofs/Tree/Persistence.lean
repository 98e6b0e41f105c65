import TemplateLanguage.Proofs.Analysis.Session

/-!
# What growing trees keep

When a node is added to a tree, the nodes that are there keep their kinds and their children.
Some of them get a parent, but an expression does not depend on parents.  So the expression of a
node stays what it is, however many nodes are added, and whatever a host does with a template
that owns the tree.
-/

namespace TemplateLanguage

/-- Whether an expression can be assigned to shows in the kind of its node. -/
theorem NodeKind.isAssignable_assemble (kind : NodeKind) (operands : List Expr) :
    (kind.assemble operands).isAssignable = kind.isAssignable := by
  cases kind with
  | expression kind => cases kind <;> rfl
  | _ => rfl

namespace Tree

/-- What a tree becomes when nodes are added to it, one after the other. -/
inductive Grows (tree : Tree) : Tree → Prop
  | refl : Grows tree tree
  | add {grown larger : Tree} {kind : NodeKind} {span : Span} {children : List NodeId} :
      Grows tree grown → grown.add? kind span children = some larger → Grows tree larger

/-- The nodes of a tree are those of another one, parents and spans apart. -/
structure Keeps (tree larger : Tree) : Prop where
  size_le : tree.size ≤ larger.size
  kind?_eq : ∀ id < tree.size, larger.kind? id = tree.kind? id
  children_eq : ∀ id < tree.size, larger.children id = tree.children id

variable {tree grown larger : Tree} {kind : NodeKind} {span : Span} {children : List NodeId}

/-- A new node stands behind the others, and some of them are its children. -/
theorem node?_of_add? (added : tree.add? kind span children = some larger) (id : NodeId) :
    larger.node? id =
      if id = tree.size then some ⟨kind, span, none, children⟩
      else (tree.node? id).map fun node =>
        if id ∈ children then { node with parent := some tree.size } else node := by
  rw [add?] at added
  split at added
  · cases added
    rw [node?, Array.getElem?_push, size_adopt, getElem?_adopt]
    rfl
  · cases added

theorem kind?_of_add? (added : tree.add? kind span children = some larger) (id : NodeId) :
    larger.kind? id = if id = tree.size then some kind else tree.kind? id := by
  rw [kind?, node?_of_add? added, kind?]
  split
  · rfl
  · cases tree.node? id with
    | none => rfl
    | some node =>
        simp only [Option.map_some]
        split <;> rfl

theorem children_of_add? (added : tree.add? kind span children = some larger) (id : NodeId) :
    larger.children id = if id = tree.size then children else tree.children id := by
  rw [Tree.children, node?_of_add? added, Tree.children]
  split
  · rfl
  · cases tree.node? id with
    | none => rfl
    | some node =>
        simp only [Option.map_some, Option.getD_some]
        split <;> rfl

theorem lt_size_of_isLoose {id : NodeId} (loose : tree.isLoose id = true) : id < tree.size := by
  rw [isLoose] at loose
  cases found : tree.node? id with
  | none =>
      rw [found] at loose
      cases loose
  | some node => exact lt_size_of_node? found

/-- A node stays without a parent if the new one does not adopt it. -/
theorem isLoose_of_add? (added : tree.add? kind span children = some larger) {id : NodeId}
    (loose : tree.isLoose id = true) (free : id ∉ children) : larger.isLoose id = true := by
  have older : id ≠ tree.size := Nat.ne_of_lt (lt_size_of_isLoose loose)
  rw [isLoose, node?_of_add? added, if_neg older]
  simp only [if_neg free, Option.map_id']
  exact loose

theorem isLoose_size_of_add? (added : tree.add? kind span children = some larger) :
    larger.isLoose tree.size = true := by
  rw [isLoose, node?_of_add? added, if_pos rfl]
  rfl

/-! ## Kept nodes -/

namespace Keeps

theorem refl (tree : Tree) : Keeps tree tree :=
  ⟨Nat.le_refl _, fun _ _ => rfl, fun _ _ => rfl⟩

theorem trans (first : Keeps tree grown) (second : Keeps grown larger) : Keeps tree larger where
  size_le := Nat.le_trans first.size_le second.size_le
  kind?_eq id old :=
    (second.kind?_eq id (Nat.lt_of_lt_of_le old first.size_le)).trans (first.kind?_eq id old)
  children_eq id old :=
    (second.children_eq id (Nat.lt_of_lt_of_le old first.size_le)).trans (first.children_eq id old)

theorem of_add? (added : tree.add? kind span children = some larger) : Keeps tree larger where
  size_le := Nat.le_of_lt (size_of_add? added ▸ Nat.lt_succ_self _)
  kind?_eq id old := by rw [kind?_of_add? added, if_neg (Nat.ne_of_lt old)]
  children_eq id old := by rw [children_of_add? added, if_neg (Nat.ne_of_lt old)]

/-- The expression of a node is read from the node and its children, which are older. -/
theorem expression_eq (keeps : Keeps tree larger) {id : NodeId} (old : id < tree.size) :
    larger.expression id = tree.expression id := by
  induction id using Nat.strongRecOn with
  | ind id ih =>
      have operands : (tree.children id).map larger.expression =
          (tree.children id).map tree.expression := by
        apply List.map_congr_left
        intro child member
        have older := lt_of_mem_children member
        exact ih child older (Nat.lt_trans older old)
      rw [Tree.expression_eq, keeps.kind?_eq id old, keeps.children_eq id old, operands,
        ← Tree.expression_eq]

end Keeps

theorem Grows.keeps (grows : tree.Grows larger) : Keeps tree larger := by
  induction grows with
  | refl => exact .refl tree
  | add _ added ih => exact ih.trans (.of_add? added)

theorem Grows.trans (first : tree.Grows grown) (second : grown.Grows larger) :
    tree.Grows larger := by
  induction second with
  | refl => exact first
  | add _ added ih => exact ih.add added

/-! ## Assignable nodes -/

theorem isAssignable_expression (tree : Tree) (id : NodeId) :
    (tree.expression id).isAssignable = tree.isAssignable id := by
  rw [expression_eq, isAssignable, hasKind]
  cases tree.kind? id with
  | none => rfl
  | some kind => exact kind.isAssignable_assemble _

end Tree

/-! ## Templates that own a tree -/

namespace Template

/-- What a template becomes when nodes are added to its tree and a host acts on it, in any
order. -/
inductive Develops (template : Template) : Template → Prop
  | refl : Develops template template
  | add {later larger : Template} {kind : NodeKind} {span : Span} {children : List NodeId} :
      Develops template later → later.add? kind span children = some larger →
        Develops template larger
  | perform {later : Template} (action : HostAction) :
      Develops template later → Develops template (later.perform action)

variable {template later larger : Template}

theorem tree_add? {kind : NodeKind} {span : Span} {children : List NodeId}
    (added : later.add? kind span children = some larger) :
    later.tree.add? kind span children = some larger.tree := by
  rw [add?] at added
  split at added
  · cases added
  · rename_i grown
    cases added
    exact grown

/-- No action of a host changes the tree. -/
theorem tree_perform (template : Template) (action : HostAction) :
    (template.perform action).tree = template.tree := by
  cases action with
  | record | take | analyze => rfl
  | check options =>
      rw [perform, check_snd]
      rfl

theorem Develops.grows (develops : template.Develops later) :
    template.tree.Grows later.tree := by
  induction develops with
  | refl => exact .refl
  | add _ added ih => exact ih.add (tree_add? added)
  | perform action _ ih => rwa [tree_perform]

end Template

end TemplateLanguage
