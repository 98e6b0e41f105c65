import TemplateLanguage.Proofs.Tree.Order

/-!
# Growing trees

A tree comes about by changes: a node is added and adopts its children, or a
node is relabelled.  Children are adopted one after the other, and each one is
examined only when its turn comes, so an addition can fail after some children
have been adopted already.

The changes below act on bare nodes, which promise nothing about their links.
Whatever changes succeed, the nodes that they leave are those of a tree, and
the two ways of adding a node agree on what they refuse.
-/

namespace TemplateLanguage

/-- A change of the nodes of a template. -/
inductive Change where
  /-- Add a node that adopts its children. -/
  | add (kind : NodeKind) (span : Span) (children : List NodeId)
  /-- Change the kind and the span of a node. -/
  | relabel (id : NodeId) (kind : NodeKind) (span : Span)
  deriving DecidableEq, Repr

namespace Nodes

/-- Adopt children one after the other.  A child that does not exist, or that
has a parent when its turn comes, makes the adoption fail. -/
def adoptEach? (parent : NodeId) : List NodeId → Array Node → Option (Array Node)
  | [], nodes => some nodes
  | child :: rest, nodes =>
      if nodes[child]?.any fun node => node.parent.isNone then
        adoptEach? parent rest (nodes.modify child fun node => { node with parent := some parent })
      else
        none

/-- The effect of a change on bare nodes. -/
def perform? (nodes : Array Node) : Change → Option (Array Node)
  | .add kind span children =>
      (adoptEach? nodes.size children nodes).map fun adopted =>
        adopted.push ⟨kind, span, none, children⟩
  | .relabel id kind span =>
      if id < nodes.size then some (nodes.modify id fun node => { node with kind, span }) else none

/-- The effect of several changes on bare nodes. -/
def performAll? (changes : List Change) (nodes : Array Node) : Option (Array Node) :=
  changes.foldlM perform? nodes

/-- Children can be adopted one after the other if none is listed twice and
each exists and has no parent at first, and the result is their adoption. -/
theorem adoptEach?_eq_ite (parent : NodeId) (children : List NodeId) (nodes : Array Node) :
    adoptEach? parent children nodes =
      if children.Nodup ∧
          ∀ child ∈ children, nodes[child]?.any (fun node => node.parent.isNone) = true then
        some (Tree.adopt parent children nodes)
      else none := by
  induction children generalizing nodes with
  | nil => simp [adoptEach?, Tree.adopt]
  | cons child rest ih =>
      rw [adoptEach?, ih]
      by_cases free : nodes[child]?.any (fun node => node.parent.isNone) = true
      · -- Once adopted, the first child counts as taken, and the others as before.
        have after : ∀ other, ((nodes.modify child fun node =>
            { node with parent := some parent })[other]?.any fun node => node.parent.isNone) =
              (decide (other ≠ child) && nodes[other]?.any fun node => node.parent.isNone) := by
          intro other
          rw [Array.getElem?_modify]
          by_cases same : child = other
          · subst same
            cases nodes[child]? <;> simp
          · simp [same, Ne.symm same]
        have split : (rest.Nodup ∧ ∀ other ∈ rest, ((nodes.modify child fun node =>
            { node with parent := some parent })[other]?.any fun node => node.parent.isNone) =
              true) ↔
            ((child :: rest).Nodup ∧ ∀ other ∈ child :: rest,
              nodes[other]?.any (fun node => node.parent.isNone) = true) := by
          simp only [after, Bool.and_eq_true, decide_eq_true_eq, List.nodup_cons,
            List.forall_mem_cons, free, true_and, forall_and]
          constructor
          · rintro ⟨distinct, others, loose⟩
            exact ⟨⟨fun again => others child again rfl, distinct⟩, loose⟩
          · rintro ⟨⟨once, distinct⟩, loose⟩
            exact ⟨distinct, fun other member same => once (same ▸ member), loose⟩
        rw [if_pos free]
        by_cases adoptable : (child :: rest).Nodup ∧ ∀ other ∈ child :: rest,
            nodes[other]?.any (fun node => node.parent.isNone) = true
        · rw [if_pos (split.mpr adoptable), if_pos adoptable]
          rfl
        · rw [if_neg (mt split.mp adoptable), if_neg adoptable]
      · rw [if_neg free, if_neg]
        rintro ⟨_, loose⟩
        exact free (loose child List.mem_cons_self)

end Nodes

namespace Tree

/-- Adding a node to a tree is adding it to the bare nodes. -/
theorem map_nodes_add? (tree : Tree) (kind : NodeKind) (span : Span) (children : List NodeId) :
    (tree.add? kind span children).map Tree.nodes =
      Nodes.perform? tree.nodes (.add kind span children) := by
  have inTurn : Nodes.adoptEach? tree.nodes.size children tree.nodes =
      if children.Nodup ∧ ∀ child ∈ children, tree.isLoose child = true then
        some (adopt tree.size children tree.nodes)
      else none :=
    Nodes.adoptEach?_eq_ite tree.size children tree.nodes
  rw [Nodes.perform?, inTurn, add?]
  by_cases adoptable : children.Nodup ∧ ∀ child ∈ children, tree.isLoose child = true
  · rw [dif_pos adoptable, if_pos adoptable]
    rfl
  · rw [dif_neg adoptable, if_neg adoptable]
    rfl

/-- The effect of a change on a tree. -/
def perform? (tree : Tree) : Change → Option Tree
  | .add kind span children => tree.add? kind span children
  | .relabel id kind span => if id < tree.size then some (tree.relabel id kind span) else none

/-- The effect of several changes on a tree. -/
def performAll? (changes : List Change) (tree : Tree) : Option Tree :=
  changes.foldlM perform? tree

theorem map_nodes_perform? (tree : Tree) (change : Change) :
    (tree.perform? change).map Tree.nodes = Nodes.perform? tree.nodes change := by
  cases change with
  | add kind span children => exact map_nodes_add? tree kind span children
  | relabel id kind span =>
      rw [perform?, Nodes.perform?]
      by_cases inside : id < tree.size
      · rw [if_pos inside]
        exact (if_pos inside).symm
      · rw [if_neg inside]
        exact (if_neg inside).symm

/-- Changes of bare nodes that were the nodes of a tree leave nodes of a
tree. -/
theorem map_nodes_performAll? (changes : List Change) (tree : Tree) :
    (performAll? changes tree).map Tree.nodes = Nodes.performAll? changes tree.nodes := by
  induction changes generalizing tree with
  | nil => rfl
  | cons change rest ih =>
      rw [performAll?, Nodes.performAll?, List.foldlM_cons, List.foldlM_cons,
        ← map_nodes_perform? tree change]
      cases tree.perform? change with
      | none => rfl
      | some changed => exact ih changed

/-! ## Climbing -/

/-- What an iterator over parents yields after some steps, where `next` is what
it yields first. -/
def climb (tree : Tree) (next : Option NodeId) : Nat → Option NodeId
  | 0 => next
  | steps + 1 => tree.climb (next.bind tree.parent?) steps

theorem climb_none (tree : Tree) (steps : Nat) : tree.climb none steps = none := by
  induction steps with
  | zero => rfl
  | succ steps ih => exact ih

/-- The iterator over parents yields the ancestors in turn, and then nothing. -/
theorem getElem?_ancestors (tree : Tree) (id : NodeId) (steps : Nat) :
    (tree.ancestors id)[steps]? = tree.climb (tree.parent? id) steps := by
  induction steps generalizing id with
  | zero =>
      cases above : tree.parent? id with
      | none => rw [ancestors_of_parent?_eq_none above, climb, List.getElem?_nil]
      | some parent => rw [ancestors_of_parent?_eq_some above, climb, List.getElem?_cons_zero]
  | succ steps ih =>
      cases above : tree.parent? id with
      | none => rw [ancestors_of_parent?_eq_none above, climb_none, List.getElem?_nil]
      | some parent =>
          rw [ancestors_of_parent?_eq_some above, List.getElem?_cons_succ, ih parent]
          rfl

theorem pairwise_ancestors (tree : Tree) (id : NodeId) :
    (id :: tree.ancestors id).Pairwise (· < ·) := by
  fun_induction tree.ancestors id with
  | case1 id => exact List.pairwise_singleton _ id
  | case2 id parent above ih =>
      rw [List.pairwise_cons]
      constructor
      · intro other member
        rw [← ancestors_of_parent?_eq_some above] at member
        exact lt_of_mem_ancestors member
      · exact ih

/-- Following child links from a node leads to the nodes that have it among
their ancestors. -/
theorem reaches_iff_mem_ancestors (tree : Tree) (root id : NodeId) :
    tree.Reaches (fun _ => true) root id ↔ root = id ∨ root ∈ tree.ancestors id := by
  rw [reaches_iff_mem_preorder, mem_preorder_iff_ancestors, eq_comm]
  simp

theorem firstAncestor?_eq_some_iff {tree : Tree} {property : NodeKind → Bool}
    {id found : NodeId} :
    tree.firstAncestor? property id = some found ↔
      ∃ nearer farther, tree.ancestors id = nearer ++ found :: farther ∧
        tree.hasKind property found = true ∧
        ∀ other ∈ nearer, tree.hasKind property other = false := by
  simp only [firstAncestor?, List.find?_eq_some_iff_append, Bool.not_eq_true']
  constructor
  · rintro ⟨has, nearer, farther, shape, others⟩
    exact ⟨nearer, farther, shape, has, others⟩
  · rintro ⟨nearer, farther, shape, has, others⟩
    exact ⟨has, nearer, farther, shape, others⟩

/-- A node is refused exactly if it is to adopt a node that does not exist or
that has a parent, or one node twice. -/
theorem add?_eq_none_iff {tree : Tree} {kind : NodeKind} {span : Span}
    {children : List NodeId} :
    tree.add? kind span children = none ↔
      (∃ child ∈ children, tree.node? child = none ∨ ∃ parent, tree.parent? child = some parent) ∨
        ¬children.Nodup := by
  have taken : ∀ child, ¬tree.isLoose child = true ↔
      tree.node? child = none ∨ ∃ parent, tree.parent? child = some parent := by
    intro child
    rw [isLoose, parent?]
    cases tree.node? child with
    | none => simp
    | some node => cases free : node.parent <;> simp [free]
  rw [add?]
  by_cases adoptable : children.Nodup ∧ ∀ child ∈ children, tree.isLoose child = true
  · rw [dif_pos adoptable]
    simp only [reduceCtorEq, false_iff, not_or, not_not, ← taken]
    constructor
    · rintro ⟨child, member, bound⟩
      exact bound (adoptable.2 child member)
    · exact adoptable.1
  · rw [dif_neg adoptable]
    simp only [true_iff, ← taken]
    by_cases distinct : children.Nodup
    · left
      by_contra loose
      apply adoptable
      constructor
      · exact distinct
      · intro child member
        by_contra bound
        exact loose ⟨child, member, bound⟩
    · exact Or.inr distinct

/-! ## Forests -/

/-- The links of a tree form a forest: the two ways in which they are stored
agree, climbing up ends and meets ever greater numbers, and it leads to a node
exactly from where following child links leads down. -/
structure IsForest (tree : Tree) : Prop where
  mem_children_iff : ∀ id child, child ∈ tree.children id ↔ tree.parent? child = some id
  nodup_children : ∀ id, (tree.children id).Nodup
  eq_of_mem_children : ∀ id other child,
    child ∈ tree.children id → child ∈ tree.children other → id = other
  lt_of_mem_children : ∀ id child, child ∈ tree.children id → child < id
  climb_parent? : ∀ id steps, tree.climb (tree.parent? id) steps = (tree.ancestors id)[steps]?
  climb_ends : ∀ id, ∃ steps, tree.climb (tree.parent? id) steps = none
  pairwise_ancestors : ∀ id, (id :: tree.ancestors id).Pairwise (· < ·)
  reaches_iff : ∀ root id,
    tree.Reaches (fun _ => true) root id ↔ root = id ∨ root ∈ tree.ancestors id
  firstAncestor?_eq_some_iff : ∀ property id found,
    tree.firstAncestor? property id = some found ↔
      ∃ nearer farther, tree.ancestors id = nearer ++ found :: farther ∧
        tree.hasKind property found = true ∧ ∀ other ∈ nearer, tree.hasKind property other = false
  firstAncestor?_eq_none_iff : ∀ property id,
    tree.firstAncestor? property id = none ↔
      ∀ other ∈ tree.ancestors id, tree.hasKind property other = false
  perform?_add_eq_none_iff : ∀ kind span children,
    Nodes.perform? tree.nodes (.add kind span children) = none ↔
      (∃ child ∈ children, tree.node? child = none ∨ ∃ parent, tree.parent? child = some parent) ∨
        ¬children.Nodup

theorem isForest (tree : Tree) : tree.IsForest where
  mem_children_iff _ _ := mem_children_iff
  nodup_children := nodup_children tree
  eq_of_mem_children id other child member again := by
    rw [mem_children_iff] at member again
    exact Option.some.inj (member.symm.trans again)
  lt_of_mem_children _ _ := lt_of_mem_children
  climb_parent? id steps := (getElem?_ancestors tree id steps).symm
  climb_ends id := by
    refine ⟨(tree.ancestors id).length, ?_⟩
    rw [← getElem?_ancestors]
    exact List.getElem?_eq_none (Nat.le_refl _)
  pairwise_ancestors := pairwise_ancestors tree
  reaches_iff := reaches_iff_mem_ancestors tree
  firstAncestor?_eq_some_iff _ _ _ := firstAncestor?_eq_some_iff
  firstAncestor?_eq_none_iff property id := by simp [firstAncestor?]
  perform?_add_eq_none_iff kind span children := by
    rw [← map_nodes_add?, Option.map_eq_none_iff]
    exact add?_eq_none_iff

/-- Whatever changes of the empty collection of nodes succeed, one after the
other, they leave the nodes of a tree, to which the same changes of trees lead,
and its links form a forest. -/
theorem isForest_of_performAll? {changes : List Change} {nodes : Array Node}
    (performed : Nodes.performAll? changes #[] = some nodes) :
    ∃ tree, performAll? changes .empty = some tree ∧ tree.nodes = nodes ∧ tree.IsForest := by
  have grown := map_nodes_performAll? changes .empty
  rw [show Tree.empty.nodes = #[] from rfl, performed] at grown
  rcases Option.map_eq_some_iff.mp grown with ⟨tree, built, same⟩
  exact ⟨tree, built, same, tree.isForest⟩

/-- A loop around a break directive, relabelled on the way. -/
def loopChanges : List Change :=
  [.add .breakDirective ⟨0, 1, 1⟩ [], .add .block ⟨1, 2, 1⟩ [0],
    .add (.expression (.identifier "items")) ⟨2, 3, 1⟩ [], .relabel 0 .breakDirective ⟨5, 6, 2⟩,
    .add (.listBlock "item" none) ⟨3, 4, 1⟩ [2, 1], .add .block ⟨4, 5, 1⟩ [3]]

theorem isForest_loopChanges :
    ∃ nodes, Nodes.performAll? loopChanges #[] = some nodes ∧
      ∃ tree, performAll? loopChanges .empty = some tree ∧ tree.nodes = nodes ∧
        tree.IsForest := by
  have performed : (Nodes.performAll? loopChanges #[]).isSome = true := by decide +kernel
  rcases Option.isSome_iff_exists.mp performed with ⟨nodes, performed⟩
  exact ⟨nodes, performed, isForest_of_performAll? performed⟩

end Tree

end TemplateLanguage
