import TemplateLanguage.Source.Span
import TemplateLanguage.Tree.Kind

/-!
# Trees of nodes

The nodes of a template are numbered in order of creation.  A node is created
after its children and adopts them, so every child has a smaller number than
its parent, and the parents recorded at the nodes agree with the lists of
children.  Both facts are part of the type `Tree`: each tree is a forest.

`Tree.add?` refuses children that do not exist, that already have a parent,
or that are listed twice.
-/

namespace TemplateLanguage

/-- A node with its links. -/
structure Node where
  kind : NodeKind
  span : Span
  parent : Option NodeId
  children : List NodeId
  deriving DecidableEq, Repr

/-- The links of nodes form a forest. -/
structure Linked (nodes : Array Node) : Prop where
  child_lt : ∀ {id child : NodeId} {node : Node},
    nodes[id]? = some node → child ∈ node.children → child < id
  child_parent : ∀ {id child : NodeId} {node : Node},
    nodes[id]? = some node → child ∈ node.children →
      ∃ other, nodes[child]? = some other ∧ other.parent = some id
  parent_child : ∀ {id parent : NodeId} {node : Node},
    nodes[id]? = some node → node.parent = some parent →
      ∃ other, nodes[parent]? = some other ∧ id ∈ other.children
  nodup : ∀ {id : NodeId} {node : Node}, nodes[id]? = some node → node.children.Nodup

/-- The nodes of a template, linked as a forest. -/
structure Tree where
  nodes : Array Node
  linked : Linked nodes

namespace Tree

/-- The tree without nodes. -/
def empty : Tree :=
  ⟨#[], by constructor <;> simp⟩

/-- Number of nodes. -/
def size (tree : Tree) : Nat :=
  tree.nodes.size

/-- A node by its number. -/
def node? (tree : Tree) (id : NodeId) : Option Node :=
  tree.nodes[id]?

/-- The kind of a node. -/
def kind? (tree : Tree) (id : NodeId) : Option NodeKind :=
  (tree.node? id).map Node.kind

/-- The parent of a node. -/
def parent? (tree : Tree) (id : NodeId) : Option NodeId :=
  (tree.node? id).bind Node.parent

/-- The children of a node in order. -/
def children (tree : Tree) (id : NodeId) : List NodeId :=
  ((tree.node? id).map Node.children).getD []

/-- The span of a node. -/
def span (tree : Tree) (id : NodeId) : Span :=
  ((tree.node? id).map Node.span).getD ⟨0, 0, 1⟩

/-- Whether a node's kind has a property. -/
def hasKind (tree : Tree) (property : NodeKind → Bool) (id : NodeId) : Bool :=
  (tree.kind? id).any property

/-- Whether a node exists and has no parent. -/
def isLoose (tree : Tree) (id : NodeId) : Bool :=
  (tree.node? id).any fun node => node.parent.isNone

theorem lt_of_mem_children {tree : Tree} {id child : NodeId}
    (member : child ∈ tree.children id) : child < id := by
  unfold children at member
  cases found : tree.node? id with
  | none => simp [found] at member
  | some node =>
      simp only [found, Option.map_some, Option.getD_some] at member
      exact tree.linked.child_lt found member

/-- A node is a child of another one exactly if that one is its parent. -/
theorem mem_children_iff {tree : Tree} {id child : NodeId} :
    child ∈ tree.children id ↔ tree.parent? child = some id := by
  constructor
  · intro member
    unfold children at member
    cases found : tree.node? id with
    | none => simp [found] at member
    | some node =>
        simp only [found, Option.map_some, Option.getD_some] at member
        obtain ⟨other, otherFound, isParent⟩ := tree.linked.child_parent found member
        simp [parent?, node?, otherFound, isParent]
  · intro isParent
    obtain ⟨node, found, isParent⟩ := Option.bind_eq_some_iff.mp isParent
    obtain ⟨other, otherFound, member⟩ := tree.linked.parent_child found isParent
    simp [children, node?, otherFound, member]

theorem lt_of_parent? {tree : Tree} {id parent : NodeId}
    (isParent : tree.parent? id = some parent) : id < parent :=
  lt_of_mem_children (mem_children_iff.mpr isParent)

theorem lt_size_of_node? {tree : Tree} {id : NodeId} {node : Node}
    (found : tree.node? id = some node) : id < tree.size :=
  (Array.getElem?_eq_some_iff.mp found).choose

theorem parent?_lt_size {tree : Tree} {id parent : NodeId}
    (isParent : tree.parent? id = some parent) : parent < tree.size := by
  have member := mem_children_iff.mpr isParent
  unfold children at member
  cases found : tree.node? parent with
  | none => simp [found] at member
  | some node => exact lt_size_of_node? found

/-! ## Creating nodes -/

/-- Give nodes a parent. -/
def adopt (parent : NodeId) (children : List NodeId) (nodes : Array Node) : Array Node :=
  children.foldl
    (fun nodes child => nodes.modify child fun node => { node with parent := some parent }) nodes

@[simp]
theorem size_adopt (parent : NodeId) (children : List NodeId) (nodes : Array Node) :
    (adopt parent children nodes).size = nodes.size := by
  unfold adopt
  induction children generalizing nodes with
  | nil => rfl
  | cons child rest ih => simp [ih]

theorem getElem?_adopt (parent : NodeId) (children : List NodeId) (nodes : Array Node)
    (id : NodeId) :
    (adopt parent children nodes)[id]? =
      nodes[id]?.map fun node =>
        if id ∈ children then { node with parent := some parent } else node := by
  unfold adopt
  induction children generalizing nodes with
  | nil => simp
  | cons child rest ih =>
      simp only [List.foldl_cons, ih, Array.getElem?_modify, List.mem_cons]
      cases nodes[id]? with
      | none => simp
      | some node =>
          by_cases same : child = id
          · subst same
            by_cases again : child ∈ rest <;> simp [again]
          · simp [same, Ne.symm same]

theorem linked_push {tree : Tree} {children : List NodeId} (kind : NodeKind) (span : Span)
    (distinct : children.Nodup) (loose : ∀ child ∈ children, tree.isLoose child) :
    Linked ((adopt tree.size children tree.nodes).push ⟨kind, span, none, children⟩) := by
  have old : ∀ {id : NodeId} {node : Node},
      ((adopt tree.size children tree.nodes).push ⟨kind, span, none, children⟩)[id]? =
        some node →
      (id < tree.size ∧ ∃ before, tree.nodes[id]? = some before ∧
        node = if id ∈ children then { before with parent := some tree.size } else before) ∨
      (id = tree.size ∧ node = ⟨kind, span, none, children⟩) := by
    intro id node found
    rw [Array.getElem?_push] at found
    split at found
    · rename_i last
      simp only [size_adopt] at last
      exact Or.inr ⟨last, (Option.some.inj found).symm⟩
    · rw [getElem?_adopt] at found
      obtain ⟨before, present, rfl⟩ := Option.map_eq_some_iff.mp found
      exact Or.inl ⟨lt_size_of_node? present, before, present, rfl⟩
  have keep : ∀ {id : NodeId} {before : Node}, tree.nodes[id]? = some before →
      ((adopt tree.size children tree.nodes).push ⟨kind, span, none, children⟩)[id]? =
        some (if id ∈ children then { before with parent := some tree.size } else before) := by
    intro id before present
    have inside := lt_size_of_node? present
    rw [Array.getElem?_push, if_neg (by simp only [size_adopt]; exact Nat.ne_of_lt inside),
      getElem?_adopt, present]
    rfl
  have looseNode : ∀ child ∈ children, ∃ before, tree.nodes[child]? = some before ∧
      before.parent = none := by
    intro child member
    have free := loose child member
    unfold isLoose at free
    cases present : tree.node? child with
    | none => simp [present] at free
    | some before => exact ⟨before, present, by simpa [present] using free⟩
  constructor
  · intro id child node found member
    rcases old found with ⟨_, before, present, rfl⟩ | ⟨rfl, rfl⟩
    · refine tree.linked.child_lt present ?_
      split at member <;> exact member
    · obtain ⟨before, present, _⟩ := looseNode child member
      exact lt_size_of_node? present
  · intro id child node found member
    rcases old found with ⟨_, before, present, rfl⟩ | ⟨rfl, rfl⟩
    · have member : child ∈ before.children := by split at member <;> exact member
      obtain ⟨other, otherPresent, isParent⟩ := tree.linked.child_parent present member
      refine ⟨_, keep otherPresent, ?_⟩
      have owned : child ∉ children := by
        intro again
        obtain ⟨free, freePresent, noParent⟩ := looseNode child again
        rw [otherPresent] at freePresent
        cases freePresent
        rw [isParent] at noParent
        cases noParent
      simp [owned, isParent]
    · have member : child ∈ children := member
      obtain ⟨before, present, _⟩ := looseNode child member
      exact ⟨_, keep present, by simp [member]⟩
  · intro id parent node found isParent
    rcases old found with ⟨_, before, present, rfl⟩ | ⟨rfl, rfl⟩
    · by_cases adopted : id ∈ children
      · simp only [adopted, if_true, Option.some.injEq] at isParent
        subst isParent
        refine ⟨⟨kind, span, none, children⟩, ?_, adopted⟩
        rw [Array.getElem?_push, if_pos (by simp [size])]
      · simp only [adopted, if_false] at isParent
        obtain ⟨other, otherPresent, member⟩ := tree.linked.parent_child present isParent
        refine ⟨_, keep otherPresent, ?_⟩
        split <;> exact member
    · cases isParent
  · intro id node found
    rcases old found with ⟨_, before, present, rfl⟩ | ⟨rfl, rfl⟩
    · have distinct := tree.linked.nodup present
      split <;> exact distinct
    · exact distinct

/-- Create a node that adopts its children.  The new node's number is the size
of the tree before. -/
def add? (tree : Tree) (kind : NodeKind) (span : Span) (children : List NodeId) : Option Tree :=
  if adoptable : children.Nodup ∧ ∀ child ∈ children, tree.isLoose child then
    some ⟨_, linked_push kind span adoptable.1 adoptable.2⟩
  else
    none

theorem size_of_add? {tree larger : Tree} {kind : NodeKind} {span : Span}
    {children : List NodeId} (added : tree.add? kind span children = some larger) :
    larger.size = tree.size + 1 := by
  unfold add? at added
  split at added
  · cases added
    simp [size]
  · cases added

/-! ## Relabelling -/

theorem linked_modify {tree : Tree} (id : NodeId) (kind : NodeKind) (span : Span) :
    Linked (tree.nodes.modify id fun node => { node with kind, span }) := by
  have old : ∀ {other : NodeId} {node : Node},
      (tree.nodes.modify id fun node => { node with kind, span })[other]? = some node →
      ∃ before, tree.nodes[other]? = some before ∧ node.parent = before.parent ∧
        node.children = before.children := by
    intro other node found
    rw [Array.getElem?_modify] at found
    split at found
    · obtain ⟨before, present, rfl⟩ := Option.map_eq_some_iff.mp found
      exact ⟨before, present, rfl, rfl⟩
    · exact ⟨node, found, rfl, rfl⟩
  have keep : ∀ {other : NodeId} {before : Node}, tree.nodes[other]? = some before →
      ∃ node, (tree.nodes.modify id fun node => { node with kind, span })[other]? = some node ∧
        node.parent = before.parent ∧ node.children = before.children := by
    intro other before present
    rw [Array.getElem?_modify, present]
    split
    · exact ⟨_, rfl, rfl, rfl⟩
    · exact ⟨_, rfl, rfl, rfl⟩
  constructor
  · intro other child node found member
    obtain ⟨before, present, _, same⟩ := old found
    exact tree.linked.child_lt present (same ▸ member)
  · intro other child node found member
    obtain ⟨before, present, _, same⟩ := old found
    obtain ⟨target, targetPresent, isParent⟩ :=
      tree.linked.child_parent present (same ▸ member)
    obtain ⟨after, afterFound, sameParent, _⟩ := keep targetPresent
    exact ⟨after, afterFound, sameParent.trans isParent⟩
  · intro other parent node found isParent
    obtain ⟨before, present, same, _⟩ := old found
    obtain ⟨target, targetPresent, member⟩ :=
      tree.linked.parent_child present (same ▸ isParent)
    obtain ⟨after, afterFound, _, sameChildren⟩ := keep targetPresent
    exact ⟨after, afterFound, sameChildren ▸ member⟩
  · intro other node found
    obtain ⟨before, present, _, same⟩ := old found
    exact same ▸ tree.linked.nodup present

/-- Change the kind and the span of a node. -/
def relabel (tree : Tree) (id : NodeId) (kind : NodeKind) (span : Span) : Tree :=
  ⟨_, tree.linked_modify id kind span⟩

/-- Change the span of a node. -/
def setSpan (tree : Tree) (id : NodeId) (span : Span) : Tree :=
  match tree.kind? id with
  | some kind => tree.relabel id kind span
  | none => tree

@[simp]
theorem size_relabel (tree : Tree) (id : NodeId) (kind : NodeKind) (span : Span) :
    (tree.relabel id kind span).size = tree.size := by
  simp [relabel, size]

@[simp]
theorem size_setSpan (tree : Tree) (id : NodeId) (span : Span) :
    (tree.setSpan id span).size = tree.size := by
  unfold setSpan
  split <;> simp

end Tree

end TemplateLanguage
