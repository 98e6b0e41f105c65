import Mathlib.Data.List.Flatten
import Mathlib.Data.List.Perm.Subperm
import TemplateLanguage.Proofs.Tree.Walk

/-!
# The order of a walk

A walk comes to a node before the nodes below it and to each node once.  All that
it meets at and below a node it meets in one piece.  It comes to the children of
a node in their order, whatever it meets between two of them.
-/

namespace TemplateLanguage.Tree

variable {tree : Tree}

theorem nodup_children (tree : Tree) (id : NodeId) : (tree.children id).Nodup := by
  rw [children]
  cases found : tree.node? id with
  | none => exact List.nodup_nil
  | some node => exact tree.linked.nodup found

/-! ## Ancestors of ancestors -/

theorem mem_ancestors_trans {id middle upper : NodeId} (lower : middle ∈ tree.ancestors id)
    (above : upper ∈ tree.ancestors middle) : upper ∈ tree.ancestors id := by
  fun_induction tree.ancestors id with
  | case1 => cases lower
  | case2 id parent isParent ih =>
      rcases List.mem_cons.mp lower with rfl | higher
      · exact List.mem_cons_of_mem _ above
      · exact List.mem_cons_of_mem _ (ih higher)

/-- A node is not at or below one of its ancestors. -/
theorem not_mem_ancestors_of_mem_ancestors {id above : NodeId}
    (higher : above ∈ tree.ancestors id) : id ∉ above :: tree.ancestors above := by
  intro within
  rcases List.mem_cons.mp within with rfl | lower
  · exact Nat.lt_irrefl _ (lt_of_mem_ancestors higher)
  · exact Nat.lt_asymm (lt_of_mem_ancestors higher) (lt_of_mem_ancestors lower)

/-- What is at or above a node at or above a third one is at or above that one. -/
theorem mem_cons_ancestors_trans {id middle upper : NodeId}
    (lower : middle ∈ id :: tree.ancestors id) (above : upper ∈ middle :: tree.ancestors middle) :
    upper ∈ id :: tree.ancestors id := by
  rcases List.mem_cons.mp above with rfl | higher
  · exact lower
  · rcases List.mem_cons.mp lower with rfl | lower
    · exact List.mem_cons_of_mem _ higher
    · exact List.mem_cons_of_mem _ (mem_ancestors_trans lower higher)

/-- A walk stays at its root and below it. -/
theorem mem_of_mem_preorder {descends : NodeId → Bool} {root id : NodeId}
    (member : id ∈ tree.preorder descends root) : root ∈ id :: tree.ancestors id := by
  induction reaches_iff_mem_preorder.mpr member with
  | root => exact List.mem_cons_self
  | child reached _ isChild ih =>
      rw [ancestors_of_mem_children isChild]
      exact List.mem_cons_of_mem _ (ih (reaches_iff_mem_preorder.mp reached))

theorem lt_of_mem_preorder_child {descends : NodeId → Bool} {id child other : NodeId}
    (isChild : child ∈ tree.children id) (member : other ∈ tree.preorder descends child) :
    other < id := by
  rcases List.mem_cons.mp (mem_of_mem_preorder member) with rfl | higher
  · exact lt_of_mem_children isChild
  · exact Nat.lt_trans (lt_of_mem_ancestors higher) (lt_of_mem_children isChild)

/-- At most one child of a node is on the way up from a given place. -/
theorem eq_of_mem_ancestors {id parent first second : NodeId}
    (firstAbove : first ∈ id :: tree.ancestors id) (secondAbove : second ∈ id :: tree.ancestors id)
    (firstChild : first ∈ tree.children parent) (secondChild : second ∈ tree.children parent) :
    first = second := by
  -- Above one child comes its parent, and children have smaller numbers than that.
  have apart : ∀ {child other : NodeId}, child ∈ tree.children parent →
      other ∈ tree.children parent → other ∉ tree.ancestors child := by
    intro child other isChild isOther above
    rw [ancestors_of_mem_children isChild] at above
    have smaller := lt_of_mem_children isOther
    rcases List.mem_cons.mp above with rfl | higher
    · exact Nat.lt_irrefl _ smaller
    · exact Nat.lt_asymm smaller (lt_of_mem_ancestors higher)
  fun_induction tree.ancestors id with
  | case1 id =>
      rw [List.mem_singleton.mp firstAbove, List.mem_singleton.mp secondAbove]
  | case2 id next isParent ih =>
      have up : tree.ancestors id = next :: tree.ancestors next :=
        ancestors_of_parent?_eq_some isParent
      rcases List.mem_cons.mp firstAbove with rfl | firstHigher
      · rcases List.mem_cons.mp secondAbove with rfl | secondHigher
        · rfl
        · exact absurd (up ▸ secondHigher) (apart firstChild secondChild)
      · rcases List.mem_cons.mp secondAbove with rfl | secondHigher
        · exact absurd (up ▸ firstHigher) (apart secondChild firstChild)
        · exact ih firstHigher secondHigher

/-! ## Order -/

/-- No node comes again, and none comes after a node below it. -/
theorem pairwise_preorder (tree : Tree) (descends : NodeId → Bool) (root : NodeId) :
    (tree.preorder descends root).Pairwise fun earlier later =>
      later ∉ earlier :: tree.ancestors earlier := by
  induction root using tree.children_induction with
  | node root ih =>
      rw [preorder_eq, List.pairwise_cons]
      constructor
      · intro later member above
        have smaller : later < root := by
          split at member
          · obtain ⟨child, isChild, below⟩ := List.mem_flatMap.mp member
            exact lt_of_mem_preorder_child isChild below
          · cases member
        rcases List.mem_cons.mp above with rfl | higher
        · exact Nat.lt_irrefl _ smaller
        · exact Nat.lt_asymm smaller (lt_of_mem_ancestors higher)
      · split
        · rw [List.pairwise_flatMap]
          refine ⟨ih, (nodup_children tree root).imp_of_mem ?_⟩
          intro first second isFirst isSecond different earlier below later belowOther above
          have up : second ∈ earlier :: tree.ancestors earlier :=
            mem_cons_ancestors_trans above (mem_of_mem_preorder belowOther)
          exact different (eq_of_mem_ancestors (mem_of_mem_preorder below) up isFirst isSecond)
        · exact List.Pairwise.nil

theorem nodup_preorder (tree : Tree) (descends : NodeId → Bool) (root : NodeId) :
    (tree.preorder descends root).Nodup := by
  refine (pairwise_preorder tree descends root).imp ?_
  intro earlier later apart same
  exact apart (same ▸ List.mem_cons_self)

/-! ## The nodes of a walk -/

/-- A preorder holds its root, and the nodes below it if the walk descends to
each node on the way. -/
theorem mem_preorder_iff_ancestors {descends : NodeId → Bool} {root id : NodeId} :
    id ∈ tree.preorder descends root ↔
      id = root ∨ root ∈ tree.ancestors id ∧
        ∀ above ∈ tree.ancestors id, root ∈ above :: tree.ancestors above →
          descends above = true := by
  constructor
  · intro member
    induction reaches_iff_mem_preorder.mpr member with
    | root => exact Or.inl rfl
    | child reached down isChild ih =>
        have member := reaches_iff_mem_preorder.mp reached
        right
        rw [ancestors_of_mem_children isChild]
        refine ⟨mem_of_mem_preorder member, ?_⟩
        intro above higher within
        rcases List.mem_cons.mp higher with rfl | higher
        · exact down
        · rcases ih member with rfl | ⟨_, downs⟩
          · exact absurd within (not_mem_ancestors_of_mem_ancestors higher)
          · exact downs above higher within
  · rintro (rfl | ⟨higher, downs⟩)
    · exact mem_preorder_self descends id
    · fun_induction tree.ancestors id with
      | case1 => cases higher
      | case2 id parent isParent ih =>
          have down : descends parent = true := downs parent List.mem_cons_self higher
          refine mem_preorder_of_mem_children ?_ down (mem_children_iff.mpr isParent)
          rcases List.mem_cons.mp higher with rfl | higher
          · exact mem_preorder_self descends _
          · exact ih higher fun above member => downs above (List.mem_cons_of_mem _ member)

/-- A node below one that a walk comes to, and to which the walk comes as well,
is reached from there. -/
theorem mem_preorder_of_mem_ancestors {descends : NodeId → Bool} {root id other : NodeId}
    (member : id ∈ tree.preorder descends root) (otherMember : other ∈ tree.preorder descends root)
    (higher : id ∈ other :: tree.ancestors other) : other ∈ tree.preorder descends id := by
  rcases List.mem_cons.mp higher with rfl | higher
  · exact mem_preorder_self descends id
  · have rootHigher : root ∈ id :: tree.ancestors id := mem_of_mem_preorder member
    rcases mem_preorder_iff_ancestors.mp otherMember with rfl | ⟨_, downs⟩
    · exact absurd rootHigher (not_mem_ancestors_of_mem_ancestors higher)
    · refine mem_preorder_iff_ancestors.mpr (Or.inr ⟨higher, ?_⟩)
      intro above aboveOther within
      exact downs above aboveOther (mem_cons_ancestors_trans within rootHigher)

/-! ## The children of a node -/

/-- A preorder holds the preorder from each of its nodes in one piece. -/
theorem preorder_isInfix_preorder {descends : NodeId → Bool} {root id : NodeId}
    (member : id ∈ tree.preorder descends root) :
    tree.preorder descends id <:+: tree.preorder descends root := by
  induction root using tree.children_induction with
  | node root ih =>
      rcases mem_preorder_iff.mp member with rfl | ⟨down, child, isChild, below⟩
      · exact List.infix_refl _
      · rw [preorder_eq tree descends root, if_pos down]
        apply (ih child isChild below).trans
        apply List.IsInfix.trans _ (List.suffix_cons _ _).isInfix
        rw [List.flatMap_def]
        exact List.infix_of_mem_flatten (List.mem_map_of_mem isChild)

theorem children_sublist_preorder {descends : NodeId → Bool} {root id : NodeId}
    (member : id ∈ tree.preorder descends root) (down : descends id = true) :
    (tree.children id).Sublist (tree.preorder descends root) := by
  refine List.Sublist.trans ?_ ((preorder_isInfix_preorder member).sublist)
  have heads : ∀ child ∈ tree.children id, [child].Sublist (tree.preorder descends child) :=
    fun child _ => List.singleton_sublist.mpr (mem_preorder_self descends child)
  rw [preorder_eq, if_pos down]
  apply List.Sublist.cons
  calc tree.children id
      = (tree.children id).flatMap fun child => [child] := by rw [List.flatMap_singleton']
    _ |>.Sublist _ := List.Sublist.flatMap_right _ heads

/-- A walk comes to the children of a node in their order. -/
theorem filter_parent?_preorder {descends : NodeId → Bool} {root id : NodeId}
    (member : id ∈ tree.preorder descends root) (down : descends id = true) :
    (tree.preorder descends root).filter (fun other => tree.parent? other = some id) =
      tree.children id := by
  have isChild : ∀ other ∈ tree.children id, tree.parent? other = some id :=
    fun other => mem_children_iff.mp
  have inside : (tree.children id).Sublist
      ((tree.preorder descends root).filter fun other => tree.parent? other = some id) := by
    have kept := (children_sublist_preorder member down).filter
      fun other => decide (tree.parent? other = some id)
    rwa [List.filter_eq_self.mpr fun other known => decide_eq_true (isChild other known)] at kept
  have within : (tree.preorder descends root).filter (fun other => tree.parent? other = some id) ⊆
      tree.children id := by
    intro other found
    exact mem_children_iff.mpr (of_decide_eq_true (List.mem_filter.mp found).2)
  have distinct := (nodup_preorder tree descends root).filter
    fun other => decide (tree.parent? other = some id)
  exact (inside.eq_of_length_le (List.subperm_of_subset distinct within).length_le).symm

end TemplateLanguage.Tree
