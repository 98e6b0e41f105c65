import TemplateLanguage.Proofs.Escape.Balance

/-!
# Where escaped forms are written

A tour writes the escaped form of each escape block that it enters and of each interpolation
that it leaves, and of no other node.  So the nodes whose forms an analysis writes are the
interpolations and escape blocks that a walk from the root reaches.

The escapes in effect at a node are blocks around it.  The tour of the node writes nothing
there, and what such a block holds stays the form that is in effect.
-/

namespace TemplateLanguage

namespace Tree

variable {tree : Tree}

/-- A tour enters and leaves the nodes of the preorder. -/
theorem mem_tour_iff {descends : NodeId → Bool} {root : NodeId} {visit : Visit} :
    visit ∈ tree.tour descends root ↔ visit.node ∈ tree.preorder descends root := by
  induction root using tree.children_induction with
  | node root ih =>
      have ends : visit = .enter root ∨ visit = .leave root ↔ visit.node = root := by
        cases visit <;> simp [Visit.node]
      rw [mem_preorder_iff, tour_eq, ← ends]
      by_cases down : descends root = true
      · have inside : (∃ child ∈ tree.children root, visit ∈ tree.tour descends child) ↔
            ∃ child ∈ tree.children root, visit.node ∈ tree.preorder descends child :=
          exists_congr fun child => and_congr_right fun isChild => ih child isChild
        rw [if_pos down]
        simp only [down, List.cons_append, List.mem_cons, List.mem_append, List.mem_flatMap,
          List.not_mem_nil, or_false, true_and, ← inside]
        rw [or_assoc]
        exact or_congr_right or_comm
      · simp [down]

/-- Whether a step of a tour writes an escaped form. -/
def writesAt (tree : Tree) : Visit → Bool
  | .enter id => tree.hasKind NodeKind.isEscape id
  | .leave id => tree.kind? id = some .interpolation

/-- A tour writes the forms of the interpolations and escape blocks that it comes to. -/
theorem exists_writesAt_iff {descends : NodeId → Bool} {root id : NodeId} :
    (∃ visit ∈ tree.tour descends root, visit.node = id ∧ tree.writesAt visit = true) ↔
      tree.Reaches descends root id ∧ tree.hasKind NodeKind.hasEscapedForm id = true := by
  rw [reaches_iff_mem_preorder, hasKind_hasEscapedForm_iff, ← hasKind_isEscape_iff]
  constructor
  · rintro ⟨visit, member, rfl, writes⟩
    refine ⟨mem_tour_iff.mp member, ?_⟩
    cases visit with
    | enter id => exact Or.inr writes
    | leave id => exact Or.inl (of_decide_eq_true writes)
  · rintro ⟨member, interpolation | escape⟩
    · exact ⟨.leave id, mem_tour_iff.mpr member, rfl, decide_eq_true interpolation⟩
    · exact ⟨.enter id, mem_tour_iff.mpr member, rfl, escape⟩

end Tree

namespace Escapes

variable {tree : Tree}

/-! ## Steps -/

theorem forms_step_of_writesAt (escapes : Escapes) {visit : Visit}
    (writes : tree.writesAt visit = true) :
    ∃ form, (escapes.step tree visit).forms =
      escapes.forms.setIfInBounds visit.node (some form) := by
  cases visit with
  | enter id =>
      obtain ⟨parameter, kind⟩ := Tree.hasKind_isEscape_iff.mp writes
      simp only [step, kind]
      exact ⟨_, rfl⟩
  | leave id =>
      have kind := of_decide_eq_true writes
      simp only [step, kind]
      exact ⟨_, rfl⟩

theorem forms_step_of_not_writesAt (escapes : Escapes) {visit : Visit}
    (idle : ¬tree.writesAt visit = true) :
    (escapes.step tree visit).forms = escapes.forms := by
  cases visit with
  | enter id =>
      simp only [step]
      split
      · rename_i parameter kind
        exact absurd (Tree.hasKind_isEscape_iff.mpr ⟨parameter, kind⟩) idle
      · exact forms_suspend escapes
      · rfl
  | leave id =>
      simp only [step]
      split
      · exact forms_pop escapes
      · exact forms_resume escapes
      · rename_i kind
        exact absurd (decide_eq_true kind) idle
      · rfl

/-- A step writes at its own node only. -/
theorem getElem?_forms_step (escapes : Escapes) {visit : Visit} {id : NodeId}
    (different : visit.node ≠ id) :
    (escapes.step tree visit).forms[id]? = escapes.forms[id]? := by
  by_cases writes : tree.writesAt visit = true
  · obtain ⟨form, same⟩ := escapes.forms_step_of_writesAt writes
    rw [same, Array.getElem?_setIfInBounds_ne different]
  · rw [escapes.forms_step_of_not_writesAt writes]

/-- After a step a form is known if it was known before or is written. -/
theorem isSome_forms_step (escapes : Escapes) (visit : Visit) {id : NodeId}
    (inside : id < escapes.forms.size) :
    (escapes.step tree visit).forms[id]?.join.isSome = true ↔
      escapes.forms[id]?.join.isSome = true ∨
        visit.node = id ∧ tree.writesAt visit = true := by
  by_cases same : visit.node = id
  · by_cases writes : tree.writesAt visit = true
    · obtain ⟨form, written⟩ := escapes.forms_step_of_writesAt writes
      rw [written, same, Array.getElem?_setIfInBounds_self_of_lt inside]
      exact iff_of_true rfl (Or.inr ⟨rfl, writes⟩)
    · rw [escapes.forms_step_of_not_writesAt writes]
      simp [writes]
  · rw [escapes.getElem?_forms_step same]
    simp [same]

/-! ## Tours -/

theorem getElem?_forms_foldl_step (escapes : Escapes) {visits : List Visit} {id : NodeId}
    (elsewhere : ∀ visit ∈ visits, visit.node ≠ id) :
    (visits.foldl (step tree) escapes).forms[id]? = escapes.forms[id]? := by
  induction visits generalizing escapes with
  | nil => rfl
  | cons visit rest ih =>
      rw [List.foldl_cons, ih _ fun other member => elsewhere other (List.mem_cons_of_mem _ member)]
      exact escapes.getElem?_forms_step (elsewhere visit List.mem_cons_self)

/-- After some steps a form is known if it was known before or one of them writes it. -/
theorem isSome_forms_foldl_step (escapes : Escapes) (visits : List Visit) {id : NodeId}
    (inside : id < escapes.forms.size) :
    (visits.foldl (step tree) escapes).forms[id]?.join.isSome = true ↔
      escapes.forms[id]?.join.isSome = true ∨
        ∃ visit ∈ visits, visit.node = id ∧ tree.writesAt visit = true := by
  induction visits generalizing escapes with
  | nil => simp
  | cons visit rest ih =>
      have still : id < (escapes.step tree visit).forms.size := by
        rw [size_forms_step]
        exact inside
      rw [List.foldl_cons, ih _ still, isSome_forms_step escapes visit inside,
        List.exists_mem_cons_iff, or_assoc]

/-- The tour of a node writes nothing above the node. -/
theorem getElem?_forms_tour (escapes : Escapes) (descends : NodeId → Bool) {id above : NodeId}
    (greater : id < above) :
    ((tree.tour descends id).foldl (step tree) escapes).forms[above]? = escapes.forms[above]? := by
  apply getElem?_forms_foldl_step
  rintro visit member rfl
  have reached := Tree.reaches_iff_mem_preorder.mpr (Tree.mem_tour_iff.mp member)
  exact absurd (Tree.le_of_reaches reached) (Nat.not_le_of_lt greater)

/-! ## Escapes in effect -/

variable {root id : NodeId} {escapes : Escapes}

/-- The escapes in effect at a node are blocks around it. -/
theorem Holds.lt_of_mem_active (holds : Holds tree (tree.pathTo root id) escapes)
    {escape : ActiveEscape} (member : escape ∈ escapes.active) : id < escape.block := by
  have active := List.mem_map_of_mem (f := ActiveEscape.block) member
  rw [holds.blocks] at active
  have onPath := (Tree.mem_of_mem_activeEscapes active).1
  exact Tree.lt_of_mem_ancestors ((List.takeWhile_sublist _).subset onPath)

/-- Entering a node leaves the forms in effect known. -/
theorem Grounded.enter (grounded : Grounded tree escapes)
    (holds : Holds tree (tree.pathTo root id) escapes) (size : escapes.forms.size = tree.size) :
    Grounded tree (escapes.step tree (.enter id)) := by
  intro escape member
  by_cases writes : tree.hasKind NodeKind.isEscape id = true
  · obtain ⟨parameter, kind⟩ := Tree.hasKind_isEscape_iff.mp writes
    simp only [step, kind, push, annotate] at member ⊢
    rcases List.mem_cons.mp member with rfl | outer
    · obtain ⟨node, found, _⟩ := Option.map_eq_some_iff.mp kind
      have inside := Nat.lt_of_lt_of_eq (Tree.lt_size_of_node? found) size.symm
      exact ⟨kind, Array.getElem?_setIfInBounds_self_of_lt inside⟩
    · rw [Array.getElem?_setIfInBounds_ne (Nat.ne_of_lt (holds.lt_of_mem_active outer))]
      exact grounded escape outer
  · have idle : ¬tree.writesAt (.enter id) = true := writes
    rw [escapes.forms_step_of_not_writesAt idle]
    apply grounded
    simp only [step] at member
    split at member
    · rename_i parameter kind
      exact absurd (Tree.hasKind_isEscape_iff.mpr ⟨parameter, kind⟩) writes
    · rw [suspend, active_pop] at member
      exact List.mem_of_mem_tail member
    · exact member

/-- The tour of a node leaves the forms in effect known. -/
theorem Grounded.tour (grounded : Grounded tree escapes) (descends : NodeId → Bool)
    (below : id ≤ root) (holds : Holds tree (tree.pathTo root id) escapes) :
    Grounded tree ((tree.tour descends id).foldl (step tree) escapes) := by
  intro escape member
  rw [(settles_tour descends below holds).active] at member
  rw [getElem?_forms_tour escapes descends (holds.lt_of_mem_active member)]
  exact grounded escape member

end Escapes

namespace Template

/-- An analysis writes the escaped forms of the interpolations and escape blocks that a walk
from the root reaches. -/
theorem isSome_noted_iff (template : Template) (id : NodeId) :
    template.noted[id]?.join.isSome = true ↔
      template.tree.Reaches (Survey.descends template.tree) template.root id ∧
        template.tree.hasKind NodeKind.hasEscapedForm id = true := by
  by_cases inside : id < template.tree.size
  · have start : id < (Escapes.start template.tree.size).forms.size := by
      simpa [Escapes.start] using inside
    rw [← Tree.exists_writesAt_iff, noted, Escapes.isSome_forms_foldl_step _ _ start]
    simp [Escapes.start, inside]
  · have absent : template.tree.kind? id = none := by
      rw [Tree.kind?, Tree.node?, Array.getElem?_eq_none (Nat.le_of_not_lt inside)]
      rfl
    have unknown : template.noted[id]? = none := by
      apply Array.getElem?_eq_none
      rw [size_noted]
      exact Nat.le_of_not_lt inside
    simp [unknown, Tree.hasKind, absent]

end Template

end TemplateLanguage
