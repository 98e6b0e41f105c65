import TemplateLanguage.Analysis.Escape
import TemplateLanguage.Proofs.Tree.Walk

/-!
# Nesting of escapes

Which escape is active at a node can be read off the ancestors of the node
alone: noescape blocks and escape blocks match like brackets, and the first
escape block that is not matched is the active one.

`Tree.escapedForm` is the escaped form of a node by this rule.  It refers to no
tour and to no stack.
-/

namespace TemplateLanguage

namespace NodeKind

/-- Whether a node has an escaped form. -/
def hasEscapedForm : NodeKind → Bool
  | interpolation | escapeBlock _ => true
  | _ => false

end NodeKind

namespace Tree

/-- Walk up a chain of ancestors, nearest first, to the escape block that is
active below it.  Each noescape block on the way makes up for one escape block
further out. -/
def enclosingEscape? (tree : Tree) (suspensions : Nat) : List NodeId → Option NodeId
  | [] => none
  | id :: outer =>
      match tree.kind? id with
      | some .noEscapeBlock => tree.enclosingEscape? (suspensions + 1) outer
      | some (.escapeBlock _) =>
          if suspensions = 0 then some id else tree.enclosingEscape? (suspensions - 1) outer
      | _ => tree.enclosingEscape? suspensions outer

/-- The escape block that is active at a node. -/
def activeEscape? (tree : Tree) (id : NodeId) : Option NodeId :=
  tree.enclosingEscape? 0 (tree.ancestors id)

/-- The escape blocks in effect below a chain of ancestors, the innermost
first. -/
def activeEscapes (tree : Tree) : List NodeId → List NodeId
  | [] => []
  | id :: outer =>
      match tree.kind? id with
      | some .noEscapeBlock => (tree.activeEscapes outer).tail
      | some (.escapeBlock _) => id :: tree.activeEscapes outer
      | _ => tree.activeEscapes outer

variable {tree : Tree}

theorem activeEscapes_of_escapeBlock (outer : List NodeId) {id : NodeId} {parameter : String}
    (kind : tree.kind? id = some (.escapeBlock parameter)) :
    tree.activeEscapes (id :: outer) = id :: tree.activeEscapes outer := by
  rw [activeEscapes, kind]

theorem activeEscapes_of_noEscapeBlock (outer : List NodeId) {id : NodeId}
    (kind : tree.kind? id = some .noEscapeBlock) :
    tree.activeEscapes (id :: outer) = (tree.activeEscapes outer).tail := by
  rw [activeEscapes, kind]

theorem activeEscapes_of_other (outer : List NodeId) {id : NodeId}
    (notEscape : ∀ parameter, tree.kind? id ≠ some (.escapeBlock parameter))
    (notSuspension : tree.kind? id ≠ some .noEscapeBlock) :
    tree.activeEscapes (id :: outer) = tree.activeEscapes outer := by
  rw [activeEscapes]
  split
  · rename_i kind
    exact absurd kind notSuspension
  · rename_i parameter kind
    exact absurd kind (notEscape parameter)
  · rfl

/-- The walk that skips some escape blocks finds the one at that place among
the blocks in effect. -/
theorem getElem?_activeEscapes (chain : List NodeId) (suspensions : Nat) :
    (tree.activeEscapes chain)[suspensions]? = tree.enclosingEscape? suspensions chain := by
  induction chain generalizing suspensions with
  | nil => rfl
  | cons id outer ih =>
      rw [activeEscapes, enclosingEscape?]
      split
      · rw [List.getElem?_tail, ih]
      · cases suspensions with
        | zero => rfl
        | succ suspensions =>
            rw [List.getElem?_cons_succ, ih, if_neg (Nat.succ_ne_zero suspensions),
              Nat.add_sub_cancel]
      · exact ih suspensions

theorem head?_activeEscapes (id : NodeId) :
    (tree.activeEscapes (tree.ancestors id)).head? = tree.activeEscape? id := by
  rw [List.head?_eq_getElem?, getElem?_activeEscapes, activeEscape?]

/-- The blocks in effect are escape blocks of the chain. -/
theorem mem_of_mem_activeEscapes {chain : List NodeId} {block : NodeId}
    (active : block ∈ tree.activeEscapes chain) :
    block ∈ chain ∧ ∃ parameter, tree.kind? block = some (.escapeBlock parameter) := by
  induction chain with
  | nil => simp [activeEscapes] at active
  | cons id outer ih =>
      rw [activeEscapes] at active
      split at active
      · obtain ⟨member, escapes⟩ := ih (List.mem_of_mem_tail active)
        exact ⟨List.mem_cons_of_mem id member, escapes⟩
      · rename_i parameter kind
        rcases List.mem_cons.mp active with rfl | active
        · exact ⟨List.mem_cons_self, parameter, kind⟩
        · obtain ⟨member, escapes⟩ := ih active
          exact ⟨List.mem_cons_of_mem id member, escapes⟩
      · obtain ⟨member, escapes⟩ := ih active
        exact ⟨List.mem_cons_of_mem id member, escapes⟩

theorem mem_of_activeEscape?_eq_some {id block : NodeId}
    (active : tree.activeEscape? id = some block) :
    block ∈ tree.ancestors id ∧
      ∃ parameter, tree.kind? block = some (.escapeBlock parameter) := by
  rw [← head?_activeEscapes] at active
  exact mem_of_mem_activeEscapes (List.mem_of_mem_head? active)

theorem hasKind_hasEscapedForm_iff {id : NodeId} :
    tree.hasKind NodeKind.hasEscapedForm id = true ↔
      tree.kind? id = some .interpolation ∨
        ∃ parameter, tree.kind? id = some (.escapeBlock parameter) := by
  rw [hasKind, Option.any_eq_true]
  constructor
  · rintro ⟨kind, found, escapable⟩
    cases kind with
    | interpolation => exact Or.inl found
    | escapeBlock parameter => exact Or.inr ⟨parameter, found⟩
    | _ => cases escapable
  · rintro (found | ⟨parameter, found⟩)
    · exact ⟨_, found, rfl⟩
    · exact ⟨_, found, rfl⟩

/-! ## Escaped forms -/

/-- The parameter of an escape block. -/
def escapeParameter (tree : Tree) (block : NodeId) : String :=
  match tree.kind? block with
  | some (.escapeBlock parameter) => parameter
  | _ => ""

theorem escapeParameter_of_kind? {block : NodeId} {parameter : String}
    (kind : tree.kind? block = some (.escapeBlock parameter)) :
    tree.escapeParameter block = parameter := by
  rw [escapeParameter, kind]

/-- The active escape is a node of the tree with a greater number. -/
theorem size_sub_lt_of_activeEscape? {id block : NodeId}
    (active : tree.activeEscape? id = some block) : tree.size - block < tree.size - id := by
  have above := (mem_of_activeEscape?_eq_some active).1
  exact Nat.sub_lt_sub_left
    (Nat.lt_trans (lt_of_mem_ancestors above) (lt_size_of_mem_ancestors above))
    (lt_of_mem_ancestors above)

/-- The first expression of a node as the escapes around the node write it. -/
def escapedForm (tree : Tree) (id : NodeId) : Expr :=
  match _active : tree.activeEscape? id with
  | none => tree.firstExpression id
  | some block =>
      (tree.escapedForm block).substitute (tree.escapeParameter block) (tree.firstExpression id)
termination_by tree.size - id
decreasing_by exact size_sub_lt_of_activeEscape? _active

theorem escapedForm_of_activeEscape?_eq_none {id : NodeId}
    (inactive : tree.activeEscape? id = none) :
    tree.escapedForm id = tree.firstExpression id := by
  rw [escapedForm]
  split
  · rfl
  · rename_i active
    rw [inactive] at active
    cases active

theorem escapedForm_of_activeEscape?_eq_some {id block : NodeId}
    (active : tree.activeEscape? id = some block) :
    tree.escapedForm id =
      (tree.escapedForm block).substitute (tree.escapeParameter block)
        (tree.firstExpression id) := by
  rw [escapedForm]
  split
  · rename_i inactive
    rw [active] at inactive
    cases inactive
  · rename_i other found
    rw [active] at found
    cases found
    rfl

end Tree

end TemplateLanguage
