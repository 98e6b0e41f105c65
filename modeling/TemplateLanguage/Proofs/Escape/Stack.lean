import TemplateLanguage.Proofs.Escape.Nesting

/-!
# The stack of escapes

A tour keeps the escapes in effect on a stack and notes escaped forms as it
goes.  Below a chain of ancestors the stack holds exactly the escape blocks
that are in effect by nesting, each with its escaped form, and that form is
noted already.  Entering a node and leaving it lead from what holds above the
node to what holds below it and back.
-/

namespace TemplateLanguage

namespace Tree

/-- An escape block as an escape in effect. -/
def activeEntry (tree : Tree) (block : NodeId) : ActiveEscape :=
  ⟨block, tree.escapeParameter block, tree.escapedForm block⟩

/-- The escapes in effect below a chain of ancestors, with their forms. -/
def activeEntries (tree : Tree) (chain : List NodeId) : List ActiveEscape :=
  (tree.activeEscapes chain).map tree.activeEntry

/-- What a node takes away for its body from the escapes in effect above it. -/
def suspendedEntries (tree : Tree) (id : NodeId) : List (Option ActiveEscape) :=
  if tree.kind? id = some .noEscapeBlock then [(tree.activeEntries (tree.ancestors id)).head?]
  else []

end Tree

namespace Escapes

variable {tree : Tree}

/-- The escaped form of a node is known. -/
def Noted (tree : Tree) (escapes : Escapes) (id : NodeId) : Prop :=
  escapes.forms[id]? = some (some (tree.escapedForm id))

/-- Each escape in effect is a block of the tree whose form is known. -/
def Grounded (tree : Tree) (escapes : Escapes) : Prop :=
  ∀ escape ∈ escapes.active,
    tree.kind? escape.block = some (.escapeBlock escape.parameter) ∧
      escapes.forms[escape.block]? = some (some escape.form)

/-- The escapes in effect are those that nesting gives below a chain of
ancestors, nearest first. -/
structure Below (tree : Tree) (chain : List NodeId) (escapes : Escapes) : Prop where
  active : escapes.active = tree.activeEntries chain
  size : escapes.forms.size = tree.size
  noted : ∀ block ∈ tree.activeEscapes chain, Noted tree escapes block

theorem Below.grounded {chain : List NodeId} {escapes : Escapes}
    (below : Below tree chain escapes) : Grounded tree escapes := by
  intro escape member
  rw [below.active] at member
  obtain ⟨block, active, rfl⟩ := List.mem_map.mp member
  obtain ⟨_, parameter, kind⟩ := Tree.mem_of_mem_activeEscapes active
  refine ⟨?_, below.noted block active⟩
  rw [Tree.activeEntry, Tree.escapeParameter_of_kind? kind]
  exact kind

/-- The innermost escape in effect turns the expression of a node into its
escaped form. -/
theorem apply_firstExpression {id : NodeId} {escapes : Escapes}
    (active : escapes.active = tree.activeEntries (tree.ancestors id)) :
    escapes.apply (tree.firstExpression id) = tree.escapedForm id := by
  have innermost : (tree.activeEscapes (tree.ancestors id)).head? = tree.activeEscape? id :=
    Tree.head?_activeEscapes id
  rw [apply, active, Tree.activeEntries]
  cases blocks : tree.activeEscapes (tree.ancestors id) with
  | nil =>
      rw [blocks] at innermost
      exact (Tree.escapedForm_of_activeEscape?_eq_none innermost.symm).symm
  | cons block outer =>
      rw [blocks] at innermost
      exact (Tree.escapedForm_of_activeEscape?_eq_some innermost.symm).symm

/-! ## Steps -/

theorem noted_annotate {escapes : Escapes} {id other : NodeId}
    (noted : Noted tree escapes other) :
    Noted tree (escapes.annotate id (tree.escapedForm id)) other := by
  rw [Noted, annotate, Array.getElem?_setIfInBounds]
  by_cases same : id = other
  · subst same
    have inside := (Array.getElem?_eq_some_iff.mp noted).choose
    rw [if_pos rfl, if_pos inside]
  · rw [if_neg same]
    exact noted

theorem noted_annotate_self {escapes : Escapes} {id : NodeId}
    (inside : id < escapes.forms.size) :
    Noted tree (escapes.annotate id (tree.escapedForm id)) id := by
  rw [Noted, annotate, Array.getElem?_setIfInBounds, if_pos rfl, if_pos inside]

@[simp]
theorem forms_push (escapes : Escapes) (escape : ActiveEscape) :
    (escapes.push escape).forms = escapes.forms :=
  rfl

@[simp]
theorem forms_pop (escapes : Escapes) : escapes.pop.forms = escapes.forms := by
  rw [pop]
  split <;> rfl

@[simp]
theorem forms_suspend (escapes : Escapes) : escapes.suspend.forms = escapes.forms :=
  forms_pop escapes

@[simp]
theorem forms_resume (escapes : Escapes) : escapes.resume.forms = escapes.forms := by
  rw [resume]
  split <;> rfl

theorem active_pop (escapes : Escapes) : escapes.pop.active = escapes.active.tail := by
  rw [pop]
  split
  · rename_i inactive
    rw [inactive]
    rfl
  · rename_i active
    rw [active]
    rfl

theorem suspended_pop (escapes : Escapes) : escapes.pop.suspended = escapes.suspended := by
  rw [pop]
  split <;> rfl

/-- Resuming what was suspended restores the escapes in effect. -/
theorem active_resume {escapes : Escapes} {active : List ActiveEscape}
    {outer : List (Option ActiveEscape)} (rest : escapes.active = active.tail)
    (suspended : escapes.suspended = active.head? :: outer) :
    escapes.resume.active = active ∧ escapes.resume.suspended = outer := by
  cases active with
  | nil =>
      rw [resume, suspended]
      exact ⟨rest, rfl⟩
  | cons escape active =>
      rw [resume, suspended]
      refine ⟨?_, rfl⟩
      change escape :: escapes.active = escape :: active
      rw [rest]
      rfl

theorem lt_size_of_below {chain : List NodeId} {escapes : Escapes} {id : NodeId}
    {kind : NodeKind} (below : Below tree chain escapes) (present : tree.kind? id = some kind) :
    id < escapes.forms.size := by
  obtain ⟨node, found, _⟩ := Option.map_eq_some_iff.mp present
  rw [below.size]
  exact Tree.lt_size_of_node? found

/-! ## Entering a node -/

/-- What entering a node leads to: what is in effect below the node, what the
node took away on top of what was taken away before, and no form forgotten. -/
structure Entered (tree : Tree) (id : NodeId) (escapes entered : Escapes) : Prop where
  below : Below tree (id :: tree.ancestors id) entered
  suspended : entered.suspended = tree.suspendedEntries id ++ escapes.suspended
  kept : ∀ other, Noted tree escapes other → Noted tree entered other

/-- An escape block is put on the stack with its own escaped form. -/
theorem Below.enter_escapeBlock {id : NodeId} {escapes : Escapes} {parameter : String}
    (below : Below tree (tree.ancestors id) escapes)
    (kind : tree.kind? id = some (.escapeBlock parameter)) :
    Entered tree id escapes
      ((escapes.annotate id (tree.escapedForm id)).push
        ⟨id, parameter, tree.escapedForm id⟩) := by
  have blocks := Tree.activeEscapes_of_escapeBlock (tree.ancestors id) kind
  refine ⟨⟨?_, ?_, ?_⟩, ?_, fun other noted => noted_annotate noted⟩
  · rw [Tree.activeEntries, blocks, List.map_cons, Tree.activeEntry,
      Tree.escapeParameter_of_kind? kind]
    exact congrArg _ below.active
  · rw [forms_push, annotate, Array.size_setIfInBounds]
    exact below.size
  · intro block active
    rw [blocks] at active
    rcases List.mem_cons.mp active with rfl | active
    · exact noted_annotate_self (lt_size_of_below below kind)
    · exact noted_annotate (below.noted block active)
  · rw [Tree.suspendedEntries, kind]
    rfl

/-- A noescape block takes the innermost escape off the stack. -/
theorem Below.enter_noEscapeBlock {id : NodeId} {escapes : Escapes}
    (below : Below tree (tree.ancestors id) escapes)
    (kind : tree.kind? id = some .noEscapeBlock) :
    Entered tree id escapes escapes.suspend := by
  have blocks := Tree.activeEscapes_of_noEscapeBlock (tree.ancestors id) kind
  refine ⟨⟨?_, ?_, ?_⟩, ?_, ?_⟩
  · rw [Tree.activeEntries, blocks, List.map_tail]
    change escapes.pop.active = _
    rw [active_pop, below.active]
    rfl
  · rw [forms_suspend]
    exact below.size
  · intro block active
    rw [blocks] at active
    rw [Noted, forms_suspend]
    exact below.noted block (List.mem_of_mem_tail active)
  · rw [suspend, below.active, Tree.suspendedEntries, if_pos kind]
    rfl
  · intro other noted
    rw [Noted, forms_suspend]
    exact noted

/-- Any other node leaves the stack alone. -/
theorem Below.enter_other {id : NodeId} {escapes : Escapes}
    (below : Below tree (tree.ancestors id) escapes)
    (notEscape : ∀ parameter, tree.kind? id ≠ some (.escapeBlock parameter))
    (notSuspension : tree.kind? id ≠ some .noEscapeBlock) :
    Entered tree id escapes escapes := by
  have blocks := Tree.activeEscapes_of_other (tree.ancestors id) notEscape notSuspension
  refine ⟨⟨?_, below.size, ?_⟩, ?_, fun other noted => noted⟩
  · rw [Tree.activeEntries, blocks]
    exact below.active
  · intro block active
    rw [blocks] at active
    exact below.noted block active
  · rw [Tree.suspendedEntries, if_neg notSuspension]
    rfl

/-- Entering a node puts into effect what is in effect below it. -/
theorem Below.enter {id : NodeId} {escapes : Escapes}
    (below : Below tree (tree.ancestors id) escapes) :
    Entered tree id escapes (escapes.step tree (.enter id)) := by
  simp only [step]
  split
  · rename_i parameter kind
    rw [apply_firstExpression below.active]
    exact below.enter_escapeBlock kind
  · rename_i kind
    exact below.enter_noEscapeBlock kind
  · rename_i notEscape notSuspension
    exact below.enter_other notEscape notSuspension

/-! ## Leaving a node -/

/-- What leaving a node leads to: what is in effect above the node, what was
taken away before the node was entered, no form forgotten, and the form of the
node noted if the node writes something. -/
structure Left (tree : Tree) (id : NodeId) (outer : List (Option ActiveEscape))
    (escapes left : Escapes) : Prop where
  active : left.active = tree.activeEntries (tree.ancestors id)
  suspended : left.suspended = outer
  kept : ∀ other, Noted tree escapes other → Noted tree left other
  noted : tree.kind? id = some .interpolation → Noted tree left id

section

variable {id : NodeId} {escapes : Escapes} {outer : List (Option ActiveEscape)}

/-- An escape block is taken off the stack again. -/
theorem Below.leave_escapeBlock {parameter : String}
    (below : Below tree (id :: tree.ancestors id) escapes)
    (suspended : escapes.suspended = tree.suspendedEntries id ++ outer)
    (kind : tree.kind? id = some (.escapeBlock parameter)) :
    Left tree id outer escapes escapes.pop := by
  constructor
  · rw [active_pop, below.active, Tree.activeEntries, Tree.activeEscapes_of_escapeBlock _ kind]
    rfl
  · rw [suspended_pop, suspended, Tree.suspendedEntries, kind]
    rfl
  · intro other noted
    rw [Noted, forms_pop]
    exact noted
  · intro interpolation
    cases kind.symm.trans interpolation

/-- A noescape block gives back what it took away. -/
theorem Below.leave_noEscapeBlock (below : Below tree (id :: tree.ancestors id) escapes)
    (suspended : escapes.suspended = tree.suspendedEntries id ++ outer)
    (kind : tree.kind? id = some .noEscapeBlock) :
    Left tree id outer escapes escapes.resume := by
  have rest : escapes.active = (tree.activeEntries (tree.ancestors id)).tail := by
    rw [below.active, Tree.activeEntries, Tree.activeEscapes_of_noEscapeBlock _ kind,
      List.map_tail]
    rfl
  rw [Tree.suspendedEntries, if_pos kind] at suspended
  obtain ⟨active, held⟩ := active_resume rest suspended
  constructor
  · exact active
  · exact held
  · intro other noted
    rw [Noted, forms_resume]
    exact noted
  · intro interpolation
    cases kind.symm.trans interpolation

theorem Below.active_of_other (below : Below tree (id :: tree.ancestors id) escapes)
    (notEscape : ∀ parameter, tree.kind? id ≠ some (.escapeBlock parameter))
    (notSuspension : tree.kind? id ≠ some .noEscapeBlock) :
    escapes.active = tree.activeEntries (tree.ancestors id) := by
  rw [below.active, Tree.activeEntries, Tree.activeEscapes_of_other _ notEscape notSuspension]
  rfl

/-- The escaped form of an interpolation is noted once its inside is done. -/
theorem Below.leave_interpolation (below : Below tree (id :: tree.ancestors id) escapes)
    (suspended : escapes.suspended = tree.suspendedEntries id ++ outer)
    (kind : tree.kind? id = some .interpolation) :
    Left tree id outer escapes
      (escapes.annotate id (escapes.apply (tree.firstExpression id))) := by
  have notEscape : ∀ parameter, tree.kind? id ≠ some (.escapeBlock parameter) := by
    intro parameter escape
    cases kind.symm.trans escape
  have notSuspension : tree.kind? id ≠ some .noEscapeBlock := by
    intro suspension
    cases kind.symm.trans suspension
  have active := below.active_of_other notEscape notSuspension
  rw [apply_firstExpression active]
  constructor
  · exact active
  · rw [annotate, suspended, Tree.suspendedEntries, if_neg notSuspension]
    rfl
  · exact fun _ noted => noted_annotate noted
  · exact fun _ => noted_annotate_self (lt_size_of_below below kind)

/-- Any other node leaves the stack alone. -/
theorem Below.leave_other (below : Below tree (id :: tree.ancestors id) escapes)
    (suspended : escapes.suspended = tree.suspendedEntries id ++ outer)
    (notEscape : ∀ parameter, tree.kind? id ≠ some (.escapeBlock parameter))
    (notSuspension : tree.kind? id ≠ some .noEscapeBlock)
    (notInterpolation : tree.kind? id ≠ some .interpolation) :
    Left tree id outer escapes escapes := by
  constructor
  · exact below.active_of_other notEscape notSuspension
  · rw [suspended, Tree.suspendedEntries, if_neg notSuspension]
    rfl
  · exact fun _ noted => noted
  · exact fun kind => absurd kind notInterpolation

/-- Leaving a node puts into effect what is in effect above it. -/
theorem Below.leave (below : Below tree (id :: tree.ancestors id) escapes)
    (suspended : escapes.suspended = tree.suspendedEntries id ++ outer) :
    Left tree id outer escapes (escapes.step tree (.leave id)) := by
  simp only [step]
  split
  · rename_i parameter kind
    exact below.leave_escapeBlock suspended kind
  · rename_i kind
    exact below.leave_noEscapeBlock suspended kind
  · rename_i kind
    exact below.leave_interpolation suspended kind
  · rename_i notEscape notSuspension notInterpolation
    exact below.leave_other suspended notEscape notSuspension notInterpolation

end

end Escapes

end TemplateLanguage
