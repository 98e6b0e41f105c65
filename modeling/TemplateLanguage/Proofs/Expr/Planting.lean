import Mathlib.Data.List.Forall2
import TemplateLanguage.Proofs.Tree.Persistence

/-!
# Planting expressions

An expression is planted in a tree from the leaves up: nodes are added for its operands, one
after the other, and then a node that adopts them.  Every addition succeeds, because planting an
operand adopts new nodes only, so that the nodes of the operands before it are still without a
parent.

The expression of the last node is the one that was planted.  For this it does not matter in which
order the operands were planted, nor what was added between them.
-/

namespace TemplateLanguage

namespace Expr

/-- The kind of the node that holds an expression. -/
def kind? : Expr → Option NodeKind
  | identifier name => some (.expression (.identifier name))
  | boolean value => some (.expression (.boolean value))
  | number value => some (.expression (.number value))
  | text value raw => some (.stringLiteral value raw)
  | dot _ key => some (.expression (.dot key))
  | index _ _ => some (.expression .index)
  | call _ _ => some (.expression .call)
  | builtin _ name => some (.builtin name)
  | sequence _ => some (.expression .sequence)
  | parenthesized _ => some (.expression .parenthesized)
  | negation _ => some (.expression .negation)
  | binary operator _ _ => some (.expression (.binary operator))
  | invalid => none

/-- The operands of an expression, in the order of the children of its node. -/
def operands : Expr → List Expr
  | identifier _ | boolean _ | number _ | text _ _ | invalid => []
  | dot target _ | builtin target _ => [target]
  | index target key => [target, key]
  | call target arguments => target :: arguments
  | sequence items => items
  | parenthesized inner | negation inner => [inner]
  | binary _ left right => [left, right]

mutual

/-- Whether nothing in an expression is invalid. -/
def isComplete : Expr → Bool
  | identifier _ | boolean _ | number _ | text _ _ => true
  | dot target _ | builtin target _ => target.isComplete
  | index target key => target.isComplete && key.isComplete
  | call target arguments => target.isComplete && areComplete arguments
  | sequence items => areComplete items
  | parenthesized inner | negation inner => inner.isComplete
  | binary _ left right => left.isComplete && right.isComplete
  | invalid => false

/-- Whether nothing in several expressions is invalid. -/
def areComplete : List Expr → Bool
  | [] => true
  | expression :: rest => expression.isComplete && areComplete rest

end

variable (spans : NodeId → Span)

/-- Add a node with the span that is meant for it. -/
def plantNode (kind : NodeKind) (children : List NodeId) : StateT Tree Option NodeId :=
  fun tree => (tree.add? kind (spans tree.size) children).map fun larger => (tree.size, larger)

mutual

/-- Add nodes for an expression to a tree, those of the operands first. -/
def plant : Expr → StateT Tree Option NodeId
  | identifier name => plantNode spans (.expression (.identifier name)) []
  | boolean value => plantNode spans (.expression (.boolean value)) []
  | number value => plantNode spans (.expression (.number value)) []
  | text value raw => plantNode spans (.stringLiteral value raw) []
  | dot target key => do
      let target ← plant target
      plantNode spans (.expression (.dot key)) [target]
  | index target key => do
      let target ← plant target
      let key ← plant key
      plantNode spans (.expression .index) [target, key]
  | call target arguments => do
      let target ← plant target
      let arguments ← plantAll arguments
      plantNode spans (.expression .call) (target :: arguments)
  | builtin target name => do
      let target ← plant target
      plantNode spans (.builtin name) [target]
  | sequence items => do
      let items ← plantAll items
      plantNode spans (.expression .sequence) items
  | parenthesized inner => do
      let inner ← plant inner
      plantNode spans (.expression .parenthesized) [inner]
  | negation inner => do
      let inner ← plant inner
      plantNode spans (.expression .negation) [inner]
  | binary operator left right => do
      let left ← plant left
      let right ← plant right
      plantNode spans (.expression (.binary operator)) [left, right]
  | invalid => failure

/-- Add nodes for several expressions, one after the other. -/
def plantAll : List Expr → StateT Tree Option (List NodeId)
  | [] => return []
  | expression :: rest => do
      let id ← plant expression
      let ids ← plantAll rest
      return id :: ids

end

/-! ## Operands -/

theorem areComplete_eq_all (expressions : List Expr) :
    areComplete expressions = expressions.all isComplete := by
  induction expressions with
  | nil => rfl
  | cons expression rest ih => rw [areComplete, List.all_cons, ih]

/-- Nothing in an expression is invalid if it has a kind and nothing in its operands is. -/
theorem isComplete_eq (expression : Expr) :
    expression.isComplete = (expression.kind?.isSome && expression.operands.all isComplete) := by
  cases expression <;> simp [isComplete, kind?, operands, areComplete_eq_all]

/-- An expression is put together from its kind and its operands. -/
theorem assemble_operands {expression : Expr} {kind : NodeKind}
    (isKind : expression.kind? = some kind) : kind.assemble expression.operands = expression := by
  cases expression <;> cases isKind <;> rfl

/-- What holds of an expression whenever it holds of its operands holds of all expressions. -/
theorem operands_induction {motive : Expr → Prop}
    (step : ∀ expression, (∀ operand ∈ expression.operands, motive operand) → motive expression)
    (expression : Expr) : motive expression := by
  induction expression <;> exact step _ (by simp_all [operands])

/-- An expression is planted by planting its operands and adding a node that adopts theirs. -/
theorem plant_eq {expression : Expr} {kind : NodeKind} (isKind : expression.kind? = some kind) :
    expression.plant spans = plantAll spans expression.operands >>= plantNode spans kind := by
  cases expression <;> cases isKind <;> simp [plant, plantAll, operands]

end Expr

namespace Tree

/-- A node bears an expression if it adopted nodes that bear the operands when it was added.  The
operands may be there in any order, and anything may be added before, between and after them. -/
inductive Bears : Tree → NodeId → Expr → Prop
  | add {tree larger : Tree} {expression : Expr} {kind : NodeKind} {span : Span}
      {children : List NodeId} :
      expression.kind? = some kind → children.length = expression.operands.length →
        (∀ {child operand}, (child, operand) ∈ children.zip expression.operands →
          Bears tree child operand) →
        tree.add? kind span children = some larger → Bears larger tree.size expression
  | keep {tree larger : Tree} {id : NodeId} {expression : Expr} {kind : NodeKind} {span : Span}
      {children : List NodeId} :
      Bears tree id expression → tree.add? kind span children = some larger →
        Bears larger id expression

/-- A node holds an expression, and both say the same about assignments. -/
def Holds (tree : Tree) (id : NodeId) (expression : Expr) : Prop :=
  tree.expression id = expression ∧ tree.isAssignable id = expression.isAssignable

namespace Bears

variable {tree later : Tree} {id : NodeId} {expression : Expr}

theorem lt_size (bears : tree.Bears id expression) : id < tree.size := by
  induction bears with
  | add _ _ _ added => exact size_of_add? added ▸ Nat.lt_succ_self _
  | keep _ added older => exact Nat.lt_of_lt_of_le older (Keeps.of_add? added).size_le

theorem grows (bears : tree.Bears id expression) (more : tree.Grows later) :
    later.Bears id expression := by
  induction more with
  | refl => exact bears
  | add _ added ih => exact ih.keep added

theorem expression_eq (bears : tree.Bears id expression) : tree.expression id = expression := by
  induction bears with
  | @add tree larger expression kind _ children isKind sameLength bear added ih =>
      have keeps := Keeps.of_add? added
      have operands : children.map larger.expression = expression.operands := by
        rw [← List.forall₂_eq_eq_eq, List.forall₂_map_left_iff, List.forall₂_iff_zip]
        refine ⟨sameLength, fun member => ?_⟩
        exact (keeps.expression_eq (bear member).lt_size).trans (ih member)
      rw [Tree.expression_eq, kind?_of_add? added, children_of_add? added, if_pos rfl, if_pos rfl,
        operands]
      exact Expr.assemble_operands isKind
  | keep bears added ih => exact ((Keeps.of_add? added).expression_eq bears.lt_size).trans ih

theorem holds (bears : tree.Bears id expression) : tree.Holds id expression :=
  ⟨bears.expression_eq, by rw [← isAssignable_expression, bears.expression_eq]⟩

end Bears

/-- Expressions are planted in a tree: their nodes are new, nothing has adopted them yet, and
nothing that was there before has been adopted. -/
structure Planted (tree : Tree) (expressions : List Expr) (ids : List NodeId) (planted : Tree) :
    Prop where
  grows : tree.Grows planted
  keepsLoose : ∀ id, tree.isLoose id = true → planted.isLoose id = true
  fresh : ∀ id ∈ ids, tree.size ≤ id
  loose : ∀ id ∈ ids, planted.isLoose id = true
  nodup : ids.Nodup
  bears : List.Forall₂ planted.Bears ids expressions

namespace Planted

variable {tree grown planted : Tree} {expressions others : List Expr} {ids later : List NodeId}

theorem nil (tree : Tree) : Planted tree [] [] tree where
  grows := .refl
  keepsLoose _ loose := loose
  fresh _ member := absurd member List.not_mem_nil
  loose _ member := absurd member List.not_mem_nil
  nodup := List.nodup_nil
  bears := .nil

/-- What is planted later leaves alone what was planted before. -/
theorem append (first : Planted tree expressions ids grown)
    (second : Planted grown others later planted) :
    Planted tree (expressions ++ others) (ids ++ later) planted where
  grows := first.grows.trans second.grows
  keepsLoose id loose := second.keepsLoose id (first.keepsLoose id loose)
  fresh id member := by
    rcases List.mem_append.mp member with early | late
    · exact first.fresh id early
    · exact Nat.le_trans first.grows.keeps.size_le (second.fresh id late)
  loose id member := by
    rcases List.mem_append.mp member with early | late
    · exact second.keepsLoose id (first.loose id early)
    · exact second.loose id late
  nodup := by
    refine List.nodup_append.mpr ⟨first.nodup, second.nodup, ?_⟩
    intro id early other late same
    have inside := lt_size_of_isLoose (first.loose id early)
    exact Nat.not_lt_of_le (second.fresh other late) (same ▸ inside)
  bears :=
    List.rel_append (first.bears.imp fun _ _ bears => bears.grows second.grows) second.bears

/-- A node can adopt planted operands, and it bears the expression that they belong to. -/
theorem add {expression : Expr} {kind : NodeKind} (isKind : expression.kind? = some kind)
    (operands : Planted tree expression.operands ids grown) (span : Span) :
    ∃ larger, grown.add? kind span ids = some larger ∧
      Planted tree [expression] [grown.size] larger := by
  obtain ⟨larger, added⟩ : ∃ larger, grown.add? kind span ids = some larger :=
    ⟨_, dif_pos ⟨operands.nodup, operands.loose⟩⟩
  refine ⟨larger, added, ?_⟩
  exact
    { grows := operands.grows.add added
      keepsLoose := fun id loose => by
        refine isLoose_of_add? added (operands.keepsLoose id loose) fun member => ?_
        exact Nat.not_lt_of_le (operands.fresh id member) (lt_size_of_isLoose loose)
      fresh := fun id member => by
        obtain rfl := List.mem_singleton.mp member
        exact operands.grows.keeps.size_le
      loose := fun id member => by
        obtain rfl := List.mem_singleton.mp member
        exact isLoose_size_of_add? added
      nodup := List.pairwise_singleton _ _
      bears := by
        rcases List.forall₂_iff_zip.mp operands.bears with ⟨sameLength, bear⟩
        exact .cons (.add isKind sameLength bear added) .nil }

end Planted

end Tree

namespace Expr

variable (spans : NodeId → Span)

/-- If each of several expressions can be planted, so can all of them in turn. -/
theorem exists_plantAll {expressions : List Expr}
    (each : ∀ expression ∈ expressions, ∀ tree, ∃ id planted,
      expression.plant spans tree = some (id, planted) ∧
        Tree.Planted tree [expression] [id] planted) (tree : Tree) :
    ∃ ids planted, plantAll spans expressions tree = some (ids, planted) ∧
      Tree.Planted tree expressions ids planted := by
  induction expressions generalizing tree with
  | nil => exact ⟨[], tree, rfl, .nil tree⟩
  | cons expression rest ih =>
      rw [List.forall_mem_cons] at each
      rcases each.1 tree with ⟨id, grown, first, plants⟩
      rcases ih each.2 grown with ⟨ids, planted, others, plantsRest⟩
      refine ⟨id :: ids, planted, ?_, plants.append plantsRest⟩
      simp only [plantAll, bind, StateT.bind, first, others, Option.bind_some]
      rfl

/-- An expression in which nothing is invalid can be planted in every tree. -/
theorem exists_plant (expression : Expr) (complete : expression.isComplete = true) (tree : Tree) :
    ∃ id planted, expression.plant spans tree = some (id, planted) ∧
      Tree.Planted tree [expression] [id] planted := by
  induction expression using operands_induction generalizing tree with
  | step expression ih =>
      rw [isComplete_eq, Bool.and_eq_true, List.all_eq_true] at complete
      rcases Option.isSome_iff_exists.mp complete.1 with ⟨kind, isKind⟩
      rcases exists_plantAll spans (fun operand member => ih operand member
        (complete.2 operand member)) tree with ⟨ids, grown, planted, operands⟩
      rcases operands.add isKind (spans grown.size) with ⟨larger, added, plants⟩
      refine ⟨grown.size, larger, ?_, plants⟩
      rw [plant_eq spans isKind]
      simp only [bind, StateT.bind, planted, Option.bind_some, plantNode, added, Option.map_some]

/-- An expression can be planted in every tree.  However its nodes were added from the leaves up,
it is read back from the last one, in the tree at hand and in every tree that grows out of it, also
when a template owns that tree and is analysed time and again. -/
theorem exists_plant_and_holds {expression : Expr} (complete : expression.isComplete = true) :
    (∀ tree : Tree, ∃ id planted, expression.plant spans tree = some (id, planted) ∧
      tree.Grows planted ∧ planted.isLoose id = true ∧ planted.Bears id expression) ∧
    ∀ (tree : Tree) (id : NodeId), tree.Bears id expression →
      (∀ later, tree.Grows later → later.Holds id expression) ∧
      ∀ template later : Template, tree.Grows template.tree → template.Develops later →
        later.tree.Holds id expression := by
  constructor
  · intro tree
    rcases exists_plant spans expression complete tree with ⟨id, planted, plant, plants⟩
    refine ⟨id, planted, plant, plants.grows, plants.loose id List.mem_cons_self, ?_⟩
    exact (List.forall₂_cons.mp plants.bears).1
  · intro tree id bears
    constructor
    · exact fun later grows => (bears.grows grows).holds
    · intro template later grows develops
      exact (bears.grows (grows.trans develops.grows)).holds

/-- A call of a method, or else a text in upper case. -/
def greeting : Expr :=
  .binary .fallback
    (.call (.dot (.identifier "user") "greet") [.boolean true, .sequence [.text "a" true]])
    (.builtin (.text "anon" false) "upper_case")

/-- The node of an expression gets a parent, and the template is analysed. -/
theorem exists_plant_and_holds_greeting :
    greeting.isComplete = true ∧
      ∃ id planted, greeting.plant (fun id => ⟨id, id + 1, 1⟩) .empty = some (id, planted) ∧
        ∃ larger, planted.add? .interpolation ⟨9, 10, 1⟩ [id] = some larger ∧
          ((Template.ofTree "greeting" larger 9 none).analyze {}).2.tree.Holds id greeting := by
  have complete : greeting.isComplete = true := by decide
  rcases exists_plant_and_holds (fun id => ⟨id, id + 1, 1⟩) complete with ⟨plants, holds⟩
  rcases plants .empty with ⟨id, planted, plant, -, loose, bears⟩
  obtain ⟨larger, added⟩ : ∃ larger, planted.add? .interpolation ⟨9, 10, 1⟩ [id] = some larger :=
    ⟨_, dif_pos ⟨List.pairwise_singleton _ _, List.forall_mem_singleton.mpr loose⟩⟩
  refine ⟨complete, id, planted, plant, larger, added, ?_⟩
  exact (holds planted id bears).2 (.ofTree "greeting" larger 9 none) _ (.add .refl added)
    (.perform (.analyze {}) .refl)

end Expr

end TemplateLanguage
