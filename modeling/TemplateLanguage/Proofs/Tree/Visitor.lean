import Mathlib.Data.List.Nodup
import TemplateLanguage.Proofs.Tree.Growth
import TemplateLanguage.Tree.Visitor

/-!
# What a visitor visits

A visit of a node of a tree has a result, which is a preorder: it holds the node itself and
the nodes below it, except those with a node above them within the visit whose kind has a hook
that does nothing.  Each of them comes once, and the nodes at and below one of them come in one
go, child after child.

Changes of bare nodes lead to the nodes of trees only, so this holds of every
collection of nodes that has come about by changes.
-/

namespace TemplateLanguage

/-- The kinds of nodes below which a visitor does not go, as their hook does nothing. -/
inductive Visitor.Prunes (visitor : Visitor) : NodeKind → Prop
  | header (parameters : Entries String NodeId) (overridden : visitor.header = .nothing) :
      Prunes visitor (.header parameters)
  | macroDefinition (name : String) (kind : MacroKind)
      (overridden : visitor.macroDefinition = .nothing) :
      Prunes visitor (.macroDefinition name kind)
  | block (overridden : visitor.block = .nothing) :
      Prunes visitor .block
  | interpolation (overridden : visitor.interpolation = .nothing) :
      Prunes visitor .interpolation
  | escapeBlock (parameter : String) (overridden : visitor.escapeBlock = .nothing) :
      Prunes visitor (.escapeBlock parameter)
  | noEscapeBlock (overridden : visitor.noEscapeBlock = .nothing) :
      Prunes visitor .noEscapeBlock
  | listBlock (index : String) (value : Option String) (overridden : visitor.listBlock = .nothing) :
      Prunes visitor (.listBlock index value)
  | breakDirective (overridden : visitor.breakDirective = .nothing) :
      Prunes visitor .breakDirective
  | returnDirective (overridden : visitor.returnDirective = .nothing) :
      Prunes visitor .returnDirective
  | assignment (directive : AssignDirective) (targets : List NodeId)
      (overridden : visitor.assignment = .nothing) :
      Prunes visitor (.assignment directive targets)
  | blockAssignment (directive : AssignDirective) (target : NodeId)
      (overridden : visitor.blockAssignment = .nothing) :
      Prunes visitor (.blockAssignment directive target)
  | declaration (names : List String) (overridden : visitor.declaration = .nothing) :
      Prunes visitor (.declaration names)
  | importDirective (path namespaceName : String)
      (overridden : visitor.importDirective = .nothing) :
      Prunes visitor (.importDirective path namespaceName)
  | setting (key : String) (overridden : visitor.setting = .nothing) :
      Prunes visitor (.setting key)
  | stringLiteral (value : String) (raw : Bool) (overridden : visitor.stringLiteral = .nothing) :
      Prunes visitor (.stringLiteral value raw)
  | builtin (name : String) (overridden : visitor.builtin = .nothing) :
      Prunes visitor (.builtin name)
  | expression (kind : ExprKind) (overridden : visitor.expression = .nothing) :
      Prunes visitor (.expression kind)

theorem Visitor.hook_eq_nothing_iff {visitor : Visitor} {kind : NodeKind} :
    visitor.hook kind = .nothing ↔ visitor.Prunes kind := by
  constructor
  · intro overridden
    cases kind <;> constructor <;> exact overridden
  · intro pruned
    cases pruned <;> assumption

namespace Tree

variable {tree : Tree} {descends : NodeId → Bool}

/-- A visitor does not go below a node. -/
def IsPruned (tree : Tree) (visitor : Visitor) (id : NodeId) : Prop :=
  ∃ kind, tree.kind? id = some kind ∧ visitor.Prunes kind

/-- Whether a visitor goes below a node. -/
def goesBelow (tree : Tree) (visitor : Visitor) (id : NodeId) : Bool :=
  !tree.hasKind (fun kind => visitor.hook kind = .nothing) id

theorem goesBelow_eq_true_iff {visitor : Visitor} {id : NodeId} :
    tree.goesBelow visitor id = true ↔ ¬tree.IsPruned visitor id := by
  rw [goesBelow, hasKind, Bool.not_eq_true', IsPruned]
  cases tree.kind? id with
  | none => simp
  | some kind => simp [Visitor.hook_eq_nothing_iff]

/-! ## A visit is a preorder -/

/-- The rest of the children are visited in order if each child is visited in
preorder. -/
theorem visitChildren_eq_some {visitor : Visitor} {id : NodeId}
    (below : ∀ child ∈ tree.children id, ∀ visited,
      tree.visit visitor child visited = some (visited ++ tree.preorder descends child))
    (index remaining : Nat) (visited : List NodeId)
    (counted : index + remaining = (tree.children id).length) :
    tree.visitChildren visitor id index remaining visited =
      some (visited ++ ((tree.children id).drop index).flatMap (tree.preorder descends)) := by
  induction remaining generalizing index visited with
  | zero =>
      have last : (tree.children id).length ≤ index := Nat.le_of_eq counted.symm
      rw [visitChildren, List.drop_eq_nil_of_le last, List.flatMap_nil, List.append_nil]
  | succ remaining ih =>
      have inside : index < (tree.children id).length := by omega
      have rest := ih (index + 1) (visited ++ tree.preorder descends (tree.children id)[index])
        (by omega)
      rw [visitChildren_succ (List.getElem?_eq_getElem inside),
        below _ (List.getElem_mem inside), Option.bind_some, rest,
        List.drop_eq_getElem_cons inside, List.flatMap_cons, List.append_assoc]

/-- A visit of a node has a result: it adds the preorder from the node. -/
theorem visit_eq_some (visitor : Visitor) {id : NodeId} (present : id < tree.size)
    (visited : List NodeId) :
    tree.visit visitor id visited =
      some (visited ++ tree.preorder (tree.goesBelow visitor) id) := by
  -- The visit ends because every child is a node with a smaller number.
  induction id using tree.children_induction generalizing visited with
  | node id ih =>
      obtain ⟨kind, found⟩ := exists_kind? present
      rw [preorder_eq, goesBelow, hasKind, found, Option.any_some]
      cases hook : visitor.hook kind with
      | nothing =>
          rw [visit_of_hook_eq_nothing found hook]
          rfl
      | children =>
          have below : ∀ child ∈ tree.children id, ∀ visited,
              tree.visit visitor child visited =
                some (visited ++ tree.preorder (tree.goesBelow visitor) child) :=
            fun child isChild => ih child isChild
              (Nat.lt_trans (lt_of_mem_children isChild) present)
          rw [visit_of_hook_eq_children found hook,
            visitChildren_eq_some below 0 _ _ (Nat.zero_add _), List.drop_zero, List.append_assoc]
          rfl

/-! ## Stretches -/

/-- A preorder is cut by each of its nodes into the preorder from the node and
what is neither at nor below the node. -/
theorem exists_around_of_mem_preorder {root id : NodeId}
    (member : id ∈ tree.preorder descends root) :
    ∃ before after, tree.preorder descends root = before ++ tree.preorder descends id ++ after ∧
      ∀ other ∈ before ++ after, id ∉ other :: tree.ancestors other := by
  obtain ⟨before, after, shape⟩ := preorder_isInfix_preorder member
  refine ⟨before, after, shape.symm, ?_⟩
  -- Another node at or below `id` would be in the preorder from `id`, and so come twice.
  intro other around higher
  have distinct := nodup_preorder tree descends root
  rw [← shape, List.append_assoc] at distinct
  have inOrder : other ∈ tree.preorder descends root := by
    rw [← shape]
    rcases List.mem_append.mp around with first | last
    · exact List.mem_append_left _ (List.mem_append_left _ first)
    · exact List.mem_append_right _ last
  have within := mem_preorder_of_mem_ancestors member inOrder higher
  rcases List.mem_append.mp around with first | last
  · exact (List.disjoint_of_nodup_append distinct) first (List.mem_append_left _ within)
  · exact (List.disjoint_of_nodup_append (List.Nodup.of_append_right distinct)) within last

/-- A stretch of a visit that begins with a node and stays at and below it. -/
structure Stretch (tree : Tree) (id : NodeId) (stretch : List NodeId) : Prop where
  head? : stretch.head? = some id
  below : ∀ other ∈ stretch, id ∈ other :: tree.ancestors other

theorem stretch_preorder (descends : NodeId → Bool) (id : NodeId) :
    tree.Stretch id (tree.preorder descends id) where
  head? := by rw [preorder_eq, List.head?_cons]
  below _ := mem_of_mem_preorder

/-- An order of nodes is the preorder of what a visitor sees from a node on: the
node and the nodes below it that have no pruned node above them on the way, each
of them once, and from each of them one stretch that holds all that is at and
below it, made of a stretch for each child in turn. -/
structure IsPreorder (tree : Tree) (visitor : Visitor) (start : NodeId)
    (order : List NodeId) : Prop where
  nodup : order.Nodup
  mem_iff : ∀ id, id ∈ order ↔
    id = start ∨ start ∈ tree.ancestors id ∧
      ∀ above ∈ tree.ancestors id, start ∈ above :: tree.ancestors above →
        ¬tree.IsPruned visitor above
  stretches : ∀ id ∈ order, ∃ before stretches after,
    order = before ++ (id :: stretches.flatten) ++ after ∧
      (tree.IsPruned visitor id → stretches = []) ∧
      (¬tree.IsPruned visitor id → List.Forall₂ tree.Stretch (tree.children id) stretches) ∧
      ∀ other ∈ before ++ after, id ∉ other :: tree.ancestors other

theorem isPreorder_preorder (tree : Tree) (visitor : Visitor) (start : NodeId) :
    tree.IsPreorder visitor start (tree.preorder (tree.goesBelow visitor) start) where
  nodup := nodup_preorder tree _ start
  mem_iff id := by
    simp only [mem_preorder_iff_ancestors, goesBelow_eq_true_iff]
  stretches id member := by
    obtain ⟨before, after, shape, around⟩ := exists_around_of_mem_preorder member
    rw [shape, preorder_eq tree _ id]
    by_cases pruned : tree.IsPruned visitor id
    · refine ⟨before, [], after, ?_, fun _ => rfl, fun free => absurd pruned free, around⟩
      rw [if_neg (mt goesBelow_eq_true_iff.mp (not_not.mpr pruned))]
      rfl
    · refine ⟨before, (tree.children id).map (tree.preorder (tree.goesBelow visitor)), after,
        ?_, fun stopped => absurd stopped pruned, fun _ => ?_, around⟩
      · rw [if_pos (goesBelow_eq_true_iff.mpr pruned), List.flatMap_def]
      · rw [List.forall₂_map_right_iff, List.forall₂_same]
        exact fun child _ => stretch_preorder _ child

/-- Whatever changes of the empty collection of nodes succeed, they leave the
nodes of a tree, and a visit of one of them visits the preorder of what is not
pruned. -/
theorem visit_eq_some_and_isPreorder {changes : List Change} {nodes : Array Node}
    {start : NodeId} (visitor : Visitor)
    (performed : Nodes.performAll? changes #[] = some nodes) (present : start < nodes.size) :
    ∃ tree order, performAll? changes .empty = some tree ∧ tree.nodes = nodes ∧
      tree.visit visitor start [] = some order ∧ tree.IsPreorder visitor start order := by
  have grown := map_nodes_performAll? changes .empty
  rw [show Tree.empty.nodes = #[] from rfl, performed] at grown
  obtain ⟨tree, built, rfl⟩ := Option.map_eq_some_iff.mp grown
  exact ⟨tree, tree.preorder (tree.goesBelow visitor) start, built, rfl,
    visit_eq_some visitor present [], isPreorder_preorder tree visitor start⟩

/-- A block that holds a macro around an interpolation, and a break directive
after the macro. -/
def macroChanges : List Change :=
  [.add (.expression (.identifier "x")) ⟨0, 1, 1⟩ [], .add .interpolation ⟨1, 2, 1⟩ [0],
    .add .block ⟨2, 3, 1⟩ [1], .add (.macroDefinition "m" .procedure) ⟨3, 4, 1⟩ [2],
    .add .breakDirective ⟨4, 5, 1⟩ [], .add .block ⟨5, 6, 1⟩ [3, 4]]

/-- The nodes that they leave. -/
def macroNodes : Array Node :=
  #[⟨.expression (.identifier "x"), ⟨0, 1, 1⟩, some 1, []⟩,
    ⟨.interpolation, ⟨1, 2, 1⟩, some 2, [0]⟩,
    ⟨.block, ⟨2, 3, 1⟩, some 3, [1]⟩,
    ⟨.macroDefinition "m" .procedure, ⟨3, 4, 1⟩, some 5, [2]⟩,
    ⟨.breakDirective, ⟨4, 5, 1⟩, some 5, []⟩,
    ⟨.block, ⟨5, 6, 1⟩, none, [3, 4]⟩]

/-- A visitor whose hook for macros does nothing visits the block, the macro and the break
directive, in this order. -/
theorem visit_eq_some_and_isPreorder_macroChanges :
    Nodes.performAll? macroChanges #[] = some macroNodes ∧ 5 < macroNodes.size ∧
      ∃ tree, performAll? macroChanges .empty = some tree ∧ tree.nodes = macroNodes ∧
        tree.visit { macroDefinition := .nothing } 5 [] = some [5, 3, 4] ∧
        tree.IsPreorder { macroDefinition := .nothing } 5 [5, 3, 4] := by
  have performed : Nodes.performAll? macroChanges #[] = some macroNodes := by decide +kernel
  have present : 5 < macroNodes.size := by decide
  obtain ⟨tree, order, built, nodes, visited, isPreorder⟩ :=
    visit_eq_some_and_isPreorder { macroDefinition := .nothing } performed present
  have node : ∀ id, tree.node? id = macroNodes[id]? := fun id => by rw [node?, nodes]
  have order_eq : tree.preorder (tree.goesBelow { macroDefinition := .nothing }) 5 = [5, 3, 4] := by
    simp [preorder_eq, goesBelow, hasKind, kind?, children, node, macroNodes, Visitor.hook]
  have again := visit_eq_some { macroDefinition := .nothing }
    (Nat.lt_of_lt_of_eq present (congrArg Array.size nodes.symm)) []
  rw [visited, order_eq] at again
  obtain rfl := Option.some.inj again
  exact ⟨performed, present, tree, built, nodes, visited, isPreorder⟩

end Tree

end TemplateLanguage
