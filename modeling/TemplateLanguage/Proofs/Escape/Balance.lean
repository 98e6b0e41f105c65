import TemplateLanguage.Proofs.Declaration.Names
import TemplateLanguage.Proofs.Escape.Lexical

/-!
# The balance of escapes

A tour leaves the stack of escapes as it found it, at each node on its own.  So
the counts of an analysis can be read off the nodes that it comes to: a block is
pushed and popped once for each escape block, and once for each noescape block
that has something to suspend, and the stack is deepest just inside some escape
block.

How many blocks are active at a node depends on the path that leads to it from
the root and on nothing else.
-/

namespace TemplateLanguage

namespace Tree

/-- The nodes above a node up to a root, nearest first. -/
def pathTo (tree : Tree) (root id : NodeId) : List NodeId :=
  (tree.ancestors id).takeWhile fun above => above ≤ root

/-- The escape blocks that are active at a node, the innermost first, on the
path from a root. -/
def escapesAt (tree : Tree) (root id : NodeId) : List NodeId :=
  tree.activeEscapes (tree.pathTo root id)

/-- The escape blocks that are active just inside a node. -/
def escapesInside (tree : Tree) (root id : NodeId) : List NodeId :=
  tree.activeEscapes (id :: tree.pathTo root id)

/-- Whether a node is a noescape block where some escape block is active. -/
def suspends (tree : Tree) (root id : NodeId) : Bool :=
  tree.kind? id = some .noEscapeBlock && !(tree.escapesAt root id).isEmpty

/-- How often some nodes put an escape block into effect or out of it. -/
def escapeSwitches (tree : Tree) (root : NodeId) (nodes : List NodeId) : Nat :=
  nodes.countP (tree.hasKind NodeKind.isEscape) + nodes.countP (tree.suspends root)

/-- The greatest number of escape blocks that are active just inside one of the
escape blocks among some nodes. -/
def deepestEscape (tree : Tree) (root : NodeId) (nodes : List NodeId) : Nat :=
  ((nodes.filter (tree.hasKind NodeKind.isEscape)).map fun block =>
    (tree.escapesInside root block).length).foldr max 0

variable {tree : Tree} {root : NodeId}

theorem pathTo_self (tree : Tree) (root : NodeId) : tree.pathTo root root = [] := by
  rw [pathTo]
  cases above : tree.ancestors root with
  | nil => rfl
  | cons parent outer =>
      have greater : root < parent := lt_of_mem_ancestors (above ▸ List.mem_cons_self)
      rw [List.takeWhile_cons_of_neg]
      simp [greater]

theorem le_of_mem_children {id child : NodeId} (below : id ≤ root)
    (isChild : child ∈ tree.children id) : child ≤ root :=
  Nat.le_of_lt (Nat.lt_of_lt_of_le (lt_of_mem_children isChild) below)

theorem pathTo_of_mem_children {id child : NodeId} (inside : id ≤ root)
    (isChild : child ∈ tree.children id) :
    tree.pathTo root child = id :: tree.pathTo root id := by
  rw [pathTo, ancestors_of_mem_children isChild, List.takeWhile_cons_of_pos (by simp [inside])]
  rfl

theorem le_of_reaches {descends : NodeId → Bool} {id : NodeId}
    (reached : tree.Reaches descends root id) : id ≤ root := by
  rcases List.mem_cons.mp (mem_of_mem_preorder (reaches_iff_mem_preorder.mp reached)) with
    rfl | above
  · exact Nat.le_refl _
  · exact Nat.le_of_lt (lt_of_mem_ancestors above)

theorem hasKind_isEscape_iff {id : NodeId} :
    tree.hasKind NodeKind.isEscape id = true ↔
      ∃ parameter, tree.kind? id = some (.escapeBlock parameter) := by
  rw [hasKind, Option.any_eq_true]
  constructor
  · rintro ⟨kind, found, isEscape⟩
    cases kind with
    | escapeBlock parameter => exact ⟨parameter, found⟩
    | _ => cases isEscape
  · rintro ⟨parameter, found⟩
    exact ⟨_, found, rfl⟩

/-! ## Counts over several nodes -/

theorem escapeSwitches_append (tree : Tree) (root : NodeId) (nodes others : List NodeId) :
    tree.escapeSwitches root (nodes ++ others) =
      tree.escapeSwitches root nodes + tree.escapeSwitches root others := by
  simp only [escapeSwitches, List.countP_append]
  omega

theorem deepestEscape_append (tree : Tree) (root : NodeId) (nodes others : List NodeId) :
    tree.deepestEscape root (nodes ++ others) =
      max (tree.deepestEscape root nodes) (tree.deepestEscape root others) := by
  simp only [deepestEscape, List.filter_append, List.map_append, List.foldr_append]
  induction nodes.filter (tree.hasKind NodeKind.isEscape) with
  | nil => simp
  | cons block rest ih => simp only [List.map_cons, List.foldr_cons, ih, Nat.max_assoc]

section

variable {id : NodeId} (root) (nodes : List NodeId)

theorem escapeSwitches_cons_escapeBlock {parameter : String}
    (kind : tree.kind? id = some (.escapeBlock parameter)) :
    tree.escapeSwitches root (id :: nodes) = tree.escapeSwitches root nodes + 1 := by
  have isEscape := hasKind_isEscape_iff.mpr ⟨parameter, kind⟩
  simp [escapeSwitches, suspends, isEscape, kind, Nat.add_right_comm]

theorem deepestEscape_cons_escapeBlock {parameter : String}
    (kind : tree.kind? id = some (.escapeBlock parameter)) :
    tree.deepestEscape root (id :: nodes) =
      max ((tree.escapesAt root id).length + 1) (tree.deepestEscape root nodes) := by
  have isEscape := hasKind_isEscape_iff.mpr ⟨parameter, kind⟩
  simp [deepestEscape, isEscape, escapesInside, escapesAt, activeEscapes_of_escapeBlock _ kind]

theorem escapeSwitches_cons_noEscapeBlock (kind : tree.kind? id = some .noEscapeBlock) :
    tree.escapeSwitches root (id :: nodes) =
      tree.escapeSwitches root nodes + if tree.escapesAt root id = [] then 0 else 1 := by
  have notEscape : tree.hasKind NodeKind.isEscape id = false := by simp [hasKind, kind]; rfl
  by_cases inactive : tree.escapesAt root id = []
  · simp [escapeSwitches, suspends, notEscape, kind, inactive]
  · simp [escapeSwitches, suspends, notEscape, kind, inactive, Nat.add_assoc]

theorem escapeSwitches_cons_other
    (notEscape : ∀ parameter, tree.kind? id ≠ some (.escapeBlock parameter))
    (notSuspension : tree.kind? id ≠ some .noEscapeBlock) :
    tree.escapeSwitches root (id :: nodes) = tree.escapeSwitches root nodes := by
  have other : ¬tree.hasKind NodeKind.isEscape id = true := by
    rw [hasKind_isEscape_iff, not_exists]
    exact notEscape
  simp [escapeSwitches, suspends, other, notSuspension]

theorem deepestEscape_cons_other
    (notEscape : ∀ parameter, tree.kind? id ≠ some (.escapeBlock parameter)) :
    tree.deepestEscape root (id :: nodes) = tree.deepestEscape root nodes := by
  have other : ¬tree.hasKind NodeKind.isEscape id = true := by
    rw [hasKind_isEscape_iff, not_exists]
    exact notEscape
  simp [deepestEscape, other]

end

end Tree

namespace Escapes

variable {tree : Tree} {root : NodeId}

/-! ## The stack on the way down -/

/-- The stack holds the blocks that are active below a chain of nodes, nearest
first, and has been no less deep before. -/
structure Holds (tree : Tree) (chain : List NodeId) (escapes : Escapes) : Prop where
  blocks : escapes.active.map ActiveEscape.block = tree.activeEscapes chain
  depth_le : escapes.depth ≤ escapes.maxDepth

theorem holds_start (tree : Tree) (size : Nat) : Holds tree [] (start size) where
  blocks := rfl
  depth_le := Nat.le_refl 0

theorem Holds.length_active {chain : List NodeId} {escapes : Escapes}
    (holds : Holds tree chain escapes) :
    escapes.active.length = (tree.activeEscapes chain).length := by
  rw [← holds.blocks, List.length_map]

/-- Entering a node puts into effect what is active inside it. -/
theorem Holds.enter {chain : List NodeId} {escapes : Escapes}
    (holds : Holds tree chain escapes) (id : NodeId) :
    Holds tree (id :: chain) (escapes.step tree (.enter id)) := by
  simp only [step]
  split
  · rename_i parameter kind
    constructor
    · rw [Tree.activeEscapes_of_escapeBlock chain kind, ← holds.blocks]
      rfl
    · exact Nat.le_max_right _ _
  · rename_i kind
    constructor
    · rw [Tree.activeEscapes_of_noEscapeBlock chain kind, ← holds.blocks, ← List.map_tail,
        ← active_pop]
      rfl
    · have deep := holds.depth_le
      simp only [suspend, pop, depth] at deep ⊢
      split
      · exact deep
      · rename_i active
        rw [active, List.length_cons] at deep
        exact Nat.le_of_succ_le deep
  · rename_i notEscape notSuspension
    constructor
    · rw [Tree.activeEscapes_of_other chain notEscape notSuspension]
      exact holds.blocks
    · exact holds.depth_le

/-! ## What a part of a tour leaves behind -/

/-- A part of a tour that comes to some nodes leaves the stack as it was, and
what it has pushed, popped and reached in depth is due to those nodes. -/
structure Settles (tree : Tree) (root : NodeId) (nodes : List NodeId)
    (before after : Escapes) : Prop where
  active : after.active = before.active
  suspended : after.suspended = before.suspended
  pushes : after.pushes = before.pushes + tree.escapeSwitches root nodes
  pops : after.pops = before.pops + tree.escapeSwitches root nodes
  maxDepth : after.maxDepth = max before.maxDepth (tree.deepestEscape root nodes)

theorem settles_nil (tree : Tree) (root : NodeId) (escapes : Escapes) :
    Settles tree root [] escapes escapes := by
  constructor <;> simp [Tree.escapeSwitches, Tree.deepestEscape]

theorem Settles.append {nodes others : List NodeId} {before middle after : Escapes}
    (first : Settles tree root nodes before middle)
    (second : Settles tree root others middle after) :
    Settles tree root (nodes ++ others) before after where
  active := second.active.trans first.active
  suspended := second.suspended.trans first.suspended
  pushes := by rw [second.pushes, first.pushes, Tree.escapeSwitches_append, Nat.add_assoc]
  pops := by rw [second.pops, first.pops, Tree.escapeSwitches_append, Nat.add_assoc]
  maxDepth := by rw [second.maxDepth, first.maxDepth, Tree.deepestEscape_append, Nat.max_assoc]

theorem Settles.holds {nodes chain : List NodeId} {before after : Escapes}
    (settles : Settles tree root nodes before after) (holds : Holds tree chain before) :
    Holds tree chain after where
  blocks := by rw [settles.active, holds.blocks]
  depth_le := by
    rw [depth, settles.active, settles.maxDepth]
    exact Nat.le_trans holds.depth_le (Nat.le_max_left _ _)

section

variable {id : NodeId} {nodes : List NodeId} {escapes inside : Escapes}

/-- The push of an escape block is undone when the tour leaves the block. -/
theorem Holds.settles_escapeBlock {parameter : String}
    (holds : Holds tree (tree.pathTo root id) escapes)
    (kind : tree.kind? id = some (.escapeBlock parameter))
    (settles : Settles tree root nodes (escapes.step tree (.enter id)) inside) :
    Settles tree root (id :: nodes) escapes (inside.step tree (.leave id)) := by
  have depth : escapes.active.length = (tree.escapesAt root id).length := holds.length_active
  have switches := Tree.escapeSwitches_cons_escapeBlock root nodes kind
  have deepest := Tree.deepestEscape_cons_escapeBlock root nodes kind
  rcases settles with ⟨active, suspended, pushes, pops, maxDepth⟩
  simp only [step, kind, annotate, push, Escapes.depth, depth]
    at active suspended pushes pops maxDepth
  simp only [step, kind, pop, active]
  constructor
  · rfl
  · exact suspended
  · simp only [pushes, switches]
    omega
  · simp only [pops, switches]
    omega
  · simp only [maxDepth, deepest, Nat.max_assoc]

/-- What a noescape block suspends is resumed when the tour leaves the block. -/
theorem Holds.settles_noEscapeBlock (holds : Holds tree (tree.pathTo root id) escapes)
    (kind : tree.kind? id = some .noEscapeBlock)
    (settles : Settles tree root nodes (escapes.step tree (.enter id)) inside) :
    Settles tree root (id :: nodes) escapes (inside.step tree (.leave id)) := by
  have depth : escapes.active.length = (tree.escapesAt root id).length := holds.length_active
  have switches := Tree.escapeSwitches_cons_noEscapeBlock root nodes kind
  have notEscape : ∀ parameter, tree.kind? id ≠ some (.escapeBlock parameter) := by
    intro parameter escape
    cases kind.symm.trans escape
  have deepest := Tree.deepestEscape_cons_other root nodes notEscape
  have deep := holds.depth_le
  rcases settles with ⟨active, suspended, pushes, pops, maxDepth⟩
  cases stack : escapes.active with
  | nil =>
      rw [stack, List.length_nil] at depth
      rw [if_pos (List.length_eq_zero_iff.mp depth.symm)] at switches
      simp only [step, kind, suspend, pop, stack, List.head?_nil]
        at active suspended pushes pops maxDepth
      simp only [step, kind, resume, suspended]
      constructor
      · exact active.trans stack.symm
      · rfl
      · rw [switches]
        exact pushes
      · rw [switches]
        exact pops
      · rw [deepest]
        exact maxDepth
  | cons escape outer =>
      rw [Escapes.depth, stack, List.length_cons] at deep
      rw [stack, List.length_cons] at depth
      rw [if_neg (List.ne_nil_of_length_pos (by omega))] at switches
      simp only [step, kind, suspend, pop, stack, List.head?_cons]
        at active suspended pushes pops maxDepth
      simp only [step, kind, resume, suspended, push, Escapes.depth]
      constructor
      · simp only [active, stack]
      · rfl
      · simp only [pushes, switches]
        omega
      · simp only [pops, switches]
        omega
      · simp only [active, maxDepth, deepest]
        omega

/-- Any other node has no part in the balance. -/
theorem settles_other (notEscape : ∀ parameter, tree.kind? id ≠ some (.escapeBlock parameter))
    (notSuspension : tree.kind? id ≠ some .noEscapeBlock)
    (settles : Settles tree root nodes (escapes.step tree (.enter id)) inside) :
    Settles tree root (id :: nodes) escapes (inside.step tree (.leave id)) := by
  have entered : escapes.step tree (.enter id) = escapes := by
    simp only [step]
  rw [entered] at settles
  have switches := Tree.escapeSwitches_cons_other root nodes notEscape notSuspension
  have whole : Settles tree root (id :: nodes) escapes inside :=
    { settles with
      pushes := by rw [settles.pushes, switches]
      pops := by rw [settles.pops, switches]
      maxDepth := by rw [settles.maxDepth, Tree.deepestEscape_cons_other root nodes notEscape] }
  simp only [step]
  split
  · rename_i parameter kind
    exact absurd kind (notEscape parameter)
  · rename_i kind
    exact absurd kind notSuspension
  · exact ⟨whole.active, whole.suspended, whole.pushes, whole.pops, whole.maxDepth⟩
  · exact whole

/-- What happens between entering a node and leaving it settles together with
the node. -/
theorem Holds.settles (holds : Holds tree (tree.pathTo root id) escapes)
    (settles : Settles tree root nodes (escapes.step tree (.enter id)) inside) :
    Settles tree root (id :: nodes) escapes (inside.step tree (.leave id)) := by
  by_cases escape : ∃ parameter, tree.kind? id = some (.escapeBlock parameter)
  · rcases escape with ⟨parameter, kind⟩
    exact holds.settles_escapeBlock kind settles
  · by_cases suspension : tree.kind? id = some .noEscapeBlock
    · exact holds.settles_noEscapeBlock suspension settles
    · exact settles_other (not_exists.mp escape) suspension settles

end

/-- Tours of children settle one after the other. -/
theorem settles_flatMap (root : NodeId) (descends : NodeId → Bool) {chain : List NodeId}
    (children : List NodeId)
    (each : ∀ child ∈ children, ∀ escapes : Escapes, Holds tree chain escapes →
      Settles tree root (tree.preorder descends child) escapes
        ((tree.tour descends child).foldl (step tree) escapes))
    {escapes : Escapes} (holds : Holds tree chain escapes) :
    Settles tree root (children.flatMap (tree.preorder descends)) escapes
      ((children.flatMap (tree.tour descends)).foldl (step tree) escapes) := by
  induction children generalizing escapes with
  | nil => exact settles_nil tree root escapes
  | cons child rest ih =>
      have first := each child List.mem_cons_self escapes holds
      rw [List.flatMap_cons, List.flatMap_cons, List.foldl_append]
      apply first.append
      apply ih
      · exact fun other member => each other (List.mem_cons_of_mem child member)
      · exact first.holds holds

theorem foldl_tour (descends : NodeId → Bool) (id : NodeId) (escapes : Escapes) :
    (tree.tour descends id).foldl (step tree) escapes =
      ((if descends id then (tree.children id).flatMap (tree.tour descends) else []).foldl
        (step tree) (escapes.step tree (.enter id))).step tree (.leave id) := by
  rw [Tree.tour_eq, List.cons_append, List.foldl_cons, List.foldl_append]
  rfl

/-- The tour of a node below a root settles. -/
theorem settles_tour (descends : NodeId → Bool) {id : NodeId} (below : id ≤ root)
    {escapes : Escapes} (holds : Holds tree (tree.pathTo root id) escapes) :
    Settles tree root (tree.preorder descends id) escapes
      ((tree.tour descends id).foldl (step tree) escapes) := by
  induction id using tree.children_induction generalizing escapes with
  | node id ih =>
      rw [foldl_tour, Tree.preorder_eq]
      apply holds.settles
      by_cases down : descends id = true
      · rw [if_pos down, if_pos down]
        refine settles_flatMap root descends _ ?_ (holds.enter id)
        intro child isChild state inside
        rw [← Tree.pathTo_of_mem_children below isChild] at inside
        exact ih child isChild (Tree.le_of_mem_children below isChild) inside
      · rw [if_neg down, if_neg down]
        exact settles_nil tree root _

/-- The tours of some children of a node settle inside the node. -/
theorem settles_children (descends : NodeId → Bool) {id : NodeId} (below : id ≤ root)
    {children : List NodeId} (areChildren : ∀ child ∈ children, child ∈ tree.children id)
    {escapes : Escapes} (holds : Holds tree (id :: tree.pathTo root id) escapes) :
    Settles tree root (children.flatMap (tree.preorder descends)) escapes
      ((children.flatMap (tree.tour descends)).foldl (step tree) escapes) := by
  refine settles_flatMap root descends children ?_ holds
  intro child member state inside
  have isChild := areChildren child member
  rw [← Tree.pathTo_of_mem_children below isChild] at inside
  exact settles_tour descends (Tree.le_of_mem_children below isChild) inside

/-- The tour of a node that a walk reaches is a part of the whole tour, and
before that part the stack holds the blocks that are active at the node. -/
theorem exists_split_of_reaches {descends : NodeId → Bool} {id : NodeId}
    (reached : tree.Reaches descends root id) {escapes : Escapes}
    (holds : Holds tree [] escapes) :
    ∃ before after, tree.tour descends root = before ++ tree.tour descends id ++ after ∧
      Holds tree (tree.pathTo root id) (before.foldl (step tree) escapes) := by
  induction reached with
  | root =>
      refine ⟨[], [], (List.append_nil _).symm, ?_⟩
      rw [Tree.pathTo_self]
      exact holds
  | @child id child reached down isChild ih =>
      have below := Tree.le_of_reaches reached
      rcases ih with ⟨before, after, split, stands⟩
      rcases List.append_of_mem isChild with ⟨elder, younger, siblings⟩
      refine ⟨before ++ .enter id :: elder.flatMap (tree.tour descends),
        younger.flatMap (tree.tour descends) ++ .leave id :: after, ?_, ?_⟩
      · rw [split, Tree.tour_eq tree descends id, if_pos down, siblings]
        simp
      · rw [Tree.pathTo_of_mem_children below isChild, List.foldl_append, List.foldl_cons]
        have areChildren : ∀ other ∈ elder, other ∈ tree.children id := by
          intro other member
          rw [siblings]
          exact List.mem_append_left _ member
        exact (settles_children descends below areChildren (stands.enter id)).holds
          (stands.enter id)

end Escapes

namespace Template

/-! ## Analyses -/

/-- How many steps the tour of an analysis makes before it enters a node. -/
def stepsBefore (template : Template) (id : NodeId) : Nat :=
  (template.tree.tour (Survey.descends template.tree) template.root).idxOf (.enter id)

/-- A tour enters a node once, so what comes before a part that begins with
entering the node has a known length. -/
theorem stepsBefore_of_split {template : Template} {id : NodeId} {before after : List Visit}
    (split : template.tree.tour (Survey.descends template.tree) template.root =
      before ++ template.tree.tour (Survey.descends template.tree) id ++ after) :
    template.stepsBefore id = before.length := by
  have entered := template.nodup_walk
  rw [walk, ← Tree.filterMap_entered?_tour, split, Tree.tour_eq template.tree _ id] at entered
  have new : Visit.enter id ∉ before := by
    intro earlier
    simp only [List.append_assoc, List.cons_append, List.filterMap_append,
      List.filterMap_cons, Visit.entered?] at entered
    rw [List.nodup_append] at entered
    exact entered.2.2 id (List.mem_filterMap.mpr ⟨_, earlier, rfl⟩) id List.mem_cons_self rfl
  rw [stepsBefore, split, Tree.tour_eq template.tree _ id, List.append_assoc,
    List.idxOf_append_of_notMem new]
  simp

theorem escapesAfter_eq (template : Template) (options : AnalysisOptions) (steps : Nat) :
    template.escapesAfter options steps =
      ((template.tree.tour (Survey.descends template.tree) template.root).take steps).foldl
        (Escapes.step template.tree) (.start template.tree.size) := by
  rw [escapesAfter, Survey.escapes_foldl_step]
  rfl

/-- The visit of each node leaves the escapes in effect as it found them, and
these are the blocks that are active on the path from the root.  At the end no
escape is in effect; there were as many pushes as pops, one for each escape block
and one for each noescape block where an escape was active; and the greatest
depth was that just inside the escape block where most blocks are active. -/
theorem escapes_analyze (template : Template) (options : AnalysisOptions) :
    (∀ id, template.tree.Reaches (Survey.descends template.tree) template.root id →
      template.tree.tour (Survey.descends template.tree) id <+:
          (template.tree.tour (Survey.descends template.tree) template.root).drop
            (template.stepsBefore id) ∧
        (template.escapesAfter options (template.stepsBefore id)).active.map
            ActiveEscape.block = template.tree.escapesAt template.root id ∧
        (template.escapesAfter options (template.stepsBefore id +
            (template.tree.tour (Survey.descends template.tree) id).length)).active =
          (template.escapesAfter options (template.stepsBefore id)).active) ∧
    (template.analyze options).1.depth = 0 ∧
    (template.analyze options).1.pushes =
      template.walk.countP (template.tree.hasKind NodeKind.isEscape) +
        template.walk.countP (template.tree.suspends template.root) ∧
    (template.analyze options).1.pops = (template.analyze options).1.pushes ∧
    (template.analyze options).1.maxDepth =
      template.tree.deepestEscape template.root template.walk := by
  have start := Escapes.holds_start template.tree template.tree.size
  constructor
  · intro id reached
    rcases Escapes.exists_split_of_reaches reached start with ⟨before, after, split, holds⟩
    have visited := Escapes.settles_tour (Survey.descends template.tree)
      (Tree.le_of_reaches reached) holds
    rw [stepsBefore_of_split split, escapesAfter_eq, escapesAfter_eq, split]
    constructor
    · rw [List.append_assoc, List.drop_left]
      exact List.prefix_append _ _
    · constructor
      · rw [List.append_assoc, List.take_left]
        exact holds.blocks
      · rw [← List.length_append, List.take_left, List.append_assoc, List.take_left,
          List.foldl_append]
        exact visited.active
  · have whole : Escapes.Settles template.tree template.root template.walk
        (.start template.tree.size) (template.survey options).escapes := by
      rw [survey_eq, Survey.ofTree, Survey.escapes_foldl_step]
      apply Escapes.settles_tour _ (Nat.le_refl _)
      rw [Tree.pathTo_self]
      exact start
    have pushes : (template.analyze options).1.pushes =
        template.tree.escapeSwitches template.root template.walk :=
      whole.pushes.trans (Nat.zero_add _)
    have pops : (template.analyze options).1.pops =
        template.tree.escapeSwitches template.root template.walk :=
      whole.pops.trans (Nat.zero_add _)
    constructor
    · exact congrArg List.length whole.active
    · constructor
      · exact pushes
      · constructor
        · exact pops.trans pushes.symm
        · exact whole.maxDepth.trans (Nat.zero_max _)

/-- Two noescape blocks inside one escape block, around another escape block. -/
def suspendedTwice : Build Template := do
  let value ← Build.node (.expression (.identifier "a")) []
  let written ← Build.node .interpolation [value]
  let innerForm ← Build.node (.expression (.identifier "y")) []
  let inner ← Build.withBody (.escapeBlock "y") [innerForm] [written]
  let idle ← Build.withBody .noEscapeBlock [] [inner]
  let plain ← Build.withBody .noEscapeBlock [] [idle]
  let outerForm ← Build.node (.expression (.identifier "x")) []
  let outer ← Build.withBody (.escapeBlock "x") [outerForm] [plain]
  Build.finish [outer]

/-- The template of `suspendedTwice`. -/
def suspendedTwiceTemplate : Template :=
  (suspendedTwice (.new "escapes")).get (by decide) |>.1

/-- The inner noescape block has nothing to suspend and counts for nothing.  At
the inner escape block no other one is active. -/
theorem escapes_analyze_suspendedTwice :
    suspendedTwiceTemplate.tree.Reaches (Survey.descends suspendedTwiceTemplate.tree)
        suspendedTwiceTemplate.root 4 ∧
      (suspendedTwiceTemplate.escapesAfter {} (suspendedTwiceTemplate.stepsBefore 4)).active.map
        ActiveEscape.block = [] ∧
      (suspendedTwiceTemplate.analyze {}).1.pushes = 3 ∧
      (suspendedTwiceTemplate.analyze {}).1.pops = 3 ∧
      (suspendedTwiceTemplate.analyze {}).1.maxDepth = 1 := by
  have walk : suspendedTwiceTemplate.walk = [12, 11, 9, 10, 8, 7, 6, 5, 4, 2, 3, 1, 0] := by
    decide +kernel
  have reached : suspendedTwiceTemplate.tree.Reaches
      (Survey.descends suspendedTwiceTemplate.tree) suspendedTwiceTemplate.root 4 := by
    rw [Tree.reaches_iff_mem_preorder, ← Template.walk, walk]
    decide
  rcases escapes_analyze suspendedTwiceTemplate {} with ⟨visits, _, pushes, pops, maxDepth⟩
  have active : suspendedTwiceTemplate.tree.escapesAt suspendedTwiceTemplate.root 4 = [] := by
    decide +kernel
  have switches : suspendedTwiceTemplate.walk.countP
        (suspendedTwiceTemplate.tree.hasKind NodeKind.isEscape) +
      suspendedTwiceTemplate.walk.countP
        (suspendedTwiceTemplate.tree.suspends suspendedTwiceTemplate.root) = 3 := by
    decide +kernel
  have deepest : suspendedTwiceTemplate.tree.deepestEscape suspendedTwiceTemplate.root
      suspendedTwiceTemplate.walk = 1 := by decide +kernel
  exact ⟨reached, (visits 4 reached).2.1.trans active, pushes.trans switches,
    pops.trans (pushes.trans switches), maxDepth.trans deepest⟩

end Template

end TemplateLanguage
