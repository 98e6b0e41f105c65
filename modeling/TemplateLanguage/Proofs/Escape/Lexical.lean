import TemplateLanguage.Analysis.Report
import TemplateLanguage.Proofs.Escape.Stack
import TemplateLanguage.Template.Builder

/-!
# Escaped forms by nesting

Every part of a tour that ends where it began restores the stack of escapes,
and on its way it notes the escaped forms of the nodes that it reaches.  So an
analysis stores the forms that the ancestors of each node determine.
-/

namespace TemplateLanguage

namespace Escapes

variable {tree : Tree}

/-! ## Tours -/

/-- What a part of a tour does to the escapes if it ends where it began: it
restores those in effect, notes the forms of the nodes that it reaches, and
keeps every known form. -/
structure Restored (tree : Tree) (nodes : List NodeId) (visits : List Visit)
    (escapes : Escapes) : Prop where
  active : (visits.foldl (step tree) escapes).active = escapes.active
  suspended : (visits.foldl (step tree) escapes).suspended = escapes.suspended
  size : (visits.foldl (step tree) escapes).forms.size = escapes.forms.size
  kept : ∀ id, Noted tree escapes id → Noted tree (visits.foldl (step tree) escapes) id
  noted : ∀ id ∈ nodes, tree.hasKind NodeKind.hasEscapedForm id = true →
    Noted tree (visits.foldl (step tree) escapes) id
  grounded : ∀ steps, Grounded tree ((visits.take steps).foldl (step tree) escapes)

theorem Restored.below {chain nodes : List NodeId} {visits : List Visit} {escapes : Escapes}
    (restored : Restored tree nodes visits escapes) (below : Below tree chain escapes) :
    Below tree chain (visits.foldl (step tree) escapes) :=
  ⟨restored.active.trans below.active, restored.size.trans below.size,
    fun block active => restored.kept block (below.noted block active)⟩

/-- Parts of a tour that follow one another. -/
theorem Restored.append {firstNodes secondNodes : List NodeId} {first second : List Visit}
    {escapes : Escapes} (left : Restored tree firstNodes first escapes)
    (right : Restored tree secondNodes second (first.foldl (step tree) escapes)) :
    Restored tree (firstNodes ++ secondNodes) (first ++ second) escapes := by
  constructor
  · rw [List.foldl_append, right.active, left.active]
  · rw [List.foldl_append, right.suspended, left.suspended]
  · rw [List.foldl_append, right.size, left.size]
  · intro id noted
    rw [List.foldl_append]
    exact right.kept id (left.kept id noted)
  · intro id member kind
    rw [List.foldl_append]
    rcases List.mem_append.mp member with member | member
    · exact right.kept id (left.noted id member kind)
    · exact right.noted id member kind
  · intro steps
    rw [List.take_append, List.foldl_append]
    by_cases short : steps ≤ first.length
    · rw [Nat.sub_eq_zero_of_le short]
      exact left.grounded steps
    · rw [List.take_of_length_le (Nat.le_of_not_le short)]
      exact right.grounded _

theorem restored_nil {escapes : Escapes} (grounded : Grounded tree escapes) :
    Restored tree [] [] escapes := by
  constructor
  · rfl
  · rfl
  · rfl
  · exact fun _ noted => noted
  · exact fun _ member => absurd member List.not_mem_nil
  · intro steps
    rw [List.take_nil]
    exact grounded

/-- All steps of a tour of a node: before it, inside it, and after it. -/
theorem grounded_take_enclose {id : NodeId} {inside : List Visit} {escapes : Escapes}
    (before : Grounded tree escapes)
    (during : ∀ steps,
      Grounded tree ((inside.take steps).foldl (step tree) (escapes.step tree (.enter id))))
    (after : Grounded tree
      ((inside.foldl (step tree) (escapes.step tree (.enter id))).step tree (.leave id)))
    (steps : Nat) :
    Grounded tree
      (((Visit.enter id :: inside ++ [Visit.leave id]).take steps).foldl (step tree) escapes) := by
  cases steps with
  | zero => exact before
  | succ steps =>
      rw [List.cons_append, List.take_succ_cons, List.foldl_cons, List.take_append,
        List.foldl_append]
      by_cases short : steps ≤ inside.length
      · rw [Nat.sub_eq_zero_of_le short]
        exact during steps
      · have past : [Visit.leave id].length ≤ steps - inside.length :=
          Nat.sub_pos_of_lt (Nat.lt_of_not_le short)
        rw [List.take_of_length_le (Nat.le_of_not_le short), List.take_of_length_le past]
        exact after

/-- A tour of a node is a tour of its inside between entering and leaving. -/
theorem Restored.enclose {id : NodeId} {nodes : List NodeId} {inside : List Visit}
    {escapes : Escapes} (below : Below tree (tree.ancestors id) escapes)
    (restored : Restored tree nodes inside (escapes.step tree (.enter id))) :
    Restored tree (id :: nodes) (.enter id :: inside ++ [.leave id]) escapes := by
  have entered := below.enter
  have left := (restored.below entered.below).leave
    (restored.suspended.trans entered.suspended)
  have run : (Visit.enter id :: inside ++ [Visit.leave id]).foldl (step tree) escapes =
      (inside.foldl (step tree) (escapes.step tree (.enter id))).step tree (.leave id) := by
    rw [List.cons_append, List.foldl_cons, List.foldl_append]
    rfl
  have size : ((inside.foldl (step tree) (escapes.step tree (.enter id))).step tree
      (.leave id)).forms.size = escapes.forms.size := by
    rw [size_forms_step, restored.size, size_forms_step]
  have kept : ∀ other, Noted tree escapes other →
      Noted tree ((inside.foldl (step tree) (escapes.step tree (.enter id))).step tree
        (.leave id)) other :=
    fun other noted => left.kept other (restored.kept other (entered.kept other noted))
  constructor
  · rw [run]
    exact left.active.trans below.active.symm
  · rw [run]
    exact left.suspended
  · rw [run]
    exact size
  · intro other noted
    rw [run]
    exact kept other noted
  · intro other member escapable
    rw [run]
    rcases List.mem_cons.mp member with rfl | member
    · rcases Tree.hasKind_hasEscapedForm_iff.mp escapable with kind | ⟨parameter, kind⟩
      · exact left.noted kind
      · have innermost : other ∈ tree.activeEscapes (other :: tree.ancestors other) := by
          rw [Tree.activeEscapes_of_escapeBlock _ kind]
          exact List.mem_cons_self
        exact left.kept other (restored.kept other (entered.below.noted other innermost))
    · exact left.kept other (restored.noted other member escapable)
  · apply grounded_take_enclose below.grounded restored.grounded
    exact Below.grounded ⟨left.active, size.trans below.size,
      fun block active => kept block (below.noted block active)⟩

/-- Tours of children, one after the other. -/
theorem Restored.flatMap {chain : List NodeId} {preorder : NodeId → List NodeId}
    {tour : NodeId → List Visit} (children : List NodeId)
    (each : ∀ child ∈ children, ∀ escapes : Escapes, Below tree chain escapes →
      Restored tree (preorder child) (tour child) escapes)
    {escapes : Escapes} (below : Below tree chain escapes) :
    Restored tree (children.flatMap preorder) (children.flatMap tour) escapes := by
  induction children generalizing escapes with
  | nil => exact restored_nil below.grounded
  | cons child rest ih =>
      have first := each child List.mem_cons_self escapes below
      apply first.append
      apply ih
      · exact fun other member => each other (List.mem_cons_of_mem child member)
      · exact first.below below

/-- A tour restores the escapes in effect and notes the escaped forms of all
nodes that it reaches. -/
theorem restored_tour (descends : NodeId → Bool) (id : NodeId) {escapes : Escapes}
    (below : Below tree (tree.ancestors id) escapes) :
    Restored tree (tree.preorder descends id) (tree.tour descends id) escapes := by
  induction id using tree.children_induction generalizing escapes with
  | node id ih =>
      rw [Tree.preorder_eq, Tree.tour_eq]
      apply Restored.enclose below
      by_cases down : descends id = true
      · rw [if_pos down, if_pos down]
        refine Restored.flatMap _ ?_ below.enter.below
        intro child isChild state belowChild
        rw [← Tree.ancestors_of_mem_children isChild] at belowChild
        exact ih child isChild belowChild
      · rw [if_neg down, if_neg down]
        exact restored_nil below.enter.below.grounded

/-- A tour of a whole tree begins with no escape in effect. -/
theorem below_start {root : NodeId} (topmost : tree.parent? root = none) :
    Below tree (tree.ancestors root) (.start tree.size) := by
  rw [Tree.ancestors_of_parent?_eq_none topmost]
  constructor
  · rfl
  · simp [start]
  · exact fun _ active => absurd active List.not_mem_nil

end Escapes

namespace Survey

/-- A survey treats the escapes apart from all else. -/
theorem escapes_foldl_step (tree : Tree) (options : AnalysisOptions) (strict : Bool)
    (visits : List Visit) (survey : Survey) :
    (visits.foldl (step tree options strict) survey).escapes =
      visits.foldl (Escapes.step tree) survey.escapes := by
  induction visits generalizing survey with
  | nil => rfl
  | cons visit rest ih => exact ih _

end Survey

namespace Template

/-- The escaped forms that a tour of a template notes. -/
def noted (template : Template) : Array (Option Expr) :=
  ((template.tree.tour (Survey.descends template.tree) template.root).foldl
    (Escapes.step template.tree) (.start template.tree.size)).forms

/-- A survey notes the same escaped forms under all options. -/
theorem forms_survey (template : Template) (options : AnalysisOptions) :
    (template.survey options).escapes.forms = template.noted := by
  rw [survey_eq, Survey.ofTree, Survey.escapes_foldl_step]
  rfl

theorem size_noted (template : Template) : template.noted.size = template.tree.size := by
  rw [← forms_survey template {}]
  exact Survey.size_forms_ofTree ..

/-- The escaped forms that an analysis stores are the noted ones and, where none
is noted, the ones stored before. -/
theorem getElem?_escaped_analyze (template : Template) (options : AnalysisOptions)
    (id : NodeId) :
    (template.analyze options).2.escaped[id]? =
      template.escaped[id]?.map fun old => template.noted[id]?.join <|> old := by
  change (Array.zipWith (fun form old => form <|> old) (template.survey options).escapes.forms
    template.escaped)[id]? = _
  rw [forms_survey, Array.getElem?_zipWith]
  by_cases inside : id < template.tree.size
  · rw [Array.getElem?_eq_getElem (Nat.lt_of_lt_of_eq inside template.size_noted.symm),
      Array.getElem?_eq_getElem (Nat.lt_of_lt_of_eq inside template.escaped_size.symm)]
    rfl
  · rw [Array.getElem?_eq_none
      (Nat.le_trans (Nat.le_of_eq template.escaped_size) (Nat.le_of_not_lt inside))]
    split
    · contradiction
    · rfl

/-- An analysis stores the forms that its tour notes. -/
theorem escaped?_analyze_of_noted {template : Template} {id : NodeId} {form : Expr}
    (noted : template.noted[id]? = some (some form)) (options : AnalysisOptions) :
    (template.analyze options).2.escaped? id = some form := by
  have inside : id < template.escaped.size := by
    have known := (Array.getElem?_eq_some_iff.mp noted).choose
    rw [template.escaped_size, ← template.size_noted]
    exact known
  rw [escaped?, getElem?_escaped_analyze, Array.getElem?_eq_getElem inside, noted]
  rfl

/-- The escapes after some steps of the tour that an analysis makes. -/
def escapesAfter (template : Template) (options : AnalysisOptions) (steps : Nat) : Escapes :=
  (((template.tree.tour (Survey.descends template.tree) template.root).take steps).foldl
    (Survey.step template.tree options (template.readHeader options).strict)
    (.start template.resetAnalysis.scopes template.tree.size)).escapes

theorem restored_survey {template : Template}
    (topmost : template.tree.parent? template.root = none) :
    Escapes.Restored template.tree
      (template.tree.preorder (Survey.descends template.tree) template.root)
      (template.tree.tour (Survey.descends template.tree) template.root)
      (.start template.tree.size) :=
  Escapes.restored_tour _ _ (Escapes.below_start topmost)

/-- Where an analysis arrives, it stores the escaped form by nesting. -/
theorem escaped?_analyze_eq_escapedForm {template : Template} (options : AnalysisOptions)
    (topmost : template.tree.parent? template.root = none) {id : NodeId}
    (reached : template.tree.Reaches (Survey.descends template.tree) template.root id)
    (escapable : template.tree.hasKind NodeKind.hasEscapedForm id = true) :
    (template.analyze options).2.escaped? id = some (template.tree.escapedForm id) := by
  apply escaped?_analyze_of_noted
  exact (restored_survey topmost).noted id (Tree.reaches_iff_mem_preorder.mp reached) escapable

/-- Where an analysis arrives, it stores the escaped form that the ancestors of
the node determine: the expression itself where no escape is active, and
otherwise the stored form of the active block with the expression in place of
the block's parameter.  Whenever the analysis asks for the innermost escape in
effect, the form of that block is known. -/
theorem escaped?_analyze (template : Template) (options : AnalysisOptions)
    (topmost : template.tree.parent? template.root = none) :
    (∀ id, template.tree.Reaches (Survey.descends template.tree) template.root id →
      template.tree.hasKind NodeKind.hasEscapedForm id = true →
      match template.tree.activeEscape? id with
      | none =>
          (template.analyze options).2.escaped? id = some (template.tree.firstExpression id)
      | some block =>
          ∃ parameter form,
            template.tree.kind? block = some (.escapeBlock parameter) ∧
            (template.analyze options).2.escaped? block = some form ∧
            (template.analyze options).2.escaped? id =
              some (form.substitute parameter (template.tree.firstExpression id))) ∧
    ∀ steps, ∀ escape ∈ (template.escapesAfter options steps).active.head?,
      template.tree.kind? escape.block = some (.escapeBlock escape.parameter) ∧
        (template.escapesAfter options steps).forms[escape.block]? = some (some escape.form) := by
  have restored := restored_survey topmost
  have stored : ∀ id, template.tree.Reaches (Survey.descends template.tree) template.root id →
      template.tree.hasKind NodeKind.hasEscapedForm id = true →
      (template.analyze options).2.escaped? id = some (template.tree.escapedForm id) :=
    fun id reached escapable => escaped?_analyze_eq_escapedForm options topmost reached escapable
  constructor
  · intro id reached escapable
    cases active : template.tree.activeEscape? id with
    | none =>
        rw [← Tree.escapedForm_of_activeEscape?_eq_none active]
        exact stored id reached escapable
    | some block =>
        obtain ⟨above, parameter, kind⟩ := Tree.mem_of_activeEscape?_eq_some active
        refine ⟨parameter, template.tree.escapedForm block, kind, ?_, ?_⟩
        · exact stored block (reached.of_mem_ancestors topmost above)
            (Tree.hasKind_hasEscapedForm_iff.mpr (Or.inr ⟨parameter, kind⟩))
        · rw [← Tree.escapeParameter_of_kind? kind,
            ← Tree.escapedForm_of_activeEscape?_eq_some active]
          exact stored id reached escapable
  · intro steps escape innermost
    have grounded := restored.grounded steps escape
    rw [escapesAfter, Survey.escapes_foldl_step] at innermost ⊢
    exact grounded (List.mem_of_mem_head? innermost)

/-- A noescape block inside two escape blocks, around one interpolation. -/
def doubleEscape : Build Template := do
  let value ← Build.node (.expression (.identifier "a")) []
  let written ← Build.node .interpolation [value]
  let plain ← Build.withBody .noEscapeBlock [] [written]
  let innerForm ← Build.node (.expression (.identifier "y")) []
  let inner ← Build.withBody (.escapeBlock "y") [innerForm] [plain]
  let target ← Build.node (.expression (.identifier "x")) []
  let outerForm ← Build.node (.builtin "html") [target]
  let outer ← Build.withBody (.escapeBlock "x") [outerForm] [inner]
  Build.finish [outer]

/-- The template of `doubleEscape`. -/
def doubleEscapeTemplate : Template :=
  (doubleEscape (.new "escapes")).get (by decide) |>.1

/-- The noescape block makes up for the inner escape block, so the outer one
decides how the interpolation is written. -/
theorem escaped?_analyze_doubleEscape :
    doubleEscapeTemplate.tree.parent? doubleEscapeTemplate.root = none ∧
      doubleEscapeTemplate.tree.activeEscape? 1 = some 10 ∧
      ∃ parameter form,
        doubleEscapeTemplate.tree.kind? 10 = some (.escapeBlock parameter) ∧
        (doubleEscapeTemplate.analyze {}).2.escaped? 10 = some form ∧
        (doubleEscapeTemplate.analyze {}).2.escaped? 1 =
          some (form.substitute parameter (doubleEscapeTemplate.tree.firstExpression 1)) := by
  have topmost : doubleEscapeTemplate.tree.parent? doubleEscapeTemplate.root = none := by
    decide
  have active : doubleEscapeTemplate.tree.activeEscape? 1 = some 10 := by
    decide +kernel
  have preorder : doubleEscapeTemplate.tree.preorder
      (Survey.descends doubleEscapeTemplate.tree) doubleEscapeTemplate.root =
        [11, 10, 8, 7, 9, 6, 4, 5, 3, 2, 1, 0] := by decide +kernel
  have reached : doubleEscapeTemplate.tree.Reaches
      (Survey.descends doubleEscapeTemplate.tree) doubleEscapeTemplate.root 1 := by
    rw [Tree.reaches_iff_mem_preorder, preorder]
    decide
  have stored := (escaped?_analyze doubleEscapeTemplate {} topmost).1 1 reached (by decide)
  rw [active] at stored
  exact ⟨topmost, active, stored⟩

end Template

end TemplateLanguage
