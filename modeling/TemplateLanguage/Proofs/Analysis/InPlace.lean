import TemplateLanguage.Analysis.InPlace
import TemplateLanguage.Proofs.Analysis.Repetition
import TemplateLanguage.Proofs.Escape.Writing

/-!
# An analysis in place changes nothing but escaped forms

An analysis in place keeps up with a survey, visit by visit: the nodes stay as they are but for
their slots, and the slots hold the forms that the survey knows.  So the children that were
counted are still listed when their turn comes, and at the end everything is as an analysis
leaves it.
-/

namespace TemplateLanguage

theorem Tree.eq_of_nodes_eq {tree other : Tree} (same : tree.nodes = other.nodes) :
    tree = other := by
  cases tree
  cases other
  cases same
  rfl

namespace Arena

/-! ## Nodes and slots -/

variable {arena : Arena} {id : NodeId}

theorem tree_ofTemplate (template : Template) : (ofTemplate template).tree = template.tree :=
  Tree.eq_of_nodes_eq (map_node_zipWith template.escaped_size)

theorem escaped?_ofTemplate (template : Template) (id : NodeId) :
    (ofTemplate template).escaped? id = template.escaped? id := by
  rw [escaped?, Template.escaped?, ofTemplate, Array.getElem?_zipWith]
  by_cases inside : id < template.tree.size
  · rw [Array.getElem?_eq_getElem inside,
      Array.getElem?_eq_getElem (Nat.lt_of_lt_of_eq inside template.escaped_size.symm)]
    rfl
  · rw [Array.getElem?_eq_none (Nat.le_of_not_lt inside), Array.getElem?_eq_none
      (Nat.le_trans (Nat.le_of_eq template.escaped_size) (Nat.le_of_not_lt inside))]
    rfl

/-- Writing into a slot leaves the nodes as they are. -/
theorem tree_write (arena : Arena) (id : NodeId) (form : Expr) :
    (arena.write id form).tree = arena.tree :=
  Tree.eq_of_nodes_eq (map_node_modify arena.cells id form)

theorem escaped_written {cell : Cell} (escapable : cell.node.kind.hasEscapedForm = true)
    (form : Expr) : (written form cell).escaped = some form := by
  rw [written]
  split
  · rfl
  · rfl
  · rename_i notInterpolation notEscape
    cases kind : cell.node.kind with
    | interpolation => exact absurd kind notInterpolation
    | escapeBlock parameter => exact absurd kind (notEscape parameter)
    | _ =>
        rw [kind] at escapable
        cases escapable

/-- A slot holds what was written into it, and the other slots hold what they held. -/
theorem escaped?_write (escapable : arena.tree.hasKind NodeKind.hasEscapedForm id = true)
    (form : Expr) (other : NodeId) :
    (arena.write id form).escaped? other =
      if id = other then some form else arena.escaped? other := by
  rw [escaped?, escaped?, write, Array.getElem?_modify]
  by_cases same : id = other
  · subst same
    rw [if_pos rfl, if_pos rfl]
    obtain ⟨kind, found, isEscapable⟩ := (Option.any_eq_true ..).mp escapable
    obtain ⟨node, stands, rfl⟩ := Option.map_eq_some_iff.mp found
    rw [Tree.node?, tree, Array.getElem?_map] at stands
    obtain ⟨cell, held, rfl⟩ := Option.map_eq_some_iff.mp stands
    rw [held]
    exact escaped_written isEscapable form
  · rw [if_neg same, if_neg same]

end Arena

namespace Pass

/-! ## Keeping up with a survey -/

/-- A state of an analysis in place of a template holds what a survey has brought to light, and
the nodes are those of the template.  `before` are the diagnostics recorded before the walk. -/
structure Tracks (template : Template) (before : Array Diagnostic) (strict : Bool)
    (survey : Survey) (pass : Pass) : Prop where
  tree : pass.arena.tree = template.tree
  escaped : ∀ id, pass.arena.escaped? id =
    (survey.escapes.forms[id]?.join <|> template.escaped? id)
  size : survey.escapes.forms.size = template.tree.size
  scopes : pass.scopes = survey.scopes
  diagnostics : pass.diagnostics =
    before ++ survey.findings.map (Finding.diagnostic template.tree)
  strict : pass.strict = strict
  active : pass.active = survey.escapes.active.map ActiveEscape.block
  pushes : pass.pushes = survey.escapes.pushes
  pops : pass.pops = survey.escapes.pops
  maxDepth : pass.maxDepth = survey.escapes.maxDepth

variable {template : Template} {before : Array Diagnostic} {strict : Bool} {survey : Survey}
  {pass : Pass} {options : AnalysisOptions} {root id : NodeId}

/-- What a step shows is declared and reported alike. -/
theorem Tracks.note (tracks : Tracks template before strict survey pass)
    (options : AnalysisOptions) (visit : Visit) :
    Tracks template before strict
      { survey.step template.tree options strict visit with escapes := survey.escapes }
      (pass.note options visit) := by
  obtain ⟨tree, escaped, size, scopes, diagnostics, rfl, active, pushes, pops, maxDepth⟩ := tracks
  refine ⟨tree, escaped, size, ?_, ?_, rfl, active, pushes, pops, maxDepth⟩
  · simp only [Pass.note, Survey.step, tree, scopes]
  · simp only [Pass.note, Survey.step, tree, scopes, diagnostics]
    apply Array.ext'
    simp

theorem Tracks.push (tracks : Tracks template before strict survey pass)
    (escape : ActiveEscape) :
    Tracks template before strict { survey with escapes := survey.escapes.push escape }
      (pass.push escape.block) :=
  { tracks with
    active := congrArg (escape.block :: ·) tracks.active
    pushes := congrArg (· + 1) tracks.pushes
    maxDepth := by
      simp only [Pass.push, Escapes.push, Escapes.depth, tracks.maxDepth, tracks.active,
        List.length_map] }

theorem Tracks.pop (tracks : Tracks template before strict survey pass) :
    Tracks template before strict { survey with escapes := survey.escapes.pop } pass.pop := by
  have active := tracks.active
  cases innermost : survey.escapes.active with
  | nil =>
      rw [innermost, List.map_nil] at active
      simp only [Pass.pop, Escapes.pop, active, innermost]
      exact tracks
  | cons escape outer =>
      rw [innermost, List.map_cons] at active
      simp only [Pass.pop, Escapes.pop, active, innermost]
      exact { tracks with active := rfl, pops := congrArg (· + 1) tracks.pops }

theorem Tracks.suspend (tracks : Tracks template before strict survey pass) :
    Tracks template before strict { survey with escapes := survey.escapes.suspend } pass.pop :=
  { tracks.pop with }

theorem Tracks.resume (tracks : Tracks template before strict survey pass)
    {top : Option ActiveEscape} {outer : List (Option ActiveEscape)}
    (suspended : survey.escapes.suspended = top :: outer) :
    Tracks template before strict { survey with escapes := survey.escapes.resume }
      (pass.resume (top.map ActiveEscape.block)) := by
  rw [Escapes.resume, suspended]
  cases top with
  | none => exact { tracks with }
  | some escape => exact { tracks.push escape with }

/-- The innermost block turns an expression into what the survey takes for its escaped form. -/
theorem Tracks.escapedForm_eq (tracks : Tracks template before strict survey pass)
    (grounded : survey.escapes.Grounded template.tree) (expression : Expr) :
    pass.escapedForm expression = survey.escapes.apply expression := by
  have active := tracks.active
  cases innermost : survey.escapes.active with
  | nil =>
      rw [innermost, List.map_nil] at active
      simp only [escapedForm, active, Escapes.apply, innermost]
  | cons escape outer =>
      rw [innermost, List.map_cons] at active
      obtain ⟨kind, known⟩ := grounded escape (innermost ▸ List.mem_cons_self)
      have held : pass.arena.escaped? escape.block = some escape.form := by
        rw [tracks.escaped, known]
        rfl
      simp only [escapedForm, active, Escapes.apply, innermost, tracks.tree, kind, held]

/-- The escaped form of a node is written alike. -/
theorem Tracks.annotate (tracks : Tracks template before strict survey pass)
    (grounded : survey.escapes.Grounded template.tree)
    (escapable : template.tree.hasKind NodeKind.hasEscapedForm id = true) :
    Tracks template before strict
      { survey with
        escapes := survey.escapes.annotate id
          (survey.escapes.apply (template.tree.firstExpression id)) }
      (pass.annotate id) := by
  have form := tracks.escapedForm_eq grounded (template.tree.firstExpression id)
  refine { tracks with tree := ?_, escaped := ?_, size := ?_ }
  · exact (Arena.tree_write ..).trans tracks.tree
  · intro other
    obtain ⟨kind, found, _⟩ := (Option.any_eq_true ..).mp escapable
    obtain ⟨node, stands, _⟩ := Option.map_eq_some_iff.mp found
    have inside := Nat.lt_of_lt_of_eq (Tree.lt_size_of_node? stands) tracks.size.symm
    rw [← tracks.tree] at escapable
    rw [Pass.annotate, Arena.escaped?_write escapable, tracks.tree, form, Escapes.annotate,
      Array.getElem?_setIfInBounds]
    by_cases same : id = other
    · rw [if_pos same, if_pos same, if_pos inside]
      rfl
    · rw [if_neg same, if_neg same]
      exact tracks.escaped other
  · exact (Array.size_setIfInBounds ..).trans tracks.size

/-! ## Visits -/

/-- Visits of headers, interpolations and escape blocks declare and report nothing. -/
theorem step_eq_of_silent {visit : Visit} {kind : NodeKind}
    (found : template.tree.kind? visit.node = some kind)
    (silent : kind.isHeader = true ∨ kind.hasEscapedForm = true) :
    survey.step template.tree options strict visit =
      { survey with escapes := survey.escapes.step template.tree visit } := by
  cases kind with
  | header | interpolation | escapeBlock =>
      cases visit <;>
      · simp only [Visit.node] at found
        simp [Survey.step, Scopes.step, Usage.findings, Placement.problems, found]
  | _ => rcases silent with silent | silent <;> cases silent

/-- Visits of headers, and of nodes that do not exist, show nothing. -/
theorem step_eq_of_passed {visit : Visit}
    (passed : ∀ kind, template.tree.kind? visit.node = some kind → kind.isHeader = true) :
    survey.step template.tree options strict visit = survey := by
  cases found : template.tree.kind? visit.node with
  | none =>
      cases visit <;>
      · simp only [Visit.node] at found
        simp [Survey.step, Scopes.step, Usage.findings, Placement.problems, Escapes.step, found]
  | some kind =>
      have isHeader := passed kind found
      rw [step_eq_of_silent found (Or.inl isHeader)]
      cases kind with
      | header parameters =>
          cases visit <;>
          · simp only [Visit.node] at found
            simp only [Escapes.step, found]
      | _ => cases isHeader

/-- The tour of a header, or of a node that does not exist, shows nothing. -/
theorem foldl_tour_of_passed
    (passed : ∀ kind, template.tree.kind? id = some kind → kind.isHeader = true) :
    (template.tree.tour (Survey.descends template.tree) id).foldl
      (Survey.step template.tree options strict) survey = survey := by
  have inside : (if Survey.descends template.tree id then
      (template.tree.children id).flatMap (template.tree.tour (Survey.descends template.tree))
    else []) = [] := by
    cases found : template.tree.kind? id with
    | none => rw [Tree.children_of_kind?_eq_none found, List.flatMap_nil, ite_self]
    | some kind =>
        rw [Survey.descends, Tree.hasKind, found, Option.any_some, passed kind found]
        rfl
  have entering : survey.step template.tree options strict (.enter id) = survey :=
    step_eq_of_passed passed
  have leaving : survey.step template.tree options strict (.leave id) = survey :=
    step_eq_of_passed passed
  rw [Tree.tour_eq, inside]
  change (survey.step template.tree options strict (.enter id)).step template.tree options strict
    (.leave id) = survey
  rw [entering, leaving]

/-- Leaving a noescape block declares and reports nothing. -/
theorem step_leave_of_noEscapeBlock (found : template.tree.kind? id = some .noEscapeBlock) :
    survey.step template.tree options strict (.leave id) =
      { survey with escapes := survey.escapes.resume } := by
  simp [Survey.step, Scopes.step, Usage.findings, Placement.problems, Escapes.step, found]

/-- What a step shows is declared and reported alike, and where the step has no part in the
escapes that is all. -/
theorem Tracks.note_of_idle (tracks : Tracks template before strict survey pass) {visit : Visit}
    (idle : survey.escapes.step template.tree visit = survey.escapes) :
    Tracks template before strict (survey.step template.tree options strict visit)
      (pass.note options visit) := by
  have noted := tracks.note options visit
  rw [← idle] at noted
  exact noted

/-- A walk with some chain of nodes above it has a result, which keeps up with a survey of the
same visits, and the forms in effect are known as before. -/
def Follows (template : Template) (before : Array Diagnostic) (strict : Bool)
    (options : AnalysisOptions) (chain : List NodeId) (visits : List Visit)
    (run : Pass → Option Pass) : Prop :=
  ∀ (survey : Survey) (pass : Pass), Tracks template before strict survey pass →
    survey.escapes.Holds template.tree chain → survey.escapes.Grounded template.tree →
      ∃ after, run pass = some after ∧
        Tracks template before strict
          (visits.foldl (Survey.step template.tree options strict) survey) after ∧
        (visits.foldl (Survey.step template.tree options strict) survey).escapes.Grounded
          template.tree

theorem walk_succ {index remaining child : NodeId}
    (found : (pass.arena.tree.children id)[index]? = some child) :
    pass.walk options id index (remaining + 1) =
      (pass.visit options child).bind (Pass.walk options id (index + 1) remaining) := by
  rw [Pass.walk]
  split
  · rename_i missing
    rw [found] at missing
    cases missing
  · rename_i other again
    rw [found] at again
    cases again
    rfl

/-- The children of a node are there when their turn comes. -/
theorem follows_walk (below : id ≤ root) {elder younger : List NodeId}
    (children : template.tree.children id = elder ++ younger)
    (each : ∀ child ∈ template.tree.children id,
      Follows template before strict options (template.tree.pathTo root child)
        (template.tree.tour (Survey.descends template.tree) child) (Pass.visit options child)) :
    Follows template before strict options (id :: template.tree.pathTo root id)
      (younger.flatMap (template.tree.tour (Survey.descends template.tree)))
      (Pass.walk options id elder.length younger.length) := by
  induction younger generalizing elder with
  | nil =>
      intro survey pass tracks _ grounded
      refine ⟨pass, ?_, tracks, grounded⟩
      rw [List.length_nil, Pass.walk]
  | cons child rest ih =>
      intro survey pass tracks holds grounded
      have isChild : child ∈ template.tree.children id := by
        rw [children]
        exact List.mem_append_right _ List.mem_cons_self
      have inside := holds
      rw [← Tree.pathTo_of_mem_children below isChild] at inside
      obtain ⟨visited, visits, kept, stillGrounded⟩ :=
        each child isChild survey pass tracks inside grounded
      have shifted : template.tree.children id = (elder ++ [child]) ++ rest := by
        rw [children, List.append_assoc]
        rfl
      have stillHolds := (Escapes.settles_tour (Survey.descends template.tree)
        (Tree.le_of_mem_children below isChild) inside).holds holds
      rw [← Survey.escapes_foldl_step template.tree options strict] at stillHolds
      obtain ⟨after, walks, reached⟩ := ih shifted _ visited kept stillHolds stillGrounded
      have found : (pass.arena.tree.children id)[elder.length]? = some child := by
        rw [tracks.tree, children, List.getElem?_append_right (Nat.le_refl _), Nat.sub_self]
        rfl
      rw [List.length_append] at walks
      refine ⟨after, ?_, ?_⟩
      · rw [List.length_cons, walk_succ found, visits]
        exact walks
      · rw [List.flatMap_cons, List.foldl_append]
        exact reached

section

variable {entered : Pass} {leave : Pass → Pass}

/-- A walk that keeps up on the way into a node and on the way out of it keeps up with the tour
of the node. -/
theorem exists_walked (below : id ≤ root) (down : Survey.descends template.tree id = true)
    (each : ∀ child ∈ template.tree.children id,
      Follows template before strict options (template.tree.pathTo root child)
        (template.tree.tour (Survey.descends template.tree) child) (Pass.visit options child))
    (holds : survey.escapes.Holds template.tree (template.tree.pathTo root id))
    (grounded : survey.escapes.Grounded template.tree)
    (enters : Tracks template before strict
      (survey.step template.tree options strict (.enter id)) entered)
    (leaves : ∀ (inside : Survey) (walked : Pass),
      Tracks template before strict inside walked → inside.escapes.Grounded template.tree →
        inside.escapes.suspended = (survey.escapes.step template.tree (.enter id)).suspended →
          Tracks template before strict (inside.step template.tree options strict (.leave id))
            (leave walked)) :
    ∃ after, (entered.walk options id 0 (entered.arena.tree.children id).length).map leave =
        some after ∧
      Tracks template before strict
        ((template.tree.tour (Survey.descends template.tree) id).foldl
          (Survey.step template.tree options strict) survey) after := by
  have inside := holds.enter id
  have size := (Escapes.size_forms_step template.tree survey.escapes (.enter id)).symm.trans
    enters.size
  obtain ⟨walked, walks, kept, stillGrounded⟩ := follows_walk below (List.nil_append _).symm each _
    entered enters inside (grounded.enter holds size)
  -- what the children suspend they put back, so the node finds what it suspended itself
  have settles := Escapes.settles_children (Survey.descends template.tree) below
    (fun _ isChild => isChild) inside
  have apart := Survey.escapes_foldl_step template.tree options strict
    ((template.tree.children id).flatMap (template.tree.tour (Survey.descends template.tree)))
    (survey.step template.tree options strict (.enter id))
  have suspended := (congrArg Escapes.suspended apart).trans settles.suspended
  refine ⟨leave walked, ?_, ?_⟩
  · rw [enters.tree]
    exact congrArg (Option.map leave) walks
  · rw [Tree.tour_eq, if_pos down, List.cons_append, List.foldl_cons, List.foldl_append]
    exact leaves _ walked kept stillGrounded suspended

end

/-- A walk keeps up with a survey below every node. -/
theorem follows_visit (below : id ≤ root) (present : id < template.tree.size) :
    Follows template before strict options (template.tree.pathTo root id)
      (template.tree.tour (Survey.descends template.tree) id) (Pass.visit options id) := by
  induction id using template.tree.children_induction with
  | node id ih =>
      intro survey pass tracks holds grounded
      have each : ∀ child ∈ template.tree.children id,
          Follows template before strict options (template.tree.pathTo root child)
            (template.tree.tour (Survey.descends template.tree) child)
            (Pass.visit options child) :=
        fun child isChild => ih child isChild (Tree.le_of_mem_children below isChild)
          (Nat.lt_trans (Tree.lt_of_mem_children isChild) present)
      -- the forms in effect stay known after every tour, whatever the kind of the node
      suffices visited : ∃ after, pass.visit options id = some after ∧
          Tracks template before strict
            ((template.tree.tour (Survey.descends template.tree) id).foldl
              (Survey.step template.tree options strict) survey) after by
        obtain ⟨after, visits, kept⟩ := visited
        refine ⟨after, visits, kept, ?_⟩
        rw [Survey.escapes_foldl_step]
        exact grounded.tour _ below holds
      have same : pass.arena.tree.kind? id = template.tree.kind? id := by
        rw [tracks.tree]
      obtain ⟨kind, found⟩ := Tree.exists_kind? present
      rw [Pass.visit.eq_def, same, found]
      have down : kind.isHeader = false → Survey.descends template.tree id = true := by
        intro body
        rw [Survey.descends, Tree.hasKind, found, Option.any_some, body]
        rfl
      -- what a visit does by the kind of the node, a survey does at its first and last step
      cases kind with
      | header parameters =>
          refine ⟨pass, rfl, ?_⟩
          rw [foldl_tour_of_passed]
          · exact tracks
          · intro kind other
            cases found.symm.trans other
            rfl
      | interpolation =>
          refine exists_walked below (down rfl) each holds grounded ?_ ?_
          · rw [step_eq_of_silent found (Or.inr rfl)]
            simp only [Escapes.step, found]
            exact tracks
          · intro inside walked kept stillGrounded _
            rw [step_eq_of_silent found (Or.inr rfl)]
            simp only [Escapes.step, found]
            exact kept.annotate stillGrounded
              (Tree.hasKind_hasEscapedForm_iff.mpr (Or.inl found))
      | escapeBlock parameter =>
          refine exists_walked below (down rfl) each holds grounded ?_ ?_
          · rw [step_eq_of_silent found (Or.inr rfl)]
            simp only [Escapes.step, found]
            have escapable := Tree.hasKind_hasEscapedForm_iff.mpr (Or.inr ⟨parameter, found⟩)
            exact (tracks.annotate grounded escapable).push
              ⟨id, parameter, survey.escapes.apply (template.tree.firstExpression id)⟩
          · intro inside walked kept _ _
            rw [step_eq_of_silent found (Or.inr rfl)]
            simp only [Escapes.step, found]
            exact kept.pop
      | noEscapeBlock =>
          have entering : survey.escapes.step template.tree (.enter id) =
              survey.escapes.suspend := by
            simp only [Escapes.step, found]
          have noted := tracks.note options (.enter id)
          refine exists_walked below (down rfl) each holds grounded ?_ ?_
          · have suspended := noted.suspend
            simp only at suspended
            rw [← entering] at suspended
            exact suspended
          · intro inside walked kept _ held
            rw [entering] at held
            rw [step_leave_of_noEscapeBlock found, noted.active, List.head?_map]
            exact kept.resume held
      | _ =>
          refine exists_walked below (down rfl) each holds grounded ?_ ?_
          · apply tracks.note_of_idle
            simp only [Escapes.step, found]
          · intro inside walked kept _ _
            apply kept.note_of_idle
            simp only [Escapes.step, found]

end Pass

namespace Template

/-! ## Analyses -/

section

variable {template : Template} {options : AnalysisOptions}

/-- The diagnostics of a template before a walk: those that the analysis keeps, and those about
the header. -/
def diagnosticsBefore (template : Template) (options : AnalysisOptions) : Array Diagnostic :=
  template.resetAnalysis.diagnostics ++
    (template.headerFindings options).map (Finding.diagnostic template.tree)

theorem tracks_start (template : Template) (options : AnalysisOptions) :
    Pass.Tracks template.resetAnalysis (template.diagnosticsBefore options)
      (template.readHeader options).strict
      (.start template.resetAnalysis.scopes template.tree.size)
      (.start (.ofTemplate template.resetAnalysis) template.resetAnalysis.scopes
        (template.readHeader options).strict (template.diagnosticsBefore options)) where
  tree := Arena.tree_ofTemplate template.resetAnalysis
  escaped id := by
    have unknown : (Array.replicate template.tree.size (none : Option Expr))[id]?.join = none := by
      rw [Array.getElem?_replicate]
      split <;> rfl
    exact (Arena.escaped?_ofTemplate template.resetAnalysis id).trans
      (congrArg (· <|> _) unknown).symm
  size := Array.size_replicate
  scopes := rfl
  diagnostics := by
    change template.diagnosticsBefore options = template.diagnosticsBefore options ++ Array.map _ #[]
    rw [Array.map_empty, Array.append_empty]
  strict := rfl
  active := rfl
  pushes := rfl
  pops := rfl
  maxDepth := rfl

variable {pass : Pass}

theorem diagnostics_of_tracks
    (tracks : Pass.Tracks template.resetAnalysis (template.diagnosticsBefore options)
      (template.readHeader options).strict (template.survey options) pass) :
    pass.diagnostics = (template.analyze options).2.diagnostics := by
  rw [tracks.diagnostics, diagnostics_analyze, found, diagnosticsBefore]
  apply Array.ext'
  simp [resetAnalysis]

theorem escaped_of_tracks
    (tracks : Pass.Tracks template.resetAnalysis (template.diagnosticsBefore options)
      (template.readHeader options).strict (template.survey options) pass) :
    pass.arena.cells.map Cell.escaped = (template.analyze options).2.escaped := by
  have size : pass.arena.cells.size = template.escaped.size := by
    have nodes := congrArg Tree.size tracks.tree
    rw [Arena.tree, Tree.size, Array.size_map] at nodes
    exact nodes.trans template.escaped_size.symm
  apply Array.ext_getElem?
  intro id
  have slot := tracks.escaped id
  rw [Arena.escaped?, forms_survey, escaped?] at slot
  rw [getElem?_escaped_analyze, Array.getElem?_map]
  by_cases inside : id < template.escaped.size
  · rw [Array.getElem?_eq_getElem (Nat.lt_of_lt_of_eq inside size.symm)] at slot ⊢
    change _ = (_ <|> template.escaped[id]?.join) at slot
    rw [Array.getElem?_eq_getElem inside] at slot ⊢
    exact congrArg some slot
  · rw [Array.getElem?_eq_none (Nat.le_of_not_lt inside), Array.getElem?_eq_none
      (Nat.le_trans (Nat.le_of_eq size) (Nat.le_of_not_lt inside))]
    rfl

theorem finish_of_tracks
    (tracks : Pass.Tracks template.resetAnalysis (template.diagnosticsBefore options)
      (template.readHeader options).strict (template.survey options) pass) :
    template.resetAnalysis.finish pass = (template.analyze options).2 := by
  apply Template.ext
  · rfl
  · exact tracks.tree
  · rfl
  · rfl
  · exact tracks.strict
  · exact diagnostics_of_tracks tracks
  · exact congrArg Scopes.macros tracks.scopes
  · exact congrArg Scopes.names tracks.scopes
  · exact congrArg Scopes.blockNames tracks.scopes
  · exact escaped_of_tracks tracks
  · rfl

theorem report_of_tracks
    (tracks : Pass.Tracks template.resetAnalysis (template.diagnosticsBefore options)
      (template.readHeader options).strict (template.survey options) pass) :
    pass.report template.resetAnalysis.diagnostics.size = (template.analyze options).1 := by
  have problems : pass.diagnostics.size - template.resetAnalysis.diagnostics.size =
      (template.found options).length := by
    rw [diagnostics_of_tracks tracks, diagnostics_analyze, ← Array.length_toList,
      ← Array.length_toList, Array.toList_appendList, List.length_append, Nat.add_sub_cancel_left]
  have depth : pass.active.length = (template.survey options).escapes.depth := by
    rw [tracks.active, List.length_map]
    rfl
  rw [Pass.report, report_analyze, problems, depth, tracks.strict, tracks.pushes, tracks.pops,
    tracks.maxDepth]

/-- An analysis in place that has a root to begin with has a result, which is that of an
analysis. -/
theorem analyzeInPlace_of_lt (options : AnalysisOptions)
    (present : template.root < template.tree.size) :
    template.analyzeInPlace options = some (template.analyze options) := by
  have holds : (Survey.start template.resetAnalysis.scopes template.tree.size).escapes.Holds
      template.tree (template.tree.pathTo template.root template.root) := by
    rw [Tree.pathTo_self]
    exact Escapes.holds_start ..
  have follows : Pass.Follows template.resetAnalysis (template.diagnosticsBefore options)
      (template.readHeader options).strict options
      (template.tree.pathTo template.root template.root)
      (template.tree.tour (Survey.descends template.tree) template.root)
      (Pass.visit options template.root) :=
    Pass.follows_visit (Nat.le_refl template.root) present
  obtain ⟨pass, visits, tracks, _⟩ := follows _ _ (tracks_start template options) holds
    fun _ member => absurd member List.not_mem_nil
  have ran : template.analyzeInPlace options =
      some (pass.report template.resetAnalysis.diagnostics.size,
        template.resetAnalysis.finish pass) :=
    congrArg (Option.map _) visits
  rw [ran, report_of_tracks tracks, finish_of_tracks tracks]

/-- An analysis in place has the result of an analysis, unless the root is not there. -/
theorem analyzeInPlace_eq_ite (template : Template) (options : AnalysisOptions) :
    template.analyzeInPlace options =
      if template.root < template.tree.size then some (template.analyze options) else none := by
  by_cases present : template.root < template.tree.size
  · rw [if_pos present, analyzeInPlace_of_lt options present]
  · have absent : (Arena.ofTemplate template.resetAnalysis).tree.kind? template.root = none := by
      rw [Arena.tree_ofTemplate, ← Option.not_isSome_iff_eq_none, Option.isSome_iff_exists]
      rintro ⟨kind, found⟩
      exact present (Tree.lt_size_of_kind? found)
    have refused : (Pass.start (.ofTemplate template.resetAnalysis) template.resetAnalysis.scopes
        (template.readHeader options).strict (template.diagnosticsBefore options)).visit options
          template.root = none := by
      rw [Pass.visit.eq_def, Pass.start, absent]
    rw [if_neg present]
    exact congrArg (Option.map _) refused

end

/-! ## What an analysis changes -/

/-- A template differs from another one in the escaped forms that an analysis has written, and
perhaps in flags, names, macros and diagnostics. -/
structure AnnotatedFrom (old new : Template) : Prop where
  name : new.name = old.name
  root : new.root = old.root
  header : new.header = old.header
  size : new.tree.size = old.tree.size
  /-- Kinds, spans, parents and children are as before. -/
  node : ∀ id, new.tree.node? id = old.tree.node? id
  /-- The forms of interpolations and escape blocks that a walk reaches are known. -/
  reached : ∀ id, old.tree.Reaches (Survey.descends old.tree) old.root id →
    old.tree.hasKind NodeKind.hasEscapedForm id = true → (new.escaped? id).isSome = true
  /-- All other slots hold what they held. -/
  other : ∀ id, ¬(old.tree.Reaches (Survey.descends old.tree) old.root id ∧
    old.tree.hasKind NodeKind.hasEscapedForm id = true) → new.escaped[id]? = old.escaped[id]?

/-- An analysis that writes into the nodes while it walks them has a result, for every template
whose root is there.  It changes nothing in the nodes but the escaped forms of the interpolations
and escape blocks that a walk from the root reaches. -/
theorem analyzeInPlace_and_annotatedFrom (template : Template) (options : AnalysisOptions) :
    template.analyzeInPlace options =
        (if template.root < template.tree.size then some (template.analyze options) else none) ∧
      AnnotatedFrom template (template.analyze options).2 := by
  refine ⟨analyzeInPlace_eq_ite template options, rfl, rfl, rfl, rfl, fun _ => rfl, ?_, ?_⟩
  · intro id reached escapable
    have known := (template.isSome_noted_iff id).mpr ⟨reached, escapable⟩
    obtain ⟨form, written⟩ := Option.isSome_iff_exists.mp known
    rw [escaped?_analyze_of_noted (Option.join_eq_some_iff.mp written)]
    rfl
  · intro id apart
    have unknown : template.noted[id]?.join = none := by
      rw [← Option.not_isSome_iff_eq_none, isSome_noted_iff]
      exact apart
    rw [getElem?_escaped_analyze, unknown]
    exact Option.map_id'

/-- An interpolation below a header, and one that is a statement. -/
def partlyReached : Build Template := do
  let inner ← Build.node (.expression (.identifier "a")) []
  let hidden ← Build.node .interpolation [inner]
  let closed ← Build.node (.header []) [hidden]
  let value ← Build.node (.expression (.identifier "b")) []
  let written ← Build.node .interpolation [value]
  Build.finish [closed, written]

/-- The template of `partlyReached`. -/
def partlyReachedTemplate : Template :=
  (partlyReached (.new "slots")).get (by decide) |>.1

/-- Below a header the slot stays empty. -/
theorem annotatedFrom_partlyReached :
    partlyReachedTemplate.tree.preorder (Survey.descends partlyReachedTemplate.tree)
        partlyReachedTemplate.root = [5, 2, 4, 3] ∧
      partlyReachedTemplate.tree.kind? 1 = some .interpolation ∧
      ((partlyReachedTemplate.analyze {}).2.escaped? 4).isSome = true ∧
      (partlyReachedTemplate.analyze {}).2.escaped[(1 : NodeId)]? = some none := by
  have walk : partlyReachedTemplate.tree.preorder (Survey.descends partlyReachedTemplate.tree)
      partlyReachedTemplate.root = [5, 2, 4, 3] := by
    decide +kernel
  obtain ⟨_, annotated⟩ := analyzeInPlace_and_annotatedFrom partlyReachedTemplate {}
  have unreached : ¬partlyReachedTemplate.tree.Reaches
      (Survey.descends partlyReachedTemplate.tree) partlyReachedTemplate.root 1 := by
    rw [Tree.reaches_iff_mem_preorder, walk]
    decide
  have reached : partlyReachedTemplate.tree.Reaches
      (Survey.descends partlyReachedTemplate.tree) partlyReachedTemplate.root 4 := by
    rw [Tree.reaches_iff_mem_preorder, walk]
    decide
  refine ⟨walk, by decide +kernel, annotated.reached 4 reached (by decide +kernel), ?_⟩
  exact annotated.other 1 fun both => unreached both.1

end Template

end TemplateLanguage
