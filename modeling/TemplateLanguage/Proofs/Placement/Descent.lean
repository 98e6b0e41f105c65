import TemplateLanguage.Proofs.Analysis.Finding
import TemplateLanguage.Proofs.Tree.Walk
import TemplateLanguage.Template.Builder

/-!
# Placement on the way down

The rules of placement look up from a node to its ancestors.  A check that
comes down from the root needs no ancestors, since it can carry along what the
rules ask about them: whether a list or an escape block is around, which macro
is nearest, and what admits no macros.

Both report the same, in the same order.
-/

namespace TemplateLanguage

namespace DiagnosticKind

/-- Whether a rule is about what a node may stand in. -/
def isPlacement : DiagnosticKind → Bool
  | misplacedBreak | misplacedReturn | returnValueMismatch | misplacedLocal
  | misplacedNoEscape | misplacedMacro => true
  | _ => false

end DiagnosticKind

namespace Placement

/-! ## The check on the way down -/

/-- What the nodes around a node amount to. -/
structure Enclosure where
  strict : Bool
  inList : Bool
  /-- The kind of the nearest macro. -/
  macroKind? : Option MacroKind
  inEscape : Bool
  /-- The nodes that admit no macros, nearest first. -/
  closed : List NodeKind

namespace Enclosure

/-- Nothing is around a root. -/
def outermost (strict : Bool) : Enclosure :=
  ⟨strict, false, none, false, []⟩

/-- What is around the children of a node. -/
def within (enclosure : Enclosure) (kind : NodeKind) : Enclosure :=
  { strict := enclosure.strict
    inList := kind.isList || enclosure.inList
    macroKind? := kind.macroKind? <|> enclosure.macroKind?
    inEscape := kind.isEscape || enclosure.inEscape
    closed := if kind.admitsMacros then enclosure.closed else kind :: enclosure.closed }

/-- What is wrong with a node before its children are checked. -/
def problemsBefore (enclosure : Enclosure) : NodeKind → List Problem
  | .macroDefinition name _ =>
      if enclosure.strict then enclosure.closed.map (.macroWithin name) else []
  | .noEscapeBlock => if enclosure.inEscape then [] else [.noEscapeOutsideEscape]
  | _ => []

/-- What is wrong with a return, with or without a value. -/
def returnProblems (enclosure : Enclosure) (hasValue : Bool) : List Problem :=
  match enclosure.macroKind? with
  | none => [.returnOutsideMacro]
  | some .procedure => if hasValue then [.valueFromProcedure] else []
  | some .function => if hasValue then [] else [.noValueFromFunction]

/-- What is wrong with an assignment. -/
def localProblems (enclosure : Enclosure) : AssignDirective → List Problem
  | .setLocal =>
      if enclosure.strict || enclosure.macroKind?.isSome then [] else [.localOutsideMacro]
  | .set | .assign => []

/-- What is wrong with a node after its children are checked. -/
def problemsAfter (enclosure : Enclosure) (hasChildren : Bool) : NodeKind → List Problem
  | .breakDirective => if enclosure.inList then [] else [.breakOutsideList]
  | .returnDirective => enclosure.returnProblems hasChildren
  | .assignment directive _ | .blockAssignment directive _ => enclosure.localProblems directive
  | _ => []

end Enclosure

/-- Check a node and the nodes below it, given what is around it. -/
def descend (tree : Tree) (enclosure : Enclosure) (id : NodeId) : List Finding :=
  match tree.kind? id with
  | none => []
  | some kind =>
      let inside :=
        if kind.isHeader then
          []
        else
          (tree.children id).attach.flatMap fun child =>
            descend tree (enclosure.within kind) child.1
      (enclosure.problemsBefore kind).map (⟨·, id⟩)
        ++ inside
        ++ (enclosure.problemsAfter (!(tree.children id).isEmpty) kind).map (⟨·, id⟩)
termination_by id
decreasing_by exact Tree.lt_of_mem_children child.2

variable {tree : Tree}

theorem descend_of_kind?_eq_none {enclosure : Enclosure} {id : NodeId}
    (absent : tree.kind? id = none) : descend tree enclosure id = [] := by
  rw [descend, absent]

theorem descend_of_kind?_eq_some {enclosure : Enclosure} {id : NodeId} {kind : NodeKind}
    (present : tree.kind? id = some kind) :
    descend tree enclosure id =
      (enclosure.problemsBefore kind).map (⟨·, id⟩)
        ++ (if kind.isHeader then []
            else (tree.children id).flatMap (descend tree (enclosure.within kind)))
        ++ (enclosure.problemsAfter (!(tree.children id).isEmpty) kind).map (⟨·, id⟩) := by
  rw [descend, present]
  simp only [List.flatMap_subtype, List.unattach_attach]

/-! ## What ancestors amount to -/

/-- The kinds of the ancestors of a node, nearest first. -/
def kindsAround (tree : Tree) (id : NodeId) : List NodeKind :=
  (tree.ancestors id).filterMap tree.kind?

/-- What a node stands in if these kinds are around it, nearest first. -/
def Enclosure.ofKinds (strict : Bool) (kinds : List NodeKind) : Enclosure :=
  kinds.foldr (fun kind enclosure => enclosure.within kind) (.outermost strict)

/-- Carrying an enclosure down collects what a look at all ancestors finds. -/
theorem Enclosure.ofKinds_eq (strict : Bool) (kinds : List NodeKind) :
    ofKinds strict kinds =
      { strict
        inList := kinds.any NodeKind.isList
        macroKind? := kinds.findSome? NodeKind.macroKind?
        inEscape := kinds.any NodeKind.isEscape
        closed := kinds.filter fun kind => !kind.admitsMacros } := by
  induction kinds with
  | nil => rfl
  | cons kind rest ih =>
      change (ofKinds strict rest).within kind = _
      rw [ih, within, List.any_cons, List.any_cons, List.findSome?_cons, List.filter_cons]
      congr 1
      · cases kind.macroKind? <;> rfl
      · cases kind.admitsMacros <;> rfl

theorem isSome_firstAncestor? (property : NodeKind → Bool) (id : NodeId) :
    (tree.firstAncestor? property id).isSome = (kindsAround tree id).any property := by
  rw [Tree.firstAncestor?, kindsAround, List.isSome_find?, List.any_filterMap]
  rfl

theorem enclosingMacro?_eq (id : NodeId) :
    enclosingMacro? tree id = (kindsAround tree id).findSome? NodeKind.macroKind? := by
  rw [enclosingMacro?, kindsAround, ← List.head?_filterMap, ← List.head?_filterMap,
    List.filterMap_filterMap]

theorem macroProblems_eq (strict : Bool) (name : String) (id : NodeId) :
    macroProblems tree strict name id =
      if strict then
        ((kindsAround tree id).filter fun kind => !kind.admitsMacros).map (.macroWithin name)
      else
        [] := by
  rw [macroProblems, ← kindsAround, ← List.filterMap_eq_map, List.filterMap_filter]
  congr 2
  funext kind
  cases kind.admitsMacros <;> rfl

/-! ## Agreement at a node -/

/-- What a node stands in by its ancestors. -/
def around (tree : Tree) (strict : Bool) (id : NodeId) : Enclosure :=
  .ofKinds strict (kindsAround tree id)

theorem around_eq (strict : Bool) (id : NodeId) :
    around tree strict id =
      { strict
        inList := (tree.firstAncestor? NodeKind.isList id).isSome
        macroKind? := enclosingMacro? tree id
        inEscape := (tree.firstAncestor? NodeKind.isEscape id).isSome
        closed := (kindsAround tree id).filter fun kind => !kind.admitsMacros } := by
  rw [around, Enclosure.ofKinds_eq, isSome_firstAncestor?, isSome_firstAncestor?,
    enclosingMacro?_eq]

theorem around_of_parent?_eq_none {strict : Bool} {root : NodeId}
    (topmost : tree.parent? root = none) : around tree strict root = .outermost strict := by
  rw [around, kindsAround, Tree.ancestors_of_parent?_eq_none topmost]
  rfl

/-- Going to a child adds the node to what is around. -/
theorem around_of_mem_children {strict : Bool} {id child : NodeId} {kind : NodeKind}
    (present : tree.kind? id = some kind) (isChild : child ∈ tree.children id) :
    around tree strict child = (around tree strict id).within kind := by
  rw [around, kindsAround, Tree.ancestors_of_mem_children isChild,
    List.filterMap_cons_some present]
  rfl

/-- On entry, both checks report the same. -/
theorem problems_enter {strict : Bool} {id : NodeId} {kind : NodeKind}
    (present : tree.kind? id = some kind) :
    problems tree strict (.enter id) = (around tree strict id).problemsBefore kind := by
  rw [around_eq, problems, present]
  cases kind with
  | macroDefinition name kind => exact macroProblems_eq strict name id
  | _ => rfl

theorem filter_returnProblems (enclosure : Enclosure) (hasValue : Bool) :
    (returnProblems enclosure.macroKind? hasValue).filter (·.kind.isPlacement) =
      enclosure.returnProblems hasValue := by
  rw [Enclosure.returnProblems]
  cases enclosure.macroKind? with
  | none => rfl
  | some kind => cases kind <;> cases hasValue <;> rfl

/-- Of the problems with the word of an assignment, only a local variable out
of place is a misplacement. -/
theorem filter_directiveProblems (enclosure : Enclosure) (directive : AssignDirective) :
    (directiveProblems enclosure.strict enclosure.macroKind?.isSome directive).filter
        (·.kind.isPlacement) =
      enclosure.localProblems directive := by
  rw [directiveProblems, Enclosure.localProblems.eq_def]
  cases enclosure.strict with
  | true => cases directive <;> rfl
  | false => cases directive <;> cases enclosure.macroKind? <;> rfl

/-- On leaving, both checks report the same misplacements. -/
theorem filter_problems_leave {strict : Bool} {id : NodeId} {kind : NodeKind}
    (present : tree.kind? id = some kind) :
    (problems tree strict (.leave id)).filter (·.kind.isPlacement) =
      (around tree strict id).problemsAfter (!(tree.children id).isEmpty) kind := by
  rw [problems, present]
  cases kind with
  | breakDirective =>
      rw [around_eq, Enclosure.problemsAfter, breakProblems]
      cases (tree.firstAncestor? NodeKind.isList id).isSome <;> rfl
  | returnDirective =>
      rw [Enclosure.problemsAfter, ← filter_returnProblems, around_eq]
  | assignment directive targets =>
      rw [Enclosure.problemsAfter, ← filter_directiveProblems, around_eq]
      rfl
  | blockAssignment directive target =>
      rw [Enclosure.problemsAfter, ← filter_directiveProblems, around_eq]
      rfl
  | _ => rfl

theorem isPlacement_of_mem_problems_enter {strict : Bool} {id : NodeId} {problem : Problem}
    (member : problem ∈ problems tree strict (.enter id)) :
    problem.kind.isPlacement = true := by
  rw [problems] at member
  split at member
  · rw [macroProblems_eq] at member
    split at member
    · obtain ⟨container, _, rfl⟩ := List.mem_map.mp member
      rfl
    · cases member
  · rw [noEscapeProblems] at member
    split at member
    · cases member
    · cases List.mem_singleton.mp member
      rfl
  · cases member

/-! ## Agreement on trees -/

/-- What a step of a tour shows about the rules of placement. -/
def misplacements (tree : Tree) (strict : Bool) (visit : Visit) : List Finding :=
  ((problems tree strict visit).filter (·.kind.isPlacement)).map (⟨·, visit.node⟩)

theorem misplacements_of_kind?_eq_none {strict : Bool} {visit : Visit}
    (absent : tree.kind? visit.node = none) : misplacements tree strict visit = [] := by
  cases visit with
  | enter id =>
      change tree.kind? id = none at absent
      rw [misplacements, problems, absent]
      rfl
  | leave id =>
      change tree.kind? id = none at absent
      rw [misplacements, problems, absent]
      rfl

theorem misplacements_enter {strict : Bool} {id : NodeId} {kind : NodeKind}
    (present : tree.kind? id = some kind) :
    misplacements tree strict (.enter id) =
      ((around tree strict id).problemsBefore kind).map (⟨·, id⟩) := by
  have all : (problems tree strict (.enter id)).filter (·.kind.isPlacement) =
      problems tree strict (.enter id) :=
    List.filter_eq_self.mpr fun _ => isPlacement_of_mem_problems_enter
  rw [misplacements, all, problems_enter present]
  rfl

theorem misplacements_leave {strict : Bool} {id : NodeId} {kind : NodeKind}
    (present : tree.kind? id = some kind) :
    misplacements tree strict (.leave id) =
      ((around tree strict id).problemsAfter (!(tree.children id).isEmpty) kind).map
        (⟨·, id⟩) := by
  rw [misplacements, filter_problems_leave present]
  rfl

/-- A tour that looks up from each node shows what a descent shows. -/
theorem flatMap_misplacements_tour (strict : Bool) (id : NodeId) :
    (tree.tour (Survey.descends tree) id).flatMap (misplacements tree strict) =
      descend tree (around tree strict id) id := by
  induction id using tree.children_induction with
  | node id ih =>
      rw [Tree.tour_eq, List.flatMap_append, List.flatMap_cons, List.flatMap_singleton]
      cases present : tree.kind? id with
      | none =>
          have childless : tree.children id = [] := Tree.children_of_kind?_eq_none present
          rw [descend_of_kind?_eq_none present, childless,
            misplacements_of_kind?_eq_none present, misplacements_of_kind?_eq_none present]
          split <;> rfl
      | some kind =>
          have down : Survey.descends tree id = !kind.isHeader := by
            rw [Survey.descends, Tree.hasKind, present]
            rfl
          have below : ((tree.children id).flatMap (tree.tour (Survey.descends tree))).flatMap
                (misplacements tree strict) =
              (tree.children id).flatMap (descend tree ((around tree strict id).within kind)) := by
            rw [List.flatMap_assoc, List.flatMap_def, List.flatMap_def]
            congr 1
            apply List.map_congr_left
            intro child isChild
            rw [ih child isChild, around_of_mem_children present isChild]
          rw [descend_of_kind?_eq_some present, misplacements_enter present,
            misplacements_leave present, down]
          cases kind.isHeader with
          | true => rfl
          | false => rw [← below]; rfl

/-! ## Agreement of the diagnostics -/

/-- Of the findings of a survey, the misplacements are those of a descent from
the root. -/
theorem filter_findings_survey {template : Template} {options : AnalysisOptions}
    (topmost : template.tree.parent? template.root = none) :
    (template.survey options).findings.toList.filter (·.problem.kind.isPlacement) =
      descend template.tree (.outermost (template.readHeader options).strict) template.root := by
  have undeclared : ∀ finding : Finding, finding.problem.kind = .duplicateDeclaration →
      finding.problem.kind.isPlacement = false := by
    intro finding kind
    rw [kind]
    rfl
  have unused : ∀ visit, (Usage.findings template.tree options visit).filter
      (·.problem.kind.isPlacement) = [] := by
    intro visit
    rw [List.filter_eq_nil_iff]
    intro finding member
    have kind := Usage.kind_of_mem_findings member
    simp only [List.mem_cons, List.not_mem_nil, or_false] at kind
    rcases kind with kind | kind | kind | kind <;> rw [kind] <;> exact Bool.false_ne_true
  rw [Template.survey_eq, Survey.ofTree, Survey.filter_findings_foldl undeclared,
    ← around_of_parent?_eq_none topmost, ← flatMap_misplacements_tour]
  change [] ++ _ = _
  rw [List.nil_append]
  congr 1
  funext visit
  rw [unused, List.nil_append, misplacements, List.filter_map]
  rfl

theorem filter_headerFindings (template : Template) (options : AnalysisOptions) :
    (template.headerFindings options).filter (·.problem.kind.isPlacement) = [] := by
  rw [List.filter_eq_nil_iff]
  intro finding member
  rw [Template.headerFindings] at member
  split at member
  · rename_i header isHeader
    obtain ⟨problem, reported, rfl⟩ := List.mem_map.mp member
    rw [Template.readHeader, isHeader] at reported
    rcases HeaderReading.kind_of_mem_problems reported with kind | kind <;> rw [kind] <;>
      exact Bool.false_ne_true
  · cases member

end Placement

/-- The misplacements that an analysis records are those that a check on the way
down from the root finds, in its order. -/
theorem Template.filter_recorded_analyze (template : Template) (options : AnalysisOptions)
    (topmost : template.tree.parent? template.root = none) :
    (template.analyze options).2.recorded.filter (·.kind.isPlacement) =
      (Placement.descend template.tree (.outermost (template.analyze options).1.strict)
        template.root).map (Finding.diagnostic template.tree) := by
  rw [recorded_analyze, found, List.filter_map, List.filter_append]
  change (((template.headerFindings options).filter (·.problem.kind.isPlacement)) ++
    ((template.survey options).findings.toList.filter (·.problem.kind.isPlacement))).map _ = _
  rw [Placement.filter_headerFindings, Placement.filter_findings_survey topmost]
  rfl

namespace Placement

/-- A list around a break and a macro that returns a value, and a break after
the list. -/
def strayDirectives : Build Template := do
  let value ← Build.node (.expression (.boolean true)) []
  let answer ← Build.node .returnDirective [value]
  let inside ← Build.withBody (.macroDefinition "m" .procedure) [] [answer]
  let placed ← Build.node .breakDirective []
  let sequence ← Build.node (.expression (.identifier "xs")) []
  let list ← Build.withBody (.listBlock "x" none) [sequence] [inside, placed]
  let stray ← Build.node .breakDirective []
  Build.finish [list, stray]

/-- The template of `strayDirectives`. -/
def strayTemplate : Template :=
  (strayDirectives (.new "placement")).get (by decide) |>.1

/-- The macro stands in a list, its return has a value, and only the second
break is out of place. -/
theorem kinds_recorded_strayTemplate :
    strayTemplate.tree.parent? strayTemplate.root = none ∧
      ((strayTemplate.analyze { strict := true }).2.recorded.filter (·.kind.isPlacement)).map
          Diagnostic.kind =
        [.misplacedMacro, .returnValueMismatch, .misplacedBreak] := by
  have topmost : strayTemplate.tree.parent? strayTemplate.root = none := by decide
  constructor
  · exact topmost
  · rw [Template.filter_recorded_analyze strayTemplate { strict := true } topmost, List.map_map]
    change (descend strayTemplate.tree (.outermost true) strayTemplate.root).map
      (·.problem.kind) = _
    decide +kernel

end Placement

end TemplateLanguage
