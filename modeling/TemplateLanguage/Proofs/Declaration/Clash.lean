import Mathlib.Data.List.Nodup
import TemplateLanguage.Proofs.Analysis.Finding
import TemplateLanguage.Proofs.Declaration.Names
import TemplateLanguage.Template.Builder

/-!
# Clashes of names

Whether a declaration clashes depends on the nodes that the walk came to before,
and on nothing else.  Each diagnostic about a clash belongs to one node, and a
walk comes to a node once, so the diagnostics of a node can be told from the
walk up to it.

In a strict template, a macro or an import clashes with whatever declared its
name in the template before.
-/

namespace TemplateLanguage

namespace Tree

/-- The diagnostics about the name of a macro or an import in a strict template,
given the nodes that a walk came to before: one if one of them declared the name
in the template.  That of a macro refers to the last macro of the name. -/
def clashesAt (tree : Tree) (strict : Bool) (earlier : List NodeId) (id : NodeId) :
    List Diagnostic :=
  match tree.kind? id with
  | some (.macroDefinition name _) =>
      if strict ∧ name ∈ earlier.flatMap (tree.templateNames strict) then
        [{ kind := .duplicateDeclaration
           span := tree.span id
           message :=
            "You already have declared a variable (or declared another macro) as " ++ name
              ++ ". You cannot reuse the variable name in the same template."
           labels :=
            (earlier.reverse.find? fun other => tree.macroName? other = some name).toList.map
              fun previous => ⟨tree.span previous, "previously declared here"⟩ }]
      else
        []
  | some (.importDirective _ name) =>
      if strict ∧ name ∈ earlier.flatMap (tree.templateNames strict) then
        [{ kind := .duplicateDeclaration
           span := tree.span id
           message :=
            "The variable " ++ name
              ++ " is already declared and should not be used as a namespace name to import."
           labels := [] }]
      else
        []
  | _ => []

end Tree

namespace Scopes

variable {tree : Tree} {strict : Bool}

/-- The findings of a walk about declarations. -/
def clashes (tree : Tree) (strict : Bool) (scopes : Scopes) : List NodeId → List Finding
  | [] => []
  | id :: rest =>
      (scopes.step tree strict (.enter id)).problems.map (⟨·, id⟩)
        ++ clashes tree strict (scopes.step tree strict (.enter id)).scopes rest

theorem node_mem_of_mem_clashes {scopes : Scopes} {nodes : List NodeId} {finding : Finding}
    (member : finding ∈ scopes.clashes tree strict nodes) : finding.node ∈ nodes := by
  induction nodes generalizing scopes with
  | nil => cases member
  | cons id rest ih =>
      rcases List.mem_append.mp member with first | later
      · obtain ⟨problem, _, rfl⟩ := List.mem_map.mp first
        exact List.mem_cons_self
      · exact List.mem_cons_of_mem _ (ih later)

/-- A walk through nodes other than a given one finds nothing there. -/
theorem filter_clashes_of_not_mem {nodes : List NodeId} {id : NodeId} (absent : id ∉ nodes)
    (scopes : Scopes) :
    (scopes.clashes tree strict nodes).filter (fun finding => finding.node = id) = [] := by
  rw [List.filter_eq_nil_iff]
  intro finding member same
  exact absent (of_decide_eq_true same ▸ node_mem_of_mem_clashes member)

theorem filter_problems_self (problems : List Problem) (id : NodeId) :
    (problems.map fun problem => (⟨problem, id⟩ : Finding)).filter
        (fun finding => finding.node = id) =
      problems.map (⟨·, id⟩) := by
  rw [List.filter_eq_self]
  intro finding member
  obtain ⟨problem, _, rfl⟩ := List.mem_map.mp member
  exact decide_eq_true rfl

theorem clashes_append (scopes : Scopes) (first second : List NodeId) :
    scopes.clashes tree strict (first ++ second) =
      scopes.clashes tree strict first
        ++ (first.foldl (fun scopes id => (scopes.step tree strict (.enter id)).scopes)
            scopes).clashes tree strict second := by
  induction first generalizing scopes with
  | nil => rfl
  | cons id rest ih =>
      rw [List.cons_append, clashes, clashes, ih, List.append_assoc]
      rfl

/-- What a walk finds at a node depends on what was declared before. -/
theorem filter_clashes_start {earlier later : List NodeId} {id : NodeId}
    (distinct : (earlier ++ id :: later).Nodup) :
    (clashes tree strict .start (earlier ++ id :: later)).filter
        (fun finding => finding.node = id) =
      ((after tree strict earlier).step tree strict (.enter id)).problems.map (⟨·, id⟩) := by
  have once := (List.nodup_cons.mp (List.nodup_middle.mp distinct)).1
  obtain ⟨before, behind⟩ := not_or.mp (mt List.mem_append.mpr once)
  rw [clashes_append, List.filter_append, filter_clashes_of_not_mem before, List.nil_append,
    clashes, List.filter_append, filter_problems_self, filter_clashes_of_not_mem behind,
    List.append_nil]
  rfl

/-- The findings of a walk are those at each of its nodes. -/
theorem clashes_eq_flatMap {nodes : List NodeId} (distinct : nodes.Nodup) (scopes : Scopes) :
    scopes.clashes tree strict nodes =
      nodes.flatMap fun id =>
        (scopes.clashes tree strict nodes).filter fun finding => finding.node = id := by
  induction nodes generalizing scopes with
  | nil => rfl
  | cons id rest ih =>
      obtain ⟨fresh, distinct⟩ := List.nodup_cons.mp distinct
      have elsewhere : ∀ other ∈ rest,
          ((scopes.step tree strict (.enter id)).problems.map
            fun problem => (⟨problem, id⟩ : Finding)).filter (fun finding => finding.node = other) =
          [] := by
        intro other member
        rw [List.filter_eq_nil_iff]
        intro finding reported same
        obtain ⟨problem, _, rfl⟩ := List.mem_map.mp reported
        cases of_decide_eq_true same
        exact fresh member
      rw [clashes, List.flatMap_cons, List.filter_append, filter_problems_self,
        filter_clashes_of_not_mem fresh, List.append_nil]
      congr 1
      refine (ih distinct _).trans (List.flatMap_congr ?_)
      intro other member
      rw [List.filter_append, elsewhere other member, List.nil_append]

/-- A node that declares no variables in a block clashes with what the walk up to
it declared in the template. -/
theorem map_problems_step_after {id : NodeId}
    (outside : tree.block? id = none ∨ tree.variableNames id = [])
    (earlier : List NodeId) :
    ((after tree strict earlier).step tree strict (.enter id)).problems.map
        (fun problem => Finding.diagnostic tree ⟨problem, id⟩) =
      tree.clashesAt strict earlier id := by
  have known : ∀ name, name ∈ (after tree strict earlier).names ↔
      name ∈ earlier.flatMap (tree.templateNames strict) := by
    intro name
    rw [names_after, List.mem_eraseDups]
  simp only [step, Tree.clashesAt]
  cases found : tree.kind? id with
  | none => rfl
  | some kind =>
      cases kind with
      | macroDefinition name _ =>
          simp only [defineMacro, known, lookup_macros_after]
          split <;> rfl
      | importDirective _ name =>
          simp only [importName, known]
          split <;> rfl
      | declaration names =>
          rcases outside with outside | nothing
          · rw [Tree.block?] at outside
            simp only [outside]
            rfl
          · rw [Tree.variableNames, found] at nothing
            cases nothing
            simp only [declareVariables]
            split <;> rfl
      | _ => rfl

end Scopes

namespace Survey

/-- What a survey finds about declarations is what its walk finds. -/
theorem filter_findings_foldl_duplicate {tree : Tree} {options : AnalysisOptions} {strict : Bool}
    (visits : List Visit) (survey : Survey) :
    (visits.foldl (step tree options strict) survey).findings.toList.filter
        (fun finding => finding.problem.kind = .duplicateDeclaration) =
      survey.findings.toList.filter (fun finding => finding.problem.kind = .duplicateDeclaration)
        ++ survey.scopes.clashes tree strict (visits.filterMap Visit.entered?) := by
  induction visits generalizing survey with
  | nil => simp [Scopes.clashes]
  | cons visit rest ih =>
      have declared : (survey.scopes.step tree strict visit).problems.map
            (fun problem => (⟨problem, visit.node⟩ : Finding)) ++
          (survey.scopes.step tree strict visit).scopes.clashes tree strict
            (rest.filterMap Visit.entered?) =
          survey.scopes.clashes tree strict ((visit :: rest).filterMap Visit.entered?) := by
        cases visit <;> rfl
      have used : (Usage.findings tree options visit).filter
          (fun finding => finding.problem.kind = .duplicateDeclaration) = [] :=
        Finding.filter_eq_nil (· = .duplicateDeclaration)
          (fun _ => Usage.kind_of_mem_findings) (by decide)
      have placed := Placement.filter_eq_nil (· = .duplicateDeclaration) (by decide) tree strict
        visit
      have duplicates : ((survey.scopes.step tree strict visit).problems.map
          fun problem => (⟨problem, visit.node⟩ : Finding)).filter
            (fun finding => finding.problem.kind = .duplicateDeclaration) =
          (survey.scopes.step tree strict visit).problems.map (⟨·, visit.node⟩) := by
        rw [List.filter_eq_self]
        intro finding member
        obtain ⟨problem, reported, rfl⟩ := List.mem_map.mp member
        exact decide_eq_true (Scopes.kind_of_mem_problems reported)
      rw [List.foldl_cons, ih, ← declared, step]
      simp [duplicates, used, placed]

end Survey

namespace Template

/-- The diagnostics about repeated declarations that an analysis finds at a node. -/
def duplicates (template : Template) (options : AnalysisOptions) (id : NodeId) :
    List Diagnostic :=
  (((template.findings options).filter fun finding =>
      finding.problem.kind = .duplicateDeclaration).filter fun finding => finding.node = id).map
    (Finding.diagnostic template.tree)

variable {template : Template} {options : AnalysisOptions}

theorem filter_findings_duplicate (template : Template) (options : AnalysisOptions) :
    (template.findings options).filter
        (fun finding => finding.problem.kind = .duplicateDeclaration) =
      Scopes.clashes template.tree (template.readHeader options).strict .start template.walk := by
  have header : (template.headerFindings options).filter
      (fun finding => finding.problem.kind = .duplicateDeclaration) = [] :=
    Finding.filter_eq_nil (· = .duplicateDeclaration)
      (fun _ => kind_of_mem_headerFindings) (by decide)
  rw [findings, List.filter_append, header, List.nil_append, survey_eq, Survey.ofTree,
    Survey.filter_findings_foldl_duplicate, Tree.filterMap_entered?_tour]
  rfl

/-- The diagnostics of a run about repeated declarations are those at each node,
in the order of the walk. -/
theorem filter_recorded_analyze_duplicate (template : Template) (options : AnalysisOptions) :
    (template.analyze options).2.recorded.filter (fun diagnostic =>
        diagnostic.kind = .duplicateDeclaration) =
      template.walk.flatMap (template.duplicates options) := by
  rw [recorded_analyze, filter_found (· = .duplicateDeclaration), filter_findings_duplicate,
    Scopes.clashes_eq_flatMap template.nodup_walk, List.map_flatMap]
  apply List.flatMap_congr
  intro id _
  rw [duplicates, filter_findings_duplicate]

/-- What a run reports about declarations at a node depends on the walk up to it. -/
theorem duplicates_of_walk_eq {earlier later : List NodeId} {id : NodeId}
    (cut : template.walk = earlier ++ id :: later) :
    template.duplicates options id =
      ((Scopes.after template.tree (template.readHeader options).strict earlier).step
        template.tree (template.readHeader options).strict (.enter id)).problems.map fun problem =>
          Finding.diagnostic template.tree ⟨problem, id⟩ := by
  have distinct := cut ▸ template.nodup_walk
  rw [duplicates, filter_findings_duplicate, cut, Scopes.filter_clashes_start distinct,
    List.map_map]
  rfl

/-- After an analysis, the template scope lists what the walk declares there, each
name once, and the registry lists the last macro of each name.  In a strict
template, a macro or an import whose name was declared before is reported once,
with the last macro of the name before it.  Nothing else is reported unless it
declares variables in a block. -/
theorem clashes_analyze (template : Template) (options : AnalysisOptions) :
    (template.analyze options).2.declared .template =
        (template.walk.flatMap
          (template.tree.templateNames (template.analyze options).1.strict)).eraseDups ∧
      (template.analyze options).2.macros.map Prod.fst =
        (template.walk.filterMap template.tree.macroName?).eraseDups ∧
      (∀ name, (template.analyze options).2.macro? name =
        template.walk.reverse.find? fun id => template.tree.macroName? id = some name) ∧
      (template.analyze options).2.recorded.filter (fun diagnostic =>
          diagnostic.kind = .duplicateDeclaration) =
        template.walk.flatMap (template.duplicates options) ∧
      ∀ earlier id later, template.walk = earlier ++ id :: later →
        template.tree.block? id = none ∨ template.tree.variableNames id = [] →
        template.duplicates options id =
          template.tree.clashesAt (template.analyze options).1.strict earlier id := by
  have scopes := scopes_survey template options
  refine ⟨declared_template_analyze template options, ?_, ?_,
    filter_recorded_analyze_duplicate template options, ?_⟩
  · change (template.survey options).scopes.macros.map Prod.fst = _
    rw [scopes, Scopes.keys_macros_after]
  · intro name
    change (template.survey options).scopes.macros.lookup name = _
    rw [scopes, Scopes.lookup_macros_after]
  · intro earlier id later cut outside
    rw [duplicates_of_walk_eq cut, Scopes.map_problems_step_after outside, report_analyze]

/-- A macro inside a macro of its name, and an import under the name. -/
def nestedMacros : Build Template := do
  let inner ← Build.withBody (.macroDefinition "m" .procedure) [] []
  let outer ← Build.withBody (.macroDefinition "m" .procedure) [] [inner]
  let path ← Build.node (.stringLiteral "lib" false) []
  let library ← Build.node (.importDirective "lib" "m") [path]
  Build.finish [outer, library]

/-- The template of `nestedMacros`. -/
def nestedMacrosTemplate : Template :=
  (nestedMacros (.new "nested macros")).get (by decide) |>.1

/-- In a strict template, the inner macro clashes with the outer one and takes its
place, and the import clashes as well. -/
theorem clashes_analyze_nestedMacrosTemplate :
    (nestedMacrosTemplate.analyze { strict := true }).2.macro? "m" = some 1 ∧
      (nestedMacrosTemplate.duplicates { strict := true } 1).map Diagnostic.labels =
        [[⟨nestedMacrosTemplate.tree.span 3, "previously declared here"⟩]] ∧
      (nestedMacrosTemplate.duplicates { strict := true } 5).map Diagnostic.labels = [[]] ∧
      nestedMacrosTemplate.duplicates { strict := true } 3 = [] := by
  obtain ⟨_, _, last, _, clash⟩ := clashes_analyze nestedMacrosTemplate { strict := true }
  refine ⟨?_, ?_, ?_, ?_⟩
  · rw [last]
    decide +kernel
  · have cut : nestedMacrosTemplate.walk = [6, 3, 2] ++ 1 :: [0, 5, 4] := by decide +kernel
    rw [clash _ _ _ cut (Or.inr (by decide))]
    decide +kernel
  · have cut : nestedMacrosTemplate.walk = [6, 3, 2, 1, 0] ++ 5 :: [4] := by decide +kernel
    rw [clash _ _ _ cut (Or.inr (by decide))]
    decide +kernel
  · have cut : nestedMacrosTemplate.walk = [6] ++ 3 :: [2, 1, 0, 5, 4] := by decide +kernel
    rw [clash _ _ _ cut (Or.inr (by decide))]
    decide +kernel

end Template

end TemplateLanguage
