import TemplateLanguage.Proofs.Declaration.Names
import TemplateLanguage.Proofs.Analysis.Finding
import TemplateLanguage.Proofs.Escape.Lexical
import TemplateLanguage.Template.Builder

/-!
# What options can change

Options reach an analysis by the strict flag that holds if the header sets none,
and by the keys that settings may use.  Escaped forms, macros and the names of
blocks depend on neither, although strict templates declare and report more on
the way.  Under one strict flag, the keys decide about the reports on settings
and about nothing else.
-/

namespace TemplateLanguage

/-! ## Declarations -/

namespace Scopes

/-- Two states of a walk agree in all but the names of the template. -/
structure SameInside (first second : Scopes) : Prop where
  blockNames : first.blockNames = second.blockNames
  macros : first.macros = second.macros

namespace SameInside

variable {first second : Scopes}

theorem declareIn (same : SameInside first second) (id : NodeId) (names : List String) :
    SameInside (first.declareIn id names) (second.declareIn id names) := by
  cases names with
  | nil => exact same
  | cons name rest =>
      constructor
      · simp only [Scopes.declareIn, block, same.blockNames]
      · exact same.macros

/-- Strict or not, a step declares the same in blocks and registers the same
macro. -/
theorem step (same : SameInside first second) (tree : Tree) (firstStrict secondStrict : Bool)
    (visit : Visit) :
    SameInside (first.step tree firstStrict visit).scopes
      (second.step tree secondStrict visit).scopes := by
  cases visit with
  | leave id => exact same
  | enter id =>
      simp only [Scopes.step]
      cases tree.kind? id with
      | none => exact same
      | some kind =>
          cases kind with
          | macroDefinition name _ =>
              exact ⟨same.blockNames, congrArg (Entries.put name id) same.macros⟩
          | importDirective => exact ⟨same.blockNames, same.macros⟩
          | declaration names =>
              simp only [declareVariables]
              split
              · exact ⟨same.blockNames, same.macros⟩
              · exact same.declareIn _ names
          | listBlock =>
              simp only [declareLoop]
              split
              · exact same
              · exact same.declareIn _ _
          | _ => exact same

end SameInside

theorem sameInside_after (tree : Tree) (firstStrict secondStrict : Bool) (nodes : List NodeId) :
    SameInside (after tree firstStrict nodes) (after tree secondStrict nodes) :=
  List.foldl_rel ⟨rfl, rfl⟩ fun id _ _ _ same =>
    same.step tree firstStrict secondStrict (.enter id)

end Scopes

/-! ## Headers -/

namespace HeaderReading

variable {first second : HeaderReading}

theorem problems_readFlag (same : first.problems = second.problems) (tree : Tree)
    (header : NodeId) (key : String) (ofFlag : Bool → Bool) :
    (readFlag tree header key ofFlag first).problems =
      (readFlag tree header key ofFlag second).problems := by
  rw [readFlag, readFlag]
  split
  · exact same
  · rw [same]

theorem problems_readParameter (same : first.problems = second.problems) (tree : Tree)
    (header : NodeId) (key : String) :
    (readParameter tree header first key).problems =
      (readParameter tree header second key).problems := by
  rw [readParameter, readParameter]
  split
  · rw [same]
  · exact same
  · exact problems_readFlag same tree header key id
  · exact problems_readFlag same tree header key not

theorem problems_foldl_readParameter (same : first.problems = second.problems) (tree : Tree)
    (header : NodeId) (keys : List String) :
    (keys.foldl (readParameter tree header) first).problems =
      (keys.foldl (readParameter tree header) second).problems := by
  induction keys generalizing first second with
  | nil => exact same
  | cons key rest ih => exact ih (problems_readParameter same tree header key)

/-- What is wrong with a header does not depend on the flag that holds without
it. -/
theorem problems_ofHeader (tree : Tree) (first second : Bool) (header : NodeId) :
    (ofHeader tree first header).problems = (ofHeader tree second header).problems := by
  rw [ofHeader, ofHeader]
  split
  · exact problems_foldl_readParameter (by rfl) tree header _
  · rfl

end HeaderReading

/-! ## Settings -/

theorem AnalysisOptions.allows_eq_true_iff {options : AnalysisOptions} {key : String} :
    options.allows key = true ↔ key ∈ settingKeys ∨ key ∈ options.extraKeys := by
  rw [allows, Bool.or_eq_true, decide_eq_true_iff, decide_eq_true_iff]

/-- The diagnostic of a setting whose key is neither fixed nor an extra one. -/
def Tree.unknownSetting? (tree : Tree) (extraKeys : Names) (id : NodeId) : Option Diagnostic :=
  match tree.kind? id with
  | some (.setting key) =>
      if key ∈ settingKeys ∨ key ∈ extraKeys then none
      else
        some
          { kind := .unknownSetting
            span := tree.span id
            message :=
              "Invalid setting name, or it is not allowed to change the value of the setting"
                ++ " from a template: " ++ key
            labels := [] }
  | _ => none

namespace Usage

variable {tree : Tree}

/-- Options matter for settings only. -/
theorem filter_findings (tree : Tree) (first second : AnalysisOptions) (visit : Visit) :
    (findings tree first visit).filter (fun finding => finding.problem.kind ≠ .unknownSetting) =
      (findings tree second visit).filter
        (fun finding => finding.problem.kind ≠ .unknownSetting) := by
  have settings : ∀ (options : AnalysisOptions) (key : String) (id : NodeId),
      ((settingProblems options key).map fun problem => (⟨problem, id⟩ : Finding)).filter
        (fun finding => finding.problem.kind ≠ .unknownSetting) = [] := by
    intro options key id
    rw [settingProblems]
    split <;> rfl
  cases visit with
  | leave id => rfl
  | enter id =>
      simp only [findings]
      split
      · rw [settings, settings]
      · rfl
      · rfl

/-- A setting is reported on entry, if its key is not allowed. -/
theorem map_filter_findings_enter (options : AnalysisOptions) (id : NodeId) :
    ((findings tree options (.enter id)).filter
        (fun finding => finding.problem.kind = .unknownSetting)).map (Finding.diagnostic tree) =
      (tree.unknownSetting? options.extraKeys id).toList := by
  simp only [findings, Tree.unknownSetting?]
  cases tree.kind? id with
  | none => rfl
  | some kind =>
      cases kind with
      | setting key =>
          simp only [settingProblems, AnalysisOptions.allows_eq_true_iff]
          split <;> rfl
      | stringLiteral value raw =>
          simp only [stringProblems]
          split
          · rfl
          · split <;> rfl
      | _ => rfl

theorem filter_findings_leave (options : AnalysisOptions) (id : NodeId) :
    (findings tree options (.leave id)).filter
        (fun finding => finding.problem.kind = .unknownSetting) = [] := by
  have targets : ∀ (problem : Expr → Problem) (targets : List NodeId),
      (∀ expression, (problem expression).kind = .notAssignable) →
      (targetFindings tree problem targets).filter
        (fun finding => finding.problem.kind = .unknownSetting) = [] := by
    intro problem targets kind
    rw [targetFindings, List.filter_map, List.map_eq_nil_iff, List.filter_eq_nil_iff]
    intro target _ same
    have same := of_decide_eq_true same
    rw [kind] at same
    cases same
  simp only [findings]
  split
  · rw [builtinProblems]
    split <;> rfl
  · exact targets _ _ fun _ => rfl
  · exact targets _ _ fun _ => rfl
  · rfl

end Usage

namespace Visit

/-- What a tour shows only on entry, it shows along its walk. -/
theorem flatMap_eq_of_leave {Value : Type} {shown : Visit → List Value}
    (silent : ∀ id, shown (.leave id) = []) (visits : List Visit) :
    visits.flatMap shown = (visits.filterMap entered?).flatMap fun id => shown (.enter id) := by
  induction visits with
  | nil => rfl
  | cons visit rest ih =>
      cases visit with
      | enter id => exact congrArg (shown (.enter id) ++ ·) ih
      | leave id =>
          rw [List.flatMap_cons, silent, ih]
          rfl

end Visit

/-! ## Surveys -/

namespace Survey

/-- Under one strict flag, surveys find the same but for settings. -/
theorem filter_findings_foldl_congr (tree : Tree) (first second : AnalysisOptions) (strict : Bool)
    (visits : List Visit) {left right : Survey} (scopes : left.scopes = right.scopes)
    (findings :
      left.findings.toList.filter (fun finding => finding.problem.kind ≠ .unknownSetting) =
        right.findings.toList.filter (fun finding => finding.problem.kind ≠ .unknownSetting)) :
    (visits.foldl (step tree first strict) left).findings.toList.filter
        (fun finding => finding.problem.kind ≠ .unknownSetting) =
      (visits.foldl (step tree second strict) right).findings.toList.filter
        (fun finding => finding.problem.kind ≠ .unknownSetting) := by
  induction visits generalizing left right with
  | nil => exact findings
  | cons visit rest ih =>
      apply ih
      · rw [step, step, scopes]
      · have used := Usage.filter_findings tree first second visit
        simp only [step, scopes, Array.toList_appendList, List.filter_append, findings, used]

end Survey

/-! ## Analyses -/

namespace Template

/-- Two analyses leave the same tree with the same escaped forms, and the same
macros and names in blocks. -/
structure SameInside (first second : Report × Template) : Prop where
  tree : first.2.tree = second.2.tree
  escaped : first.2.escaped = second.2.escaped
  pushes : first.1.pushes = second.1.pushes
  pops : first.1.pops = second.1.pops
  maxDepth : first.1.maxDepth = second.1.maxDepth
  depth : first.1.depth = second.1.depth
  macros : first.2.macros = second.2.macros
  blockNames : first.2.blockNames = second.2.blockNames

/-- Under all options, analyses leave the same inside a template. -/
theorem sameInside_analyze (template : Template) (first second : AnalysisOptions) :
    SameInside (template.analyze first) (template.analyze second) := by
  have escapes : (template.survey first).escapes = (template.survey second).escapes := by
    rw [survey_eq, survey_eq, Survey.ofTree, Survey.ofTree, Survey.escapes_foldl_step,
      Survey.escapes_foldl_step]
  have scopes : Scopes.SameInside (template.survey first).scopes
      (template.survey second).scopes := by
    rw [scopes_survey, scopes_survey]
    exact Scopes.sameInside_after ..
  constructor
  · rfl
  · apply Array.ext_getElem?
    intro id
    rw [getElem?_escaped_analyze, getElem?_escaped_analyze]
  · exact congrArg Escapes.pushes escapes
  · exact congrArg Escapes.pops escapes
  · exact congrArg Escapes.maxDepth escapes
  · exact congrArg Escapes.depth escapes
  · exact scopes.macros
  · exact scopes.blockNames

theorem headerFindings_eq (template : Template) (first second : AnalysisOptions) :
    template.headerFindings first = template.headerFindings second := by
  rw [headerFindings, headerFindings, readHeader, readHeader]
  cases template.header with
  | none => rfl
  | some header => simp only [HeaderReading.problems_ofHeader _ first.strict second.strict]

/-- Under one strict flag, an analysis finds the same but for settings. -/
theorem filter_found_congr (template : Template) {first second : AnalysisOptions}
    (strict : (template.readHeader first).strict = (template.readHeader second).strict) :
    (template.found first).filter (fun diagnostic => diagnostic.kind ≠ .unknownSetting) =
      (template.found second).filter fun diagnostic => diagnostic.kind ≠ .unknownSetting := by
  have surveys : ((template.survey first).findings.toList.filter
        fun finding => finding.problem.kind ≠ .unknownSetting) =
      (template.survey second).findings.toList.filter
        fun finding => finding.problem.kind ≠ .unknownSetting := by
    rw [survey, survey, strict]
    exact Survey.filter_findings_foldl_congr template.tree first second _ _ rfl rfl
  rw [filter_found (· ≠ .unknownSetting), filter_found (· ≠ .unknownSetting), findings, findings,
    headerFindings_eq template first second, List.filter_append, List.filter_append, surveys]

/-- An analysis reports the settings of its walk whose keys are not allowed. -/
theorem filter_found_unknownSetting (template : Template) (options : AnalysisOptions) :
    (template.found options).filter (fun diagnostic => diagnostic.kind = .unknownSetting) =
      template.walk.filterMap (template.tree.unknownSetting? options.extraKeys) := by
  have header : (template.headerFindings options).filter
      (fun finding => finding.problem.kind = .unknownSetting) = [] :=
    Finding.filter_eq_nil (· = .unknownSetting) (fun _ => kind_of_mem_headerFindings) (by decide)
  have undeclared : ∀ finding : Finding, finding.problem.kind = .duplicateDeclaration →
      decide (finding.problem.kind = .unknownSetting) = false := by
    intro finding kind
    rw [kind]
    rfl
  have placed := Placement.filter_eq_nil (· = .unknownSetting) (by decide) template.tree
    (template.readHeader options).strict
  rw [filter_found (· = .unknownSetting), findings, List.filter_append, header, List.nil_append,
    survey_eq, Survey.ofTree, Survey.filter_findings_foldl undeclared]
  simp only [placed, List.append_nil]
  rw [Visit.flatMap_eq_of_leave fun id => Usage.filter_findings_leave options id,
    Tree.filterMap_entered?_tour, List.map_append, List.map_flatMap]
  simp only [Usage.map_filter_findings_enter]
  rw [List.filterMap_eq_flatMap_toList]
  rfl

/-- Options have no part in what an analysis leaves inside a template.  Under one
strict flag, they have none in the names of the template and in the diagnostics,
except those about settings, of which there is one for each setting of the walk
whose key is neither fixed nor an extra one. -/
theorem options_analyze (template : Template) (first second : AnalysisOptions) :
    SameInside (template.analyze first) (template.analyze second) ∧
      ((template.analyze first).1.strict = (template.analyze second).1.strict →
        (template.analyze first).2.names = (template.analyze second).2.names ∧
          (template.analyze first).2.diagnostics.toList.filter
              (fun diagnostic => diagnostic.kind ≠ .unknownSetting) =
            (template.analyze second).2.diagnostics.toList.filter
              fun diagnostic => diagnostic.kind ≠ .unknownSetting) ∧
      (template.analyze first).2.recorded.filter
          (fun diagnostic => diagnostic.kind = .unknownSetting) =
        template.walk.filterMap (template.tree.unknownSetting? first.extraKeys) := by
  refine ⟨sameInside_analyze template first second, ?_, ?_⟩
  · intro strict
    constructor
    · change (template.survey first).scopes.names = (template.survey second).scopes.names
      rw [scopes_survey, scopes_survey]
      exact congrArg (fun strict => (Scopes.after template.tree strict template.walk).names) strict
    · rw [diagnostics_analyze, diagnostics_analyze, Array.toList_appendList,
        Array.toList_appendList, List.filter_append, List.filter_append,
        filter_found_congr template strict]
  · rw [recorded_analyze, filter_found_unknownSetting]

/-- Two settings of which one has a fixed key. -/
def settings : Build Template := do
  let mood ← Build.node (.stringLiteral "calm" false) []
  let unknown ← Build.node (.setting "mood") [mood]
  let place ← Build.node (.stringLiteral "de" false) []
  let fixed ← Build.node (.setting "locale") [place]
  Build.finish [unknown, fixed]

/-- The template of `settings`. -/
def settingsTemplate : Template :=
  (settings (.new "settings")).get (by decide) |>.1

/-- An extra key silences the report on its setting, and changes nothing else. -/
theorem options_analyze_settingsTemplate :
    (settingsTemplate.analyze {}).1.strict =
        (settingsTemplate.analyze { extraKeys := ["mood"] }).1.strict ∧
      (settingsTemplate.analyze {}).2.names =
        (settingsTemplate.analyze { extraKeys := ["mood"] }).2.names ∧
      ((settingsTemplate.analyze {}).2.recorded.filter
        fun diagnostic => diagnostic.kind = .unknownSetting).map Diagnostic.span =
          [settingsTemplate.tree.span 1] ∧
      (settingsTemplate.analyze { extraKeys := ["mood"] }).2.recorded.filter
        (fun diagnostic => diagnostic.kind = .unknownSetting) = [] := by
  obtain ⟨_, same, reported⟩ := options_analyze settingsTemplate {} { extraKeys := ["mood"] }
  obtain ⟨_, _, silent⟩ := options_analyze settingsTemplate { extraKeys := ["mood"] } {}
  have strict : (settingsTemplate.analyze {}).1.strict =
      (settingsTemplate.analyze { extraKeys := ["mood"] }).1.strict := rfl
  refine ⟨strict, (same strict).1, ?_, ?_⟩
  · rw [reported]
    decide +kernel
  · rw [silent]
    decide +kernel

end Template

end TemplateLanguage
