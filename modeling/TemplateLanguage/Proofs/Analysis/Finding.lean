import TemplateLanguage.Analysis.Report

/-!
# What an analysis finds

An analysis appends the diagnostics of its findings to those recorded before
any analysis.  The rules about headers, declarations and use each report kinds
of their own, so the findings of one rule can be told from the others by their
kind alone.
-/

namespace TemplateLanguage

namespace Template

/-- The diagnostics that an analysis appends. -/
def found (template : Template) (options : AnalysisOptions) : List Diagnostic :=
  (template.headerFindings options ++ (template.survey options).findings.toList).map
    (Finding.diagnostic template.tree)

/-- The findings of an analysis. -/
def findings (template : Template) (options : AnalysisOptions) : List Finding :=
  template.headerFindings options ++ (template.survey options).findings.toList

/-- The diagnostics of some kinds are those of the findings of these kinds. -/
theorem filter_found (keep : DiagnosticKind → Bool) (template : Template)
    (options : AnalysisOptions) :
    (template.found options).filter (fun diagnostic => keep diagnostic.kind) =
      ((template.findings options).filter fun finding => keep finding.problem.kind).map
        (Finding.diagnostic template.tree) := by
  rw [found, List.filter_map]
  rfl

/-- The diagnostics that the last analysis of a template appended. -/
def recorded (template : Template) : List Diagnostic :=
  match template.analysisStart with
  | none => []
  | some start => template.diagnostics.toList.drop start

theorem report_analyze (template : Template) (options : AnalysisOptions) :
    (template.analyze options).1 =
      { strict := (template.readHeader options).strict
        problems := (template.found options).length
        pushes := (template.survey options).escapes.pushes
        pops := (template.survey options).escapes.pops
        maxDepth := (template.survey options).escapes.maxDepth
        depth := (template.survey options).escapes.depth } :=
  rfl

/-- An analysis keeps the diagnostics recorded before any analysis and appends
its own. -/
theorem diagnostics_analyze (template : Template) (options : AnalysisOptions) :
    (template.analyze options).2.diagnostics =
      template.resetAnalysis.diagnostics ++ template.found options :=
  rfl

theorem recorded_analyze (template : Template) (options : AnalysisOptions) :
    (template.analyze options).2.recorded = template.found options := by
  change ((template.resetAnalysis.diagnostics ++ template.found options).toList).drop
    template.resetAnalysis.diagnostics.size = _
  simp

end Template

/-! ## Kinds of findings -/

theorem HeaderReading.kind_of_mem_readParameter {tree : Tree} {header : NodeId} {key : String}
    {reading : HeaderReading} {problem : Problem}
    (member : problem ∈ (readParameter tree header reading key).problems) :
    problem ∈ reading.problems ∨
      problem.kind = .unknownHeaderParameter ∨ problem.kind = .invalidHeaderParameter := by
  have flag : ∀ ofFlag : Bool → Bool,
      problem ∈ (readFlag tree header key ofFlag reading).problems →
      problem ∈ reading.problems ∨
        problem.kind = .unknownHeaderParameter ∨ problem.kind = .invalidHeaderParameter := by
    intro ofFlag member
    rw [readFlag] at member
    split at member
    · exact Or.inl member
    · rcases List.mem_append.mp member with known | new
      · exact Or.inl known
      · cases List.mem_singleton.mp new
        exact Or.inr (Or.inr rfl)
  rw [readParameter] at member
  split at member
  · rcases List.mem_append.mp member with known | new
    · exact Or.inl known
    · cases List.mem_singleton.mp new
      exact Or.inr (Or.inl rfl)
  · exact Or.inl member
  · exact flag _ member
  · exact flag _ member

/-- A header is reported under kinds of its own. -/
theorem HeaderReading.kind_of_mem_problems {tree : Tree} {strict : Bool} {header : NodeId}
    {problem : Problem} (member : problem ∈ (ofHeader tree strict header).problems) :
    problem.kind = .unknownHeaderParameter ∨ problem.kind = .invalidHeaderParameter := by
  have read : ∀ (keys : List String) (reading : HeaderReading),
      problem ∈ (keys.foldl (readParameter tree header) reading).problems →
      problem ∈ reading.problems ∨
        problem.kind = .unknownHeaderParameter ∨ problem.kind = .invalidHeaderParameter := by
    intro keys
    induction keys with
    | nil => exact fun _ known => Or.inl known
    | cons key rest ih =>
        intro reading known
        rcases ih _ known with known | kind
        · exact kind_of_mem_readParameter known
        · exact Or.inr kind
  rw [ofHeader] at member
  split at member
  · rcases read _ _ member with known | kind
    · cases known
    · exact kind
  · cases member

/-- A declaration is reported as a duplicate. -/
theorem Scopes.kind_of_mem_problems {tree : Tree} {strict : Bool} {scopes : Scopes}
    {visit : Visit} {problem : Problem}
    (member : problem ∈ (scopes.step tree strict visit).problems) :
    problem.kind = .duplicateDeclaration := by
  cases visit with
  | leave id => cases member
  | enter id =>
      simp only [step] at member
      split at member
      · simp only [defineMacro] at member
        split at member
        · cases List.mem_singleton.mp member
          rfl
        · cases member
      · simp only [importName] at member
        split at member
        · cases List.mem_singleton.mp member
          rfl
        · cases member
      · simp only [declareVariables] at member
        split at member
        · cases member
        · obtain ⟨name, _, rfl⟩ := List.mem_map.mp member
          rfl
      · cases member
      · cases member

/-- Use of names, keys and targets is reported under kinds of its own. -/
theorem Usage.kind_of_mem_findings {tree : Tree} {options : AnalysisOptions} {visit : Visit}
    {finding : Finding} (member : finding ∈ findings tree options visit) :
    finding.problem.kind ∈
      [.notAssignable, .unknownBuiltin, .unknownSetting, .invalidStringLiteral] := by
  have target : ∀ {problem : Expr → Problem} {targets : List NodeId},
      (∀ expression, (problem expression).kind = .notAssignable) →
      finding ∈ targetFindings tree problem targets →
      finding.problem.kind = .notAssignable := by
    intro problem targets kind member
    obtain ⟨target, _, rfl⟩ := List.mem_map.mp member
    exact kind _
  cases visit with
  | enter id =>
      simp only [findings] at member
      split at member
      · obtain ⟨problem, reported, rfl⟩ := List.mem_map.mp member
        rw [settingProblems] at reported
        split at reported
        · cases reported
        · cases List.mem_singleton.mp reported
          simp [Problem.kind]
      · obtain ⟨problem, reported, rfl⟩ := List.mem_map.mp member
        rw [stringProblems] at reported
        split at reported
        · cases reported
        · split at reported
          · cases reported
          · cases List.mem_singleton.mp reported
            simp [Problem.kind]
      · cases member
  | leave id =>
      simp only [findings] at member
      split at member
      · obtain ⟨problem, reported, rfl⟩ := List.mem_map.mp member
        rw [builtinProblems] at reported
        split at reported
        · cases reported
        · cases List.mem_singleton.mp reported
          simp [Problem.kind]
      · rw [target (fun _ => rfl) member]
        decide
      · rw [target (fun _ => rfl) member]
        decide
      · cases member

/-- Placement is reported under kinds of its own. -/
theorem Placement.kind_of_mem_problems {tree : Tree} {strict : Bool} {visit : Visit}
    {problem : Problem} (member : problem ∈ problems tree strict visit) :
    problem.kind ∈
      [.misplacedMacro, .misplacedNoEscape, .misplacedBreak, .misplacedReturn,
        .returnValueMismatch, .misplacedLocal, .deprecatedDirective] := by
  have directive : ∀ {directive : AssignDirective} {id : NodeId},
      problem ∈ assignmentProblems tree strict directive id →
      problem.kind = .misplacedLocal ∨ problem.kind = .deprecatedDirective := by
    intro directive id member
    rw [assignmentProblems, directiveProblems] at member
    split at member
    · split at member
      · cases member
      · cases List.mem_singleton.mp member
        exact Or.inr rfl
    · split at member
      · cases List.mem_singleton.mp member
        exact Or.inl rfl
      · cases member
  cases visit with
  | enter id =>
      simp only [problems] at member
      split at member
      · rw [macroProblems] at member
        split at member
        · obtain ⟨kind, _, reported⟩ := List.mem_filterMap.mp member
          split at reported
          · cases reported
          · cases reported
            simp [Problem.kind]
        · cases member
      · rw [noEscapeProblems] at member
        split at member
        · cases member
        · cases List.mem_singleton.mp member
          simp [Problem.kind]
      · cases member
  | leave id =>
      simp only [problems] at member
      split at member
      · rw [breakProblems] at member
        split at member
        · cases member
        · cases List.mem_singleton.mp member
          simp [Problem.kind]
      · rw [returnProblems.eq_def] at member
        split at member
        · cases List.mem_singleton.mp member
          simp [Problem.kind]
        · cases List.mem_singleton.mp member
          simp [Problem.kind]
        · cases List.mem_singleton.mp member
          simp [Problem.kind]
        · cases member
        · cases member
      · rcases directive member with kind | kind <;> simp [kind]
      · rcases directive member with kind | kind <;> simp [kind]
      · cases member

/-- The findings about a header have kinds of their own. -/
theorem Template.kind_of_mem_headerFindings {template : Template} {options : AnalysisOptions}
    {finding : Finding} (member : finding ∈ template.headerFindings options) :
    finding.problem.kind ∈ [.unknownHeaderParameter, .invalidHeaderParameter] := by
  rw [headerFindings, readHeader] at member
  split at member
  · obtain ⟨problem, reported, rfl⟩ := List.mem_map.mp member
    rcases HeaderReading.kind_of_mem_problems reported with kind | kind <;> simp [kind]
  · cases member

/-- Findings of some kinds are none of others. -/
theorem Finding.filter_eq_nil (keep : DiagnosticKind → Bool) {kinds : List DiagnosticKind}
    {findings : List Finding} (known : ∀ finding ∈ findings, finding.problem.kind ∈ kinds)
    (apart : ∀ kind ∈ kinds, keep kind = false) :
    findings.filter (fun finding => keep finding.problem.kind) = [] := by
  rw [List.filter_eq_nil_iff]
  intro finding member
  rw [apart _ (known finding member)]
  exact Bool.false_ne_true

/-- Placement finds nothing of other kinds than its own. -/
theorem Placement.filter_eq_nil (keep : DiagnosticKind → Bool)
    (apart : ∀ kind ∈ [DiagnosticKind.misplacedMacro, .misplacedNoEscape, .misplacedBreak,
      .misplacedReturn, .returnValueMismatch, .misplacedLocal, .deprecatedDirective],
      keep kind = false)
    (tree : Tree) (strict : Bool) (visit : Visit) :
    ((problems tree strict visit).map fun problem => (⟨problem, visit.node⟩ : Finding)).filter
        (fun finding => keep finding.problem.kind) = [] := by
  apply Finding.filter_eq_nil keep _ apart
  intro finding member
  obtain ⟨problem, reported, rfl⟩ := List.mem_map.mp member
  exact kind_of_mem_problems reported

namespace Survey

/-- The findings of a survey of which none is about declarations come from each
step of the tour alone. -/
theorem filter_findings_foldl {tree : Tree} {options : AnalysisOptions} {strict : Bool}
    {keep : Finding → Bool}
    (undeclared : ∀ finding, finding.problem.kind = .duplicateDeclaration → keep finding = false)
    (visits : List Visit) (survey : Survey) :
    (visits.foldl (step tree options strict) survey).findings.toList.filter keep =
      survey.findings.toList.filter keep ++
        visits.flatMap fun visit =>
          (Usage.findings tree options visit).filter keep ++
            ((Placement.problems tree strict visit).map fun problem =>
              ⟨problem, visit.node⟩).filter keep := by
  induction visits generalizing survey with
  | nil => simp
  | cons visit rest ih =>
      have silent : ((survey.scopes.step tree strict visit).problems.map fun problem =>
          (⟨problem, visit.node⟩ : Finding)).filter keep = [] := by
        rw [List.filter_eq_nil_iff]
        intro finding member
        obtain ⟨problem, reported, rfl⟩ := List.mem_map.mp member
        rw [undeclared _ (Scopes.kind_of_mem_problems reported)]
        exact Bool.false_ne_true
      rw [List.foldl_cons, ih, List.flatMap_cons, step]
      simp [silent]

end Survey

end TemplateLanguage
