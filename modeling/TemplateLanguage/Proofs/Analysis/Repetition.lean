import TemplateLanguage.Proofs.Analysis.Finding
import TemplateLanguage.Proofs.Escape.Lexical

/-!
# Repeated analysis

An analysis reads the tree, the root, the header, the diagnostics that were
recorded before any analysis, and nothing else that it does not overwrite.
Templates that agree in this basis are analysed alike, whatever names, macros,
flags, diagnostics and escaped forms earlier analyses left in them.  An analysis
leaves the basis as it was, so the next one finds what the first one found.
-/

namespace TemplateLanguage.Template

attribute [ext] Template

/-- The next analysis discards what an analysis appended. -/
theorem diagnostics_resetAnalysis_analyze (template : Template) (options : AnalysisOptions) :
    (template.analyze options).2.resetAnalysis.diagnostics =
      template.resetAnalysis.diagnostics := by
  change (template.resetAnalysis.diagnostics ++ template.found options).take
    template.resetAnalysis.diagnostics.size = _
  apply Array.ext'
  simp

/-- Two templates differ at most in what analyses leave behind: the strict flag,
names and macros, diagnostics that the next analysis discards, and escaped
forms that it notes anew. -/
structure SameBasis (first second : Template) : Prop where
  name : first.name = second.name
  tree : first.tree = second.tree
  root : first.root = second.root
  header : first.header = second.header
  kept : first.resetAnalysis.diagnostics = second.resetAnalysis.diagnostics
  unnoted : ∀ id : NodeId,
    first.noted[id]?.join = none → first.escaped[id]? = second.escaped[id]?

theorem SameBasis.noted {first second : Template} (same : SameBasis first second) :
    first.noted = second.noted := by
  rw [Template.noted, Template.noted, same.tree, same.root]

theorem SameBasis.trans {first second third : Template} (left : SameBasis first second)
    (right : SameBasis second third) : SameBasis first third := by
  constructor
  · exact left.name.trans right.name
  · exact left.tree.trans right.tree
  · exact left.root.trans right.root
  · exact left.header.trans right.header
  · exact left.kept.trans right.kept
  · intro id free
    have stillFree : second.noted[id]?.join = none := left.noted ▸ free
    exact (left.unnoted id free).trans (right.unnoted id stillFree)

/-- Templates alike in their basis get the same escaped forms. -/
theorem SameBasis.escaped_analyze {first second : Template} (same : SameBasis first second)
    (options : AnalysisOptions) :
    (first.analyze options).2.escaped = (second.analyze options).2.escaped := by
  apply Array.ext_getElem?
  intro id
  rw [getElem?_escaped_analyze, getElem?_escaped_analyze, ← same.noted]
  cases form : first.noted[id]?.join with
  | none => rw [same.unnoted id form]
  | some form =>
      have inside : id < first.noted.size :=
        (Array.getElem?_eq_some_iff.mp (Option.join_eq_some_iff.mp form)).choose
      have firstInside : id < first.escaped.size := by
        rw [first.escaped_size, ← first.size_noted]
        exact inside
      have secondInside : id < second.escaped.size := by
        rw [second.escaped_size, ← second.size_noted, ← same.noted]
        exact inside
      rw [Array.getElem?_eq_getElem firstInside, Array.getElem?_eq_getElem secondInside]
      rfl

theorem SameBasis.readHeader {first second : Template} (same : SameBasis first second)
    (options : AnalysisOptions) : first.readHeader options = second.readHeader options := by
  rw [Template.readHeader, Template.readHeader, same.header, same.tree]

theorem SameBasis.survey {first second : Template} (same : SameBasis first second)
    (options : AnalysisOptions) : first.survey options = second.survey options := by
  rw [survey_eq, survey_eq, same.readHeader options, same.tree, same.root]

/-- Analyses of templates alike in their basis find the same. -/
theorem SameBasis.found {first second : Template} (same : SameBasis first second)
    (options : AnalysisOptions) : first.found options = second.found options := by
  rw [Template.found, Template.found, headerFindings, headerFindings, same.readHeader options,
    same.survey options, same.header, same.tree]

/-- Templates alike in their basis are analysed alike. -/
theorem SameBasis.analyze {first second : Template} (same : SameBasis first second)
    (options : AnalysisOptions) : first.analyze options = second.analyze options := by
  have header := same.readHeader options
  have survey := same.survey options
  apply Prod.ext
  · rw [report_analyze, report_analyze, header, survey, same.found options]
  · apply Template.ext
    · exact same.name
    · exact same.tree
    · exact same.root
    · exact same.header
    · exact congrArg HeaderReading.strict header
    · rw [diagnostics_analyze, diagnostics_analyze, same.kept, same.found options]
    · exact congrArg (fun survey => survey.scopes.macros) survey
    · exact congrArg (fun survey => survey.scopes.names) survey
    · exact congrArg (fun survey => survey.scopes.blockNames) survey
    · exact same.escaped_analyze options
    · exact congrArg (fun kept => some kept.size) same.kept

/-- An analysis leaves the basis of a template as it was. -/
theorem sameBasis_analyze (template : Template) (options : AnalysisOptions) :
    SameBasis (template.analyze options).2 template := by
  constructor
  · rfl
  · rfl
  · rfl
  · rfl
  · exact diagnostics_resetAnalysis_analyze template options
  · intro id free
    rw [getElem?_escaped_analyze]
    change template.noted[id]?.join = none at free
    rw [free]
    simp

/-- Any number of analyses leave the basis of a template as it was. -/
theorem sameBasis_foldl_analyze (template : Template) (runs : List AnalysisOptions) :
    SameBasis (runs.foldl (fun analyzed options => (analyzed.analyze options).2) template)
      template := by
  induction runs generalizing template with
  | nil => exact ⟨rfl, rfl, rfl, rfl, rfl, fun _ _ => rfl⟩
  | cons options rest ih => exact (ih _).trans (sameBasis_analyze template options)

/-- An analysis after an analysis, or after any number of them, reports and leaves
what it would report and leave on its own, whatever the template holds. -/
theorem analyze_analyze (template : Template) (first second : AnalysisOptions)
    (runs : List AnalysisOptions) :
    (template.analyze first).2.analyze second = template.analyze second ∧
      (runs.foldl (fun analyzed options => (analyzed.analyze options).2) template).analyze
          second = template.analyze second := by
  constructor
  · exact (sameBasis_analyze template first).analyze second
  · exact (sameBasis_foldl_analyze template runs).analyze second

end TemplateLanguage.Template
