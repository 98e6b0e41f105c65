import TemplateLanguage.Analysis.Declaration
import TemplateLanguage.Analysis.Escape
import TemplateLanguage.Analysis.Header
import TemplateLanguage.Analysis.Placement
import TemplateLanguage.Analysis.Usage

/-!
# Surveying a tree

A survey is what a tour of a tree brings to light: findings, declarations, and
escaped forms.  The three are gathered side by side, each from the tree and
its own past alone.  The names and macros that are known already when the tour
begins are the past of the declarations.
-/

namespace TemplateLanguage

/-- What a tour has brought to light. -/
structure Survey where
  findings : Array Finding
  scopes : Scopes
  escapes : Escapes

namespace Survey

/-- Nothing found yet in a tree of some size, where names and macros may be known. -/
def start (scopes : Scopes) (size : Nat) : Survey :=
  ⟨#[], scopes, .start size⟩

/-- The effect of one step of a tour. -/
def step (tree : Tree) (options : AnalysisOptions) (strict : Bool) (survey : Survey)
    (visit : Visit) : Survey :=
  let declared := survey.scopes.step tree strict visit
  let found : List Finding :=
    (declared.problems.map fun problem => ⟨problem, visit.node⟩)
      ++ Usage.findings tree options visit
      ++ (Placement.problems tree strict visit).map fun problem => ⟨problem, visit.node⟩
  { findings := survey.findings ++ found
    scopes := declared.scopes
    escapes := survey.escapes.step tree visit }

/-- Headers are not part of what a tour looks into. -/
def descends (tree : Tree) (id : NodeId) : Bool :=
  !tree.hasKind NodeKind.isHeader id

/-- Survey the nodes below a root, where names and macros may be known. -/
def ofTree (tree : Tree) (options : AnalysisOptions) (strict : Bool) (scopes : Scopes)
    (root : NodeId) : Survey :=
  (tree.tour (descends tree) root).foldl (step tree options strict) (start scopes tree.size)

theorem size_forms_ofTree (tree : Tree) (options : AnalysisOptions) (strict : Bool)
    (scopes : Scopes) (root : NodeId) :
    (ofTree tree options strict scopes root).escapes.forms.size = tree.size := by
  have keep : ∀ (visits : List Visit) (survey : Survey),
      (visits.foldl (step tree options strict) survey).escapes.forms.size =
        survey.escapes.forms.size := by
    intro visits
    induction visits with
    | nil => exact fun _ => rfl
    | cons visit rest ih =>
        intro survey
        rw [List.foldl_cons, ih]
        exact Escapes.size_forms_step tree survey.escapes visit
  rw [ofTree, keep]
  simp [start, Escapes.start]

end Survey

end TemplateLanguage
