import TemplateLanguage.Analysis.Survey
import TemplateLanguage.Template.Basic

/-!
# Analysing templates

An analysis resets the template, reads the header, and surveys the tree under the
strict flag that the header decides.  The survey goes on from the names and macros
that the reset template knows, so it is the reset that makes it forget those of an
earlier analysis.  Escaped forms of nodes that were not reached stay as they were.
-/

namespace TemplateLanguage

/-- What an analysis did. -/
structure Report where
  strict : Bool
  /-- Number of diagnostics that it appended. -/
  problems : Nat
  pushes : Nat
  pops : Nat
  maxDepth : Nat
  /-- Number of escapes still in effect at the end. -/
  depth : Nat
  deriving DecidableEq, Repr

namespace Report

/-- Whether an analysis found nothing to complain about. -/
def isClean (report : Report) : Bool :=
  report.problems = 0

end Report

namespace Template

/-- The names and macros that a template knows. -/
def scopes (template : Template) : Scopes :=
  ⟨template.names, template.blockNames, template.macros⟩

/-- Note the escaped forms that were found. -/
def annotate (template : Template) (forms : Array (Option Expr))
    (size : forms.size = template.tree.size) : Template :=
  { template with
    escaped := Array.zipWith (fun form old => form <|> old) forms template.escaped
    escaped_size := by simp [size, template.escaped_size] }

/-- What the header of a template says. -/
def readHeader (template : Template) (options : AnalysisOptions) : HeaderReading :=
  match template.header with
  | some header => .ofHeader template.tree options.strict header
  | none => ⟨options.strict, []⟩

/-- What a tour of a template brings to light once the template is reset. -/
def survey (template : Template) (options : AnalysisOptions) : Survey :=
  .ofTree template.tree options (template.readHeader options).strict
    template.resetAnalysis.scopes template.root

/-- A reset template knows neither names nor macros. -/
theorem scopes_resetAnalysis (template : Template) : template.resetAnalysis.scopes = .start :=
  rfl

/-- A survey begins with neither names nor macros, whatever the template knows. -/
theorem survey_eq (template : Template) (options : AnalysisOptions) :
    template.survey options =
      .ofTree template.tree options (template.readHeader options).strict .start
        template.root := by
  rw [survey, scopes_resetAnalysis]

/-- The findings about the header of a template. -/
def headerFindings (template : Template) (options : AnalysisOptions) : List Finding :=
  match template.header with
  | some header => (template.readHeader options).problems.map fun problem => ⟨problem, header⟩
  | none => []

/-- Analyse a template. -/
def analyze (template : Template) (options : AnalysisOptions) : Report × Template :=
  let strict := (template.readHeader options).strict
  let survey := template.survey options
  let findings := template.headerFindings options ++ survey.findings.toList
  let found := findings.map (Finding.diagnostic template.tree)
  let fresh := template.resetAnalysis
  let annotated := fresh.annotate survey.escapes.forms (Survey.size_forms_ofTree ..)
  ( { strict
      problems := found.length
      pushes := survey.escapes.pushes
      pops := survey.escapes.pops
      maxDepth := survey.escapes.maxDepth
      depth := survey.escapes.depth },
    { annotated with
      strict
      diagnostics := fresh.diagnostics ++ found
      macros := survey.scopes.macros
      names := survey.scopes.names
      blockNames := survey.scopes.blockNames } )

/-- Analyse a template, and yield its diagnostics if there are any. -/
def check (template : Template) (options : AnalysisOptions) :
    Except (Array Diagnostic) Report × Template :=
  let (report, analyzed) := template.analyze options
  if analyzed.hasProblems then (.error analyzed.diagnostics, analyzed)
  else (.ok report, analyzed)

/-- Analyse each of several templates. -/
def analyzeAll (templates : List Template) (options : AnalysisOptions) : List (Report × Template) :=
  templates.map fun template => template.analyze options

end Template

end TemplateLanguage
