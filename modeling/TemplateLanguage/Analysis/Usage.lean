import TemplateLanguage.Analysis.Options
import TemplateLanguage.Analysis.Problem
import TemplateLanguage.Builtin
import TemplateLanguage.Interpolation.Check
import TemplateLanguage.Tree.Tour

/-!
# Use of names, keys and targets

These rules look at a node and its children only: an assignment must have
targets that can be assigned to, a setting must use a key that the options
allow, a built-in must exist, and the interpolations in a string must be
sound unless the string is raw.
-/

namespace TemplateLanguage.Usage

/-- The targets of an assignment that cannot be assigned to. -/
def targetFindings (tree : Tree) (problem : Expr → Problem) (targets : List NodeId) :
    List Finding :=
  (targets.filter fun target => !tree.isAssignable target).map fun target =>
    ⟨problem (tree.expression target), target⟩

/-- The problems of a string. -/
def stringProblems (value : String) (raw : Bool) (place : Span) : List Problem :=
  if raw then []
  else
    match Interpolation.check value with
    | .ok _ => []
    | .error error => [.interpolation place error]

/-- The problems of a setting. -/
def settingProblems (options : AnalysisOptions) (key : String) : List Problem :=
  if options.allows key then [] else [.unknownSetting key]

/-- The problems of a built-in. -/
def builtinProblems (name : String) : List Problem :=
  if (Builtin.ofName? name).isSome then [] else [.unknownBuiltin name]

/-- What one step of a tour shows. -/
def findings (tree : Tree) (options : AnalysisOptions) : Visit → List Finding
  | .enter id =>
      match tree.kind? id with
      | some (.setting key) => (settingProblems options key).map fun problem => ⟨problem, id⟩
      | some (.stringLiteral value raw) =>
          (stringProblems value raw (tree.span id)).map fun problem => ⟨problem, id⟩
      | _ => []
  | .leave id =>
      match tree.kind? id with
      | some (.builtin name) => (builtinProblems name).map fun problem => ⟨problem, id⟩
      | some (.assignment _ targets) => targetFindings tree .target targets
      | some (.blockAssignment _ target) => targetFindings tree .bodyTarget [target]
      | _ => []

end TemplateLanguage.Usage
