import TemplateLanguage.Builtin
import TemplateLanguage.Value.Basic

/-!
# Failures of built-ins

Each constructor is one way in which evaluating a built-in can fail.
-/

namespace TemplateLanguage

/-- What a built-in needs its target to be. -/
inductive Requirement where
  | number
  | items
  | string
  deriving DecidableEq, Repr

namespace Requirement

/-- The name of what is needed. -/
def name : Requirement → String
  | number => "number"
  | items => "sequence or collection"
  | string => "string"

end Requirement

/-- Why a built-in cannot be evaluated. -/
inductive EvaluationError where
  /-- The target has no value. -/
  | undefined (target : String) (required : Requirement)
  /-- The value of the target has another type. -/
  | mismatch (target : String) (required : Requirement) (actual : ValueType)
  /-- A number that is infinite or none was to be rounded. -/
  | notFinite (kind : NumericCast) (number : Number)
  /-- The built-in has no value by itself. -/
  | notEvaluable (builtin : Builtin)
  deriving DecidableEq, Repr

namespace EvaluationError

/-- The text of a failure. -/
def message : EvaluationError → String
  | undefined target required =>
      "Undefined " ++ required.name ++ ": " ++ target ++ " is undefined"
  | mismatch target required actual =>
      "Expected " ++ required.name ++ ", but " ++ target ++ " evaluated to " ++ actual.name
  | notFinite kind number =>
      "Cannot apply ?" ++ kind.name ++ " to " ++ String.ofList number.render
  | notEvaluable builtin =>
      "The ?" ++ builtin.name ++ " built-in has no standalone evaluator"

end EvaluationError

end TemplateLanguage
