import TemplateLanguage.Membership
import TemplateLanguage.Number.Cast
import TemplateLanguage.Xml

/-!
# Evaluating built-ins

The built-ins that depend on nothing but the value of their target: the
numeric casts, membership, and escaping for XML.  Membership yields a
predicate and the others a value.
-/

namespace TemplateLanguage

/-- What a built-in yields. -/
inductive Evaluated where
  | value (result : Value)
  | predicate (membership : Membership)
  deriving Repr

namespace Evaluated

/-- The value that was yielded. -/
def value? : Evaluated → Option Value
  | value result => some result
  | predicate _ => none

end Evaluated

/-- Escape the value of a target for XML. -/
def escapeValue (target : String) : Option Value → Except EvaluationError Value
  | none => .error (.undefined target .string)
  | some (.string text) => .ok (.string (String.ofList (Xml.escape text.toList)))
  | some value => .error (.mismatch target .string value.type)

namespace Builtin

/-- Evaluate a built-in at a target, whose value may be undefined. -/
def evaluate (builtin : Builtin) (target : String) (value : Option Value) :
    Except EvaluationError Evaluated :=
  match builtin with
  | numeric kind => (kind.evaluate target value).map .value
  | seqContains => (Membership.ofValue target value).map .predicate
  | xml => (escapeValue target value).map .value
  | other => .error (.notEvaluable other)

end Builtin

end TemplateLanguage
