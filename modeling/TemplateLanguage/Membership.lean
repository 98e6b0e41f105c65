import TemplateLanguage.Environment
import TemplateLanguage.Evaluation.Error

/-!
# Membership

Asking a sequence or a collection what it contains yields a predicate, which
is then called with a value.  The environment of the call decides which values
count as equal.
-/

namespace TemplateLanguage

/-- The predicate of being equal to one of some items. -/
structure Membership where
  items : List Value
  deriving Repr

namespace Membership

/-- The predicate of a target, whose value may be undefined. -/
def ofValue (target : String) : Option Value → Except EvaluationError Membership
  | none => .error (.undefined target .items)
  | some value =>
      match value.items? with
      | some items => .ok ⟨items⟩
      | none => .error (.mismatch target .items value.type)

/-- Number of items. -/
def size (membership : Membership) : Nat :=
  membership.items.length

/-- Whether there are no items. -/
def isEmpty (membership : Membership) : Bool :=
  membership.items.isEmpty

/-- Whether an item equals a value in an environment. -/
def contains (membership : Membership) (environment : Environment) (value : Value) : Bool :=
  membership.items.any fun item => environment.equal item value

end Membership

end TemplateLanguage
