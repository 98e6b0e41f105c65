import TemplateLanguage.Binary.Round
import TemplateLanguage.Builtin
import TemplateLanguage.Decimal.Round
import TemplateLanguage.Evaluation.Error
import TemplateLanguage.Number.Basic

/-!
# Numeric casts

Six of the casts change the representation of a number.  The other three
round it to an integer, in decimal arithmetic if it has a decimal.  A finite
number that is too great for one is rounded with 53 bits.
-/

namespace TemplateLanguage.NumericCast

/-- Round a number to an integer, exactly if it has a decimal. -/
def roundWith (kind : NumericCast) (exact : Decimal → Decimal)
    (approximate : Binary .double → Binary .double) (number : Number) :
    Except EvaluationError Number :=
  match number.toDecimal? with
  | some decimal => .ok (.decimal (exact decimal))
  | none =>
      if number.toDouble.isFinite then .ok (.double (approximate number.toDouble))
      else .error (.notFinite kind number)

/-- Apply a cast to a number. -/
def apply (kind : NumericCast) (number : Number) : Except EvaluationError Number :=
  match kind with
  | int => .ok (.int number.toInt32)
  | long => .ok (.long number.toInt64)
  | short => .ok (.short number.toInt16)
  | byte => .ok (.byte number.toInt8)
  | float => .ok (.float number.toSingle)
  | double => .ok (.double number.toDouble)
  | floor => kind.roundWith Decimal.floor Binary.floor number
  | ceiling => kind.roundWith Decimal.ceiling Binary.ceiling number
  | round => kind.roundWith Decimal.round Binary.round number

/-- Apply a cast to the value of an expression, which may be undefined. -/
def evaluate (kind : NumericCast) (target : String) : Option Value → Except EvaluationError Value
  | none => .error (.undefined target .number)
  | some (.number number) => (kind.apply number).map Value.number
  | some value => .error (.mismatch target .number value.type)

end TemplateLanguage.NumericCast
