/-!
# Faults in an interpolation

Each constructor is one way in which a text with interpolations can be wrong,
with the byte offset at which the fault shows.
-/

namespace TemplateLanguage.Interpolation

/-- The operators that must be followed by a name. -/
inductive Access where
  | key
  | builtin
  deriving DecidableEq, Repr

namespace Access

/-- The spelling of an access operator. -/
def text : Access → String
  | key => "."
  | builtin => "?"

end Access

/-- Why a text with interpolations is refused. -/
inductive Error where
  /-- The text ends inside the section that begins at the offset. -/
  | unterminated (offset : Nat)
  /-- The section that begins at the offset holds no expression. -/
  | empty (offset : Nat)
  /-- A closing delimiter stands where another character is due. -/
  | mismatchedDelimiter (offset : Nat) (expected found : Char)
  /-- A closing delimiter stands where nothing is open. -/
  | unexpectedDelimiter (offset : Nat) (found : Char)
  /-- A quote is not closed. -/
  | unterminatedString (offset : Nat)
  /-- No token begins with a character. -/
  | invalidCharacter (offset : Nat) (found : Char)
  /-- A token stands where an expression must begin. -/
  | expectedExpression (offset : Nat) (found : String)
  /-- A token that is no name follows an access operator. -/
  | expectedName (offset : Nat) (after : Access) (found : String)
  /-- A token cannot follow the expression before it. -/
  | unexpectedToken (offset : Nat) (found : String)
  deriving DecidableEq, Repr

namespace Error

/-- The byte offset at which a fault shows. -/
def offset : Error → Nat
  | unterminated offset
  | empty offset
  | mismatchedDelimiter offset _ _
  | unexpectedDelimiter offset _
  | unterminatedString offset
  | invalidCharacter offset _
  | expectedExpression offset _
  | expectedName offset _ _
  | unexpectedToken offset _ => offset

/-- The text of a fault. -/
def message : Error → String
  | unterminated offset =>
      "Unterminated interpolation starting at offset " ++ toString offset
  | empty offset =>
      "Empty interpolation at offset " ++ toString offset
  | mismatchedDelimiter offset expected found =>
      "Expected '" ++ expected.toString ++ "' but found '" ++ found.toString
        ++ "' at offset " ++ toString offset
  | unexpectedDelimiter offset found =>
      "Unexpected '" ++ found.toString ++ "' at offset " ++ toString offset
  | unterminatedString offset =>
      "Unterminated string starting at offset " ++ toString offset
  | invalidCharacter offset found =>
      "Unexpected character '" ++ found.toString ++ "' at offset " ++ toString offset
  | expectedExpression offset found =>
      "Expected an expression but found '" ++ found ++ "' at offset " ++ toString offset
  | expectedName offset after found =>
      "Expected a name after '" ++ after.text ++ "' but found '" ++ found
        ++ "' at offset " ++ toString offset
  | unexpectedToken offset found =>
      "Unexpected token '" ++ found ++ "' at offset " ++ toString offset

end Error

end TemplateLanguage.Interpolation
