import TemplateLanguage.Tree.Expression

/-!
# Parameters of a header

A header maps names to expressions of the tree.  Its values are read before
any data exists, so a flag must be one of the two boolean literals.
-/

namespace TemplateLanguage

/-- Why a parameter of a header cannot be read. -/
inductive ParameterError where
  | missing (key : String)
  | notBoolean (key : String) (found : Expr)
  | notHeader (node : NodeId)
  deriving Repr

namespace ParameterError

/-- The text of a failure to read a parameter. -/
def message : ParameterError → String
  | missing key => "The header parameter " ++ key ++ " is not set"
  | notBoolean key found =>
      "The header parameter " ++ key ++ " must be a boolean literal, found " ++ found.toText
  | notHeader node => "Node " ++ NodeId.text node ++ " is not a template header"

end ParameterError

namespace Tree

/-- The node that holds a parameter of a header. -/
def parameter (tree : Tree) (header : NodeId) (key : String) : Except ParameterError NodeId :=
  match tree.kind? header with
  | some (.header parameters) =>
      match parameters.lookup key with
      | some value => .ok value
      | none => .error (.missing key)
  | _ => .error (.notHeader header)

/-- The flag that a node holds. -/
def flag? (tree : Tree) (id : NodeId) : Option Bool :=
  match tree.kind? id with
  | some (.expression (.boolean value)) => some value
  | _ => none

/-- A parameter of a header read as a flag. -/
def booleanParameter (tree : Tree) (header : NodeId) (key : String) :
    Except ParameterError Bool :=
  match tree.parameter header key with
  | .error error => .error error
  | .ok value =>
      match tree.flag? value with
      | some flag => .ok flag
      | none => .error (.notBoolean key (tree.expression value))

end Tree

end TemplateLanguage
