import TemplateLanguage.Diagnostic.Basic
import TemplateLanguage.Interpolation.Error
import TemplateLanguage.Tree.HeaderParameter

/-!
# Problems

A problem is one way in which a template can be wrong, and a finding is a
problem with the node at which it shows.  The diagnostic of a finding adds the
wording.
-/

namespace TemplateLanguage

/-- What can be wrong with a template. -/
inductive Problem where
  /-- A header sets a parameter that does not exist. -/
  | unknownParameter (key : String)
  /-- A header sets a parameter to something that cannot be read. -/
  | invalidParameter (error : ParameterError)
  /-- A macro has a name that is in use, perhaps by another macro. -/
  | macroNameInUse (name : String) (previous : Option NodeId)
  /-- An import uses a name that is in use. -/
  | importNameInUse (name : String)
  /-- A variable is declared twice in a block. -/
  | variableInUse (name : String)
  /-- A macro is defined inside a construct that admits none. -/
  | macroWithin (name : String) (container : NodeKind)
  /-- An assignment has a target that cannot be assigned to. -/
  | target (expression : Expr)
  /-- An assignment of a body has a target that cannot be assigned to. -/
  | bodyTarget (expression : Expr)
  /-- An assignment uses a word that strict templates may not use. -/
  | deprecated (directive : AssignDirective)
  | localOutsideMacro
  | breakOutsideList
  | returnOutsideMacro
  | valueFromProcedure
  | noValueFromFunction
  | noEscapeOutsideEscape
  | unknownBuiltin (name : String)
  | unknownSetting (key : String)
  /-- A string holds a faulty interpolation. -/
  | interpolation (place : Span) (error : Interpolation.Error)
  deriving Repr

namespace Problem

/-- The rule that a problem breaks. -/
def kind : Problem → DiagnosticKind
  | unknownParameter _ => .unknownHeaderParameter
  | invalidParameter _ => .invalidHeaderParameter
  | macroNameInUse _ _ | importNameInUse _ | variableInUse _ => .duplicateDeclaration
  | macroWithin _ _ => .misplacedMacro
  | target _ | bodyTarget _ => .notAssignable
  | deprecated _ => .deprecatedDirective
  | localOutsideMacro => .misplacedLocal
  | breakOutsideList => .misplacedBreak
  | returnOutsideMacro => .misplacedReturn
  | valueFromProcedure | noValueFromFunction => .returnValueMismatch
  | noEscapeOutsideEscape => .misplacedNoEscape
  | unknownBuiltin _ => .unknownBuiltin
  | unknownSetting _ => .unknownSetting
  | interpolation _ _ => .invalidStringLiteral

/-- The wording of a problem. -/
def message : Problem → String
  | unknownParameter key => "Unknown header parameter: " ++ key
  | invalidParameter error => error.message
  | macroNameInUse name _ =>
      "You already have declared a variable (or declared another macro) as " ++ name
        ++ ". You cannot reuse the variable name in the same template."
  | importNameInUse name =>
      "The variable " ++ name
        ++ " is already declared and should not be used as a namespace name to import."
  | variableInUse name =>
      "The variable " ++ name ++ " has already been declared in this block."
  | macroWithin name container =>
      "Macro " ++ name ++ " is within a " ++ container.description
        ++ ". It must be a top-level element."
  | target expression => "Cannot assign to expression " ++ expression.toText
  | bodyTarget expression =>
      "The expression " ++ expression.toText ++ " cannot be assigned to."
  | deprecated directive =>
      "The " ++ directive.keyword
        ++ " directive is deprecated and cannot be used in strict_vars mode."
        ++ " See the var and set directives."
  | localOutsideMacro => "The local directive can only be used inside a function or macro."
  | breakOutsideList => "The break directive can only be used within a loop."
  | returnOutsideMacro => "The return directive can only be used inside a function or macro."
  | valueFromProcedure => "Can only return a value from a function, not a macro"
  | noValueFromFunction => "A function must return a value."
  | noEscapeOutsideEscape =>
      "The noescape directive only makes sense inside an escape block."
  | unknownBuiltin name => "Unknown builtin: " ++ name
  | unknownSetting key =>
      "Invalid setting name, or it is not allowed to change the value of the setting"
        ++ " from a template: " ++ key
  | interpolation place error =>
      "Error in string at " ++ place.text ++ ": " ++ error.message

/-- The related node of a problem. -/
def related? : Problem → Option NodeId
  | macroNameInUse _ previous => previous
  | _ => none

end Problem

/-- A problem and the node at which it shows. -/
structure Finding where
  problem : Problem
  node : NodeId
  deriving Repr

namespace Finding

/-- The diagnostic of a finding in a tree. -/
def diagnostic (tree : Tree) (finding : Finding) : Diagnostic :=
  { kind := finding.problem.kind
    span := tree.span finding.node
    message := finding.problem.message
    labels :=
      finding.problem.related?.toList.map fun node =>
        ⟨tree.span node, "previously declared here"⟩ }

end Finding

end TemplateLanguage
