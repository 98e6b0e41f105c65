import TemplateLanguage.Source.Span

/-!
# Diagnostics

A diagnostic is one finding about a template: the rule it breaks, the place,
a message, and optionally related places and hints.
-/

namespace TemplateLanguage

/-- The rules that a template can break. -/
inductive DiagnosticKind where
  | unknownHeaderParameter
  | invalidHeaderParameter
  | duplicateDeclaration
  | misplacedMacro
  | notAssignable
  | deprecatedDirective
  | misplacedLocal
  | misplacedBreak
  | misplacedReturn
  | returnValueMismatch
  | misplacedNoEscape
  | unknownBuiltin
  | unknownSetting
  | invalidStringLiteral
  deriving DecidableEq, Repr

namespace DiagnosticKind

/-- All kinds of diagnostics. -/
def all : List DiagnosticKind :=
  [unknownHeaderParameter, invalidHeaderParameter, duplicateDeclaration, misplacedMacro,
    notAssignable, deprecatedDirective, misplacedLocal, misplacedBreak, misplacedReturn,
    returnValueMismatch, misplacedNoEscape, unknownBuiltin, unknownSetting,
    invalidStringLiteral]

/-- The name of a kind. -/
def name : DiagnosticKind → String
  | unknownHeaderParameter => "unknown header parameter"
  | invalidHeaderParameter => "invalid header parameter"
  | duplicateDeclaration => "duplicate declaration"
  | misplacedMacro => "misplaced macro"
  | notAssignable => "not assignable"
  | deprecatedDirective => "deprecated directive"
  | misplacedLocal => "misplaced local"
  | misplacedBreak => "misplaced break"
  | misplacedReturn => "misplaced return"
  | returnValueMismatch => "return value mismatch"
  | misplacedNoEscape => "misplaced noescape"
  | unknownBuiltin => "unknown built-in"
  | unknownSetting => "unknown setting"
  | invalidStringLiteral => "invalid string literal"

/-- The kind with a given name. -/
def ofName? (text : String) : Option DiagnosticKind :=
  all.find? fun kind => kind.name = text

theorem ofName?_name (kind : DiagnosticKind) : ofName? kind.name = some kind := by
  cases kind <;> decide

end DiagnosticKind

/-- A related place with what is to be said about it. -/
structure Label where
  span : Span
  message : String
  deriving DecidableEq, Repr

/-- One finding about a template. -/
structure Diagnostic where
  kind : DiagnosticKind
  span : Span
  message : String
  labels : List Label := []
  notes : List String := []
  deriving DecidableEq, Repr

namespace Diagnostic

/-- The finding on one line, without the template's text. -/
def summary (diagnostic : Diagnostic) : String :=
  "error: " ++ diagnostic.kind.name ++ ": " ++ diagnostic.message
    ++ " (" ++ diagnostic.span.text ++ ")"

end Diagnostic

end TemplateLanguage
