import TemplateLanguage.Number.Basic
import TemplateLanguage.Text

/-!
# Values

The values that a template works on.  A sequence can be indexed and a
collection can only be gone through; the entries of a hash keep the order in
which their keys were first set.
-/

namespace TemplateLanguage

/-- A value of the data. -/
inductive Value where
  | boolean (value : Bool)
  | number (value : Number)
  | string (value : String)
  | sequence (items : List Value)
  | collection (items : List Value)
  | hash (entries : List (String × Value))
  deriving Repr

/-- The types of values. -/
inductive ValueType where
  | boolean
  | number
  | string
  | sequence
  | collection
  | hash
  deriving DecidableEq, Repr

namespace ValueType

/-- The name of a type. -/
def name : ValueType → String
  | boolean => "boolean"
  | number => "number"
  | string => "string"
  | sequence => "sequence"
  | collection => "collection"
  | hash => "hash"

end ValueType

namespace Value

/-- The type of a value. -/
def type : Value → ValueType
  | boolean _ => .boolean
  | number _ => .number
  | string _ => .string
  | sequence _ => .sequence
  | collection _ => .collection
  | hash _ => .hash

/-- The number that a value is. -/
def number? : Value → Option Number
  | number value => some value
  | _ => none

/-- The string that a value is. -/
def string? : Value → Option String
  | string value => some value
  | _ => none

/-- The items of a sequence or a collection. -/
def items? : Value → Option (List Value)
  | sequence items | collection items => some items
  | _ => none

mutual

/-- The text of a value. -/
def render (value : Value) : List Char :=
  match value with
  | boolean value => if value then ['t', 'r', 'u', 'e'] else ['f', 'a', 'l', 's', 'e']
  | number value => value.render
  | string value => value.toList
  | sequence items | collection items =>
      '[' :: Text.join [',', ' '] (renderAll items) ++ [']']
  | hash entries => '{' :: Text.join [',', ' '] (renderEntries entries) ++ ['}']

/-- The texts of several values. -/
def renderAll (values : List Value) : List (List Char) :=
  match values with
  | [] => []
  | value :: rest => value.render :: renderAll rest

/-- The texts of the entries of a hash. -/
def renderEntries (entries : List (String × Value)) : List (List Char) :=
  match entries with
  | [] => []
  | (key, value) :: rest => (key.toList ++ ':' :: ' ' :: value.render) :: renderEntries rest

end

end Value

end TemplateLanguage
