/-!
# Built-ins

The built-ins of the language, which are written after a question mark, and
the nine among them that convert a number.
-/

namespace TemplateLanguage

/-- A conversion of a number. -/
inductive NumericCast where
  | int
  | long
  | short
  | byte
  | float
  | double
  | floor
  | ceiling
  | round
  deriving DecidableEq, Repr

namespace NumericCast

/-- All conversions. -/
def all : List NumericCast :=
  [int, long, short, byte, float, double, floor, ceiling, round]

/-- The name of a conversion. -/
def name : NumericCast → String
  | int => "int"
  | long => "long"
  | short => "short"
  | byte => "byte"
  | float => "float"
  | double => "double"
  | floor => "floor"
  | ceiling => "ceiling"
  | round => "round"

end NumericCast

/-- A built-in of the language. -/
inductive Builtin where
  | numeric (kind : NumericCast)
  | seqContains
  | seqIndexOf
  | size
  | first
  | last
  | reverse
  | sort
  | join
  | keys
  | values
  | xml
  | html
  | url
  | upperCase
  | lowerCase
  | capFirst
  | trim
  | length
  | string
  | computer
  | hasContent
  | isNumber
  | isString
  | isSequence
  | isBoolean
  deriving DecidableEq, Repr

namespace Builtin

/-- All built-ins, the conversions first. -/
def all : List Builtin :=
  NumericCast.all.map numeric ++
    [seqContains, seqIndexOf, size, first, last, reverse, sort, join, keys, values, xml, html,
      url, upperCase, lowerCase, capFirst, trim, length, string, computer, hasContent,
      isNumber, isString, isSequence, isBoolean]

/-- The name of a built-in, as written after the question mark. -/
def name : Builtin → String
  | numeric kind => kind.name
  | seqContains => "seq_contains"
  | seqIndexOf => "seq_index_of"
  | size => "size"
  | first => "first"
  | last => "last"
  | reverse => "reverse"
  | sort => "sort"
  | join => "join"
  | keys => "keys"
  | values => "values"
  | xml => "xml"
  | html => "html"
  | url => "url"
  | upperCase => "upper_case"
  | lowerCase => "lower_case"
  | capFirst => "cap_first"
  | trim => "trim"
  | length => "length"
  | string => "string"
  | computer => "c"
  | hasContent => "has_content"
  | isNumber => "is_number"
  | isString => "is_string"
  | isSequence => "is_sequence"
  | isBoolean => "is_boolean"

/-- The built-in with a given name. -/
def ofName? (text : String) : Option Builtin :=
  all.find? fun builtin => builtin.name = text

/-- The conversion that a built-in stands for. -/
def cast? : Builtin → Option NumericCast
  | numeric kind => some kind
  | _ => none

theorem ofName?_name (builtin : Builtin) : ofName? builtin.name = some builtin := by
  cases builtin with
  | numeric kind => cases kind <;> decide
  | _ => decide

end Builtin

end TemplateLanguage
