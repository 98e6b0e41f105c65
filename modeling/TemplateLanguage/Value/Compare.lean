import TemplateLanguage.Collation
import TemplateLanguage.Value.Basic

/-!
# Comparing values

Values of different types are never equal and have no order.  Numbers compare
by value across representations and strings by a collator.  Sequences and
collections are equal item by item; hashes are equal if they have the same
keys with equal values, in whatever order.
-/

namespace TemplateLanguage.Value

mutual

/-- Whether two values are equal. -/
def equal (collator : Collator) (first second : Value) : Bool :=
  match first, second with
  | number first, number second => first.order? second = some .eq
  | string first, string second => collator.equal first second
  | boolean first, boolean second => first = second
  | sequence first, sequence second => equalItems collator first second
  | collection first, collection second => equalItems collator first second
  | hash first, hash second =>
      first.length = second.length && containedEntries collator first second
  | _, _ => false

/-- Whether two lists of values are equal item by item. -/
def equalItems (collator : Collator) (first second : List Value) : Bool :=
  match first, second with
  | [], [] => true
  | value :: rest, other :: others =>
      equal collator value other && equalItems collator rest others
  | _, _ => false

/-- Whether every entry has an equal value under the same key elsewhere. -/
def containedEntries (collator : Collator) (entries others : List (String × Value)) : Bool :=
  match entries with
  | [] => true
  | (key, value) :: rest =>
      (match others.lookup key with
        | some other => equal collator value other
        | none => false)
        && containedEntries collator rest others

end

/-- The order of two numbers, two strings or two booleans. -/
def order? (collator : Collator) (first second : Value) : Option Ordering :=
  match first, second with
  | number first, number second => first.order? second
  | string first, string second => some (collator.order first second)
  | boolean first, boolean second => some (compare first second)
  | _, _ => none

end TemplateLanguage.Value
