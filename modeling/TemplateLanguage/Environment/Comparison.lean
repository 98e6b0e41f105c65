import TemplateLanguage.Environment

/-!
# Comparing values in an environment

A comparison asks the environment for its collator at every two strings that it comes to,
and not otherwise.  It stops at the first difference, and lists of different lengths are
not gone through at all.
-/

namespace TemplateLanguage.Environment

mutual

/-- Compare two values for equality. -/
def askEqual (first second : Value) : StateM Environment Bool :=
  match first, second with
  | .number first, .number second => return first.order? second = some .eq
  | .string first, .string second => return (← askCollator).equal first second
  | .boolean first, .boolean second => return first = second
  | .sequence first, .sequence second | .collection first, .collection second =>
      if first.length = second.length then askEqualItems first second else return false
  | .hash first, .hash second =>
      if first.length = second.length then askContainedEntries first second else return false
  | _, _ => return false

/-- Compare the items of two lists as far as both have some. -/
def askEqualItems (first second : List Value) : StateM Environment Bool :=
  match first, second with
  | value :: rest, other :: others => do
      if ← askEqual value other then askEqualItems rest others else return false
  | _, _ => return true

/-- Compare every entry with the one under the same key elsewhere. -/
def askContainedEntries (entries others : List (String × Value)) : StateM Environment Bool :=
  match entries with
  | [] => return true
  | (key, value) :: rest =>
      match others.lookup key with
      | some other => do
          if ← askEqual value other then askContainedEntries rest others else return false
      | none => return false

end

/-- Compare two numbers, two strings or two booleans for their order. -/
def askOrder? (first second : Value) : StateM Environment (Option Ordering) :=
  match first, second with
  | .number first, .number second => return first.order? second
  | .string first, .string second => return some ((← askCollator).order first second)
  | .boolean first, .boolean second => return some (compare first second)
  | _, _ => return none

end TemplateLanguage.Environment
