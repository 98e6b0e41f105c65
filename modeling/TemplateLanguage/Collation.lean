import TemplateLanguage.Unicode.LowerCase

/-!
# Collation

Strings are compared by keys.  At the tertiary strength the key of a string is
the string, at the secondary strength its lower-case form, and at the primary
strength its lower-case form with the accents of Latin letters removed.  Keys
are ordered by code points.

The strength of a locale is written in its tag, after the subtag `ks`.
-/

namespace TemplateLanguage

/-- Which differences between strings count. -/
inductive Strength where
  /-- Only base letters. -/
  | primary
  /-- Base letters and accents. -/
  | secondary
  /-- Everything. -/
  | tertiary
  deriving DecidableEq, Repr

/-- A way of comparing strings. -/
structure Collator where
  locale : String
  strength : Strength
  deriving DecidableEq, Repr

namespace Collation

/-- The subtags of a locale, in lower case. -/
def subtags : List Char → List (List Char)
  | [] => [[]]
  | char :: rest =>
      if char = '-' ∨ char = '_' then [] :: subtags rest
      else (subtags rest).modifyHead fun subtag => char.toLower :: subtag

/-- The subtag after the first `ks` that has one. -/
def level? : List (List Char) → Option (List Char)
  | first :: second :: rest =>
      if first = ['k', 's'] then some second else level? (second :: rest)
  | _ => none

/-- The strength that a level stands for. -/
def strengthOfLevel (level : List Char) : Strength :=
  if level = "level1".toList then .primary
  else if level = "level2".toList then .secondary
  else .tertiary

/-- The strength of a locale. -/
def strength (locale : String) : Strength :=
  ((level? (subtags locale.toList)).map strengthOfLevel).getD .tertiary

/-- The base letter of a small Latin letter with an accent. -/
def baseLetter (char : Char) : Char :=
  if 'à' ≤ char ∧ char ≤ 'å' then 'a'
  else if char = 'ç' then 'c'
  else if 'è' ≤ char ∧ char ≤ 'ë' then 'e'
  else if 'ì' ≤ char ∧ char ≤ 'ï' then 'i'
  else if char = 'ñ' then 'n'
  else if ('ò' ≤ char ∧ char ≤ 'ö') ∨ char = 'ø' then 'o'
  else if 'ù' ≤ char ∧ char ≤ 'ü' then 'u'
  else if char = 'ý' ∨ char = 'ÿ' then 'y'
  else char

/-- Order by code points, the shorter of two texts first if it begins the
longer one. -/
def compareText : List Char → List Char → Ordering
  | [], [] => .eq
  | [], _ :: _ => .lt
  | _ :: _, [] => .gt
  | first :: rest, other :: others =>
      (compare first.toNat other.toNat).then (compareText rest others)

end Collation

namespace Collator

/-- The collator of a locale. -/
def ofLocale (locale : String) : Collator :=
  ⟨locale, Collation.strength locale⟩

/-- The key by which a string is compared. -/
def key (collator : Collator) (text : String) : List Char :=
  match collator.strength with
  | .tertiary => text.toList
  | .secondary => Unicode.lower text.toList
  | .primary => (Unicode.lower text.toList).map Collation.baseLetter

/-- Whether two strings count as equal. -/
def equal (collator : Collator) (first second : String) : Bool :=
  collator.key first = collator.key second

/-- The order of two strings. -/
def order (collator : Collator) (first second : String) : Ordering :=
  Collation.compareText (collator.key first) (collator.key second)

end Collator

end TemplateLanguage
