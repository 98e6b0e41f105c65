import Mathlib.Logic.Function.Iterate
import TemplateLanguage.Proofs.Xml.Escaping

/-!
# Reading escaped text

An escaped text holds no angle bracket and no quote, and every ampersand in it begins an
entity.  Going through it once from left to right, with each entity replaced by its
character, gives back the text that was escaped.  So texts with the same escaped form are
the same, also if they spell entities themselves, and a text that was escaped several
times is read back in as many passes.

No entity is read across the pieces of an escaped text: a piece that begins with an
ampersand is an entity as a whole, and any other piece is a single character.
-/

namespace TemplateLanguage.Xml

/-- A text with its entities read from left to right. -/
def unescape : List Char → List Char
  | '&' :: 'l' :: 't' :: ';' :: rest => '<' :: unescape rest
  | '&' :: 'g' :: 't' :: ';' :: rest => '>' :: unescape rest
  | '&' :: 'a' :: 'm' :: 'p' :: ';' :: rest => '&' :: unescape rest
  | '&' :: 'q' :: 'u' :: 'o' :: 't' :: ';' :: rest => '"' :: unescape rest
  | '&' :: 'a' :: 'p' :: 'o' :: 's' :: ';' :: rest => '\'' :: unescape rest
  | char :: rest => char :: unescape rest
  | [] => []

/-- The characters that delimit tags and attributes. -/
def delimiters : List Char :=
  ['<', '>', '"', '\'']

/-- A text without delimiters in which every ampersand begins an entity. -/
structure IsEscaped (text : List Char) : Prop where
  disjoint : List.Disjoint delimiters text
  entity : ∀ rest, '&' :: rest <:+ text → ∃ entry ∈ entities, entry.2 <+: '&' :: rest

variable {char : Char} {spelled : List Char}

/-! ## Pieces -/

/-- An entity is an ampersand and a name, and does not hold any of the five characters
otherwise. -/
theorem exists_name_of_entity? (found : entity? char = some spelled) :
    (char, spelled) ∈ entities ∧ List.Disjoint delimiters spelled ∧
      ∃ name, spelled = '&' :: name ∧ '&' ∉ name := by
  unfold entity? at found
  split at found
  case h_6 => cases found
  all_goals
    cases found
    exact ⟨by simp [entities], by simp [delimiters], _, rfl, by simp⟩

theorem not_mem_of_entity?_eq_none (plain : entity? char = none) : char ∉ '&' :: delimiters := by
  have listed : ∀ mark ∈ '&' :: delimiters, entity? mark ≠ none := by
    simp [delimiters, entity?]
  intro member
  exact listed char member plain

/-! ## Reading -/

theorem unescape_append_of_entity? (found : entity? char = some spelled) (rest : List Char) :
    unescape (spelled ++ rest) = char :: unescape rest := by
  unfold entity? at found
  split at found
  case h_6 => cases found
  all_goals
    cases found
    simp only [List.cons_append, List.nil_append, unescape]

theorem unescape_cons_of_ne (different : char ≠ '&') (rest : List Char) :
    unescape (char :: rest) = char :: unescape rest := by
  rw [unescape]
  all_goals
    intros
    contradiction

/-- What stands for a character is read as that character, whatever follows. -/
theorem unescape_replacement_append (char : Char) (rest : List Char) :
    unescape (replacement char ++ rest) = char :: unescape rest := by
  cases found : entity? char with
  | some spelled =>
      rw [replacement_of_entity? found]
      exact unescape_append_of_entity? found rest
  | none =>
      have ordinary := not_mem_of_entity?_eq_none found
      rw [replacement_of_entity?_eq_none found]
      exact unescape_cons_of_ne (List.ne_of_not_mem_cons ordinary) rest

theorem unescape_replaced (text : List Char) : unescape (replaced text) = text := by
  induction text with
  | nil => rfl
  | cons char rest ih => rw [replaced_cons, unescape_replacement_append, ih]

theorem leftInverse_unescape_escape : Function.LeftInverse unescape escape := by
  intro text
  rw [escape_eq_replaced]
  exact unescape_replaced text

-- What is read is not read again.
example : unescape ['&', 'a', 'm', 'p', ';', 'l', 't', ';'] = ['&', 'l', 't', ';'] :=
  rfl

/-! ## Escaped texts -/

theorem suffix_of_suffix_append {name rest tail : List Char} (absent : '&' ∉ name)
    (suffix : '&' :: tail <:+ name ++ rest) : '&' :: tail <:+ rest := by
  induction name with
  | nil => exact suffix
  | cons letter others ih =>
      rw [List.mem_cons, not_or] at absent
      rcases List.suffix_cons_iff.mp suffix with same | suffix
      · exact absurd (List.cons.inj same).1 absent.1
      · exact ih absent.2 suffix

theorem isEscaped_nil : IsEscaped [] where
  disjoint := List.disjoint_nil_right _
  entity rest suffix := by cases List.suffix_nil.mp suffix

namespace IsEscaped

variable {rest : List Char}

theorem entity_append (escaped : IsEscaped rest) (found : entity? char = some spelled) :
    IsEscaped (spelled ++ rest) := by
  obtain ⟨listed, disjoint, name, rfl, absent⟩ := exists_name_of_entity? found
  refine ⟨List.disjoint_append_right.mpr ⟨disjoint, escaped.disjoint⟩, ?_⟩
  intro tail suffix
  -- the ampersand is that of the entity, or it stands behind the entity
  rcases List.suffix_cons_iff.mp suffix with same | suffix
  · exact ⟨_, listed, same ▸ List.prefix_append _ rest⟩
  · exact escaped.entity tail (suffix_of_suffix_append absent suffix)

theorem cons (escaped : IsEscaped rest) (ordinary : char ∉ '&' :: delimiters) :
    IsEscaped (char :: rest) := by
  rw [List.mem_cons, not_or] at ordinary
  refine ⟨List.disjoint_cons_right.mpr ⟨ordinary.2, escaped.disjoint⟩, ?_⟩
  intro tail suffix
  rcases List.suffix_cons_iff.mp suffix with same | suffix
  · exact absurd (List.cons.inj same).1.symm ordinary.1
  · exact escaped.entity tail suffix

theorem replacement_append (escaped : IsEscaped rest) (char : Char) :
    IsEscaped (replacement char ++ rest) := by
  cases found : entity? char with
  | some spelled =>
      rw [replacement_of_entity? found]
      exact escaped.entity_append found
  | none =>
      rw [replacement_of_entity?_eq_none found]
      exact escaped.cons (not_mem_of_entity?_eq_none found)

end IsEscaped

theorem isEscaped_replaced (text : List Char) : IsEscaped (replaced text) := by
  induction text with
  | nil => exact isEscaped_nil
  | cons char rest ih =>
      rw [replaced_cons]
      exact ih.replacement_append char

/-- An escaped text holds no delimiter and no ampersand that does not begin an entity, and
it is read back as what was escaped.  So escaping is injective, and what was escaped
several times is read back in as many passes. -/
theorem isEscaped_and_unescape_escape (text : List Char) (count : Nat) :
    IsEscaped (escape text) ∧ unescape (escape text) = text ∧ Function.Injective escape ∧
      unescape^[count] (escape^[count] text) = text := by
  refine ⟨?_, leftInverse_unescape_escape text, leftInverse_unescape_escape.injective,
    leftInverse_unescape_escape.iterate count text⟩
  rw [escape_eq_replaced]
  exact isEscaped_replaced text

end TemplateLanguage.Xml
