/-!
# Text measured in bytes

Positions in this library are offsets into the UTF-8 form of a text, while
the text itself is a list of characters.  This file supplies the bytes of a text
and their number, cutting a text at an offset, and joining texts with a separator.

A cut inside a character does not exist: `cut?` answers only at the boundary
of two characters.
-/

namespace TemplateLanguage.Text

/-- Number of bytes of the UTF-8 form. -/
def width : List Char → Nat
  | [] => 0
  | char :: rest => char.utf8Size + width rest

@[simp]
theorem width_nil : width [] = 0 :=
  rfl

@[simp]
theorem width_cons (char : Char) (rest : List Char) :
    width (char :: rest) = char.utf8Size + width rest :=
  rfl

@[simp]
theorem width_append (first second : List Char) :
    width (first ++ second) = width first + width second := by
  induction first with
  | nil => simp
  | cons char rest ih => simp [ih, Nat.add_assoc]

/-- The UTF-8 form of a text. -/
def bytes (text : List Char) : List UInt8 :=
  text.flatMap String.utf8EncodeChar

theorem bytes_cons (char : Char) (rest : List Char) :
    bytes (char :: rest) = String.utf8EncodeChar char ++ bytes rest :=
  List.flatMap_cons

theorem bytes_append (first second : List Char) :
    bytes (first ++ second) = bytes first ++ bytes second :=
  List.flatMap_append

theorem length_bytes (text : List Char) : (bytes text).length = width text := by
  induction text with
  | nil => rfl
  | cons char rest ih =>
      rw [bytes_cons, List.length_append, String.length_utf8EncodeChar, ih, width_cons]

/-- Split a text after its first `offset` bytes, if a character ends there. -/
def cut? : Nat → List Char → Option (List Char × List Char)
  | 0, text => some ([], text)
  | _ + 1, [] => none
  | offset + 1, char :: rest =>
      if char.utf8Size ≤ offset + 1 then
        (cut? (offset + 1 - char.utf8Size) rest).map fun parts =>
          (char :: parts.1, parts.2)
      else
        none
termination_by _ text => text.length

/-- The part of a text between two byte offsets, if both are boundaries. -/
def slice? (start stop : Nat) (text : List Char) : Option (List Char) :=
  (cut? start text).bind fun outer => (cut? (stop - start) outer.2).map Prod.fst

theorem cut?_append (first second : List Char) :
    cut? (width first) (first ++ second) = some (first, second) := by
  induction first with
  | nil => rw [width_nil, List.nil_append, cut?]
  | cons char rest ih =>
      have positive := char.utf8Size_pos
      obtain ⟨offset, filled⟩ : ∃ offset, width (char :: rest) = offset + 1 :=
        Nat.exists_eq_succ_of_ne_zero (by rw [width_cons]; omega)
      have fits : char.utf8Size ≤ offset + 1 := by
        rw [← filled, width_cons]
        exact Nat.le_add_right _ _
      rw [filled, List.cons_append, cut?, if_pos fits, ← filled, width_cons,
        Nat.add_sub_cancel_left, ih, Option.map_some]

/-- The part of a text between two of its cuts. -/
theorem slice?_append (before between after : List Char) :
    slice? (width before) (width (before ++ between)) (before ++ between ++ after) =
      some between := by
  rw [slice?, List.append_assoc, cut?_append, Option.bind_some, width_append,
    Nat.add_sub_cancel_left, cut?_append, Option.map_some]

/-- Texts one after another with a separator between neighbours. -/
def join (separator : List Char) : List (List Char) → List Char
  | [] => []
  | [text] => text
  | text :: rest => text ++ separator ++ join separator rest

end TemplateLanguage.Text
