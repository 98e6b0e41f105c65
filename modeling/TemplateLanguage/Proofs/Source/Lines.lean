import Mathlib.Data.Nat.Notation
import Mathlib.Logic.Basic
import TemplateLanguage.Source.Document

/-!
# Bytes and lines of a text

The byte of a line feed occurs in the UTF-8 form of a text exactly where the text has a
line feed, because the bytes of longer forms are all 128 or greater.  So lines can be told
from the bytes alone.

Every line but the last ends with its only line feed, and the last one has none.  So each
line starts behind the start of the line before.
-/

namespace TemplateLanguage.Text

/-- The byte of a line feed. -/
def lineFeed : UInt8 :=
  10

/-- Lines that each end with their only line feed, and a last one without any. -/
inductive AreLines : List (List Char) → Prop
  | last {line : List Char} : '\n' ∉ line → AreLines [line]
  | cons {body : List Char} {rest : List (List Char)} : '\n' ∉ body → AreLines rest →
      AreLines ((body ++ ['\n']) :: rest)

/-! ## Bytes -/

theorem width_eq_length {text : List Char} (narrow : ∀ char ∈ text, char.utf8Size = 1) :
    width text = text.length := by
  induction text with
  | nil => rfl
  | cons char rest ih =>
      rw [List.forall_mem_cons] at narrow
      rw [width_cons, narrow.1, ih narrow.2, List.length_cons, Nat.add_comm]

/-- A form of several bytes has bytes from 128 on only. -/
theorem toNat_of_mem_utf8EncodeChar {char : Char} {byte : UInt8}
    (member : byte ∈ String.utf8EncodeChar char) :
    byte.toNat = char.toNat ∨ 128 ≤ byte.toNat := by
  have value : char.toNat = char.val.toNat := rfl
  simp only [String.utf8EncodeChar] at member
  grind [UInt8.toNat_ofNat']

/-- Only the line feed has its byte in its UTF-8 form. -/
theorem lineFeed_not_mem_utf8EncodeChar {char : Char} (different : char ≠ '\n') :
    lineFeed ∉ String.utf8EncodeChar char := by
  intro member
  rcases toNat_of_mem_utf8EncodeChar member with same | great
  · exact different (Char.toNat_inj.mp same.symm)
  · exact absurd great (by decide)

theorem lineFeed_not_mem_bytes {text : List Char} (absent : '\n' ∉ text) :
    lineFeed ∉ bytes text := by
  intro member
  obtain ⟨char, present, inside⟩ := List.mem_flatMap.mp member
  exact lineFeed_not_mem_utf8EncodeChar (ne_of_mem_of_not_mem present absent) inside

/-- The bytes of line feeds are none if and only if no character is a line feed. -/
theorem count_lineFeed_eq_zero_iff {text : List Char} :
    (bytes text).count lineFeed = 0 ↔ '\n' ∉ text := by
  rw [List.count_eq_zero]
  constructor
  · intro absent member
    exact absent (List.mem_flatMap.mpr ⟨'\n', member, List.mem_singleton.mpr rfl⟩)
  · exact lineFeed_not_mem_bytes

/-- The bytes of line feeds are all bytes if and only if every character is a line feed. -/
theorem count_lineFeed_eq_width_iff {text : List Char} :
    (bytes text).count lineFeed = width text ↔ ∀ char ∈ text, char = '\n' := by
  rw [← length_bytes, List.count_eq_length]
  constructor
  · intro same char member
    -- the form of a character has a first byte
    obtain ⟨byte, inside⟩ := List.exists_mem_of_length_pos
      (Nat.lt_of_lt_of_eq char.utf8Size_pos (String.length_utf8EncodeChar char).symm)
    have isLineFeed := same byte (List.mem_flatMap.mpr ⟨char, member, inside⟩)
    refine not_imp_not.mp lineFeed_not_mem_utf8EncodeChar ?_
    rwa [← isLineFeed] at inside
  · intro same byte member
    obtain ⟨char, present, inside⟩ := List.mem_flatMap.mp member
    rw [same char present] at inside
    exact (List.mem_singleton.mp inside).symm

theorem bytes_append_lineFeed (body : List Char) :
    bytes (body ++ ['\n']) = bytes body ++ [lineFeed] :=
  bytes_append body ['\n']

theorem width_append_lineFeed (body : List Char) :
    width (body ++ ['\n']) = width body + 1 :=
  width_append body ['\n']

/-- Up to its line feed, only the bytes of a line are taken. -/
theorem take_bytes_of_lt {body : List Char} {offset : ℕ}
    (before : offset < width (body ++ ['\n'])) (rest : List Char) :
    (bytes (body ++ ['\n'] ++ rest)).take offset = (bytes body).take offset := by
  rw [width_append_lineFeed, ← length_bytes] at before
  rw [List.append_assoc, bytes_append,
    List.take_append_of_le_length (Nat.le_of_lt_succ before)]

/-- Behind its line feed, all of a line is taken. -/
theorem take_bytes_of_le {body : List Char} {offset : ℕ}
    (behind : width (body ++ ['\n']) ≤ offset) (rest : List Char) :
    (bytes (body ++ ['\n'] ++ rest)).take offset =
      bytes body ++ [lineFeed] ++ (bytes rest).take (offset - width (body ++ ['\n'])) := by
  rw [← length_bytes] at behind ⊢
  rw [bytes_append, List.take_append, List.take_of_length_le behind, bytes_append_lineFeed]

/-! ## Lines -/

theorem AreLines.modifyHead {lines : List (List Char)} {char : Char} (areLines : AreLines lines)
    (different : char ≠ '\n') : AreLines (lines.modifyHead (char :: ·)) := by
  cases areLines with
  | last absent => exact .last (List.not_mem_cons_of_ne_of_not_mem different.symm absent)
  | cons absent more =>
      exact .cons (List.not_mem_cons_of_ne_of_not_mem different.symm absent) more

theorem areLines_lines (text : List Char) : AreLines (lines text) := by
  induction text with
  | nil => exact .last List.not_mem_nil
  | cons char rest ih =>
      rw [lines]
      split
      · rename_i isLineFeed
        rw [isLineFeed]
        change AreLines (([] ++ ['\n']) :: lines rest)
        exact .cons List.not_mem_nil ih
      · rename_i different
        exact ih.modifyHead different

theorem AreLines.ne_nil {lines : List (List Char)} (areLines : AreLines lines) : lines ≠ [] := by
  cases areLines <;> exact List.cons_ne_nil _ _

/-! ## Starts of lines -/

variable {lines : List (List Char)}

theorem le_of_getElem?_lineStarts {base index start : ℕ}
    (found : (lineStarts base lines)[index]? = some start) : base ≤ start := by
  induction lines generalizing base index with
  | nil => cases found
  | cons line rest ih =>
      cases index with
      | zero => exact Nat.le_of_eq (Option.some.inj found)
      | succ index => exact Nat.le_trans (Nat.le_add_right base _) (ih found)

theorem AreLines.pairwise_lineStarts (areLines : AreLines lines) (base : ℕ) :
    (lineStarts base lines).Pairwise (· < ·) := by
  induction areLines generalizing base with
  | last _ => exact List.pairwise_singleton _ _
  | @cons body rest _ _ ih =>
      refine List.pairwise_cons.mpr ⟨fun start member => ?_, ih _⟩
      obtain ⟨index, found⟩ := List.getElem?_of_mem member
      have behind := le_of_getElem?_lineStarts found
      have ends := width_append_lineFeed body
      omega

end TemplateLanguage.Text
