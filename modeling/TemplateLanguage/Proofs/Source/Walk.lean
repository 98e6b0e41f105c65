import Mathlib.Data.List.Induction
import Mathlib.Data.Prod.Lex
import TemplateLanguage.Proofs.Source.Lines

/-!
# Advancing and walking to an offset

A place begins at the first column of the first line and advances with every byte that
comes before an offset: a line feed brings it to the first column of the next line, any other
byte to the next column.  So the line counts the line feeds before the offset and the column
counts the bytes since the last of them.

Walking down the lines finds the same place, and with it the start of its line.
-/

namespace TemplateLanguage

namespace Place

/-- The place after one more byte. -/
def advance (place : Place) (byte : UInt8) : Place :=
  if byte = Text.lineFeed then ⟨place.line + 1, 1⟩
  else ⟨place.line, place.column + 1⟩

/-- Line and column, which are compared in this order. -/
def key (place : Place) : ℕ ×ₗ ℕ :=
  toLex (place.line, place.column)

end Place

namespace Text

/-- The place of a byte offset, found by walking down the lines. -/
def locate : ℕ → List (List Char) → Place
  | offset, line :: next :: rest =>
      if offset < width line then ⟨1, offset + 1⟩
      else
        let inner := locate (offset - width line) (next :: rest)
        ⟨inner.line + 1, inner.column⟩
  | offset, _ => ⟨1, offset + 1⟩

end Text

/-! ## Advancing -/

namespace Place

theorem key_le_advance (place : Place) (byte : UInt8) :
    place.key ≤ (place.advance byte).key := by
  rw [advance, key, key]
  split
  · exact Prod.Lex.toLex_le_toLex.mpr (Or.inl (Nat.lt_succ_self _))
  · exact Prod.Lex.toLex_le_toLex.mpr (Or.inr ⟨rfl, Nat.le_succ _⟩)

theorem key_le_foldl_advance (bytes : List UInt8) (place : Place) :
    place.key ≤ (bytes.foldl advance place).key := by
  induction bytes generalizing place with
  | nil => exact le_refl _
  | cons byte rest ih => exact (place.key_le_advance byte).trans (ih _)

theorem one_le_column_advance {place : Place} (positive : 1 ≤ place.column)
    (byte : UInt8) : 1 ≤ (place.advance byte).column := by
  rw [advance]
  split
  · exact Nat.le_refl 1
  · exact Nat.le_succ_of_le positive

theorem line_add_column_advance_le {place : Place} (positive : 1 ≤ place.column)
    (byte : UInt8) :
    (place.advance byte).line + (place.advance byte).column ≤
      place.line + place.column + 1 := by
  rw [advance]
  split
  · simp only
    omega
  · exact Nat.le_refl _

/-- Line and column grow by no more than the number of bytes. -/
theorem line_add_column_foldl_advance_le (bytes : List UInt8) {place : Place}
    (positive : 1 ≤ place.column) :
    (bytes.foldl advance place).line + (bytes.foldl advance place).column ≤
      place.line + place.column + bytes.length := by
  induction bytes generalizing place with
  | nil => exact Nat.le_refl _
  | cons byte rest ih =>
      have further := ih (one_le_column_advance positive byte)
      have step := line_add_column_advance_le positive byte
      rw [List.foldl_cons, List.length_cons]
      omega

/-- Within a line only the column advances. -/
theorem foldl_advance_of_not_mem {bytes : List UInt8} (absent : Text.lineFeed ∉ bytes)
    (place : Place) :
    bytes.foldl advance place = ⟨place.line, place.column + bytes.length⟩ := by
  induction bytes generalizing place with
  | nil => rfl
  | cons byte rest ih =>
      rw [List.mem_cons, not_or] at absent
      rw [List.foldl_cons, ih absent.2, advance, if_neg (Ne.symm absent.1), List.length_cons,
        Nat.add_assoc, Nat.add_comm 1]

/-- A place counts line feeds, and bytes since the last line feed. -/
theorem foldl_advance_start (bytes : List UInt8) :
    bytes.foldl advance ⟨1, 1⟩ =
      ⟨bytes.count Text.lineFeed + 1,
        (bytes.reverse.takeWhile (· ≠ Text.lineFeed)).length + 1⟩ := by
  induction bytes using List.reverseRecOn with
  | nil => rfl
  | append_singleton before byte ih =>
      rw [List.foldl_append, ih, List.foldl_cons, List.foldl_nil, advance, List.count_append,
        List.count_singleton, List.reverse_append, List.reverse_singleton,
        List.singleton_append, List.takeWhile_cons]
      by_cases isLineFeed : byte = Text.lineFeed
      · simp [isLineFeed]
      · simp [isLineFeed]

end Place

/-! ## Walking -/

namespace Text

open Place

theorem locate_singleton (offset : ℕ) (line : List Char) : locate offset [line] = ⟨1, offset + 1⟩ :=
  rfl

theorem locate_cons {rest : List (List Char)} (more : rest ≠ []) (offset : ℕ) (line : List Char) :
    locate offset (line :: rest) =
      if offset < width line then ⟨1, offset + 1⟩
      else ⟨(locate (offset - width line) rest).line + 1,
        (locate (offset - width line) rest).column⟩ := by
  obtain ⟨next, others, rfl⟩ := List.exists_cons_of_ne_nil more
  rw [locate]

/-- The bytes before an offset advance to where the offset is located. -/
theorem foldl_advance_take {lines : List (List Char)} (areLines : AreLines lines)
    {offset : ℕ} (inside : offset ≤ width lines.flatten) (line : ℕ) :
    ((bytes lines.flatten).take offset).foldl advance ⟨line + 1, 1⟩ =
      ⟨line + (locate offset lines).line, (locate offset lines).column⟩ := by
  induction areLines generalizing offset line with
  | @last single absent =>
      rw [List.flatten_singleton] at inside ⊢
      have plain : lineFeed ∉ (bytes single).take offset := fun member =>
        lineFeed_not_mem_bytes absent (List.mem_of_mem_take member)
      rw [foldl_advance_of_not_mem plain, locate_singleton, List.length_take, length_bytes,
        Nat.min_eq_left inside, Nat.add_comm 1]
  | @cons body rest absent more ih =>
      rw [locate_cons more.ne_nil, List.flatten_cons]
      split
      · -- the offset is on this line, before its line feed
        rename_i before
        have plain : lineFeed ∉ (bytes body).take offset := fun member =>
          lineFeed_not_mem_bytes absent (List.mem_of_mem_take member)
        rw [width_append_lineFeed] at before
        rw [take_bytes_of_lt (by rwa [width_append_lineFeed]), foldl_advance_of_not_mem plain,
          List.length_take, length_bytes, Nat.min_eq_left (Nat.le_of_lt_succ before),
          Nat.add_comm 1]
      · rename_i notBefore
        have behind := Nat.le_of_not_lt notBefore
        rw [List.flatten_cons, width_append] at inside
        rw [take_bytes_of_le behind, List.foldl_append, List.foldl_append,
          foldl_advance_of_not_mem (lineFeed_not_mem_bytes absent), List.foldl_cons,
          List.foldl_nil, advance, if_pos rfl, ih (by omega)]
        simp only [Place.mk.injEq, and_true]
        omega

variable {lines : List (List Char)}

/-- A located offset is found again from the start of its line. -/
theorem exists_lineStart_locate (nonempty : lines ≠ []) (base offset : ℕ) :
    ∃ index start, (locate offset lines).line = index + 1 ∧
      (lineStarts base lines)[index]? = some start ∧
        start + (locate offset lines).column = base + offset + 1 := by
  induction lines generalizing base offset with
  | nil => exact absurd rfl nonempty
  | cons line rest ih =>
      by_cases more : rest = []
      · subst more
        exact ⟨0, base, rfl, rfl, rfl⟩
      · rw [locate_cons more]
        split
        · exact ⟨0, base, rfl, rfl, rfl⟩
        · obtain ⟨index, start, line_eq, found, distance⟩ :=
            ih more (base + width line) (offset - width line)
          refine ⟨index + 1, start, congrArg (· + 1) line_eq, found, ?_⟩
          change start + (locate (offset - width line) rest).column = _
          omega

/-- The lines up to that of an offset start at the offset or before it, and no others do. -/
theorem start_le_iff_lt_locate {base offset index start : ℕ}
    (found : (lineStarts base lines)[index]? = some start) :
    start ≤ base + offset ↔ index < (locate offset lines).line := by
  induction lines generalizing base offset index with
  | nil => cases found
  | cons line rest ih =>
      by_cases more : rest = []
      · subst more
        cases index with
        | zero =>
            obtain rfl := Option.some.inj found
            exact iff_of_true (Nat.le_add_right base offset) Nat.one_pos
        | succ index => cases found
      · rw [locate_cons more]
        cases index with
        | zero =>
            obtain rfl := Option.some.inj found
            split
            · exact iff_of_true (Nat.le_add_right base offset) Nat.one_pos
            · exact iff_of_true (Nat.le_add_right base offset) (Nat.succ_pos _)
        | succ index =>
            have later : (lineStarts (base + width line) rest)[index]? = some start := found
            have behind := le_of_getElem?_lineStarts later
            have further : start ≤ base + width line + (offset - width line) ↔
                index < (locate (offset - width line) rest).line := ih later
            split
            · simp only
              omega
            · simp only
              omega

end Text

end TemplateLanguage
