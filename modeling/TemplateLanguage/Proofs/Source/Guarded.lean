import TemplateLanguage.Proofs.Source.Position
import TemplateLanguage.Source.Guarded

/-!
# Guarded positions and lines

The offsets behind the line feeds are those at which the lines begin.  So the guarded steps have
results: the line before a missed offset is there and starts at the offset or before it,
and a line is cut out of the text where whole lines end.  Only the numbers of a position may be
too great.
-/

namespace TemplateLanguage

namespace Text

/-- Behind the start of a text, lines begin where line feeds end. -/
theorem lineStarts_lines (offset : ℕ) (text : List Char) :
    lineStarts offset (lines text) = offset :: lineFeedEnds offset text := by
  induction text generalizing offset with
  | nil => rfl
  | cons char rest ih =>
      rw [lines, lineFeedEnds]
      by_cases isLineFeed : char = '\n'
      · rw [if_pos isLineFeed, if_pos isLineFeed, lineStarts, isLineFeed, ih]
        rfl
      · rcases List.exists_cons_of_ne_nil (lines_ne_nil rest) with ⟨line, others, shape⟩
        have later := ih (offset + char.utf8Size)
        rw [shape, lineStarts, List.cons.injEq] at later
        rw [if_neg isLineFeed, if_neg isLineFeed, shape, List.modifyHead_cons, lineStarts,
          width_cons, ← Nat.add_assoc, later.2]

/-- A line begins where the lines before it end. -/
theorem getElem?_lineStarts (base : ℕ) (lines : List (List Char)) (index : ℕ) :
    (lineStarts base lines)[index]? =
      if index < lines.length then some (base + width (lines.take index).flatten) else none := by
  induction lines generalizing base index with
  | nil => rfl
  | cons line rest ih =>
      cases index with
      | zero => rfl
      | succ index =>
          rw [lineStarts, List.getElem?_cons_succ, ih, List.length_cons, List.take_succ_cons,
            List.flatten_cons, width_append, Nat.add_assoc]
          simp only [Nat.add_lt_add_iff_right]

theorem length_lineStarts (base : ℕ) (lines : List (List Char)) :
    (lineStarts base lines).length = lines.length := by
  induction lines generalizing base with
  | nil => rfl
  | cons line rest ih => rw [lineStarts, List.length_cons, ih, List.length_cons]

/-- A line stands between the lines before it and those behind it. -/
theorem flatten_eq_of_getElem? {lines : List (List Char)} {line : List Char} {index : ℕ}
    (found : lines[index]? = some line) :
    lines.flatten = (lines.take index).flatten ++ line ++ (lines.drop (index + 1)).flatten ∧
      (lines.take (index + 1)).flatten = (lines.take index).flatten ++ line := by
  rcases List.getElem?_eq_some_iff.mp found with ⟨inside, rfl⟩
  constructor
  · conv_lhs => rw [← List.take_append_drop index lines, List.drop_eq_getElem_cons inside,
      List.flatten_append, List.flatten_cons, ← List.append_assoc]
  · rw [List.take_succ_eq_append_getElem inside, List.flatten_append, List.flatten_singleton]

end Text

/-- A place is a position if the numbers of its line and of its column both have 32 bits. -/
theorem Place.toPosition_mk (line column : ℕ) :
    toPosition ⟨line + 1, column + 1⟩ =
      (Guarded.successor column).bind fun column => (Guarded.successor line).bind fun line =>
        .ok ⟨⟨line, column⟩, line.isLt, column.isLt⟩ := by
  rw [toPosition, Guarded.successor, Guarded.successor]
  by_cases columnFits : column + 1 < wordLimit
  · by_cases lineFits : line + 1 < wordLimit
    · rw [dif_pos columnFits, dif_pos lineFits, dif_pos ⟨lineFits, columnFits⟩]
      rfl
    · rw [dif_pos columnFits, dif_neg lineFits, dif_neg fun fits => lineFits fits.1]
      rfl
  · rw [dif_neg columnFits, dif_neg fun fits => columnFits fits.2]
    rfl

namespace Document

variable (document : Document)

theorem recordedStarts_eq : document.recordedStarts = document.lineStarts :=
  (Text.lineStarts_lines 0 document.text).symm

theorem lineCount_eq : document.lineCount = document.lines.length :=
  Text.length_lineStarts 0 document.lines

theorem getElem?_starts (index : ℕ) :
    document.lineStarts[index]? =
      if index < document.lineCount then
        some (Text.width (document.lines.take index).flatten)
      else none := by
  rw [lineStarts, Text.getElem?_lineStarts, ← lineCount_eq, Nat.zero_add]

/-- The lines up to a start end there, and all of them end where the text ends. -/
theorem getD_getElem?_starts (index : ℕ) :
    document.lineStarts[index + 1]?.getD (Text.width document.text) =
      Text.width (document.lines.take (index + 1)).flatten := by
  rw [getElem?_starts]
  by_cases more : index + 1 < document.lineCount
  · rw [if_pos more, Option.getD_some]
  · rw [if_neg more, Option.getD_none]
    rw [lineCount_eq] at more
    rw [List.take_of_length_le (Nat.le_of_not_lt more), lines, Text.flatten_lines]

/-- The text between the start of a line and that of the next one is the line. -/
theorem exists_text_eq {index start : ℕ} {line : List Char}
    (found : document.lines[index]? = some line)
    (starts : document.lineStarts[index]? = some start) :
    ∃ before after, document.text = before ++ line ++ after ∧ start = Text.width before ∧
      document.lineStarts[index + 1]?.getD (Text.width document.text) =
        Text.width (before ++ line) := by
  have inside : index < document.lineCount := by
    rw [lineCount_eq]
    exact (List.getElem?_eq_some_iff.mp found).1
  rcases Text.flatten_eq_of_getElem? found with ⟨whole, upTo⟩
  rw [lines, Text.flatten_lines] at whole
  rw [getElem?_starts, if_pos inside, Option.some.injEq] at starts
  refine ⟨_, _, whole, starts.symm, ?_⟩
  rw [getD_getElem?_starts, upTo]
  rfl

theorem guardedIndex_eq (offset : ℕ) :
    document.guardedIndex offset = .ok (document.lineIndex offset) := by
  rw [guardedIndex, recordedStarts_eq, ← searchLine, lineIndex]
  cases result : document.searchLine offset with
  | ok index => rfl
  | error index =>
      have positive := document.ne_zero_of_searchLine_eq_error result
      exact if_pos (Nat.one_le_iff_ne_zero.mpr positive)

/-- No step of finding a position fails, except that one of its numbers may be too great. -/
theorem guardedPosition_eq (span : Span) :
    document.guardedPosition span = document.position span := by
  rcases document.exists_start_lineIndex (document.offset span) with ⟨start, found, atMost⟩
  have starts : Guarded.offset document.lineStarts (document.lineIndex (document.offset span)) =
      .ok start := by
    rw [Guarded.offset, found]
  have distance : Guarded.difference (document.offset span) start =
      .ok (document.offset span - start) :=
    if_pos atMost
  have place_eq : document.place span =
      ⟨document.lineIndex (document.offset span) + 1, document.offset span - start + 1⟩ := by
    rw [place, List.getD_eq_getElem?_getD, found, Option.getD_some]
  rw [guardedPosition, guardedIndex_eq, recordedStarts_eq, position, place_eq, Place.toPosition_mk]
  simp only [starts, distance, bind, Except.bind, pure, Except.pure]

theorem guardedLine_eq (number : ℕ) :
    document.guardedLine number = .ok (document.line? number) := by
  cases number with
  | zero => rfl
  | succ index =>
      rw [guardedLine, recordedStarts_eq, line?]
      cases starts : document.lineStarts[index]? with
      | none =>
          rw [List.getElem?_eq_none_iff, ← lineCount, lineCount_eq] at starts
          rw [List.getElem?_eq_none starts]
          rfl
      | some start =>
          have inside : index < document.lines.length := by
            rw [← lineCount_eq]
            exact (List.getElem?_eq_some_iff.mp starts).1
          have found := List.getElem?_eq_getElem inside
          rcases document.exists_text_eq found starts with ⟨before, after, text_eq, rfl, stop_eq⟩
          have line : Guarded.cut (Text.width before)
              (document.lineStarts[index + 1]?.getD (Text.width document.text)) document.text =
                .ok document.lines[index] := by
            rw [stop_eq, text_eq, Guarded.cut, Text.slice?_append, Text.width_append,
              if_pos (Nat.le_add_right _ _)]
          simp only [line, bind, Except.bind, pure, Except.pure, found, Option.map_some]

end Document

end TemplateLanguage
