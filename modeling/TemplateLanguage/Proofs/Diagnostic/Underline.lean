import TemplateLanguage.Diagnostic.Guarded
import TemplateLanguage.Proofs.Source.Partition

/-!
# The underline of a diagnostic

A diagnostic is shown with the line on which its span starts, whatever the span is: every position
lies on a line that is there, and no step of showing the diagnostic fails, except that in the
longest documents a position may be too great.

Behind the gutter, the row under the line has carets at the byte columns of the span that lie
on the line as it is shown.  Where there are none, as with an empty span, one that starts on
trimmed terminators, or one past the end, a single caret marks the column of the position.
-/

namespace TemplateLanguage

namespace Excerpt

/-- Whether a byte of a line belongs to a span, where the line starts at an offset and bytes are
counted from zero. -/
def Covers (span : Span) (start lineWidth byte : ℕ) : Prop :=
  byte < lineWidth ∧ span.start ≤ start + byte ∧ start + byte < span.stop

/-- What stands behind the gutter of the row under a line: blanks up to a column, and a caret for
each byte of the span that the line has room for, or one. -/
def underline (column length lineWidth : ℕ) : List Char :=
  List.replicate (column - 1) ' '
    ++ List.replicate (max 1 (min length (lineWidth - (column - 1)))) '^'

theorem getElem?_blanks_append_carets (blanks carets index : ℕ) :
    (List.replicate blanks ' ' ++ List.replicate carets '^')[index]? = some '^' ↔
      blanks ≤ index ∧ index < blanks + carets := by
  rw [List.getElem?_append, List.length_replicate]
  by_cases before : index < blanks
  · rw [if_pos before, List.getElem?_replicate_of_lt before]
    refine iff_of_false (by decide) fun within => ?_
    exact Nat.not_lt_of_le within.1 before
  · rw [if_neg before, List.getElem?_replicate]
    simp only [Option.ite_none_right_eq_some, and_true]
    omega

/-- Up to a column the row under a line is the gutter and blanks, and from there on carets. -/
theorem caretRow_eq {column : ℕ} (positive : 1 ≤ column) (length lineWidth : ℕ) :
    caretRow column length lineWidth = "   | ".toList ++ underline column length lineWidth := by
  have carets : caretCount column length lineWidth =
      max 1 (min length (lineWidth - (column - 1))) := by
    rw [caretCount]
    omega
  rw [caretRow, underline, carets]
  rfl

/-- Clamping allows for one caret at least, so its bounds do not cross. -/
theorem clamp_eq (column length lineWidth : ℕ) :
    Guarded.clamp length 1 (max (lineWidth + 1 - column) 1) =
      .ok (caretCount column length lineWidth) := by
  rw [Guarded.clamp, if_pos (Nat.le_max_right _ _), caretCount]
  congr 1
  omega

variable {span : Span} {start textWidth column lineWidth : ℕ}

/-- The bytes of a line that belong to a span are those from the position of the span on, as many
as the span has and the line has room for. -/
theorem covers_iff (located : start + column = min span.start textWidth)
    (inside : start + lineWidth ≤ textWidth) (byte : ℕ) :
    Covers span start lineWidth byte ↔
      column ≤ byte ∧ byte < column + min span.length (lineWidth - column) := by
  rw [Covers, Span.length]
  omega

/-- The carets stand at the bytes of the line that belong to the span, or at the position. -/
theorem getElem?_underline (located : start + column = min span.start textWidth)
    (inside : start + lineWidth ≤ textWidth) (byte : ℕ) :
    (underline (column + 1) span.length lineWidth)[byte]? = some '^' ↔
      Covers span start lineWidth byte ∨
        byte = column ∧ ∀ other, ¬Covers span start lineWidth other := by
  have covers := covers_iff located inside
  rw [underline, getElem?_blanks_append_carets, Nat.add_sub_cancel, covers]
  by_cases none : min span.length (lineWidth - column) = 0
  · -- no byte of the line belongs to the span
    have uncovered : ∀ other, ¬Covers span start lineWidth other := fun other covered => by
      have within := (covers other).mp covered
      omega
    rw [none]
    simp only [uncovered, not_false_eq_true, implies_true, and_true]
    omega
  · have covered : Covers span start lineWidth column := (covers column).mpr (by omega)
    have some : ¬∀ other, ¬Covers span start lineWidth other := fun free => free column covered
    simp only [some, and_false, or_false]
    omega

end Excerpt

namespace Document

variable {document : Document} {span : Span} {position : Position}

theorem one_le_column_of_position_eq (found : document.position span = .ok position) :
    1 ≤ position.column := by
  rw [← place_eq_of_position_eq found]
  exact Nat.succ_pos _

/-- The line of a position is there, and what is shown of it stands in the text where it starts. -/
theorem exists_line?_position (found : document.position span = .ok position) :
    ∃ line before after,
      document.line? position.line = some line ∧
        document.lineStarts[position.line - 1]? = some (Text.width before) ∧
          document.text = before ++ line ++ after ∧
            Text.width before + position.column - 1 = document.offset span := by
  have located := locates_position found
  rcases located.start_eq with ⟨start, starts, -, distance⟩
  have shown := (isSome_line?_iff _).mpr ⟨located.one_le, located.line_le⟩
  rcases Option.isSome_iff_exists.mp shown with ⟨line, line_eq⟩
  rcases exists_of_line?_eq_some line_eq with ⟨index, whole, number, whole_eq, trimmed⟩
  rw [number, Nat.add_sub_cancel] at starts ⊢
  rcases document.exists_text_eq whole_eq starts with ⟨before, after, text_eq, rfl, -⟩
  refine ⟨line, before, Text.terminator whole ++ after, number ▸ line_eq, starts, ?_, distance⟩
  calc
    document.text = before ++ whole ++ after := text_eq
    _ = before ++ (line ++ Text.terminator whole) ++ after := by
      rw [← trimmed, Text.trimTerminators_append_terminator]
    _ = before ++ line ++ (Text.terminator whole ++ after) := by
      simp only [List.append_assoc]

end Document

namespace Excerpt

/-- Every step of showing a source line has a result. -/
theorem guardedRows_eq {position : Position} (positive : 1 ≤ position.column) (length : ℕ)
    (line : List Char) :
    guardedRows position length line =
      .ok [margin, sourceRow position.line line,
        caretRow position.column length (Text.width line)] := by
  have blanks : Guarded.difference position.column 1 = .ok (position.column - 1) :=
    if_pos positive
  simp only [guardedRows, clamp_eq, blanks, caretRow, bind, Except.bind, pure, Except.pure]

theorem guardedSourceRows_eq (document : Document) {position : Position}
    (positive : 1 ≤ position.column) (length : ℕ) :
    guardedSourceRows document position length = .ok (sourceRows document position length) := by
  rw [guardedSourceRows, document.guardedLine_eq, sourceRows]
  cases document.line? position.line with
  | none => rfl
  | some line => exact guardedRows_eq positive length line

end Excerpt

namespace Diagnostic

/-- The spans of a diagnostic and of its related places, whose positions are shown. -/
def spans (diagnostic : Diagnostic) : List Span :=
  diagnostic.span :: diagnostic.labels.map Label.span

variable {document : Document} {diagnostic : Diagnostic} {position : Position}

/-- The steps of showing a diagnostic have no fault but those of its positions. -/
theorem guardedRender_eq (document : Document) (diagnostic : Diagnostic) :
    diagnostic.guardedRender document = diagnostic.render document := by
  have label : guardedLabelRow document = labelRow document := by
    funext label
    rw [guardedLabelRow, document.guardedPosition_eq, labelRow]
  rw [guardedRender, render, rows, document.guardedPosition_eq, label]
  cases found : document.position diagnostic.span with
  | error fault => rfl
  | ok position =>
      have excerpt := Excerpt.guardedSourceRows_eq document
        (Document.one_le_column_of_position_eq found) diagnostic.span.length
      simp only [excerpt, bind, Except.bind, pure, Except.pure]
      cases diagnostic.labels.mapM (labelRow document) with
      | error fault => rfl
      | ok labelRows => rfl

/-! ## Related places -/

theorem exists_mapM_labelRow_eq (short : Text.width document.text < wordLimit) {labels : List Label}
    (fits : ∀ label ∈ labels, ¬document.Overflows label.span) :
    ∃ labelRows, labels.mapM (labelRow document) = .ok labelRows := by
  induction labels with
  | nil => exact ⟨[], rfl⟩
  | cons label rest ih =>
      rw [List.forall_mem_cons] at fits
      obtain ⟨position, found⟩ := Document.exists_position_eq short fits.1
      obtain ⟨labelRows, later⟩ := ih fits.2
      rw [List.mapM_cons, labelRow, found, later]
      exact ⟨_, rfl⟩

theorem mapM_labelRow_eq_error (short : Text.width document.text < wordLimit) {labels : List Label}
    {label : Label} (member : label ∈ labels) (overflows : document.Overflows label.span) :
    labels.mapM (labelRow document) = .error .overflow := by
  induction labels with
  | nil => cases member
  | cons first rest ih =>
      rw [List.mapM_cons, labelRow]
      by_cases here : document.Overflows first.span
      · rw [Document.position_eq_error short here]
        rfl
      · obtain ⟨position, found⟩ := Document.exists_position_eq short here
        have later := (List.mem_cons.mp member).resolve_left fun same => here (same ▸ overflows)
        rw [found, ih later]
        rfl

/-- Without an overflow, the positions of a diagnostic and of its related places are there. -/
theorem exists_position_and_labelRows (short : Text.width document.text < wordLimit)
    (fits : ∀ span ∈ diagnostic.spans, ¬document.Overflows span) :
    ∃ position labelRows, document.position diagnostic.span = .ok position ∧
      diagnostic.labels.mapM (labelRow document) = .ok labelRows := by
  rw [spans, List.forall_mem_cons, List.forall_mem_map] at fits
  obtain ⟨position, found⟩ := Document.exists_position_eq short fits.1
  obtain ⟨labelRows, labels_eq⟩ := exists_mapM_labelRow_eq short fits.2
  exact ⟨position, labelRows, found, labels_eq⟩

/-! ## What is shown -/

theorem rows_eq {line : List Char} {labelRows : List (List Char)}
    (found : document.position diagnostic.span = .ok position)
    (shown : document.line? position.line = some line)
    (labels_eq : diagnostic.labels.mapM (labelRow document) = .ok labelRows) :
    diagnostic.rows document =
      .ok (diagnostic.headline
        :: ("  --> ".toList ++ position.render document.name)
        :: Excerpt.margin
        :: Excerpt.sourceRow position.line line
        :: Excerpt.caretRow position.column diagnostic.span.length (Text.width line)
        :: (labelRows ++ diagnostic.notes.map noteRow)) := by
  rw [rows, found, labels_eq]
  simp only [Excerpt.sourceRows, shown, bind, Except.bind, pure, Except.pure, List.cons_append,
    List.nil_append]

theorem render_eq {rows : List (List Char)} (rows_eq : diagnostic.rows document = .ok rows) :
    diagnostic.render document = .ok (rows.flatMap fun row => row ++ ['\n']) := by
  rw [render, rows_eq]
  rfl

/-- What is shown of a line at whose start the text is cut, and on which the span of a diagnostic
starts. -/
structure Underlines (document : Document) (diagnostic : Diagnostic) (position : Position)
    (line : List Char) (start : ℕ) : Prop where
  position_eq : document.position diagnostic.span = .ok position
  line?_eq : document.line? position.line = some line
  start_eq : document.lineStarts[position.line - 1]? = some start
  slice?_eq : Text.slice? start (start + Text.width line) document.text = some line
  rows_eq : ∃ labelRows, diagnostic.labels.mapM (labelRow document) = .ok labelRows ∧
    diagnostic.rows document =
      .ok (diagnostic.headline
        :: ("  --> ".toList ++ position.render document.name)
        :: "   |".toList
        :: Excerpt.sourceRow position.line line
        :: ("   | ".toList ++ Excerpt.underline position.column diagnostic.span.length
            (Text.width line))
        :: (labelRows ++ diagnostic.notes.map noteRow))
  caret_iff : ∀ byte,
    (Excerpt.underline position.column diagnostic.span.length (Text.width line))[byte]? =
        some '^' ↔
      Excerpt.Covers diagnostic.span start (Text.width line) byte ∨
        byte + 1 = position.column ∧
          ∀ other, ¬Excerpt.Covers diagnostic.span start (Text.width line) other
  line_add_column_le : position.line + position.column ≤ Text.width document.text + 2

/-- Where the positions are there, the line on which the span of a diagnostic starts is shown.  The
carets under the line are the bytes of the span that are shown, or one caret where there are
none. -/
theorem underlines_of_position_eq {labelRows : List (List Char)}
    (found : document.position diagnostic.span = .ok position)
    (labels_eq : diagnostic.labels.mapM (labelRow document) = .ok labelRows) :
    ∃ line start, diagnostic.Underlines document position line start := by
  rcases Document.exists_line?_position found with
    ⟨line, before, after, line_eq, start_eq, text_eq, distance⟩
  have slice := Text.slice?_append before line after
  have inside : Text.width before + Text.width line ≤ Text.width document.text := by
    rw [text_eq, Text.width_append, Text.width_append]
    exact Nat.le_add_right _ _
  have positive := Document.one_le_column_of_position_eq found
  -- counted from zero, the column of the position is its distance from the start of the line
  obtain ⟨column, column_eq⟩ : ∃ column, position.column = column + 1 :=
    Nat.exists_eq_succ_of_ne_zero (Nat.ne_of_gt positive)
  have starts : Text.width before + column =
      min diagnostic.span.start (Text.width document.text) := by
    rw [column_eq] at distance
    exact distance
  refine ⟨line, Text.width before, ?_⟩
  exact
    { position_eq := found
      line?_eq := line_eq
      start_eq := start_eq
      slice?_eq := by rwa [text_eq, ← Text.width_append]
      rows_eq := by
        refine ⟨labelRows, labels_eq, ?_⟩
        rw [Diagnostic.rows_eq found line_eq labels_eq, Excerpt.caretRow_eq positive]
        rfl
      caret_iff := fun byte => by
        rw [column_eq, Excerpt.getElem?_underline starts inside, Nat.add_right_cancel_iff]
      line_add_column_le :=
        Nat.le_trans (Document.locates_position found).line_add_column_le
          (Nat.add_le_add_right (document.offset_le_width diagnostic.span) 2) }

/-- No step of showing a diagnostic fails, except that a position may overflow, and where none
does, the diagnostic is shown with the line on which its span starts. -/
theorem guardedRender_and_underlines (short : Text.width document.text < wordLimit)
    (diagnostic : Diagnostic) :
    diagnostic.guardedRender document = diagnostic.render document ∧
      ((∃ span ∈ diagnostic.spans, document.Overflows span) →
        diagnostic.render document = .error .overflow) ∧
      ((∀ span ∈ diagnostic.spans, ¬document.Overflows span) →
        ∃ output position line start, diagnostic.render document = .ok output ∧
          diagnostic.Underlines document position line start) := by
  refine ⟨guardedRender_eq document diagnostic, fun overflows => ?_, fun fits => ?_⟩
  · obtain ⟨span, member, overflow⟩ := overflows
    rw [render, rows]
    by_cases here : document.Overflows diagnostic.span
    · rw [Document.position_eq_error short here]
      rfl
    · obtain ⟨position, found⟩ := Document.exists_position_eq short here
      have later := (List.mem_cons.mp member).resolve_left fun same => here (same ▸ overflow)
      obtain ⟨label, isLabel, rfl⟩ := List.mem_map.mp later
      rw [found, mapM_labelRow_eq_error short isLabel overflow]
      rfl
  · obtain ⟨position, labelRows, found, labels_eq⟩ := exists_position_and_labelRows short fits
    obtain ⟨line, start, underlines⟩ := underlines_of_position_eq found labels_eq
    obtain ⟨labelRows, -, rows_eq⟩ := underlines.rows_eq
    exact ⟨_, position, line, start, render_eq rows_eq, underlines⟩

/-- A span that starts on the terminators of its line and ends before it starts. -/
theorem guardedRender_and_underlines_terminators :
    let document : Document := ⟨"page.stl", "ab\r\ncd".toList⟩
    let diagnostic : Diagnostic :=
      { kind := .unknownSetting
        span := ⟨3, 1, 1⟩
        message := "key"
        labels := [⟨⟨4, 6, 2⟩, "value"⟩] }
    Text.width document.text < wordLimit ∧ (∀ span ∈ diagnostic.spans, ¬document.Overflows span) ∧
      diagnostic.guardedRender document = .ok
        ("error: unknown setting: key\n  --> page.stl:1:4\n   |\n  1 | ab\n   |    ^\n"
          ++ "   = note: value at page.stl:2:1\n").toList ∧
        ∃ position line start, diagnostic.Underlines document position line start := by
  intro document diagnostic
  have short : Text.width document.text < wordLimit := by decide +kernel
  have fits : ∀ span ∈ diagnostic.spans, ¬document.Overflows span := fun span _ overflows =>
    absurd overflows.width_eq (by decide +kernel)
  obtain ⟨-, -, shows⟩ := guardedRender_and_underlines short diagnostic
  obtain ⟨-, position, line, start, -, underlines⟩ := shows fits
  exact ⟨short, fits, by decide +kernel, position, line, start, underlines⟩

/-- Nothing is shown of a diagnostic at the end of the longest line. -/
theorem render_longest_line_ne :
    let document : Document := ⟨"page.stl", List.replicate (wordLimit - 1) 'a'⟩
    Text.width document.text < wordLimit ∧
      ∀ output, render document
        ⟨.unknownSetting, ⟨wordLimit - 1, wordLimit - 1, 1⟩, "key", [], []⟩ ≠ .ok output := by
  intro document
  have overflows : document.Overflows ⟨wordLimit - 1, wordLimit - 1, 1⟩ :=
    Document.overflows_longest_line _
  have width_eq := overflows.width_eq
  have short : Text.width document.text < wordLimit := by omega
  refine ⟨short, fun output shown => ?_⟩
  rw [render, rows, Document.position_eq_error short overflows] at shown
  cases shown

end Diagnostic

end TemplateLanguage
