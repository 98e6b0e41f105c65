import TemplateLanguage.Proofs.Source.Search
import TemplateLanguage.Proofs.Source.Walk

/-!
# Positions in a document

The search among the starts of lines ends on the last line that starts at an offset or before
it, where walking down the lines ends too.  So the place of an offset counts the line feeds
before the offset and the bytes since the last of them, neither of which are more than the
offset, and a greater offset never has a lesser place.

As lines grow with offsets, the lesser of the lines of two spans is that of the offset at
which both together begin.

A place is a position if its numbers have 32 bits.  If the number of bytes of a document has,
only the end may have no position, and only in a document of the greatest such number that is a
single line or nothing but line feeds.
-/

namespace TemplateLanguage.Document

variable (document : Document)

/-- What a place says about a byte offset in a document. -/
structure Locates (offset : ℕ) (place : Place) : Prop where
  /-- The line before a missed index is there. -/
  searched : document.searchLine offset ≠ .error 0
  line_eq : place.line = ((Text.bytes document.text).take offset).count Text.lineFeed + 1
  column_eq : place.column =
    (((Text.bytes document.text).take offset).reverse.takeWhile
      (· ≠ Text.lineFeed)).length + 1
  one_le : 1 ≤ place.line
  line_le : place.line ≤ document.lineCount
  start_eq : ∃ start, document.lineStarts[place.line - 1]? = some start ∧
    start ≤ offset ∧ start + place.column - 1 = offset
  line_add_column_le : place.line + place.column ≤ offset + 2

/-! ## The searched line -/

theorem pairwise_lineStarts : document.lineStarts.Pairwise (· < ·) :=
  (Text.areLines_lines document.text).pairwise_lineStarts 0

theorem getElem?_zero_lineStarts : document.lineStarts[0]? = some 0 := by
  obtain ⟨line, rest, shape⟩ := List.exists_cons_of_ne_nil (Text.lines_ne_nil document.text)
  rw [lineStarts, lines, shape]
  rfl

theorem placed_searchLine (offset : ℕ) :
    Text.Placed document.lineStarts offset (document.searchLine offset) :=
  Text.placed_search document.pairwise_lineStarts offset

/-- A search that misses the starts of lines still ends behind the first of them. -/
theorem ne_zero_of_searchLine_eq_error {offset index : ℕ}
    (missed : document.searchLine offset = .error index) : index ≠ 0 := by
  intro zero
  subst zero
  have placed := document.placed_searchLine offset
  rw [missed] at placed
  exact Nat.not_lt_zero _ (placed.2 0 0 document.getElem?_zero_lineStarts)

theorem lineIndex_lt_lineCount (offset : ℕ) : document.lineIndex offset < document.lineCount := by
  have placed := document.placed_searchLine offset
  rw [lineIndex, lineCount]
  cases result : document.searchLine offset with
  | ok index =>
      rw [result] at placed
      exact (List.getElem?_eq_some_iff.mp placed).1
  | error index =>
      rw [result] at placed
      have positive := document.ne_zero_of_searchLine_eq_error result
      exact Nat.lt_of_lt_of_le (Nat.sub_one_lt positive) placed.1

/-- The lines up to the searched one start at the offset or before it, and no others do. -/
theorem start_le_iff_le_lineIndex {index start : ℕ}
    (found : document.lineStarts[index]? = some start) (offset : ℕ) :
    start ≤ offset ↔ index ≤ document.lineIndex offset := by
  have placed := document.placed_searchLine offset
  rw [lineIndex]
  cases result : document.searchLine offset with
  | ok hit =>
      rw [result] at placed
      constructor
      · intro atMost
        by_contra behind
        have greater := Text.lt_of_getElem?_of_pairwise document.pairwise_lineStarts placed found
          (Nat.lt_of_not_le behind)
        exact Nat.not_lt_of_le atMost greater
      · exact Text.le_of_getElem?_of_pairwise document.pairwise_lineStarts found placed
  | error miss =>
      rw [result] at placed
      have positive := document.ne_zero_of_searchLine_eq_error result
      have told := placed.2 index start found
      split at told <;> simp only <;> omega

/-! ## Positions -/

theorem exists_start_lineIndex (offset : ℕ) :
    ∃ start, document.lineStarts[document.lineIndex offset]? = some start ∧ start ≤ offset := by
  have found := List.getElem?_eq_getElem (document.lineIndex_lt_lineCount offset)
  exact ⟨_, found, (document.start_le_iff_le_lineIndex found offset).mpr (Nat.le_refl _)⟩

theorem lineIndex_add_one (offset : ℕ) :
    document.lineIndex offset + 1 = (Text.locate offset document.lines).line := by
  obtain ⟨index, start, line_eq, found, _⟩ :=
    Text.exists_lineStart_locate (Text.lines_ne_nil document.text) 0 offset
  obtain ⟨other, searched, atMost⟩ := document.exists_start_lineIndex offset
  have walked : ∀ {index start : ℕ}, document.lineStarts[index]? = some start →
      (start ≤ offset ↔ index < (Text.locate offset document.lines).line) := fun found => by
    rw [← Text.start_le_iff_lt_locate found, Nat.zero_add]
  have notBehind := (walked searched).mp atMost
  have notBefore := (document.start_le_iff_le_lineIndex found offset).mp
    ((walked found).mpr (line_eq.symm ▸ Nat.lt_succ_self index))
  exact Nat.le_antisymm notBehind (line_eq.trans_le (Nat.succ_le_succ notBefore))

theorem place_eq_locate (span : Span) :
    document.place span = Text.locate (document.offset span) document.lines := by
  obtain ⟨index, start, line_eq, found, distance⟩ :=
    Text.exists_lineStart_locate (Text.lines_ne_nil document.text) 0 (document.offset span)
  have same := document.lineIndex_add_one (document.offset span)
  have index_eq : document.lineIndex (document.offset span) = index :=
    Nat.succ.inj (same.trans line_eq)
  have start_eq : document.lineStarts.getD index 0 = start := by
    rw [List.getD_eq_getElem?_getD, lineStarts, lines, found, Option.getD_some]
  have atMost := (document.start_le_iff_le_lineIndex found _).mpr (Nat.le_of_eq index_eq.symm)
  have column_eq : document.offset span - start + 1 =
      (Text.locate (document.offset span) document.lines).column := by
    rw [lines]
    omega
  rw [place, index_eq, start_eq, column_eq, ← line_eq]
  rfl

theorem offset_le_width (span : Span) : document.offset span ≤ Text.width document.text :=
  Nat.min_le_right _ _

theorem place_eq_foldl_advance (span : Span) :
    document.place span =
      ((Text.bytes document.text).take (document.offset span)).foldl Place.advance ⟨1, 1⟩ := by
  have inside : document.offset span ≤ Text.width document.lines.flatten := by
    rw [lines, Text.flatten_lines]
    exact document.offset_le_width span
  have walked := Text.foldl_advance_take (Text.areLines_lines document.text) inside 0
  rw [Text.flatten_lines] at walked
  simp only [Nat.zero_add] at walked
  rw [walked, place_eq_locate]
  rfl

theorem line_add_column_place_le (span : Span) :
    (document.place span).line + (document.place span).column ≤
      document.offset span + 2 := by
  have bounded := Place.line_add_column_foldl_advance_le
    ((Text.bytes document.text).take (document.offset span)) (Nat.le_refl (Place.mk 1 1).column)
  rw [← place_eq_foldl_advance] at bounded
  have short := List.length_take_le (document.offset span) (Text.bytes document.text)
  simp only at bounded
  omega

theorem locates_place (span : Span) :
    document.Locates (document.offset span) (document.place span) := by
  have counted := document.place_eq_foldl_advance span
  rw [Place.foldl_advance_start] at counted
  obtain ⟨start, found, atMost⟩ := document.exists_start_lineIndex (document.offset span)
  exact
    { searched := fun missed => document.ne_zero_of_searchLine_eq_error missed rfl
      line_eq := congrArg Place.line counted
      column_eq := congrArg Place.column counted
      one_le := Nat.succ_pos _
      line_le := document.lineIndex_lt_lineCount _
      start_eq := by
        refine ⟨start, found, atMost, ?_⟩
        simp only [place, List.getD_eq_getElem?_getD, found, Option.getD_some]
        omega
      line_add_column_le := document.line_add_column_place_le span }

variable {document}

theorem key_place_le {first second : Span}
    (before : document.offset first ≤ document.offset second) :
    (document.place first).key ≤ (document.place second).key := by
  rw [place_eq_foldl_advance, place_eq_foldl_advance]
  rw [← List.take_append_drop (document.offset first)
    ((Text.bytes document.text).take (document.offset second)), List.take_take,
    Nat.min_eq_left before, List.foldl_append]
  exact Place.key_le_foldl_advance _ _

theorem line_place_le {first second : Span}
    (before : document.offset first ≤ document.offset second) :
    (document.place first).line ≤ (document.place second).line := by
  rcases Prod.Lex.toLex_le_toLex.mp (key_place_le before) with less | ⟨same, _⟩
  · exact Nat.le_of_lt less
  · exact Nat.le_of_eq same

/-! ## Spans that cover two spans -/

theorem place_eq_of_offset_eq {first second : Span}
    (same : document.offset first = document.offset second) :
    document.place first = document.place second := by
  rw [place, place, same]

theorem offset_cover (first second : Span) :
    document.offset (first.cover second) =
      min (document.offset first) (document.offset second) := by
  simp only [offset, Span.cover]
  omega

/-- What covers two spans begins on the lesser of their lines. -/
theorem line_place_cover (first second : Span) :
    (document.place (first.cover second)).line =
      min (document.place first).line (document.place second).line := by
  have begins : document.offset (first.cover second) = _ := offset_cover first second
  rcases Nat.le_total (document.offset first) (document.offset second) with before | before
  · rw [Nat.min_eq_left before] at begins
    rw [place_eq_of_offset_eq begins, Nat.min_eq_left (line_place_le before)]
  · rw [Nat.min_eq_right before] at begins
    rw [place_eq_of_offset_eq begins, Nat.min_eq_right (line_place_le before)]

/-! ## Positions of 32 bits -/

/-- A span starts at the end of a document whose length is the greatest number of 32 bits, and
either no character is a line feed or all are: the column or the line there is too great. -/
structure Overflows (document : Document) (span : Span) : Prop where
  width_eq : Text.width document.text + 1 = wordLimit
  le_start : wordLimit ≤ span.start + 1
  uniform : '\n' ∉ document.text ∨ ∀ char ∈ document.text, char = '\n'

theorem column_place_of_not_mem (absent : '\n' ∉ document.text) (span : Span) :
    (document.place span).column = document.offset span + 1 := by
  have plain : Text.lineFeed ∉ (Text.bytes document.text).take (document.offset span) :=
    fun member => Text.lineFeed_not_mem_bytes absent (List.mem_of_mem_take member)
  rw [place_eq_foldl_advance, Place.foldl_advance_of_not_mem plain, List.length_take,
    Text.length_bytes, Nat.min_eq_left (document.offset_le_width span), Nat.add_comm]

/-- At the end of a document the line counts all line feeds. -/
theorem line_place_of_offset_eq {span : Span}
    (ends : document.offset span = Text.width document.text) :
    (document.place span).line = (Text.bytes document.text).count Text.lineFeed + 1 := by
  have whole : (Text.bytes document.text).take (document.offset span) =
      Text.bytes document.text := by
    apply List.take_of_length_le
    rw [Text.length_bytes, ends]
  rw [(document.locates_place span).line_eq, whole]

/-- Only an overflow keeps a place from being a position. -/
theorem overflows_iff (short : Text.width document.text < wordLimit) {span : Span} :
    document.Overflows span ↔
      ¬((document.place span).line < wordLimit ∧ (document.place span).column < wordLimit) := by
  have inside := document.offset_le_width span
  have started : document.offset span ≤ span.start := Nat.min_le_left _ _
  have located := document.locates_place span
  have sum := located.line_add_column_le
  constructor
  · rintro ⟨width_eq, le_start, uniform⟩
    have ends : document.offset span = Text.width document.text := Nat.min_eq_right (by omega)
    rcases uniform with absent | all
    · have column_eq := column_place_of_not_mem absent span
      omega
    · have line_eq := line_place_of_offset_eq ends
      rw [Text.count_lineFeed_eq_width_iff.mpr all] at line_eq
      omega
  · intro unfit
    have positive : 1 ≤ (document.place span).column := Nat.succ_pos _
    have one_le := located.one_le
    -- line and column are no more than the offset allows, so this is the greatest offset there is
    have ends : document.offset span = Text.width document.text := by omega
    have line_eq := line_place_of_offset_eq ends
    refine ⟨by omega, by omega, ?_⟩
    rw [← Text.count_lineFeed_eq_zero_iff, ← Text.count_lineFeed_eq_width_iff]
    omega

theorem place_eq_of_position_eq {span : Span} {position : Position}
    (found : document.position span = .ok position) : document.place span = position.toPlace := by
  rw [Document.position, Place.toPosition] at found
  split at found
  · obtain rfl := Except.ok.inj found
    rfl
  · cases found

/-- Where there is no overflow, the place is a position. -/
theorem exists_position_eq (short : Text.width document.text < wordLimit) {span : Span}
    (fits : ¬document.Overflows span) : ∃ position, document.position span = .ok position := by
  rw [overflows_iff short, not_not] at fits
  exact ⟨_, dif_pos fits⟩

theorem position_eq_error (short : Text.width document.text < wordLimit) {span : Span}
    (overflows : document.Overflows span) : document.position span = .error .overflow :=
  dif_neg ((overflows_iff short).mp overflows)

theorem position_eq_of_offset_eq {first second : Span}
    (same : document.offset first = document.offset second) :
    document.position first = document.position second := by
  rw [position, position, place_eq_of_offset_eq same]

theorem locates_position {span : Span} {position : Position}
    (found : document.position span = .ok position) :
    document.Locates (document.offset span) position.toPlace := by
  rw [← place_eq_of_position_eq found]
  exact document.locates_place span

/-- What covers two spans begins where one of them does. -/
theorem exists_position_cover {first second : Span} {earlier later : Position}
    (foundFirst : document.position first = .ok earlier)
    (foundSecond : document.position second = .ok later) :
    ∃ position, document.position (first.cover second) = .ok position := by
  have begins : document.offset (first.cover second) = _ := offset_cover first second
  rcases Nat.le_total (document.offset first) (document.offset second) with before | before
  · rw [Nat.min_eq_left before] at begins
    exact ⟨earlier, (position_eq_of_offset_eq begins).trans foundFirst⟩
  · rw [Nat.min_eq_right before] at begins
    exact ⟨later, (position_eq_of_offset_eq begins).trans foundSecond⟩

/-- The position of a span is there except for an overflow, and it is that of the offset.
Positions keep the order of offsets, and the lines of spans stay true when spans are covered. -/
theorem locates_position_and_cover (short : Text.width document.text < wordLimit) :
    (∀ span, ¬document.Overflows span → ∃ position, document.position span = .ok position ∧
      document.Locates (document.offset span) position.toPlace) ∧
      (∀ span, document.Overflows span → document.position span = .error .overflow) ∧
      (∀ first second earlier later, document.position first = .ok earlier →
        document.position second = .ok later →
          document.offset first ≤ document.offset second → earlier.key ≤ later.key) ∧
      ∀ first second earlier later, document.position first = .ok earlier →
        document.position second = .ok later → first.line = earlier.line →
          second.line = later.line → first.cover second = second.cover first ∧
            ∃ position, document.position (first.cover second) = .ok position ∧
              (first.cover second).line = position.line := by
  refine ⟨fun span fits => ?_, fun _ => position_eq_error short, ?_, ?_⟩
  · obtain ⟨position, found⟩ := exists_position_eq short fits
    exact ⟨position, found, locates_position found⟩
  · intro first second earlier later foundFirst foundSecond before
    have keeps := key_place_le before
    rwa [place_eq_of_position_eq foundFirst, place_eq_of_position_eq foundSecond] at keeps
  · intro first second earlier later foundFirst foundSecond firstLine secondLine
    obtain ⟨position, found⟩ := exists_position_cover foundFirst foundSecond
    refine ⟨Span.cover_comm first second, position, found, ?_⟩
    have covered : (document.place (first.cover second)).line = _ :=
      line_place_cover first second
    rw [place_eq_of_position_eq found, place_eq_of_position_eq foundFirst,
      place_eq_of_position_eq foundSecond] at covered
    rw [covered, ← firstLine, ← secondLine]
    rfl

/-- The third line is empty; one of the spans is inverted and another starts past the end. -/
theorem locates_position_and_cover_four_lines :
    let document : Document := ⟨"t.stl", "ab\ncd\n\nef".toList⟩
    ∃ third last, document.position ⟨6, 2, 3⟩ = .ok third ∧ document.Locates 6 third.toPlace ∧
      document.position ⟨40, 41, 4⟩ = .ok last ∧ third.key ≤ last.key ∧
        Span.cover ⟨40, 41, 4⟩ ⟨6, 2, 3⟩ = Span.cover ⟨6, 2, 3⟩ ⟨40, 41, 4⟩ ∧
          ∃ position, document.position (Span.cover ⟨40, 41, 4⟩ ⟨6, 2, 3⟩) = .ok position ∧
            (Span.cover ⟨40, 41, 4⟩ ⟨6, 2, 3⟩).line = position.line := by
  intro document
  have short : Text.width document.text < wordLimit := by decide +kernel
  have third : document.position ⟨6, 2, 3⟩ = .ok ⟨⟨3, 1⟩, by decide, by decide⟩ := by
    decide +kernel
  have last : document.position ⟨40, 41, 4⟩ = .ok ⟨⟨4, 3⟩, by decide, by decide⟩ := by
    decide +kernel
  have fits : ¬document.Overflows ⟨6, 2, 3⟩ := fun overflows =>
    absurd overflows.le_start (by decide)
  obtain ⟨locates, -, keeps, covers⟩ := locates_position_and_cover short
  obtain ⟨position, found, located⟩ := locates _ fits
  obtain rfl := Except.ok.inj (third.symm.trans found)
  exact ⟨_, _, found, located, last, keeps _ _ _ _ found last (by decide +kernel),
    covers _ _ _ _ last found rfl rfl⟩

/-- A line that takes up the longest document, and a span at its end. -/
theorem overflows_longest_line (name : String) :
    Overflows ⟨name, List.replicate (wordLimit - 1) 'a'⟩ ⟨wordLimit - 1, wordLimit - 1, 1⟩ where
  width_eq := by
    rw [Text.width_eq_length fun char member => List.eq_of_mem_replicate member ▸ rfl,
      List.length_replicate]
    rfl
  le_start := Nat.le_refl _
  uniform := Or.inl fun member => absurd (List.eq_of_mem_replicate member) (by decide)

/-- The end of the longest line has no position: its column is too great. -/
theorem position_longest_line_ne :
    let document : Document := ⟨"page.stl", List.replicate (wordLimit - 1) 'a'⟩
    Text.width document.text < wordLimit ∧
      (document.place ⟨wordLimit - 1, wordLimit - 1, 1⟩).column = wordLimit ∧
        ∀ position, document.position ⟨wordLimit - 1, wordLimit - 1, 1⟩ ≠ .ok position := by
  intro document
  have overflows : document.Overflows ⟨wordLimit - 1, wordLimit - 1, 1⟩ :=
    overflows_longest_line _
  have width_eq := overflows.width_eq
  have le_start := overflows.le_start
  have short : Text.width document.text < wordLimit := by omega
  have absent : '\n' ∉ document.text := fun member =>
    absurd (List.eq_of_mem_replicate member) (by decide)
  refine ⟨short, ?_, fun position found => ?_⟩
  · rw [column_place_of_not_mem absent, offset]
    omega
  · rw [position_eq_error short overflows] at found
    cases found

end TemplateLanguage.Document
