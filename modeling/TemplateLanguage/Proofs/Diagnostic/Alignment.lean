import TemplateLanguage.Proofs.Decimal.Digits
import TemplateLanguage.Proofs.Diagnostic.Underline

/-!
# Output columns of an excerpt

The rows that show a source line are written one by one, and they begin differently.  The line
stands behind its number, which takes three bytes or more, and a blank, a bar and a blank; the
carets stand behind a gutter of five bytes.  So the bar of the source row is at least one column
to the right of the other two bars, and the first caret is as far to the left of the byte at
which it should point.
-/

namespace TemplateLanguage

namespace Text

/-- The output column at which writing goes on: the bytes written since the last line feed. -/
def column (written : List Char) : ℕ :=
  width (written.rtakeWhile (· ≠ '\n'))

theorem column_append_lineFeed (written : List Char) : column (written ++ ['\n']) = 0 := by
  rw [column, List.rtakeWhile_concat_neg _ _ _ (by decide), width_nil]

/-- Without a line feed, columns grow by what is written. -/
theorem column_append (written : List Char) {more : List Char} (plain : '\n' ∉ more) :
    column (written ++ more) = column written + width more := by
  have all : ∀ char ∈ more.reverse, decide (char ≠ '\n') = true := fun char member =>
    decide_eq_true (ne_of_mem_of_not_mem (List.mem_reverse.mp member) plain)
  rw [column, List.rtakeWhile, List.reverse_append, List.takeWhile_append_of_pos all,
    List.reverse_append, List.reverse_reverse, width_append]
  rfl

end Text

namespace Excerpt

/-- The number of a line as it stands in front of the line. -/
def numberText (number : ℕ) : List Char :=
  (Nat.toDigits 10 number).leftpad 3 ' '

/-- How many bytes the number of a line takes. -/
def numberWidth (number : ℕ) : ℕ :=
  max 3 (Nat.toDigits 10 number).length

variable {number : ℕ} {char : Char}

theorem mem_numberText (member : char ∈ numberText number) :
    char = ' ' ∨ char.isDigit = true := by
  rw [numberText, List.leftpad, List.mem_append] at member
  rcases member with padding | digit
  · exact Or.inl (List.eq_of_mem_replicate padding)
  · exact Or.inr (isDigit_of_mem_toDigits digit)

theorem utf8Size_of_isDigit (digit : char.isDigit = true) : char.utf8Size = 1 := by
  rw [Char.isDigit, Bool.and_eq_true, decide_eq_true_eq, decide_eq_true_eq] at digit
  exact Char.utf8Size_eq_one_iff.mpr (Nat.le_trans digit.2 (by decide))

theorem width_numberText (number : ℕ) : Text.width (numberText number) = numberWidth number := by
  rw [Text.width_eq_length, numberText, List.length_leftpad, numberWidth]
  intro char member
  rcases mem_numberText member with rfl | digit
  · rfl
  · exact utf8Size_of_isDigit digit

theorem lineFeed_not_mem_numberText (number : ℕ) : '\n' ∉ numberText number := by
  intro member
  rcases mem_numberText member with blank | digit
  · exact absurd blank (by decide)
  · exact absurd digit (by decide)

theorem sourceRow_eq (number : ℕ) (line : List Char) :
    sourceRow number line = numberText number ++ " | ".toList ++ line :=
  rfl

end Excerpt

namespace Diagnostic

/-! ## What is written up to a mark -/

section

variable (document : Document) (diagnostic : Diagnostic) (position : Position)

/-- The rows above an excerpt. -/
def aboveExcerpt : List Char :=
  diagnostic.headline ++ ['\n'] ++ "  --> ".toList
    ++ position.render document.name ++ ['\n']

/-- Up to the bar of the blank row. -/
def upToBlankBar : List Char :=
  diagnostic.aboveExcerpt document position ++ "   ".toList

/-- Up to the bar of the row that shows the source line. -/
def upToSourceBar : List Char :=
  diagnostic.upToBlankBar document position ++ "|".toList ++ ['\n']
    ++ Excerpt.numberText position.line ++ " ".toList

/-- Up to the source line. -/
def upToSource : List Char :=
  diagnostic.upToSourceBar document position ++ "| ".toList

/-- Up to the bar of the row under the source line. -/
def upToCaretBar (line : List Char) : List Char :=
  diagnostic.upToSource document position ++ line ++ ['\n'] ++ "   ".toList

/-- Up to the end of the gutter of the row under the source line. -/
def upToUnderline (line : List Char) : List Char :=
  diagnostic.upToCaretBar document position line ++ "| ".toList

/-- Up to the first caret. -/
def upToCaret (line : List Char) : List Char :=
  diagnostic.upToUnderline document position line
    ++ List.replicate (position.column - 1) ' '

theorem column_upToBlankBar : Text.column (diagnostic.upToBlankBar document position) = 3 := by
  rw [upToBlankBar, Text.column_append _ (by decide), aboveExcerpt, Text.column_append_lineFeed]
  rfl

theorem column_upToSourceBar : Text.column (diagnostic.upToSourceBar document position) =
    Excerpt.numberWidth position.line + 1 := by
  rw [upToSourceBar, Text.column_append _ (by decide),
    Text.column_append _ (Excerpt.lineFeed_not_mem_numberText _), Text.column_append_lineFeed,
    Excerpt.width_numberText, Nat.zero_add]
  rfl

theorem column_upToSource : Text.column (diagnostic.upToSource document position) =
    Excerpt.numberWidth position.line + 3 := by
  rw [upToSource, Text.column_append _ (by decide), column_upToSourceBar]
  rfl

theorem column_upToCaretBar (line : List Char) :
    Text.column (diagnostic.upToCaretBar document position line) = 3 := by
  rw [upToCaretBar, Text.column_append _ (by decide), Text.column_append_lineFeed]
  rfl

theorem column_upToUnderline (line : List Char) :
    Text.column (diagnostic.upToUnderline document position line) = 5 := by
  rw [upToUnderline, Text.column_append _ (by decide), column_upToCaretBar]
  rfl

theorem column_upToCaret (line : List Char) :
    Text.column (diagnostic.upToCaret document position line) =
      5 + (position.column - 1) := by
  have blank : ∀ char ∈ List.replicate (position.column - 1) ' ',
      char = ' ' := fun _ => List.eq_of_mem_replicate
  have plain : '\n' ∉ List.replicate (position.column - 1) ' ' :=
    fun member => absurd (blank _ member) (by decide)
  have narrow := Text.width_eq_length fun char member => (blank char member).symm ▸ rfl
  rw [upToCaret, Text.column_append _ plain, column_upToUnderline, narrow, List.length_replicate]

end

/-- Where the marks of an excerpt stand in the output. -/
structure Columns (document : Document) (diagnostic : Diagnostic) (position : Position)
    (line : List Char) : Prop where
  position_eq : document.position diagnostic.span = .ok position
  line?_eq : document.line? position.line = some line
  render_eq : ∃ below,
    diagnostic.render document =
      .ok (diagnostic.upToCaret document position line ++ '^' :: below)
  blankBar : Text.column (diagnostic.upToBlankBar document position) = 3
  sourceBar : Text.column (diagnostic.upToSourceBar document position) =
    Excerpt.numberWidth position.line + 1
  caretBar : Text.column (diagnostic.upToCaretBar document position line) = 3
  source : Text.column (diagnostic.upToSource document position) =
    Excerpt.numberWidth position.line + 3
  underline : Text.column (diagnostic.upToUnderline document position line) = 5
  caret : Text.column (diagnostic.upToCaret document position line) = 5 + (position.column - 1)
  bars_lt : Text.column (diagnostic.upToBlankBar document position) <
    Text.column (diagnostic.upToSourceBar document position)
  gutter_lt : Text.column (diagnostic.upToUnderline document position line) <
    Text.column (diagnostic.upToSource document position)
  /-- The byte under which the first caret should stand is farther to the right. -/
  caret_lt : Text.column (diagnostic.upToCaret document position line) <
    Text.column (diagnostic.upToSource document position) + (position.column - 1)

variable {document : Document} {diagnostic : Diagnostic} {position : Position} {line : List Char}

theorem exists_render_eq {labelRows : List (List Char)}
    (found : document.position diagnostic.span = .ok position)
    (shown : document.line? position.line = some line)
    (labels_eq : diagnostic.labels.mapM (labelRow document) = .ok labelRows) :
    ∃ below, diagnostic.render document =
      .ok (diagnostic.upToCaret document position line ++ '^' :: below) := by
  obtain ⟨carets, count⟩ : ∃ carets, Excerpt.caretCount position.column
      diagnostic.span.length (Text.width line) = carets + 1 :=
    Nat.exists_eq_succ_of_ne_zero (Nat.ne_of_gt (Nat.le_max_left 1 _))
  refine ⟨List.replicate carets '^' ++ '\n' ::
    (labelRows ++ diagnostic.notes.map noteRow).flatMap (· ++ ['\n']), ?_⟩
  rw [render_eq (rows_eq found shown labels_eq)]
  simp only [List.flatMap_cons, Excerpt.caretRow, count, List.replicate_succ, Excerpt.sourceRow_eq,
    upToCaret, upToUnderline, upToCaretBar, upToSource, upToSourceBar, upToBlankBar, aboveExcerpt,
    List.append_assoc, List.cons_append, List.nil_append]
  rfl

/-- The bars of the blank row and of the row under the source line are in one column, that of the
source row is to the right of them, and the first caret is to the left of where it should be. -/
theorem exists_columns (short : Text.width document.text < wordLimit)
    (fits : ∀ span ∈ diagnostic.spans, ¬document.Overflows span) :
    ∃ position line, diagnostic.Columns document position line := by
  obtain ⟨position, labelRows, found, labels_eq⟩ := exists_position_and_labelRows short fits
  rcases Document.exists_line?_position found with ⟨line, _, _, shown, -, -, -⟩
  have threeBytes : 3 ≤ Excerpt.numberWidth position.line := Nat.le_max_left _ _
  refine ⟨position, line, ?_⟩
  exact
    { position_eq := found
      line?_eq := shown
      render_eq := exists_render_eq found shown labels_eq
      blankBar := diagnostic.column_upToBlankBar document position
      sourceBar := diagnostic.column_upToSourceBar document position
      caretBar := diagnostic.column_upToCaretBar document position line
      source := diagnostic.column_upToSource document position
      underline := diagnostic.column_upToUnderline document position line
      caret := diagnostic.column_upToCaret document position line
      bars_lt := by
        rw [column_upToBlankBar, column_upToSourceBar]
        exact Nat.lt_succ_of_le threeBytes
      gutter_lt := by
        rw [column_upToUnderline, column_upToSource]
        omega
      caret_lt := by
        rw [column_upToCaret, column_upToSource]
        omega }

/-- A loop with a break directive on its second line. -/
def loopPage : Document :=
  ⟨"page.stl", "<#list xs as x>\n<#break>\n</#list>".toList⟩

/-- What is said about the break directive. -/
def brokenLoop : Diagnostic :=
  { kind := .misplacedBreak
    span := ⟨16, 24, 2⟩
    message := "The break directive can only be used within a loop." }

/-- The marks of the break directive have columns. -/
theorem exists_columns_brokenLoop :
    Text.width loopPage.text < wordLimit ∧ (∀ span ∈ brokenLoop.spans, ¬loopPage.Overflows span) ∧
      ∃ position line, brokenLoop.Columns loopPage position line := by
  have short : Text.width loopPage.text < wordLimit := by decide +kernel
  have fits : ∀ span ∈ brokenLoop.spans, ¬loopPage.Overflows span := fun span _ overflows =>
    absurd overflows.width_eq (by decide +kernel)
  exact ⟨short, fits, exists_columns short fits⟩

/-- The carets under a break directive begin one column to the left of it. -/
theorem column_upToSource_brokenLoop_ne :
    let position : Position := ⟨⟨2, 1⟩, by decide, by decide⟩
    loopPage.position brokenLoop.span = .ok position ∧
      brokenLoop.render loopPage = .ok
        ("error: misplaced break: The break directive can only be used within a loop.\n"
          ++ "  --> page.stl:2:1\n   |\n  2 | <#break>\n   | ^^^^^^^^\n").toList ∧
      Text.column (brokenLoop.upToSource loopPage position) ≠
        Text.column (brokenLoop.upToUnderline loopPage position "<#break>".toList) ∧
      Text.column (brokenLoop.upToSourceBar loopPage position) ≠
        Text.column (brokenLoop.upToBlankBar loopPage position) ∧
      Text.column (brokenLoop.upToCaret loopPage position "<#break>".toList) + 1 =
        Text.column (brokenLoop.upToSource loopPage position) := by
  decide +kernel

end Diagnostic

end TemplateLanguage
