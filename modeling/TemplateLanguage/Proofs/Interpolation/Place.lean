import Mathlib.Data.List.Pairwise
import TemplateLanguage.Proofs.Interpolation.Guarded
import TemplateLanguage.Proofs.Interpolation.Passing
import TemplateLanguage.Proofs.Token.Tokenization

/-!
# What stands where a fault shows

A check fails in the first section that is refused.  The text before this section passes on
its own, and every section in it is closed in it.  A fault that is not about the section as a
whole shows behind its opening, and names the character or the token that stands there.
-/

namespace TemplateLanguage.Interpolation

variable {text before inside : List Char} {form : Form} {error : Error}

/-! ## Sections before a place -/

/-- What a scan comes to from the opening of a section stands behind the section. -/
theorem scansTo_opening_iff {place : List Char} :
    ScansTo place (form.opening ++ inside) ↔
      place = form.opening ++ inside ∨
        ∃ tokens after, Lexer.Reads inside tokens after ∧ IsSection form tokens ∧
          ScansTo place after := by
  constructor
  · intro arrives
    generalize cut : form.opening ++ inside = text at arrives
    cases arrives with
    | here => exact Or.inl rfl
    | escape => exact (opening_append_ne_backslash cut).elim
    | skip _ outside => exact (outside form inside cut.symm).elim
    | interpolation reads isSection arrives =>
        obtain ⟨rfl, rfl⟩ := opening_append_inj cut
        exact Or.inr ⟨_, _, reads, isSection, arrives⟩
  · rintro (rfl | ⟨tokens, after, reads, isSection, arrives⟩)
    · exact .here
    · exact .interpolation reads isSection arrives

/-- Of two places at which a scan arrives, it comes from one to the other. -/
theorem ScansTo.total {place other : List Char} (first : ScansTo place text)
    (second : ScansTo other text) : ScansTo place other ∨ ScansTo other place := by
  induction first with
  | here => exact Or.inr second
  | @escape char rest arrives ih =>
      generalize cut : '\\' :: char :: rest = whole at second
      cases second with
      | here =>
          rw [← cut]
          exact Or.inl (.escape arrives)
      | escape second =>
          cases cut
          exact ih second
      | skip plain => exact (plain (List.cons.inj cut).1.symm).elim
      | interpolation => exact (opening_append_ne_backslash cut.symm).elim
  | @skip char rest plain outside arrives ih =>
      generalize cut : char :: rest = whole at second
      cases second with
      | here =>
          rw [← cut]
          exact Or.inl (.skip plain outside arrives)
      | escape => exact (plain (List.cons.inj cut).1).elim
      | skip _ _ second =>
          cases cut
          exact ih second
      | interpolation => exact (outside _ _ cut).elim
  | @interpolation form inside after tokens reads isSection arrives ih =>
      rcases scansTo_opening_iff.mp second with rfl | ⟨others, behind, again, accepted, second⟩
      · exact Or.inl (.interpolation reads isSection arrives)
      -- both scans pass the same section, and the recognizer has one end for it
      · obtain ⟨stop, recognized⟩ :=
          (recognize_initial_eq_ok_iff 0 2).mpr ⟨tokens, reads, isSection⟩
        obtain ⟨end_, alike⟩ := (recognize_initial_eq_ok_iff 0 2).mpr ⟨others, again, accepted⟩
        cases recognized.symm.trans alike
        exact ih second

/-- A section that begins before a place at which the scan arrives is closed before it. -/
theorem exists_closed_of_scansTo {place skipped content : List Char} {opened : Form}
    (arrives : ScansTo place (before ++ place))
    (begins : ScansTo (opened.opening ++ content) (before ++ place))
    (cut : before ++ place = skipped ++ (opened.opening ++ content))
    (earlier : Text.width skipped < Text.width before) :
    ∃ closed after, before = skipped ++ (opened.opening ++ (closed ++ '}' :: after)) ∧
      recognize opened (Text.width skipped) .initial (Text.width skipped + 2) content =
        .ok ⟨Text.width skipped + 2 + Text.width closed + 1, after ++ place⟩ := by
  have shorter : Text.width place < Text.width (opened.opening ++ content) := by
    have same := congrArg Text.width cut
    rw [Text.width_append, Text.width_append skipped] at same
    omega
  -- the place is behind the section, so the scan does not come from it to the section
  have outside : ¬ScansTo (opened.opening ++ content) place := by
    intro again
    obtain ⟨more, rfl⟩ := again.suffix
    rw [Text.width_append more] at shorter
    omega
  have onward := (arrives.total begins).resolve_right outside
  rcases scansTo_opening_iff.mp onward with rfl | ⟨tokens, behind, reads, isSection, more⟩
  · exact absurd shorter (Nat.lt_irrefl _)
  · obtain ⟨after, rfl⟩ := more.suffix
    obtain ⟨stop, recognized⟩ :=
      (recognize_initial_eq_ok_iff (Text.width skipped) (Text.width skipped + 2)).mpr
        ⟨tokens, reads, isSection⟩
    obtain ⟨closed, rfl, rfl, _⟩ := exists_brace_of_recognize recognized
    refine ⟨closed, after, ?_, recognized⟩
    apply List.append_cancel_right
    rw [cut]
    simp only [List.append_assoc, List.cons_append]

/-! ## What a fault says -/

/-- A section is refused as a whole, at a character with which no token begins, or at one of its
tokens. -/
theorem cases_of_recognize {start offset : ℕ} {state : State}
    (refused : recognize form start state offset inside = .error error) :
    error = .unterminated start ∨ error = .empty start ∨
      (∃ passed char rest, inside = passed ++ char :: rest ∧
        error = lexicalError (offset + Text.width passed) char) ∨
      ∃ lexeme ∈ (Lexer.lexemes offset inside).1, error.NamesToken lexeme := by
  fun_induction recognize form start state offset inside with
  | case1 =>
      cases refused
      exact Or.inl rfl
  | case2 state offset inside position char stuck =>
      cases refused
      obtain ⟨blanks, others, _, cut, rfl, _⟩ := Lexer.next_eq_stuck_iff.mp stuck
      exact Or.inr (Or.inr (Or.inl ⟨blanks, char, others, cut, rfl⟩))
  | case3 => cases refused
  | case4 state offset inside lexeme rest read following goesOn ih =>
      rw [Lexer.lexemes_of_read read]
      rcases ih refused with whole | whole | ⟨passed, char, others, rfl, named⟩ |
        ⟨other, member, named⟩
      · exact Or.inl whole
      · exact Or.inr (Or.inl whole)
      · obtain ⟨consumed, rfl, stop⟩ := Lexer.exists_append_of_next_eq_read read
        refine Or.inr (Or.inr (Or.inl ⟨consumed ++ passed, char, others, ?_, ?_⟩))
        · rw [List.append_assoc]
        · rw [named, stop, Text.width_append, Nat.add_assoc]
      · exact Or.inr (Or.inr (Or.inr ⟨other, List.mem_cons_of_mem _ member, named⟩))
  | case5 state offset inside lexeme rest read fault stopped =>
      cases refused
      rw [Lexer.lexemes_of_read read]
      rcases State.of_step_eq_refuse stopped with whole | named
      · exact Or.inr (Or.inl whole)
      · exact Or.inr (Or.inr (Or.inr ⟨lexeme, List.mem_cons_self, named⟩))

/-- A text goes on with a place from an offset on. -/
def StandsAt (text : List Char) (offset : ℕ) (place : List Char) : Prop :=
  ∃ before, text = before ++ place ∧ offset = Text.width before

/-- A fault in the section that begins at an offset shows there, or behind its opening and names
the character or the token that stands where it shows. -/
def Error.ShowsIn (text : List Char) (start : ℕ) (inside : List Char) : Error → Prop
  | unterminated offset | empty offset => offset = start
  | invalidCharacter offset found | unexpectedDelimiter offset found =>
      start + 2 ≤ offset ∧ ∃ rest, StandsAt text offset (found :: rest)
  | mismatchedDelimiter offset expected found =>
      start + 2 ≤ offset ∧ (∃ rest, StandsAt text offset (found :: rest)) ∧ found ≠ expected
  | unterminatedString offset =>
      start + 2 ≤ offset ∧
        ∃ quote rest, StandsAt text offset (quote :: rest) ∧ Token.isQuote quote = true
  | expectedExpression offset found | expectedName offset _ found
  | unexpectedToken offset found =>
      start + 2 ≤ offset ∧ found ≠ "" ∧
        ∃! lexeme, lexeme ∈ (Lexer.lexemes (start + 2) inside).1 ∧ lexeme.start = offset ∧
          Text.slice? lexeme.start lexeme.stop text = some found.toList

theorem standsAt_inside (before : List Char) (form : Form) (passed place : List Char) :
    StandsAt (before ++ (form.opening ++ (passed ++ place)))
      (Text.width before + 2 + Text.width passed) place := by
  refine ⟨before ++ form.opening ++ passed, ?_, ?_⟩
  · simp only [List.append_assoc]
  · rw [Text.width_append, Text.width_append]
    cases form <;> rfl

section

variable {lexeme : Lexeme}

/-- A token of a section stands in the text behind the opening of the section. -/
theorem standsAt_of_mem_lexemes (form : Form)
    (member : lexeme ∈ (Lexer.lexemes (Text.width before + 2) inside).1) :
    Text.width before + 2 ≤ lexeme.start ∧
      ∃ rest, Token.ReadsAs lexeme.token lexeme.text rest ∧
        StandsAt (before ++ (form.opening ++ inside)) lexeme.start (lexeme.text ++ rest) := by
  obtain ⟨passed, rest, rfl, start, readsAs⟩ := Lexer.exists_of_mem_lexemes member
  rw [start]
  exact ⟨Nat.le_add_right _ _, rest, readsAs, standsAt_inside before form passed _⟩

theorem slice?_of_standsAt {rest : List Char}
    (stands : StandsAt text lexeme.start (lexeme.text ++ rest)) :
    Text.slice? lexeme.start lexeme.stop text = some lexeme.text := by
  obtain ⟨before, rfl, start⟩ := stands
  rw [Lexeme.stop, start, ← Text.width_append, ← List.append_assoc]
  exact Text.slice?_append before lexeme.text rest

/-- Two tokens of a text start at different offsets. -/
theorem eq_of_start_eq {offset : ℕ} {other : Lexeme}
    (first : lexeme ∈ (Lexer.lexemes offset text).1)
    (second : other ∈ (Lexer.lexemes offset text).1) (same : lexeme.start = other.start) :
    lexeme = other := by
  have apart : (Lexer.lexemes offset text).1.Pairwise fun earlier later =>
      earlier.start ≠ later.start := by
    refine (Lexer.pairwise_lexemes offset text).imp_of_mem ?_
    intro earlier later member _ behind
    have filled := Lexer.start_lt_stop_of_mem_lexemes member
    omega
  have symmetric : Std.Symm fun earlier later : Lexeme => earlier.start ≠ later.start :=
    ⟨fun _ _ => Ne.symm⟩
  by_contra different
  exact apart.forall first second different same

/-- A section has one token that starts at an offset. -/
theorem existsUnique_lexeme (form : Form)
    (member : lexeme ∈ (Lexer.lexemes (Text.width before + 2) inside).1) :
    String.ofList lexeme.text ≠ "" ∧
      ∃! other, other ∈ (Lexer.lexemes (Text.width before + 2) inside).1 ∧
        other.start = lexeme.start ∧
          Text.slice? other.start other.stop (before ++ (form.opening ++ inside)) =
            some (String.ofList lexeme.text).toList := by
  obtain ⟨_, rest, readsAs, stands⟩ := standsAt_of_mem_lexemes form member
  refine ⟨?_, lexeme, ⟨member, rfl, ?_⟩, ?_⟩
  · intro empty
    apply Token.text_ne_nil_of_read? readsAs.read?
    exact String.ofList_eq_empty_iff.mp empty
  · rw [String.toList_ofList]
    exact slice?_of_standsAt stands
  · rintro other ⟨found, same, _⟩
    exact eq_of_start_eq found member same

/-- A fault that names a token of a section shows where the token stands in the text. -/
theorem Error.NamesToken.showsIn (form : Form) (named : error.NamesToken lexeme)
    (member : lexeme ∈ (Lexer.lexemes (Text.width before + 2) inside).1) :
    error.ShowsIn (before ++ (form.opening ++ inside)) (Text.width before) inside := by
  obtain ⟨behind, rest, readsAs, stands⟩ := standsAt_of_mem_lexemes form member
  have spelled : ∀ char, lexeme.token.closer? = some char →
      StandsAt (before ++ (form.opening ++ inside)) lexeme.start (char :: rest) := by
    intro char closes
    rw [Token.eq_of_readsAs_of_closer? readsAs closes] at stands
    exact stands
  cases error with
  | unterminated | empty | unterminatedString | invalidCharacter => exact named.elim
  | mismatchedDelimiter offset expected found =>
      obtain ⟨rfl, closes, different⟩ := named
      exact ⟨behind, ⟨rest, spelled found closes⟩, different⟩
  | unexpectedDelimiter offset found =>
      obtain ⟨rfl, closes⟩ := named
      exact ⟨behind, rest, spelled found closes⟩
  | expectedExpression | expectedName | unexpectedToken =>
      obtain ⟨rfl, rfl⟩ := named
      exact ⟨behind, existsUnique_lexeme form member⟩

end

theorem showsIn_lexicalError (before : List Char) (form : Form) (passed : List Char)
    (char : Char) (rest : List Char) :
    (lexicalError (Text.width before + 2 + Text.width passed) char).ShowsIn
      (before ++ (form.opening ++ (passed ++ char :: rest))) (Text.width before)
      (passed ++ char :: rest) := by
  have behind : Text.width before + 2 ≤ Text.width before + 2 + Text.width passed :=
    Nat.le_add_right _ _
  have stands := standsAt_inside before form passed (char :: rest)
  rw [lexicalError]
  split
  · rename_i quote
    exact ⟨behind, char, rest, stands, quote⟩
  · exact ⟨behind, rest, stands⟩

/-- A section that is refused shows where. -/
theorem showsIn_of_recognize (refused : recognize form (Text.width before) .initial
    (Text.width before + 2) inside = .error error) :
    error.ShowsIn (before ++ (form.opening ++ inside)) (Text.width before) inside := by
  rcases cases_of_recognize refused with rfl | rfl | ⟨passed, char, rest, rfl, rfl⟩ |
    ⟨lexeme, member, named⟩
  · exact rfl
  · exact rfl
  · exact showsIn_lexicalError before form passed char rest
  · exact named.showsIn form member

/-! ## Where a check fails -/

/-- A check fails in a section: what stands before it passes, with every section in it closed,
and the fault shows in it. -/
structure FailsAt (text : List Char) (error : Error) (form : Form) (before inside : List Char) :
    Prop where
  fails : FailsIn 0 text error form before inside
  passes : check (String.ofList before) = .ok ()
  /-- A section that begins before this one ends before it, and is accepted. -/
  closed : ∀ (opened : Form) (skipped content : List Char),
    ScansTo (opened.opening ++ content) text → text = skipped ++ (opened.opening ++ content) →
      Text.width skipped < Text.width before →
        ∃ closed after, before = skipped ++ (opened.opening ++ (closed ++ '}' :: after)) ∧
          recognize opened (Text.width skipped) .initial (Text.width skipped + 2) content =
            .ok ⟨Text.width skipped + 2 + Text.width closed + 1,
              after ++ (form.opening ++ inside)⟩
  shows : error.ShowsIn text (Text.width before) inside

theorem FailsIn.failsAt (fails : FailsIn 0 text error form before inside) :
    FailsAt text error form before inside := by
  obtain ⟨rfl, arrives, refused⟩ := fails
  refine ⟨⟨rfl, arrives, refused⟩, ?_, ?_, ?_⟩
  · rw [check_eq_ok_iff, String.toList_ofList]
    exact arrives.scans_before
  · intro opened skipped content begins cut earlier
    exact exists_closed_of_scansTo arrives begins cut earlier
  · rw [Nat.zero_add] at refused
    exact showsIn_of_recognize refused

/-- Every step of a check has a result.  A check that fails shows where and why: at a character
or a token behind the opening of a section, or, where the section is empty or does not end, at
the section.  A section that is accepted ends just behind a closing brace in it. -/
theorem guardedCheck_and_failsAt (text : String) :
    guardedCheck text = .ok (check text) ∧
      (∀ error, check text = .error error →
        ∃ form before inside, FailsAt text.toList error form before inside) ∧
      ∀ (form : Form) (before inside : List Char) (stop : ℕ),
        text.toList = before ++ (form.opening ++ inside) →
          guardedSection text.toList form (Text.width before) = .ok (.ok stop) →
            ∃ content after, inside = content ++ '}' :: after ∧
              stop = Text.width before + 2 + Text.width content + 1 := by
  refine ⟨guardedCheck_eq text, ?_, ?_⟩
  · intro error refused
    obtain ⟨form, before, inside, fails⟩ := exists_failsIn_of_checkFrom refused
    exact ⟨form, before, inside, fails.failsAt⟩
  · intro form before inside stop cut accepted
    rw [cut, guardedSection_eq] at accepted
    cases recognized : recognize form (Text.width before) .initial (Text.width before + 2) inside
      with
    | error error =>
        rw [recognized] at accepted
        cases accepted
    | ok remainder =>
        rw [recognized] at accepted
        cases accepted
        obtain ⟨content, closes, stop, _⟩ := exists_brace_of_recognize recognized
        exact ⟨content, remainder.text, closes, stop⟩

/-- Behind an escaped character of two bytes and a section that is accepted, a bracket cannot
close the parenthesis of a call. -/
theorem guardedCheck_and_failsAt_escaped :
    check "\\é $\x7bx\x7d $\x7bf(a]\x7d" = .error (.mismatchedDelimiter 14 ')' ']') ∧
      guardedCheck "\\é $\x7bx\x7d $\x7bf(a]\x7d" =
        .ok (.error (.mismatchedDelimiter 14 ')' ']')) ∧
      (∃ form before inside, FailsAt "\\é $\x7bx\x7d $\x7bf(a]\x7d".toList
        (.mismatchedDelimiter 14 ')' ']') form before inside) ∧
      ∃ content after, "x\x7d $\x7bf(a]\x7d".toList = content ++ '}' :: after ∧
        8 = Text.width "\\é ".toList + 2 + Text.width content + 1 := by
  have refused : check "\\é $\x7bx\x7d $\x7bf(a]\x7d" =
      .error (.mismatchedDelimiter 14 ')' ']') := by
    with_unfolding_all rfl
  have accepted : guardedSection "\\é $\x7bx\x7d $\x7bf(a]\x7d".toList .plain
      (Text.width "\\é ".toList) = .ok (.ok 8) := by
    with_unfolding_all rfl
  obtain ⟨guarded, located, ends⟩ := guardedCheck_and_failsAt "\\é $\x7bx\x7d $\x7bf(a]\x7d"
  rw [refused] at guarded
  exact ⟨refused, guarded, located _ refused,
    ends .plain "\\é ".toList "x\x7d $\x7bf(a]\x7d".toList 8 rfl accepted⟩

end TemplateLanguage.Interpolation
