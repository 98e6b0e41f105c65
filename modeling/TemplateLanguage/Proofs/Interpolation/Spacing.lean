import TemplateLanguage.Proofs.Expr.Pieces
import TemplateLanguage.Proofs.Interpolation.Passing
import TemplateLanguage.Proofs.Token.Spacing

/-!
# Sections written with other blanks

Whether a section is accepted depends on its tokens, and they do not depend on the blanks
between them.  So a section that is accepted may be written with any other blanks, and so may
each section of a text that passes.
-/

namespace TemplateLanguage

namespace Lexer

variable {offset : Nat} {text : List Char}

/-- A text without fault is read up to some blanks. -/
theorem exists_reads_of_lexemes (sound : (lexemes offset text).2 = none) :
    ∃ blanks, (∀ char ∈ blanks, Token.isBlank char = true) ∧
      Reads text ((lexemes offset text).1.map Lexeme.token) blanks := by
  fun_induction lexemes offset text with
  | case1 offset text done => exact ⟨text, next_eq_done_iff.mp done, .nothing⟩
  | case2 => cases sound
  | case3 offset text lexeme rest read following ih =>
      obtain ⟨blanks, blank, reads⟩ := ih sound
      exact ⟨blanks, blank, .token (read?_of_next_eq_read read) reads⟩

/-- A text that is read to its end has no fault and the tokens that are read. -/
theorem lexemes_of_reads {tokens : List Token} (reads : Reads text tokens []) (offset : Nat) :
    (lexemes offset text).1.map Lexeme.token = tokens ∧ (lexemes offset text).2 = none := by
  -- the text that is left at the end is the same for all that is read before
  generalize ended : [] = after at reads
  induction reads generalizing offset with
  | nothing =>
      subst ended
      have done : next offset [] = .done := rfl
      rw [lexemes_of_done done]
      exact ⟨rfl, rfl⟩
  | token read _ ih =>
      obtain ⟨start, next⟩ := next_eq_read_of_read? read offset
      rw [lexemes_of_read next]
      exact ⟨congrArg _ (ih _ ended).1, (ih _ ended).2⟩

end Lexer

namespace Interpolation

/-- The scan of a text arrives at a section with some content, up to its closing brace, and the
section is recognized. -/
structure HoldsSection (text : List Char) (form : Form) (before content after : List Char) :
    Prop where
  text_eq : text = before ++ (form.opening ++ (content ++ after))
  scans : ScansTo (form.opening ++ (content ++ after)) text
  recognized : ∃ stop, recognize form (Text.width before) .initial (Text.width before + 2)
    (content ++ after) = .ok ⟨stop, after⟩

variable {text before content after : List Char} {form : Form}

/-- The content of a section is read to its end, as a section of the grammar. -/
theorem HoldsSection.isSection (holds : HoldsSection text form before content after) :
    Lexer.Reads content ((Lexer.lexemes 0 content).1.map Lexeme.token) [] ∧
      IsSection form ((Lexer.lexemes 0 content).1.map Lexeme.token) := by
  obtain ⟨stop, recognized⟩ := holds.recognized
  obtain ⟨inner, cut, _, same⟩ := exists_brace_of_recognize recognized
  have closed : content = inner ++ ['}'] := by
    have whole : content ++ after = inner ++ ['}'] ++ after := by
      rw [cut, List.append_assoc]
      rfl
    exact List.append_cancel_right whole
  obtain ⟨tokens, reads, isSection⟩ := (recognize_initial_eq_ok_iff _ _).mp ⟨_, same []⟩
  rw [← closed] at reads
  obtain ⟨kinds, _⟩ := Lexer.lexemes_of_reads reads 0
  rw [kinds]
  exact ⟨reads, isSection⟩

/-- Another text that is read as the tokens of a section may stand in its place. -/
theorem HoldsSection.replace (holds : HoldsSection text form before content after)
    {other : List Char} (sound : (Lexer.lexemes 0 other).2 = none)
    (kinds : (Lexer.lexemes 0 other).1.map Lexeme.token =
      (Lexer.lexemes 0 content).1.map Lexeme.token) :
    ∃ inner blanks, (∀ char ∈ blanks, Token.isBlank char = true) ∧ other = inner ++ blanks ∧
      HoldsSection (before ++ (form.opening ++ (other ++ after))) form before inner
        (blanks ++ after) := by
  obtain ⟨blanks, blank, reads⟩ := Lexer.exists_reads_of_lexemes sound
  obtain ⟨stop, recognized⟩ := (recognize_initial_eq_ok_iff (Text.width before)
    (Text.width before + 2)).mpr ⟨_, reads, kinds ▸ holds.isSection.2⟩
  obtain ⟨inner, cut, _, same⟩ := exists_brace_of_recognize recognized
  have closed : other = inner ++ ['}'] ++ blanks := by
    rw [cut, List.append_assoc]
    rfl
  have behind : other ++ after = inner ++ ['}'] ++ (blanks ++ after) := by
    rw [closed, List.append_assoc]
  have arrives := holds.scans
  rw [holds.text_eq] at arrives
  refine ⟨inner ++ ['}'], blanks, blank, closed, ?_, ?_, ?_⟩
  · rw [behind]
  · rw [behind]
    exact arrives.replace _
  · refine ⟨stop, ?_⟩
    rw [List.append_assoc]
    exact same (blanks ++ after)

/-- The scan of a text that passes goes on behind a section of it. -/
theorem HoldsSection.scans_after (holds : HoldsSection text form before content after)
    (scans : Scans text) : Scans after := by
  obtain ⟨stop, recognized⟩ := holds.recognized
  exact (scans_opening_of_recognize recognized).mp (holds.scans.scans scans)

/-- A text passes if the scan comes to a section of it and passes what stands behind. -/
theorem HoldsSection.scans_of_after (holds : HoldsSection text form before content after)
    (scans : Scans after) : Scans text := by
  obtain ⟨stop, recognized⟩ := holds.recognized
  exact ((scans_opening_of_recognize recognized).mpr scans).of_scansTo holds.scans

/-- A text that is written with other blanks has the same tokens with the same texts.  If it is
the content of a section, the section is recognized with the other blanks too, and the text
that holds it passes if it passed before. -/
theorem lexemes_and_holdsSection_respaced {content leading : List Char} {gaps : List (List Char)}
    (blank : ∀ char ∈ leading, Token.isBlank char = true)
    (areGaps : Lexer.AreGaps (Lexer.lexemes 0 content).1.length gaps) :
    ((Lexer.lexemes 0 (Lexer.respaced content leading gaps)).1.map Lexeme.token =
        (Lexer.lexemes 0 content).1.map Lexeme.token ∧
      (Lexer.lexemes 0 (Lexer.respaced content leading gaps)).1.map Lexeme.text =
        (Lexer.lexemes 0 content).1.map Lexeme.text ∧
      (Lexer.lexemes 0 (Lexer.respaced content leading gaps)).2 = none) ∧
    ∀ text form before after, HoldsSection text form before content after →
      ∃ inner blanks, (∀ char ∈ blanks, Token.isBlank char = true) ∧
        Lexer.respaced content leading gaps = inner ++ blanks ∧
        HoldsSection
          (before ++ (form.opening ++ (Lexer.respaced content leading gaps ++ after)))
          form before inner (blanks ++ after) ∧
        (check (String.ofList text) = .ok () →
          check (String.ofList
            (before ++ (form.opening ++ (Lexer.respaced content leading gaps ++ after)))) =
              .ok ()) := by
  have again := Lexer.lexemes_respaced content blank areGaps
  refine ⟨again, ?_⟩
  intro text form before after holds
  obtain ⟨kinds, _, sound⟩ := again
  obtain ⟨inner, blanks, blank, cut, replaced⟩ := holds.replace sound kinds
  refine ⟨inner, blanks, blank, cut, replaced, ?_⟩
  rw [check_eq_ok_iff, check_eq_ok_iff, String.toList_ofList, String.toList_ofList]
  intro scans
  exact replaced.scans_of_after (.blanks blank (holds.scans_after scans))

/-- The content of `${a??!r'}'[1..]}` with a blank on either side of each token. -/
theorem holdsSection_respaced_dense :
    (∀ char ∈ [' '], Token.isBlank char = true) ∧
      Lexer.AreGaps (Lexer.lexemes 0 "a??!r'\x7d'[1..]\x7d".toList).1.length
        (List.replicate 9 ['\n']) ∧
      Lexer.respaced "a??!r'\x7d'[1..]\x7d".toList [' '] (List.replicate 9 ['\n']) =
        " a\n??\n!\nr'\x7d'\n[\n1\n..\n]\n\x7d\n".toList ∧
      HoldsSection "$\x7ba??!r'\x7d'[1..]\x7d".toList .plain [] "a??!r'\x7d'[1..]\x7d".toList [] ∧
      check "$\x7b a\n??\n!\nr'\x7d'\n[\n1\n..\n]\n\x7d\n" = .ok () := by
  have blank : ∀ char ∈ [' '], Token.isBlank char = true := List.forall_mem_singleton.mpr rfl
  have areGaps : Lexer.AreGaps (Lexer.lexemes 0 "a??!r'\x7d'[1..]\x7d".toList).1.length
      (List.replicate 9 ['\n']) := by
    refine ⟨by with_unfolding_all rfl, ?_, ?_⟩
    · intro gap member
      rw [List.eq_of_mem_replicate member]
      exact List.forall_mem_singleton.mpr rfl
    · intro gap member
      rw [List.eq_of_mem_replicate (List.mem_of_mem_dropLast member)]
      exact List.cons_ne_nil _ _
  have spelled : Lexer.respaced "a??!r'\x7d'[1..]\x7d".toList [' '] (List.replicate 9 ['\n']) =
      " a\n??\n!\nr'\x7d'\n[\n1\n..\n]\n\x7d\n".toList := by
    with_unfolding_all rfl
  have holds : HoldsSection "$\x7ba??!r'\x7d'[1..]\x7d".toList .plain []
      "a??!r'\x7d'[1..]\x7d".toList [] :=
    ⟨by decide, .here, _, by with_unfolding_all rfl⟩
  have accepted : check (String.ofList "$\x7ba??!r'\x7d'[1..]\x7d".toList) = .ok () := by
    with_unfolding_all rfl
  obtain ⟨_, sections⟩ := lexemes_and_holdsSection_respaced blank areGaps
  obtain ⟨_, _, _, _, _, passes⟩ := sections _ .plain [] [] holds
  have again := passes accepted
  rw [spelled] at again
  exact ⟨blank, areGaps, spelled, holds, again⟩

end Interpolation

end TemplateLanguage
