import TemplateLanguage.Interpolation.Check
import TemplateLanguage.Proofs.Interpolation.Recognition

/-!
# Which texts are accepted

The recognizer accepts a section exactly if the tokens from its opening brace on
begin with a section of the grammar, and it goes on just after those tokens.  So
a text with interpolations is accepted exactly if a scan from left to right,
which knows the grammar but no recognizer, reaches its end.
-/

namespace TemplateLanguage

namespace Lexer

/-- A text begins with these tokens, and some text is left after them. -/
inductive Reads : List Char → List Token → List Char → Prop
  | nothing {text : List Char} : Reads text [] text
  | token {text after : List Char} {tokens : List Token} {reading : Token.Reading} :
      Token.read? (text.dropWhile Token.isBlank) = some reading →
      Reads reading.rest tokens after → Reads text (reading.token :: tokens) after

variable {offset : Nat} {text after : List Char} {property : List Token → Prop}

theorem read?_of_next_eq_read {lexeme : Lexeme} {rest : List Char}
    (read : next offset text = .read lexeme rest) :
    Token.read? (text.dropWhile Token.isBlank) = some ⟨lexeme.token, lexeme.text, rest⟩ := by
  unfold next at read
  split at read
  · cases read
  · rename_i char others following
    split at read
    · cases read
    · rename_i reading success
      cases read
      rw [following, success]

/-- If a token is read next, some tokens with a property are read exactly if the
others make up for it. -/
theorem exists_reads_iff {lexeme : Lexeme} {rest : List Char} (filled : ¬property [])
    (read : next offset text = .read lexeme rest) :
    (∃ tokens, Reads text tokens after ∧ property tokens) ↔
      ∃ tokens, Reads rest tokens after ∧ property (lexeme.token :: tokens) := by
  have first := read?_of_next_eq_read read
  constructor
  · rintro ⟨_, reads, holds⟩
    cases reads with
    | nothing => exact (filled holds).elim
    | token found others =>
        rw [first] at found
        cases found
        exact ⟨_, others, holds⟩
  · rintro ⟨tokens, others, holds⟩
    exact ⟨_, .token first others, holds⟩

theorem not_exists_reads (filled : ¬property [])
    (unread : Token.read? (text.dropWhile Token.isBlank) = none) :
    ¬∃ tokens, Reads text tokens after ∧ property tokens := by
  rintro ⟨_, reads, holds⟩
  cases reads with
  | nothing => exact filled holds
  | token found _ =>
      rw [unread] at found
      cases found

theorem read?_of_next_eq_done (done : next offset text = .done) :
    Token.read? (text.dropWhile Token.isBlank) = none := by
  unfold next at done
  split at done
  · rename_i nothing
    rw [nothing]
    rfl
  · split at done <;> cases done

theorem read?_of_next_eq_stuck {position : Nat} {char : Char}
    (stuck : next offset text = .stuck position char) :
    Token.read? (text.dropWhile Token.isBlank) = none := by
  unfold next at stuck
  split at stuck
  · cases stuck
  · rename_i first others following
    split at stuck
    · rename_i unread
      rw [following, unread]
    · cases stuck

end Lexer

namespace Interpolation

variable {form : Form} {text after : List Char}

/-! ## Sections -/

/-- The recognizer succeeds from a state exactly if the text begins with tokens
that close the section from there, and stops just after them. -/
theorem recognize_eq_ok_iff {start offset : Nat} {state : State} :
    (∃ stop, recognize form start state offset text = .ok ⟨stop, after⟩) ↔
      ∃ tokens, Lexer.Reads text tokens after ∧ state.Closes form tokens := by
  fun_induction recognize form start state offset text with
  | case1 state offset text done =>
      constructor
      · rintro ⟨_, recognized⟩
        cases recognized
      · intro closed
        exact (Lexer.not_exists_reads State.not_closes_nil
          (Lexer.read?_of_next_eq_done done) closed).elim
  | case2 state offset text position char stuck =>
      constructor
      · rintro ⟨_, recognized⟩
        cases recognized
      · intro closed
        exact (Lexer.not_exists_reads State.not_closes_nil
          (Lexer.read?_of_next_eq_stuck stuck) closed).elim
  | case3 state offset text lexeme rest read complete =>
      have closes : ∀ tokens, state.Closes form (lexeme.token :: tokens) ↔ tokens = [] := by
        intro tokens
        rw [← State.admits_step start, complete]
        exact Iff.rfl
      rw [Lexer.exists_reads_iff State.not_closes_nil read]
      constructor
      · rintro ⟨_, recognized⟩
        cases recognized
        exact ⟨[], .nothing, (closes []).mpr rfl⟩
      · rintro ⟨tokens, reads, closed⟩
        cases (closes tokens).mp closed
        cases reads
        exact ⟨lexeme.stop, rfl⟩
  | case4 state offset text lexeme rest read following goesOn ih =>
      have closes : ∀ tokens, state.Closes form (lexeme.token :: tokens) ↔
          following.Closes form tokens := by
        intro tokens
        rw [← State.admits_step start, goesOn]
        exact Iff.rfl
      rw [Lexer.exists_reads_iff State.not_closes_nil read, ih]
      simp only [closes]
  | case5 state offset text lexeme rest read error refused =>
      have closes : ∀ tokens, ¬state.Closes form (lexeme.token :: tokens) := by
        intro tokens
        rw [← State.admits_step start, refused]
        exact id
      rw [Lexer.exists_reads_iff State.not_closes_nil read]
      constructor
      · rintro ⟨_, recognized⟩
        cases recognized
      · rintro ⟨tokens, _, closed⟩
        exact (closes tokens closed).elim

/-- The recognizer accepts exactly the sections of the grammar. -/
theorem recognize_initial_eq_ok_iff (start offset : Nat) :
    (∃ stop, recognize form start .initial offset text = .ok ⟨stop, after⟩) ↔
      ∃ tokens, Lexer.Reads text tokens after ∧ IsSection form tokens :=
  recognize_eq_ok_iff

/-! ## Texts -/

/-- The characters with which a section begins. -/
def Form.opening : Form → List Char
  | .plain => ['$', '{']
  | .numeric => ['#', '{']

/-- A scan of a text from left to right reaches its end. -/
inductive Scans : List Char → Prop
  | done : Scans []
  | lastBackslash : Scans ['\\']
  /-- A backslash takes the next character with it. -/
  | escape {char : Char} {rest : List Char} : Scans rest → Scans ('\\' :: char :: rest)
  /-- Where no section begins, the scan goes on with the next character. -/
  | skip {char : Char} {rest : List Char} : char ≠ '\\' →
      (∀ (form : Form) (inside : List Char), char :: rest ≠ form.opening ++ inside) →
      Scans rest → Scans (char :: rest)
  /-- After a section the scan goes on just behind its closing brace. -/
  | interpolation {form : Form} {inside after : List Char} {tokens : List Token} :
      Lexer.Reads inside tokens after → IsSection form tokens → Scans after →
      Scans (form.opening ++ inside)

theorem opening_append_inj {form other : Form} {inside others : List Char}
    (same : form.opening ++ inside = other.opening ++ others) :
    form = other ∧ inside = others := by
  cases form <;> cases other <;> cases same <;> exact ⟨rfl, rfl⟩

theorem opening_append_ne_backslash {form : Form} {inside rest : List Char} :
    form.opening ++ inside ≠ '\\' :: rest := by
  cases form <;> exact fun same => by cases same

theorem scans_escape_iff {char : Char} {rest : List Char} :
    Scans ('\\' :: char :: rest) ↔ Scans rest := by
  constructor
  · intro scans
    generalize cut : '\\' :: char :: rest = text at scans
    cases scans with
    | done => cases cut
    | lastBackslash => cases cut
    | escape scans =>
        cases cut
        exact scans
    | skip plain =>
        cases cut
        exact (plain rfl).elim
    | interpolation => exact (opening_append_ne_backslash cut.symm).elim
  · exact .escape

theorem scans_skip_iff {char : Char} {rest : List Char} (plain : char ≠ '\\')
    (outside : ∀ (form : Form) (inside : List Char), char :: rest ≠ form.opening ++ inside) :
    Scans (char :: rest) ↔ Scans rest := by
  constructor
  · intro scans
    generalize cut : char :: rest = text at scans
    cases scans with
    | done => cases cut
    | lastBackslash =>
        cases cut
        exact .done
    | escape =>
        cases cut
        exact (plain rfl).elim
    | skip _ _ scans =>
        cases cut
        exact scans
    | interpolation => exact (outside _ _ cut).elim
  · exact .skip plain outside

theorem scans_opening_iff {inside : List Char} :
    Scans (form.opening ++ inside) ↔
      ∃ tokens after, Lexer.Reads inside tokens after ∧ IsSection form tokens ∧ Scans after := by
  constructor
  · intro scans
    generalize cut : form.opening ++ inside = text at scans
    cases scans with
    | done => cases form <;> cases cut
    | lastBackslash => exact (opening_append_ne_backslash cut).elim
    | escape => exact (opening_append_ne_backslash cut).elim
    | skip _ outside => exact (outside form inside cut.symm).elim
    | interpolation reads isSection scans =>
        obtain ⟨rfl, rfl⟩ := opening_append_inj cut
        exact ⟨_, _, reads, isSection, scans⟩
  · rintro ⟨tokens, after, reads, isSection, scans⟩
    exact .interpolation reads isSection scans

/-- Where the recognizer stops, the scan goes on. -/
theorem scans_opening_of_recognize {start offset : Nat} {inside : List Char}
    {remainder : Remainder}
    (recognized : recognize form start .initial offset inside = .ok remainder) :
    Scans (form.opening ++ inside) ↔ Scans remainder.text := by
  rw [scans_opening_iff]
  constructor
  · rintro ⟨tokens, after, reads, isSection, scans⟩
    obtain ⟨stop, same⟩ :=
      (recognize_initial_eq_ok_iff start offset).mpr ⟨tokens, reads, isSection⟩
    rw [recognized] at same
    cases same
    exact scans
  · intro scans
    obtain ⟨tokens, reads, isSection⟩ :=
      (recognize_initial_eq_ok_iff start offset).mp ⟨_, recognized⟩
    exact ⟨tokens, _, reads, isSection, scans⟩

theorem not_scans_opening_of_recognize {start offset : Nat} {inside : List Char} {error : Error}
    (refused : recognize form start .initial offset inside = .error error) :
    ¬Scans (form.opening ++ inside) := by
  rw [scans_opening_iff]
  rintro ⟨tokens, after, reads, isSection, _⟩
  obtain ⟨stop, recognized⟩ :=
    (recognize_initial_eq_ok_iff start offset).mpr ⟨tokens, reads, isSection⟩
  rw [refused] at recognized
  cases recognized

theorem ne_backslash_of_cases {char : Char} {rest : List Char}
    (notLast : char = '\\' → rest = [] → False)
    (notFirst : ∀ next others, char = '\\' → rest = next :: others → False) :
    char ≠ '\\' := by
  intro backslash
  cases rest with
  | nil => exact notLast backslash rfl
  | cons next others => exact notFirst next others backslash rfl

theorem ne_opening_append_of_cases {char : Char} {rest : List Char}
    (noPlain : ∀ inside, char = '$' → rest = '{' :: inside → False)
    (noNumeric : ∀ inside, char = '#' → rest = '{' :: inside → False)
    (form : Form) (inside : List Char) : char :: rest ≠ form.opening ++ inside := by
  intro cut
  cases form with
  | plain => exact noPlain inside (List.cons.inj cut).1 (List.cons.inj cut).2
  | numeric => exact noNumeric inside (List.cons.inj cut).1 (List.cons.inj cut).2

/-- The check of the rest of a text succeeds exactly if the scan of it reaches
its end. -/
theorem checkFrom_eq_ok_iff {offset : Nat} :
    checkFrom offset text = .ok () ↔ Scans text := by
  fun_induction checkFrom offset text with
  | case1 => exact iff_of_true rfl .done
  | case2 => exact iff_of_true rfl .lastBackslash
  | case3 offset char rest ih => rw [ih, scans_escape_iff]
  | case4 offset rest remainder recognized ih =>
      rw [ih]
      exact (scans_opening_of_recognize recognized).symm
  | case5 offset rest error refused =>
      exact iff_of_false (fun accepted => by cases accepted)
        (not_scans_opening_of_recognize refused)
  | case6 offset rest remainder recognized ih =>
      rw [ih]
      exact (scans_opening_of_recognize recognized).symm
  | case7 offset rest error refused =>
      exact iff_of_false (fun accepted => by cases accepted)
        (not_scans_opening_of_recognize refused)
  | case8 offset char rest notLast noBackslash noPlain noNumeric ih =>
      rw [ih, scans_skip_iff (ne_backslash_of_cases notLast noBackslash)
        (ne_opening_append_of_cases noPlain noNumeric)]

/-- A text is accepted exactly if the scan reaches its end. -/
theorem check_eq_ok_iff (text : String) : check text = .ok () ↔ Scans text.toList :=
  checkFrom_eq_ok_iff

end Interpolation

end TemplateLanguage
