import TemplateLanguage.Proofs.Interpolation.Completion
import TemplateLanguage.Proofs.Token.Lookahead

/-!
# Where a fault shows

The recognizer refuses the first token with which no section can go on: the
tokens before it begin some accepted section, and with it they begin none.  A
section is unterminated only where its tokens reach the end of the text and
begin some accepted section.

The check stops at the first section that is refused.  The scan arrives at that
section, and the recognizer starts at its offset.
-/

namespace TemplateLanguage

namespace Lexer

variable {offset : Nat} {text rest : List Char} {lexeme : Lexeme}

/-- The offset after a token counts the bytes that were read. -/
theorem exists_append_of_next_eq_read (read : next offset text = .read lexeme rest) :
    ∃ before, text = before ++ rest ∧ lexeme.stop = offset + Text.width before := by
  obtain ⟨blanks, _, rfl, start, _⟩ := next_eq_read_iff.mp read
  refine ⟨blanks ++ lexeme.text, (List.append_assoc ..).symm, ?_⟩
  rw [Lexeme.stop, start, Text.width_append, Nat.add_assoc]

end Lexer

namespace Interpolation

/-! ## Refused tokens -/

namespace Error

/-- Whether a fault is that of a token that cannot stand where it stands. -/
def refusesToken : Error → Bool
  | mismatchedDelimiter _ _ _ | unexpectedDelimiter _ _ | expectedExpression _ _
  | expectedName _ _ _ | unexpectedToken _ _ => true
  | unterminated _ | empty _ | unterminatedString _ | invalidCharacter _ _ => false

/-- A fault shows at a token, and what it says of the token is true. -/
def NamesToken (lexeme : Lexeme) : Error → Prop
  | mismatchedDelimiter offset expected found =>
      offset = lexeme.start ∧ lexeme.token.closer? = some found ∧ found ≠ expected
  | unexpectedDelimiter offset found =>
      offset = lexeme.start ∧ lexeme.token.closer? = some found
  | expectedExpression offset found | expectedName offset _ found
  | unexpectedToken offset found =>
      offset = lexeme.start ∧ found = String.ofList lexeme.text
  | unterminated _ | empty _ | unterminatedString _ | invalidCharacter _ _ => False

theorem NamesToken.refusesToken {lexeme : Lexeme} {error : Error}
    (named : error.NamesToken lexeme) :
    error.refusesToken = true ∧ error.offset = lexeme.start := by
  cases error with
  | mismatchedDelimiter | unexpectedDelimiter | expectedExpression | expectedName
  | unexpectedToken => exact ⟨rfl, named.1⟩
  | unterminated | empty | unterminatedString | invalidCharacter => exact named.elim

end Error

/-- Where a token is refused, the fault names it. -/
def Outcome.BlamesToken (lexeme : Lexeme) (outcome : Outcome) : Prop :=
  ∀ error, outcome = .refuse error → error.NamesToken lexeme

/-- A group is closed by the token whose character is due. -/
theorem Group.eq_closing_of_closer? {group : Group} {token : Token}
    (closes : token.closer? = some group.closingChar) : token = group.closing := by
  cases token with
  | rightParen | rightBracket | rightBrace =>
      cases group <;> first | rfl | cases closes
  | _ => cases closes

namespace State

variable {form : Form} {group : Group} {groups : List Group} {lexeme : Lexeme}

theorem blamesToken_operand : (operand groups lexeme).BlamesToken lexeme := by
  intro error refused
  rw [operand] at refused
  split at refused
  · cases refused
  · split at refused
    · cases refused
    · cases refused
      exact ⟨rfl, rfl⟩

theorem blamesToken_close : (close group groups lexeme).BlamesToken lexeme := by
  intro error refused
  rw [close] at refused
  split at refused
  · cases refused
  · split at refused
    · split at refused <;> cases refused
    · rename_i different
      split at refused
      · rename_i found closes
        cases refused
        refine ⟨rfl, closes, ?_⟩
        rintro rfl
        exact different (Group.eq_closing_of_closer? closes)
      · cases refused
        exact ⟨rfl, rfl⟩

theorem blamesToken_finish : (finish form lexeme).BlamesToken lexeme := by
  intro error refused
  rw [finish] at refused
  split at refused
  · cases refused
  · split at refused
    · cases refused
    · split at refused
      · rename_i closes
        cases refused
        exact ⟨rfl, closes⟩
      · cases refused
        exact ⟨rfl, rfl⟩

theorem blamesToken_operator : (operator form groups lexeme).BlamesToken lexeme := by
  intro error refused
  rw [operator] at refused
  split at refused
  · cases refused
  · split at refused
    · cases refused
    · cases groups with
      | nil => exact blamesToken_finish error refused
      | cons group outer => exact blamesToken_close error refused

theorem blamesToken_tail : (tail form groups lexeme).BlamesToken lexeme := by
  intro error refused
  rw [tail.eq_def] at refused
  split at refused <;> first | cases refused | exact blamesToken_operator error refused

/-- A refused token bears the fault, unless the section is empty. -/
theorem of_step_eq_refuse {start : Nat} {state : State} {error : Error}
    (refused : state.step form start lexeme = .refuse error) :
    error = .empty start ∨ error.NamesToken lexeme := by
  obtain ⟨expectation, groups⟩ := state
  cases expectation with
  | first =>
      simp only [step] at refused
      split at refused
      · cases refused
        exact Or.inl rfl
      · exact Or.inr (blamesToken_operand error refused)
  | operand => exact Or.inr (blamesToken_operand error refused)
  | firstItem =>
      simp only [step] at refused
      split at refused
      · cases refused
      · exact Or.inr (blamesToken_operand error refused)
  | tail => exact Or.inr (blamesToken_tail error refused)
  | fallback =>
      simp only [step] at refused
      split at refused
      · cases refused
      · exact Or.inr (blamesToken_tail error refused)
  | bound =>
      simp only [step] at refused
      split at refused
      · exact Or.inr (blamesToken_operand error refused)
      · exact Or.inr (blamesToken_operator error refused)
  | name after =>
      simp only [step] at refused
      split at refused
      · cases refused
      · cases refused
        exact Or.inr ⟨rfl, rfl⟩
  | format =>
      simp only [step] at refused
      split at refused <;> cases refused

end State

theorem refusesToken_lexicalError (offset : Nat) (char : Char) :
    (lexicalError offset char).refusesToken = false ∧
      ∀ start, lexicalError offset char ≠ .unterminated start := by
  rw [lexicalError]
  split
  · exact ⟨rfl, nofun⟩
  · exact ⟨rfl, nofun⟩

/-! ## The first fault of a section -/

/-- Tokens begin a sequence that is accepted, and are not all of it. -/
def Begins (accepts : List Token → Prop) (tokens : List Token) : Prop :=
  ∃ more, more ≠ [] ∧ accepts (tokens ++ more)

/-- At an offset stands the first token with which no accepted sequence begins:
the tokens before it begin one. -/
def FirstFault (accepts : List Token → Prop) (lexemes : List Lexeme) (offset : Nat) : Prop :=
  ∃ (position : Nat) (lexeme : Lexeme),
    lexemes[position]? = some lexeme ∧ lexeme.start = offset ∧
      Begins accepts ((lexemes.take position).map Lexeme.token) ∧
      ∀ more, ¬accepts ((lexemes.take (position + 1)).map Lexeme.token ++ more)

section

variable {accepts following : List Token → Prop} {lexeme : Lexeme} {lexemes : List Lexeme}

theorem begins_cons (goesOn : ∀ tokens, accepts (lexeme.token :: tokens) ↔ following tokens)
    {tokens : List Token} (begins : Begins following tokens) :
    Begins accepts (lexeme.token :: tokens) := by
  obtain ⟨more, filled, accepted⟩ := begins
  exact ⟨more, filled, (goesOn _).mpr accepted⟩

/-- A token that can stand where it stands leaves the first fault to the tokens
after it. -/
theorem FirstFault.cons (goesOn : ∀ tokens, accepts (lexeme.token :: tokens) ↔ following tokens)
    {offset : Nat} (fault : FirstFault following lexemes offset) :
    FirstFault accepts (lexeme :: lexemes) offset := by
  obtain ⟨position, at_, found, start, begins, excluded⟩ := fault
  refine ⟨position + 1, at_, found, start, begins_cons goesOn begins, ?_⟩
  intro more accepted
  exact excluded more ((goesOn _).mp accepted)

end

variable {form : Form}

/-- From every state something is missing. -/
theorem State.begins_nil (form : Form) (state : State) : Begins (state.Closes form) [] := by
  obtain ⟨tokens, closes⟩ := state.exists_closes form
  refine ⟨tokens, ?_, closes⟩
  rintro rfl
  exact State.not_closes_nil closes

/-- A section is refused at the first token with which none can go on, and is
unterminated only where its tokens reach the end of the text. -/
theorem fault_of_recognize {start offset : Nat} {state : State} {text : List Char}
    {error : Error} (refused : recognize form start state offset text = .error error) :
    (error.refusesToken = true →
      FirstFault (state.Closes form) (Lexer.lexemes offset text).1 error.offset) ∧
    ∀ opening, error = .unterminated opening →
      (Lexer.lexemes offset text).2 = none ∧
        Begins (state.Closes form) ((Lexer.lexemes offset text).1.map Lexeme.token) := by
  fun_induction recognize form start state offset text with
  | case1 state offset text done =>
      cases refused
      rw [Lexer.lexemes_of_done done]
      refine ⟨?_, ?_⟩
      · intro refusesToken
        cases refusesToken
      · intro _ _
        exact ⟨rfl, state.begins_nil form⟩
  | case2 state offset text position char stuck =>
      cases refused
      obtain ⟨lexical, unrelated⟩ := refusesToken_lexicalError position char
      refine ⟨?_, ?_⟩
      · intro refusesToken
        rw [lexical] at refusesToken
        cases refusesToken
      · intro opening unterminated
        exact absurd unterminated (unrelated opening)
  | case3 => cases refused
  | case4 state offset text lexeme rest read following goesOn ih =>
      have closes : ∀ tokens, state.Closes form (lexeme.token :: tokens) ↔
          following.Closes form tokens := by
        intro tokens
        rw [← State.admits_step start, goesOn]
        exact Iff.rfl
      obtain ⟨atToken, atEnd⟩ := ih refused
      rw [Lexer.lexemes_of_read read]
      refine ⟨?_, ?_⟩
      · intro refusesToken
        exact (atToken refusesToken).cons closes
      · intro opening unterminated
        obtain ⟨ended, begins⟩ := atEnd opening unterminated
        exact ⟨ended, begins_cons closes begins⟩
  | case5 state offset text lexeme rest read fault stopped =>
      cases refused
      have excluded : ∀ more, ¬state.Closes form (lexeme.token :: more) := by
        intro more
        rw [← State.admits_step start, stopped]
        exact id
      rw [Lexer.lexemes_of_read read]
      rcases State.of_step_eq_refuse stopped with rfl | named
      · refine ⟨?_, ?_⟩
        · intro refusesToken
          cases refusesToken
        · intro opening unterminated
          cases unterminated
      · refine ⟨?_, ?_⟩
        · intro _
          exact ⟨0, lexeme, rfl, named.refusesToken.2.symm, state.begins_nil form, excluded⟩
        · rintro opening rfl
          exact named.elim

/-! ## The first fault of a text -/

/-- A recognized section is followed by the rest of the text, at its offset. -/
theorem exists_append_of_recognize {start offset : Nat} {state : State} {text : List Char}
    {remainder : Remainder}
    (recognized : recognize form start state offset text = .ok remainder) :
    ∃ before, text = before ++ remainder.text ∧
      remainder.offset = offset + Text.width before := by
  fun_induction recognize form start state offset text with
  | case1 => cases recognized
  | case2 => cases recognized
  | case3 _ _ _ _ _ read =>
      cases recognized
      exact Lexer.exists_append_of_next_eq_read read
  | case4 _ _ _ _ _ read _ _ ih =>
      obtain ⟨first, rfl, stop⟩ := Lexer.exists_append_of_next_eq_read read
      obtain ⟨others, rfl, same⟩ := ih recognized
      refine ⟨first ++ others, (List.append_assoc ..).symm, ?_⟩
      rw [same, stop, Text.width_append, Nat.add_assoc]
  | case5 => cases recognized

/-- The scan arrives at a section of a text, the recognizer starts there, and it
ends in an error. -/
structure FailsIn (offset : Nat) (text : List Char) (error : Error) (form : Form)
    (before inside : List Char) : Prop where
  text_eq : text = before ++ (form.opening ++ inside)
  scans : ScansTo (form.opening ++ inside) text
  refused : recognize form (offset + Text.width before) .initial
    (offset + Text.width before + 2) inside = .error error

section

variable {offset : Nat} {text inside before : List Char} {error : Error}

theorem FailsIn.here (refused : recognize form offset .initial (offset + 2) inside =
    .error error) : FailsIn offset (form.opening ++ inside) error form [] inside :=
  ⟨rfl, .here, refused⟩

/-- What fails behind some text fails after it. -/
theorem FailsIn.after {passed rest : List Char}
    (fails : FailsIn (offset + Text.width passed) rest error form before inside)
    (scans : ∀ place, ScansTo place rest → ScansTo place (passed ++ rest)) :
    FailsIn offset (passed ++ rest) error form (passed ++ before) inside := by
  obtain ⟨cut, arrives, refused⟩ := fails
  refine ⟨?_, scans _ arrives, ?_⟩
  · rw [cut, List.append_assoc]
  · rw [Text.width_append, ← Nat.add_assoc]
    exact refused

/-- A section that is recognized is passed. -/
theorem FailsIn.after_section {opened : Form} {content : List Char} {remainder : Remainder}
    (recognized : recognize opened offset .initial (offset + 2) content = .ok remainder)
    (fails : FailsIn remainder.offset remainder.text error form before inside) :
    ∃ before, FailsIn offset (opened.opening ++ content) error form before inside := by
  obtain ⟨tokens, reads, isSection⟩ := (recognize_initial_eq_ok_iff offset _).mp ⟨_, recognized⟩
  obtain ⟨consumed, rfl, stop⟩ := exists_append_of_recognize recognized
  have width : Text.width (opened.opening ++ consumed) = 2 + Text.width consumed := by
    rw [Text.width_append]
    cases opened <;> rfl
  rw [stop, Nat.add_assoc, ← width] at fails
  refine ⟨opened.opening ++ consumed ++ before, ?_⟩
  rw [← List.append_assoc]
  apply fails.after
  intro place arrives
  rw [List.append_assoc]
  exact .interpolation reads isSection arrives

/-- A text that does not pass has a section that fails. -/
theorem exists_failsIn_of_checkFrom (refused : checkFrom offset text = .error error) :
    ∃ form before inside, FailsIn offset text error form before inside := by
  fun_induction checkFrom offset text with
  | case1 => cases refused
  | case2 => cases refused
  | case3 offset char rest ih =>
      obtain ⟨form, before, inside, fails⟩ := ih refused
      have width : offset + '\\'.utf8Size + char.utf8Size =
          offset + Text.width ['\\', char] := by
        rw [Text.width_cons, Text.width_cons, Text.width_nil, Nat.add_zero, Nat.add_assoc]
      rw [width] at fails
      exact ⟨form, _, inside, fails.after fun _ => .escape⟩
  | case4 offset rest remainder recognized ih =>
      obtain ⟨form, before, inside, fails⟩ := ih refused
      obtain ⟨before, fails⟩ := FailsIn.after_section recognized fails
      exact ⟨form, before, inside, fails⟩
  | case5 offset rest fault stopped =>
      cases refused
      exact ⟨.plain, [], rest, .here stopped⟩
  | case6 offset rest remainder recognized ih =>
      obtain ⟨form, before, inside, fails⟩ := ih refused
      obtain ⟨before, fails⟩ := FailsIn.after_section recognized fails
      exact ⟨form, before, inside, fails⟩
  | case7 offset rest fault stopped =>
      cases refused
      exact ⟨.numeric, [], rest, .here stopped⟩
  | case8 offset char rest notLast noBackslash noPlain noNumeric ih =>
      obtain ⟨form, before, inside, fails⟩ := ih refused
      have width : offset + char.utf8Size = offset + Text.width [char] := by
        rw [Text.width_cons, Text.width_nil, Nat.add_zero]
      rw [width] at fails
      refine ⟨form, _, inside, fails.after fun _ => .skip ?_ ?_⟩
      · exact ne_backslash_of_cases notLast noBackslash
      · exact ne_opening_append_of_cases noPlain noNumeric

end

/-- A check that fails names the first section that is refused, and in it the
first token with which no accepted section goes on.  Where it reports that the
section is unterminated, the tokens of the section reach the end of the text
and begin an accepted section. -/
theorem fault_of_check {text : String} {error : Error} (refused : check text = .error error) :
    ∃ form before inside, FailsIn 0 text.toList error form before inside ∧
      (error.refusesToken = true →
        FirstFault (Accepted form) (Lexer.lexemes (Text.width before + 2) inside).1
          error.offset) ∧
      ∀ opening, error = .unterminated opening →
        (Lexer.lexemes (Text.width before + 2) inside).2 = none ∧
          Begins (Accepted form)
            ((Lexer.lexemes (Text.width before + 2) inside).1.map Lexeme.token) := by
  obtain ⟨form, before, inside, fails⟩ := exists_failsIn_of_checkFrom refused
  have accepted : Accepted form = State.initial.Closes form := by
    funext tokens
    exact propext accepted_iff_isSection
  have fault := fault_of_recognize fails.refused
  rw [Nat.zero_add, ← accepted] at fault
  exact ⟨form, before, inside, fails, fault⟩

/-- A bracket cannot close the parenthesis of a call. -/
theorem fault_of_check_bracket :
    check "x $\x7bf(a]\x7d" = .error (.mismatchedDelimiter 7 ')' ']') ∧
      ∃ form before inside,
        FailsIn 0 "x $\x7bf(a]\x7d".toList (.mismatchedDelimiter 7 ')' ']') form before inside ∧
          FirstFault (Accepted form) (Lexer.lexemes (Text.width before + 2) inside).1 7 := by
  have refused : check "x $\x7bf(a]\x7d" = .error (.mismatchedDelimiter 7 ')' ']') := by
    with_unfolding_all rfl
  obtain ⟨form, before, inside, fails, atToken, _⟩ := fault_of_check refused
  exact ⟨refused, form, before, inside, fails, atToken rfl⟩

end Interpolation

end TemplateLanguage
