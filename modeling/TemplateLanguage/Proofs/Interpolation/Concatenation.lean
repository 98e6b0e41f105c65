import TemplateLanguage.Proofs.Interpolation.Fault

/-!
# Checking texts one after another

The recognizer looks no further than the closing brace of a section: what it
makes of the section is the same whatever stands behind the brace.  And it uses
offsets only to report them, so a text that stands further on is recognized
alike, with every offset moved.

So the check of two texts, one after the other, is the check of the second one
moved by the width of the first one, if the first one is accepted and nothing
that begins at its end goes on in the second one.
-/

namespace TemplateLanguage

/-! ## Moving a text -/

/-- A token that stands further on. -/
def Lexeme.shift (distance : Nat) (lexeme : Lexeme) : Lexeme :=
  { lexeme with start := lexeme.start + distance }

theorem Lexeme.stop_shift (distance : Nat) (lexeme : Lexeme) :
    (lexeme.shift distance).stop = lexeme.stop + distance :=
  Nat.add_right_comm lexeme.start distance (Text.width lexeme.text)

namespace Lexer

/-- A step in a text that stands further on. -/
def Step.shift (distance : Nat) : Step → Step
  | done => done
  | stuck offset char => stuck (offset + distance) char
  | read lexeme rest => read (lexeme.shift distance) rest

theorem next_add (offset distance : Nat) (text : List Char) :
    next (offset + distance) text = (next offset text).shift distance := by
  have start : ∀ width, offset + distance + width = offset + width + distance :=
    fun width => Nat.add_right_comm offset distance width
  unfold next
  split
  · rfl
  · split
    · simp only [Step.shift, start]
    · simp only [Step.shift, Lexeme.shift, start]

/-- What is left after some tokens is an end of the text. -/
theorem suffix_of_reads {text after : List Char} {tokens : List Token}
    (reads : Reads text tokens after) : after <:+ text := by
  induction reads with
  | nothing => exact List.suffix_rfl
  | token read _ ih =>
      have left := Token.append_of_read? read
      exact (ih.trans ⟨_, left⟩).trans (List.dropWhile_suffix _)

end Lexer

namespace Interpolation

/-- A fault in a text that stands further on. -/
def Error.shift (distance : Nat) : Error → Error
  | unterminated offset => unterminated (offset + distance)
  | empty offset => empty (offset + distance)
  | mismatchedDelimiter offset expected found =>
      mismatchedDelimiter (offset + distance) expected found
  | unexpectedDelimiter offset found => unexpectedDelimiter (offset + distance) found
  | unterminatedString offset => unterminatedString (offset + distance)
  | invalidCharacter offset found => invalidCharacter (offset + distance) found
  | expectedExpression offset found => expectedExpression (offset + distance) found
  | expectedName offset after found => expectedName (offset + distance) after found
  | unexpectedToken offset found => unexpectedToken (offset + distance) found

/-- An outcome in a text that stands further on. -/
def Outcome.shift (distance : Nat) : Outcome → Outcome
  | complete => complete
  | .continue state => .continue state
  | refuse error => refuse (error.shift distance)

/-- The end of a section in a text that stands further on. -/
def Remainder.shift (distance : Nat) (remainder : Remainder) : Remainder :=
  { remainder with offset := remainder.offset + distance }

namespace State

variable {form : Form} {distance : Nat}

theorem operand_shift (groups : List Group) (lexeme : Lexeme) :
    operand groups (lexeme.shift distance) = (operand groups lexeme).shift distance := by
  unfold operand
  rw [apply_ite (Outcome.shift distance)]
  refine if_congr Iff.rfl rfl ?_
  simp only [Lexeme.shift]
  cases primary? groups lexeme.token <;> rfl

theorem close_shift (group : Group) (groups : List Group) (lexeme : Lexeme) :
    close group groups (lexeme.shift distance) =
      (close group groups lexeme).shift distance := by
  unfold close
  rw [apply_ite (Outcome.shift distance), apply_ite (Outcome.shift distance),
    apply_ite (Outcome.shift distance)]
  refine if_congr Iff.rfl rfl (if_congr Iff.rfl (if_congr Iff.rfl rfl rfl) ?_)
  simp only [Lexeme.shift]
  cases lexeme.token.closer? <;> rfl

theorem finish_shift (lexeme : Lexeme) :
    finish form (lexeme.shift distance) = (finish form lexeme).shift distance := by
  unfold finish
  rw [apply_ite (Outcome.shift distance), apply_ite (Outcome.shift distance)]
  refine if_congr Iff.rfl rfl (if_congr Iff.rfl rfl ?_)
  simp only [Lexeme.shift]
  cases lexeme.token.closer? <;> rfl

theorem operator_shift (groups : List Group) (lexeme : Lexeme) :
    operator form groups (lexeme.shift distance) =
      (operator form groups lexeme).shift distance := by
  unfold operator
  rw [apply_ite (Outcome.shift distance), apply_ite (Outcome.shift distance)]
  refine if_congr Iff.rfl rfl (if_congr Iff.rfl rfl ?_)
  cases groups with
  | nil => exact finish_shift lexeme
  | cons group outer => exact close_shift group outer lexeme

theorem tail_shift (groups : List Group) (lexeme : Lexeme) :
    tail form groups (lexeme.shift distance) = (tail form groups lexeme).shift distance := by
  have operator : operator form groups (lexeme.shift distance) =
      (operator form groups lexeme).shift distance := operator_shift groups lexeme
  obtain ⟨token, text, start⟩ := lexeme
  cases token with
  | dot | question | doubleQuestion | leftBracket | leftParen | bang => rfl
  | _ => exact operator

theorem step_shift (start : Nat) (state : State) (lexeme : Lexeme) :
    state.step form (start + distance) (lexeme.shift distance) =
      (state.step form start lexeme).shift distance := by
  obtain ⟨expectation, groups⟩ := state
  cases expectation with
  | first =>
      simp only [step, apply_ite (Outcome.shift distance)]
      exact if_congr Iff.rfl rfl (operand_shift groups lexeme)
  | operand => exact operand_shift groups lexeme
  | firstItem =>
      simp only [step, apply_ite (Outcome.shift distance)]
      exact if_congr Iff.rfl rfl (operand_shift groups lexeme)
  | tail => exact tail_shift groups lexeme
  | fallback =>
      simp only [step, Lexeme.shift]
      cases primary? groups lexeme.token with
      | some state => rfl
      | none => exact tail_shift groups lexeme
  | bound =>
      simp only [step, apply_ite (Outcome.shift distance)]
      exact if_congr Iff.rfl (operand_shift groups lexeme) (operator_shift groups lexeme)
  | name after =>
      simp only [step, apply_ite (Outcome.shift distance)]
      exact if_congr Iff.rfl rfl rfl
  | format =>
      simp only [step, apply_ite (Outcome.shift distance)]
      exact if_congr Iff.rfl rfl rfl

end State

/-! ## Moving a section -/

variable {form : Form} {start offset distance : Nat} {state : State} {text : List Char}

section

variable {lexeme : Lexeme} {rest : List Char}

theorem recognize_of_done (done : Lexer.next offset text = .done) :
    recognize form start state offset text = .error (.unterminated start) := by
  rw [recognize]
  split
  · rfl
  · rename_i stuck
    rw [done] at stuck
    cases stuck
  · rename_i read
    rw [done] at read
    cases read

theorem recognize_of_stuck {position : Nat} {char : Char}
    (stuck : Lexer.next offset text = .stuck position char) :
    recognize form start state offset text = .error (lexicalError position char) := by
  rw [recognize]
  split
  · rename_i done
    rw [stuck] at done
    cases done
  · rename_i again
    rw [stuck] at again
    cases again
    rfl
  · rename_i read
    rw [stuck] at read
    cases read

/-- What becomes of a section after a token, if the rest of the text stands at
an offset. -/
def resume (form : Form) (start offset : Nat) (rest : List Char) :
    Outcome → Except Error Remainder
  | .complete => .ok ⟨offset, rest⟩
  | .continue following => recognize form start following offset rest
  | .refuse error => .error error

theorem recognize_of_read (read : Lexer.next offset text = .read lexeme rest) :
    recognize form start state offset text =
      resume form start lexeme.stop rest (state.step form start lexeme) := by
  rw [recognize]
  split
  · rename_i done
    rw [read] at done
    cases done
  · rename_i stuck
    rw [read] at stuck
    cases stuck
  · rename_i again
    rw [read] at again
    cases again
    cases state.step form start lexeme <;> rfl

end

theorem lexicalError_add (position : Nat) (char : Char) :
    lexicalError (position + distance) char = (lexicalError position char).shift distance := by
  unfold lexicalError
  rw [apply_ite (Error.shift distance)]
  rfl

theorem recognize_add_of_read {lexeme : Lexeme} {rest : List Char}
    (read : Lexer.next offset text = .read lexeme rest) :
    recognize form (start + distance) state (offset + distance) text =
      resume form (start + distance) (lexeme.stop + distance) rest
        ((state.step form start lexeme).shift distance) := by
  have moved : Lexer.next (offset + distance) text = .read (lexeme.shift distance) rest := by
    rw [Lexer.next_add, read]
    rfl
  rw [recognize_of_read moved, State.step_shift, Lexeme.stop_shift]

/-- What the recognizer makes of a section further on. -/
theorem recognize_add :
    recognize form (start + distance) state (offset + distance) text =
      ((recognize form start state offset text).map (Remainder.shift distance)).mapError
        (Error.shift distance) := by
  fun_induction recognize form start state offset text with
  | case1 state offset text done =>
      have moved : Lexer.next (offset + distance) text = .done := by
        rw [Lexer.next_add, done]
        rfl
      rw [recognize_of_done moved]
      rfl
  | case2 state offset text position char stuck =>
      have moved : Lexer.next (offset + distance) text = .stuck (position + distance) char := by
        rw [Lexer.next_add, stuck]
        rfl
      rw [recognize_of_stuck moved, lexicalError_add]
      rfl
  | case3 state offset text lexeme rest read complete =>
      rw [recognize_add_of_read read, complete]
      rfl
  | case4 state offset text lexeme rest read following goesOn ih =>
      rw [recognize_add_of_read read, goesOn]
      exact ih
  | case5 state offset text lexeme rest read error refused =>
      rw [recognize_add_of_read read, refused]
      rfl

/-! ## The end of a section -/

namespace State

variable {group : Group} {groups : List Group} {lexeme : Lexeme}

theorem operand_ne_complete : operand groups lexeme ≠ .complete := by
  intro complete
  rw [operand] at complete
  split at complete
  · cases complete
  · split at complete <;> cases complete

theorem close_ne_complete : close group groups lexeme ≠ .complete := by
  intro complete
  rw [close] at complete
  split at complete
  · cases complete
  · split at complete
    · split at complete <;> cases complete
    · split at complete <;> cases complete

theorem eq_rightBrace_of_finish (complete : finish form lexeme = .complete) :
    lexeme.token = .rightBrace := by
  rw [finish] at complete
  split at complete
  · assumption
  · split at complete
    · cases complete
    · split at complete <;> cases complete

theorem eq_rightBrace_of_operator (complete : operator form groups lexeme = .complete) :
    lexeme.token = .rightBrace := by
  rw [operator] at complete
  split at complete
  · cases complete
  · split at complete
    · cases complete
    · cases groups with
      | nil => exact eq_rightBrace_of_finish complete
      | cons group outer => exact absurd complete close_ne_complete

theorem eq_rightBrace_of_tail (complete : tail form groups lexeme = .complete) :
    lexeme.token = .rightBrace := by
  rw [tail.eq_def] at complete
  split at complete <;> first | cases complete | exact eq_rightBrace_of_operator complete

/-- Only the closing brace completes a section. -/
theorem eq_rightBrace_of_step (complete : state.step form start lexeme = .complete) :
    lexeme.token = .rightBrace := by
  obtain ⟨expectation, groups⟩ := state
  cases expectation with
  | first =>
      simp only [step] at complete
      split at complete
      · assumption
      · exact absurd complete operand_ne_complete
  | operand => exact absurd complete operand_ne_complete
  | firstItem =>
      simp only [step] at complete
      split at complete
      · cases complete
      · exact absurd complete operand_ne_complete
  | tail => exact eq_rightBrace_of_tail complete
  | fallback =>
      simp only [step] at complete
      split at complete
      · cases complete
      · exact eq_rightBrace_of_tail complete
  | bound =>
      simp only [step] at complete
      split at complete
      · exact absurd complete operand_ne_complete
      · exact eq_rightBrace_of_operator complete
  | name after =>
      simp only [step] at complete
      split at complete <;> cases complete
  | format =>
      simp only [step] at complete
      split at complete
      · assumption
      · cases complete

end State

/-- A recognized section ends with its closing brace, and is recognized alike
before every other text. -/
theorem exists_brace_of_recognize {remainder : Remainder}
    (recognized : recognize form start state offset text = .ok remainder) :
    ∃ content, text = content ++ '}' :: remainder.text ∧
      remainder.offset = offset + Text.width content + 1 ∧
      ∀ other, recognize form start state offset (content ++ '}' :: other) =
        .ok ⟨remainder.offset, other⟩ := by
  fun_induction recognize form start state offset text with
  | case1 => cases recognized
  | case2 => cases recognized
  | case3 state offset text lexeme rest read complete =>
      cases recognized
      obtain ⟨blanks, blank, rfl, start, readsAs⟩ := Lexer.next_eq_read_iff.mp read
      have brace := State.eq_rightBrace_of_step complete
      have spelled : lexeme.text = ['}'] := by
        rw [brace] at readsAs
        exact Token.eq_of_readsAs_of_closer? readsAs rfl
      refine ⟨blanks, ?_, ?_, ?_⟩
      · rw [spelled]
        rfl
      · rw [Lexeme.stop, start, spelled]
        rfl
      · intro other
        have again : Lexer.next offset (blanks ++ '}' :: other) = .read lexeme other := by
          refine Lexer.next_eq_read_iff.mpr ⟨blanks, blank, ?_, start, ?_⟩
          · rw [spelled]
            rfl
          · rw [brace, spelled]
            exact Token.readsAs_rightBrace other
        rw [recognize_of_read again, complete]
        rfl
  | case4 state offset text lexeme rest read following goesOn ih =>
      obtain ⟨content, rfl, stop, same⟩ := ih recognized
      obtain ⟨blanks, blank, rfl, start, readsAs⟩ := Lexer.next_eq_read_iff.mp read
      refine ⟨blanks ++ (lexeme.text ++ content), ?_, ?_, ?_⟩
      · simp only [List.append_assoc]
      · rw [stop, Lexeme.stop, start]
        simp only [Text.width_append, Nat.add_assoc]
      · intro other
        have unseen := Token.lookahead_append_cons (by decide : '}' ≠ '.') content other
          remainder.text
        have again : Lexer.next offset (blanks ++ (lexeme.text ++ content) ++ '}' :: other) =
            .read lexeme (content ++ '}' :: other) := by
          refine Lexer.next_eq_read_iff.mpr ⟨blanks, blank, ?_, start, ?_⟩
          · simp only [List.append_assoc]
          · exact readsAs.of_lookahead_eq unseen
        rw [recognize_of_read again, goesOn]
        exact same other
  | case5 => cases recognized

/-! ## Texts one after another -/

theorem checkFrom_escape (char : Char) (rest : List Char) :
    checkFrom offset ('\\' :: char :: rest) =
      checkFrom (offset + '\\'.utf8Size + char.utf8Size) rest := by
  rw [checkFrom]

theorem checkFrom_section {remainder : Remainder}
    (recognized : recognize form offset .initial (offset + 2) text = .ok remainder) :
    checkFrom offset (form.opening ++ text) = checkFrom remainder.offset remainder.text := by
  cases form <;>
  · simp only [Form.opening, List.cons_append, List.nil_append]
    rw [checkFrom]
    split
    · rename_i again
      rw [recognized] at again
      cases again
      rfl
    · rename_i refused
      rw [recognized] at refused
      cases refused

theorem checkFrom_of_refused {error : Error}
    (refused : recognize form offset .initial (offset + 2) text = .error error) :
    checkFrom offset (form.opening ++ text) = .error error := by
  cases form <;>
  · simp only [Form.opening, List.cons_append, List.nil_append]
    rw [checkFrom]
    split
    · rename_i recognized
      rw [refused] at recognized
      cases recognized
    · rename_i again
      rw [refused] at again
      cases again
      rfl

theorem checkFrom_skip {char : Char} {rest : List Char} (plain : char ≠ '\\')
    (outside : ∀ (form : Form) (inside : List Char), char :: rest ≠ form.opening ++ inside) :
    checkFrom offset (char :: rest) = checkFrom (offset + char.utf8Size) rest := by
  rw [checkFrom]
  · exact fun backslash _ => plain backslash
  · exact fun _ _ backslash _ => plain backslash
  · rintro inside rfl rfl
    exact outside .plain inside rfl
  · rintro inside rfl rfl
    exact outside .numeric inside rfl

/-- What the recognizer makes of a section of a text that stands further on. -/
theorem recognize_initial_add :
    recognize form (offset + distance) .initial (offset + distance + 2) text =
      ((recognize form offset .initial (offset + 2) text).map (Remainder.shift distance)).mapError
        (Error.shift distance) := by
  rw [Nat.add_right_comm]
  exact recognize_add

theorem checkFrom_section_add {remainder : Remainder}
    (recognized : recognize form offset .initial (offset + 2) text = .ok remainder)
    (following : checkFrom (remainder.offset + distance) remainder.text =
      (checkFrom remainder.offset remainder.text).mapError (Error.shift distance)) :
    checkFrom (offset + distance) (form.opening ++ text) =
      (checkFrom remainder.offset remainder.text).mapError (Error.shift distance) := by
  have moved : recognize form (offset + distance) .initial (offset + distance + 2) text =
      .ok (remainder.shift distance) := by
    rw [recognize_initial_add, recognized]
    rfl
  exact (checkFrom_section moved).trans following

theorem checkFrom_of_refused_add {error : Error}
    (refused : recognize form offset .initial (offset + 2) text = .error error) :
    checkFrom (offset + distance) (form.opening ++ text) = .error (error.shift distance) := by
  apply checkFrom_of_refused
  rw [recognize_initial_add, refused]
  rfl

/-- The check of a text that stands further on finds the same fault further
on. -/
theorem checkFrom_add :
    checkFrom (offset + distance) text =
      (checkFrom offset text).mapError (Error.shift distance) := by
  fun_induction checkFrom offset text with
  | case1 offset =>
      rw [checkFrom]
      rfl
  | case2 offset =>
      rw [checkFrom]
      rfl
  | case3 offset char rest ih =>
      have start : offset + distance + '\\'.utf8Size + char.utf8Size =
          offset + '\\'.utf8Size + char.utf8Size + distance := by
        omega
      rw [checkFrom_escape, start, ih]
  | case4 offset rest remainder recognized ih => exact checkFrom_section_add recognized ih
  | case5 offset rest error refused => exact checkFrom_of_refused_add refused
  | case6 offset rest remainder recognized ih => exact checkFrom_section_add recognized ih
  | case7 offset rest error refused => exact checkFrom_of_refused_add refused
  | case8 offset char rest notLast noBackslash noPlain noNumeric ih =>
      rw [checkFrom_skip (ne_backslash_of_cases notLast noBackslash)
        (ne_opening_append_of_cases noPlain noNumeric), Nat.add_right_comm, ih]

/-- Nothing that begins at the end of the first text goes on in the second
one: no escape, and no opening of a section. -/
structure Apart (first second : List Char) : Prop where
  noEscape : ¬ScansTo ['\\'] first
  noOpening : ¬((ScansTo ['$'] first ∨ ScansTo ['#'] first) ∧ second.head? = some '{')

section

variable {first second : List Char}

/-- What is passed at the beginning of a text has no part in how it ends. -/
theorem Apart.of_scansTo (apart : Apart first second) {rest : List Char}
    (passes : ∀ place, ScansTo place rest → ScansTo place first) : Apart rest second := by
  refine ⟨?_, ?_⟩
  · exact fun arrives => apart.noEscape (passes _ arrives)
  · rintro ⟨arrives, brace⟩
    exact apart.noOpening ⟨arrives.imp (passes _) (passes _), brace⟩

/-- Where no section begins in the first text, none begins with the second one
behind it. -/
theorem Apart.ne_opening_append {char : Char} {rest : List Char}
    (apart : Apart (char :: rest) second)
    (outside : ∀ (form : Form) (inside : List Char), char :: rest ≠ form.opening ++ inside)
    (form : Form) (inside : List Char) : char :: (rest ++ second) ≠ form.opening ++ inside := by
  intro cut
  cases rest with
  | nil =>
      cases form with
      | plain =>
          obtain ⟨rfl, rfl⟩ := List.cons.inj cut
          exact apart.noOpening ⟨Or.inl .here, rfl⟩
      | numeric =>
          obtain ⟨rfl, rfl⟩ := List.cons.inj cut
          exact apart.noOpening ⟨Or.inr .here, rfl⟩
  | cons next others =>
      cases form with
      | plain =>
          cases cut
          exact outside .plain others rfl
      | numeric =>
          cases cut
          exact outside .numeric others rfl

/-- Behind an accepted text the check goes on as if the other text began
there. -/
theorem checkFrom_append (scans : Scans first) (apart : Apart first second) :
    checkFrom offset (first ++ second) = checkFrom (offset + Text.width first) second := by
  induction scans generalizing offset with
  | done => rfl
  | lastBackslash => exact absurd .here apart.noEscape
  | escape _ ih =>
      rw [List.cons_append, List.cons_append, checkFrom_escape,
        ih (apart.of_scansTo fun _ => .escape), Text.width_cons, Text.width_cons,
        Nat.add_assoc, Nat.add_assoc]
  | skip plain outside _ ih =>
      rw [List.cons_append, checkFrom_skip plain (apart.ne_opening_append outside),
        ih (apart.of_scansTo fun _ => .skip plain outside), Text.width_cons, Nat.add_assoc]
  | @interpolation form inside after tokens reads isSection _ ih =>
      obtain ⟨stop, recognized⟩ :=
        (recognize_initial_eq_ok_iff offset (offset + 2)).mpr ⟨tokens, reads, isSection⟩
      obtain ⟨content, rfl, stop_eq, same⟩ := exists_brace_of_recognize recognized
      have following : checkFrom stop (after ++ second) =
          checkFrom (stop + Text.width after) second :=
        ih (apart.of_scansTo fun _ => .interpolation reads isSection)
      have width : Text.width form.opening = 2 := by
        cases form <;> rfl
      have brace : '}'.utf8Size = 1 := rfl
      have stop_width : stop + Text.width after =
          offset + Text.width (form.opening ++ (content ++ '}' :: after)) := by
        change stop = _ at stop_eq
        rw [stop_eq, Text.width_append, Text.width_append, Text.width_cons, width, brace]
        omega
      rw [stop_width] at following
      rw [List.append_assoc, List.append_assoc, List.cons_append,
        checkFrom_section (same (after ++ second)), following]

end

/-- A scan arrives at ends of the text only. -/
theorem ScansTo.suffix {place : List Char} (arrives : ScansTo place text) : place <:+ text := by
  induction arrives with
  | here => exact List.suffix_rfl
  | escape _ ih => exact ih.trans (List.suffix_append [_, _] _)
  | skip _ _ _ ih => exact ih.trans (List.suffix_cons _ _)
  | @interpolation form inside _ _ reads _ _ ih =>
      exact (ih.trans (Lexer.suffix_of_reads reads)).trans (List.suffix_append form.opening inside)

/-- Where the scan of an accepted text arrives, the rest of it is accepted. -/
theorem ScansTo.scans {place : List Char} (arrives : ScansTo place text) (scans : Scans text) :
    Scans place := by
  induction arrives with
  | here => exact scans
  | escape _ ih => exact ih (scans_escape_iff.mp scans)
  | skip plain outside _ ih => exact ih ((scans_skip_iff plain outside).mp scans)
  | interpolation reads isSection _ ih =>
      obtain ⟨stop, recognized⟩ :=
        (recognize_initial_eq_ok_iff 0 2).mpr ⟨_, reads, isSection⟩
      exact ih ((scans_opening_of_recognize recognized).mp scans)

/-- A section of an accepted text is closed, and is recognized alike before
every other text. -/
theorem exists_brace_of_scansTo {inside : List Char} (scans : Scans text)
    (arrives : ScansTo (form.opening ++ inside) text) :
    ∃ content after, inside = content ++ '}' :: after ∧
      ∀ start other, recognize form start .initial (start + 2) (content ++ '}' :: other) =
        .ok ⟨start + 2 + Text.width content + 1, other⟩ := by
  obtain ⟨tokens, after, reads, isSection, _⟩ := scans_opening_iff.mp (arrives.scans scans)
  obtain ⟨stop, recognized⟩ :=
    (recognize_initial_eq_ok_iff 0 2).mpr ⟨tokens, reads, isSection⟩
  obtain ⟨content, rfl, stop_eq, same⟩ := exists_brace_of_recognize recognized
  refine ⟨content, after, rfl, ?_⟩
  intro start other
  have moved : recognize form (0 + start) .initial (0 + start + 2) (content ++ '}' :: other) =
      .ok ⟨stop + start, other⟩ := by
    rw [recognize_initial_add, same other]
    rfl
  have place : stop + start = start + 2 + Text.width content + 1 := by
    change stop = _ at stop_eq
    omega
  rw [Nat.zero_add, place] at moved
  exact moved

/-- An accepted text does not matter to the check of a text behind it, if
nothing that begins at its end goes on there: the two texts pass if the second
one does, and otherwise show its fault further on.  Nor does the text behind
matter to the sections of the accepted text. -/
theorem check_append {first second : String} (accepted : check first = .ok ())
    (apart : Apart first.toList second.toList) :
    check (first ++ second) =
        (check second).mapError (Error.shift (Text.width first.toList)) ∧
      ∀ (form : Form) (inside : List Char), ScansTo (form.opening ++ inside) first.toList →
        ∃ content after, inside = content ++ '}' :: after ∧
          ∀ start other, recognize form start .initial (start + 2) (content ++ '}' :: other) =
            .ok ⟨start + 2 + Text.width content + 1, other⟩ := by
  have scans := (check_eq_ok_iff first).mp accepted
  refine ⟨?_, ?_⟩
  · rw [check, String.toList_append, checkFrom_append scans apart]
    exact checkFrom_add
  · intro form inside arrives
    exact exists_brace_of_scansTo scans arrives

/-- A brace in a string closes no section, and the apostrophe behind the section
is never read as a quote. -/
theorem check_append_apostrophe :
    check "$\x7bf('\x7d')\x7d isn't " = .ok () ∧
      check "\" $\x7bb)\x7d" = .error (.unexpectedDelimiter 5 ')') ∧
      check ("$\x7bf('\x7d')\x7d isn't " ++ "\" $\x7bb)\x7d") =
        .error (.unexpectedDelimiter 21 ')') := by
  have accepted : check "$\x7bf('\x7d')\x7d isn't " = .ok () := by
    with_unfolding_all rfl
  have refused : check "\" $\x7bb)\x7d" = .error (.unexpectedDelimiter 5 ')') := by
    with_unfolding_all rfl
  have apart : Apart "$\x7bf('\x7d')\x7d isn't ".toList "\" $\x7bb)\x7d".toList := by
    refine ⟨?_, ?_⟩
    · exact fun arrives => absurd arrives.suffix (by decide +kernel)
    · exact fun opening => absurd opening.2 (by decide +kernel)
  refine ⟨accepted, refused, ?_⟩
  rw [(check_append accepted apart).1, refused]
  with_unfolding_all rfl

end Interpolation

end TemplateLanguage
