import TemplateLanguage.Proofs.Interpolation.Place

/-!
# Where a check cannot read on

A check stops at an offset where the scan arrives at a section, the tokens of the section before the
offset begin one of the grammar, and no token begins at the offset.  This is known without the
recognizer, and it is where a check fails over a character and not over a token.

The first character decides which fault is reported.  A quote opens a string that is not closed.
Everything else counts as an invalid character, and with one exception no token begins with what
stands there: the exception is the `r` of a raw string that is not closed, which is not reported as
such a string, though a name could begin with it.
-/

namespace TemplateLanguage

namespace Token

/-- A string with escapes begins here, closed or not. -/
def OpensCooked (place : List Char) : Prop :=
  ∃ quote rest, place = quote :: rest ∧ isQuote quote = true

/-- A raw string begins here, closed or not. -/
def OpensRaw (place : List Char) : Prop :=
  ∃ quote rest, place = 'r' :: quote :: rest ∧ isQuote quote = true

/-- A literal of a string begins here, closed or not. -/
def OpensLiteral (place : List Char) : Prop :=
  OpensCooked place ∨ OpensRaw place

/-- No text of a token stands here. -/
def BeginsNone (place : List Char) : Prop :=
  ∀ (token : Token) (beginning : List Char), beginning ∈ token.pattern → beginning ≠ [] →
    ¬beginning <+: place

variable {place : List Char}

theorem opensCooked_cons_iff {char : Char} {rest : List Char} :
    OpensCooked (char :: rest) ↔ isQuote char = true := by
  constructor
  · rintro ⟨quote, others, cut, isQuote⟩
    rw [(List.cons.inj cut).1]
    exact isQuote
  · exact fun isQuote => ⟨char, rest, rfl, isQuote⟩

theorem OpensRaw.not_opensCooked (raw : OpensRaw place) : ¬OpensCooked place := by
  obtain ⟨_, _, rfl, _⟩ := raw
  rw [opensCooked_cons_iff]
  exact Bool.false_ne_true

theorem opensLiteral_and_not_opensRaw_iff :
    OpensLiteral place ∧ ¬OpensRaw place ↔ OpensCooked place := by
  constructor
  · rintro ⟨literal, noRaw⟩
    exact literal.resolve_right noRaw
  · exact fun cooked => ⟨Or.inl cooked, fun raw => raw.not_opensCooked cooked⟩

/-- With the first character of a raw string a name could begin. -/
theorem OpensRaw.not_beginsNone (raw : OpensRaw place) : ¬BeginsNone place := by
  obtain ⟨quote, rest, rfl, _⟩ := raw
  intro none
  have isName : ['r'] ∈ name.pattern := mem_pattern_name.mpr rfl
  exact none name ['r'] isName (List.cons_ne_nil _ _) ⟨quote :: rest, rfl⟩

/-- Where no token can be read, a raw string that begins is not closed. -/
theorem Unreadable.unclosedRaw_iff (unreadable : Unreadable place) :
    UnclosedRaw place ↔ OpensRaw place := by
  constructor
  · rintro ⟨quote, others, isQuote, rfl, _⟩
    exact ⟨quote, others, rfl, isQuote⟩
  · exact fun raw => unreadable.resolve_left raw.not_beginsNone

/-- Where no token can be read, some token begins only with a raw string. -/
theorem Unreadable.beginsNone_iff (unreadable : Unreadable place) :
    BeginsNone place ↔ ¬OpensRaw place := by
  constructor
  · exact fun none raw => raw.not_beginsNone none
  · exact fun noRaw => unreadable.resolve_right fun unclosed =>
      noRaw (unreadable.unclosedRaw_iff.mp unclosed)

end Token

namespace Lexer

theorem lexemes_of_stuck {offset position : ℕ} {text : List Char} {char : Char}
    (stuck : next offset text = .stuck position char) :
    lexemes offset text = ([], some position) := by
  rw [lexemes]
  split
  · rename_i done
    rw [stuck] at done
    cases done
  · rename_i again
    rw [stuck] at again
    cases again
    rfl
  · rename_i read
    rw [stuck] at read
    cases read

end Lexer

namespace Interpolation

open Token

/-- A token after which a section goes on leaves to the next state what it asks for. -/
theorem State.closes_cons_of_continue {form : Form} {start : ℕ} {state following : State}
    {lexeme : Lexeme} (goesOn : state.step form start lexeme = .continue following)
    (tokens : List Token) :
    state.Closes form (lexeme.token :: tokens) ↔ following.Closes form tokens := by
  rw [← admits_step start, goesOn]
  exact Iff.rfl

variable {form : Form} {text inside place : List Char} {error : Error} {start offset : ℕ}

/-! ## Faults over a character -/

/-- Whether a fault is that of a character at which no token begins. -/
def Error.isLexical : Error → Bool
  | unterminatedString _ | invalidCharacter _ _ => true
  | unterminated _ | empty _ | mismatchedDelimiter _ _ _ | unexpectedDelimiter _ _
  | expectedExpression _ _ | expectedName _ _ _ | unexpectedToken _ _ => false

theorem isLexical_lexicalError (offset : ℕ) (char : Char) :
    (lexicalError offset char).isLexical = true ∧ (lexicalError offset char).offset = offset := by
  rw [lexicalError]
  split <;> exact ⟨rfl, rfl⟩

/-- The character at which no token begins decides between the two faults. -/
theorem lexicalError_eq_unterminatedString_iff {char : Char} :
    lexicalError offset char = .unterminatedString offset ↔ isQuote char = true := by
  rw [lexicalError]
  split
  · exact iff_of_true rfl ‹_›
  · exact iff_of_false (by simp) ‹_›

theorem lexicalError_eq_invalidCharacter_iff {char found : Char} :
    lexicalError offset char = .invalidCharacter offset found ↔
      char = found ∧ ¬isQuote char = true := by
  rw [lexicalError]
  split
  · exact iff_of_false (by simp) fun both => both.2 ‹_›
  · constructor
    · rintro same
      cases same
      exact ⟨rfl, ‹_›⟩
    · rintro ⟨rfl, _⟩
      rfl

theorem Error.NamesToken.isLexical {lexeme : Lexeme} (named : error.NamesToken lexeme) :
    error.isLexical = false := by
  cases error with
  | unterminatedString | invalidCharacter => exact named.elim
  | _ => rfl

/-- A section is refused over a character exactly where its tokens leave off before the end of the
text, and these begin what the state asks for. -/
theorem fault_of_recognize_of_isLexical {state : State}
    (refused : recognize form start state offset inside = .error error)
    (lexical : error.isLexical = true) :
    (Lexer.lexemes offset inside).2 = some error.offset ∧
      Begins (state.Closes form) ((Lexer.lexemes offset inside).1.map Lexeme.token) := by
  fun_induction recognize form start state offset inside with
  | case1 =>
      cases refused
      cases lexical
  | case2 state offset inside position char stuck =>
      cases refused
      rw [Lexer.lexemes_of_stuck stuck, (isLexical_lexicalError position char).2]
      exact ⟨rfl, state.begins_nil form⟩
  | case3 => cases refused
  | case4 state offset inside lexeme rest read following goesOn ih =>
      have closes : ∀ tokens, state.Closes form (lexeme.token :: tokens) ↔
          following.Closes form tokens :=
        State.closes_cons_of_continue goesOn
      obtain ⟨fault, begins⟩ := ih refused
      rw [Lexer.lexemes_of_read read]
      exact ⟨fault, begins_cons closes begins⟩
  | case5 state offset inside lexeme rest read fault stopped =>
      cases refused
      rcases State.of_step_eq_refuse stopped with rfl | named
      · cases lexical
      · rw [named.isLexical] at lexical
        cases lexical

/-- A section whose tokens begin what the state asks for, and leave off before the end of the text,
is refused over the character that stands there. -/
theorem recognize_of_fault (form : Form) (start : ℕ) (state : State) {position : ℕ}
    (fault : (Lexer.lexemes offset inside).2 = some position)
    (begins : Begins (state.Closes form) ((Lexer.lexemes offset inside).1.map Lexeme.token)) :
    ∃ passed char rest, inside = passed ++ char :: rest ∧
      position = offset + Text.width passed ∧ Unreadable (char :: rest) ∧
        recognize form start state offset inside = .error (lexicalError position char) := by
  fun_induction recognize form start state offset inside with
  | case1 state offset inside done =>
      rw [Lexer.lexemes_of_done done] at fault
      cases fault
  | case2 state offset inside place char stuck =>
      rw [Lexer.lexemes_of_stuck stuck] at fault
      cases fault
      obtain ⟨blanks, others, _, cut, behind, _, unread⟩ := Lexer.next_eq_stuck_iff.mp stuck
      exact ⟨blanks, char, others, cut, behind, read?_eq_none_iff.mp unread, rfl⟩
  | case3 state offset inside lexeme rest read complete =>
      rw [Lexer.lexemes_of_read read] at begins
      obtain ⟨more, filled, closes⟩ := begins
      rw [List.map_cons, List.cons_append, ← State.admits_step start, complete] at closes
      exact absurd (List.append_eq_nil_iff.mp closes).2 filled
  | case4 state offset inside lexeme rest read following goesOn ih =>
      rw [Lexer.lexemes_of_read read] at fault begins
      obtain ⟨more, filled, closes⟩ := begins
      obtain ⟨passed, char, others, rfl, behind, unreadable, refused⟩ :=
        ih fault ⟨more, filled, (State.closes_cons_of_continue goesOn _).mp closes⟩
      obtain ⟨consumed, rfl, stop⟩ := Lexer.exists_append_of_next_eq_read read
      refine ⟨consumed ++ passed, char, others, ?_, ?_, unreadable, refused⟩
      · rw [List.append_assoc]
      · rw [behind, stop, Text.width_append, Nat.add_assoc]
  | case5 state offset inside lexeme rest read fault stopped =>
      rw [Lexer.lexemes_of_read read] at begins
      obtain ⟨more, _, closes⟩ := begins
      rw [List.map_cons, List.cons_append, ← State.admits_step start, stopped] at closes
      exact closes.elim

/-! ## Stops -/

/-- What a check makes of the text from a place on at which its scan arrives. -/
theorem ScansTo.checkFrom_eq (arrives : ScansTo place text) (offset : ℕ) :
    ∃ passed, text = passed ++ place ∧
      checkFrom offset text = checkFrom (offset + Text.width passed) place := by
  induction arrives generalizing offset with
  | here => exact ⟨[], rfl, rfl⟩
  | @escape char rest _ ih =>
      obtain ⟨passed, rfl, onward⟩ := ih (offset + '\\'.utf8Size + char.utf8Size)
      refine ⟨'\\' :: char :: passed, rfl, ?_⟩
      rw [checkFrom_escape, onward, Text.width_cons, Text.width_cons]
      simp only [Nat.add_assoc]
  | @skip char rest plain outside _ ih =>
      obtain ⟨passed, rfl, onward⟩ := ih (offset + char.utf8Size)
      refine ⟨char :: passed, rfl, ?_⟩
      rw [checkFrom_skip plain outside, onward, Text.width_cons, Nat.add_assoc]
  | @interpolation form inside after tokens reads isSection _ ih =>
      obtain ⟨stop, recognized⟩ :=
        (recognize_initial_eq_ok_iff offset (offset + 2)).mpr ⟨tokens, reads, isSection⟩
      obtain ⟨content, rfl, ends⟩ := exists_append_of_recognize recognized
      obtain ⟨passed, cut, onward⟩ := ih stop
      refine ⟨form.opening ++ (content ++ passed), ?_, ?_⟩
      · simp only [cut, List.append_assoc]
      · have width : Text.width (form.opening ++ (content ++ passed)) =
            2 + Text.width content + Text.width passed := by
          rw [Text.width_append, Text.width_append, ← Nat.add_assoc]
          cases form <;> rfl
        have stop_eq : stop = offset + 2 + Text.width content := ends
        rw [checkFrom_section recognized, onward, stop_eq, width]
        simp only [Nat.add_assoc]

/-- A text goes on in one way from an offset on. -/
theorem StandsAt.unique {other : List Char} (first : StandsAt text offset place)
    (second : StandsAt text offset other) : place = other := by
  obtain ⟨before, rfl, rfl⟩ := first
  obtain ⟨skipped, cut, width⟩ := second
  have again := Text.cut?_append before place
  rw [cut, width, Text.cut?_append] at again
  exact (congrArg Prod.snd (Option.some.inj again)).symm

/-- A check comes to a section whose tokens begin one of the grammar, and leave off at an offset
before the end of the text. -/
structure StopsIn (text : List Char) (offset : ℕ) (form : Form) (before inside : List Char) :
    Prop where
  text_eq : text = before ++ (form.opening ++ inside)
  scans : ScansTo (form.opening ++ inside) text
  fault : (Lexer.lexemes (Text.width before + 2) inside).2 = some offset
  begins : Begins (IsSection form)
    ((Lexer.lexemes (Text.width before + 2) inside).1.map Lexeme.token)

/-- A check cannot read on at an offset, where the text goes on with a place. -/
def StopsAt (text : List Char) (offset : ℕ) (place : List Char) : Prop :=
  StandsAt text offset place ∧ ∃ form before inside, StopsIn text offset form before inside

/-- Where a check fails over a character, it could not read on. -/
theorem exists_stopsAt_of_check {text : String} (refused : check text = .error error)
    (lexical : error.isLexical = true) : ∃ place, StopsAt text.toList error.offset place := by
  obtain ⟨form, before, inside, cut, arrives, refused⟩ := exists_failsIn_of_checkFrom refused
  rw [Nat.zero_add] at refused
  obtain ⟨fault, begins⟩ := fault_of_recognize_of_isLexical refused lexical
  obtain ⟨passed, char, rest, rfl, offset_eq, _⟩ := Lexer.exists_of_fault fault
  refine ⟨char :: rest, ?_, form, before, _, cut, arrives, fault, begins⟩
  rw [cut, offset_eq]
  exact standsAt_inside before form passed _

/-- Where a check cannot read on, it fails over the character that stands there, and no token can
be read there. -/
theorem StopsAt.check_eq {text : String} (stops : StopsAt text.toList offset place) :
    Unreadable place ∧
      ∃ char rest, place = char :: rest ∧ check text = .error (lexicalError offset char) := by
  obtain ⟨stands, form, before, inside, cut, arrives, fault, begins⟩ := stops
  obtain ⟨passed, char, rest, rfl, rfl, unreadable, refused⟩ :=
    recognize_of_fault form (Text.width before) .initial fault begins
  have here := standsAt_inside before form passed (char :: rest)
  rw [← cut] at here
  obtain rfl := stands.unique here
  obtain ⟨skipped, again, onward⟩ := arrives.checkFrom_eq 0
  rw [cut] at again
  obtain rfl := List.append_cancel_right again
  rw [Nat.zero_add, checkFrom_of_refused refused] at onward
  exact ⟨unreadable, char, rest, rfl, onward⟩

/-- A check that cannot read on fails at that offset, and a check that fails over a character could
not read on at its offset.  The fault is that of a string that is not closed exactly if a string
begins there and it is not raw.  Otherwise the character that stands there is invalid.  No token
begins with it, unless it begins a raw string, and that one is not closed. -/
theorem check_eq_lexicalError_iff_of_stopsAt (text : String) :
    (∀ offset place, StopsAt text.toList offset place →
      (check text = .error (.unterminatedString offset) ↔ OpensLiteral place ∧ ¬OpensRaw place) ∧
      (∀ found, check text = .error (.invalidCharacter offset found) ↔
        place.head? = some found ∧ ¬(OpensLiteral place ∧ ¬OpensRaw place)) ∧
      (UnclosedRaw place ↔ OpensRaw place) ∧ (BeginsNone place ↔ ¬OpensRaw place)) ∧
    ∀ error, check text = .error error → error.isLexical = true →
      ∃ place, StopsAt text.toList error.offset place := by
  refine ⟨?_, fun error => exists_stopsAt_of_check⟩
  intro offset place stops
  obtain ⟨unreadable, char, rest, rfl, refused⟩ := stops.check_eq
  rw [opensLiteral_and_not_opensRaw_iff, opensCooked_cons_iff, refused, Except.error.injEq,
    lexicalError_eq_unterminatedString_iff]
  refine ⟨Iff.rfl, ?_, unreadable.unclosedRaw_iff, unreadable.beginsNone_iff⟩
  intro found
  rw [Except.error.injEq, lexicalError_eq_invalidCharacter_iff, List.head?_cons, Option.some.injEq]

/-- A string whose quote does not come again, where the second operand of a sum is due. -/
theorem check_eq_lexicalError_iff_of_stopsAt_sum :
    check "$\x7ba + 'b\x7d" = .error (.unterminatedString 6) ∧
      ∃ place, StopsAt "$\x7ba + 'b\x7d".toList 6 place ∧ OpensLiteral place ∧ ¬OpensRaw place ∧
        BeginsNone place := by
  have refused : check "$\x7ba + 'b\x7d" = .error (.unterminatedString 6) := by
    with_unfolding_all rfl
  obtain ⟨faults, stops⟩ := check_eq_lexicalError_iff_of_stopsAt "$\x7ba + 'b\x7d"
  obtain ⟨place, stopsAt⟩ := stops _ refused rfl
  obtain ⟨unterminated, _, _, none⟩ := faults 6 place stopsAt
  obtain ⟨literal, noRaw⟩ := unterminated.mp refused
  exact ⟨refused, place, stopsAt, literal, noRaw, none.mpr noRaw⟩

/-- A raw string that is not closed is not reported as such: its first character, with which a name
could begin, counts as invalid. -/
theorem check_ne_unterminatedString_raw :
    ∃ place, StopsAt "$\x7br\"a\x7d".toList 2 place ∧ OpensLiteral place ∧
      check "$\x7br\"a\x7d" ≠ .error (.unterminatedString 2) ∧
        check "$\x7br\"a\x7d" = .error (.invalidCharacter 2 'r') ∧ ¬BeginsNone place := by
  have refused : check "$\x7br\"a\x7d" = .error (.invalidCharacter 2 'r') := by
    with_unfolding_all rfl
  obtain ⟨place, stops⟩ := exists_stopsAt_of_check refused rfl
  have here : StandsAt "$\x7br\"a\x7d".toList 2 ['r', '"', 'a', '}'] :=
    ⟨['$', '{'], rfl, rfl⟩
  obtain rfl := stops.1.unique here
  have raw : OpensRaw ['r', '"', 'a', '}'] := ⟨'"', ['a', '}'], rfl, rfl⟩
  refine ⟨_, stops, Or.inr raw, ?_, refused, raw.not_beginsNone⟩
  rw [refused]
  simp

end Interpolation

end TemplateLanguage
