import TemplateLanguage.Interpolation.Guarded
import TemplateLanguage.Proofs.Interpolation.Concatenation
import TemplateLanguage.Proofs.Source.Lines

/-!
# Guarded checks

A byte below 128 is a character of its own.  So a check by byte indices finds a backslash or
the opening of a section only where one stands in the text, and from a byte inside a character
it gets to the end of the character.  The cuts of a section fall where its tokens start and
stop, so each of them has a result.
-/

namespace TemplateLanguage

namespace Text

/-! ## Characters of one byte -/

theorem getElem?_bytes_append (before rest : List Char) (index : ℕ) :
    (bytes (before ++ rest))[width before + index]? = (bytes rest)[index]? := by
  rw [bytes_append, ← length_bytes, List.getElem?_append_right (Nat.le_add_right _ _),
    Nat.add_sub_cancel_left]

theorem toNat_toUInt8 {char : Char} (single : char.toNat < 128) :
    char.toUInt8.toNat = char.toNat :=
  Nat.mod_eq_of_lt (Nat.lt_trans single (by decide))

theorem utf8Size_eq_one {char : Char} (single : char.toNat < 128) : char.utf8Size = 1 := by
  rw [Char.utf8Size_eq_one_iff, UInt32.le_iff_toNat_le]
  exact Nat.le_of_lt_succ single

/-- The first byte of a text is that of a character of one byte only if the text begins with
this character. -/
theorem getElem?_bytes_zero_iff {char : Char} (single : char.toNat < 128) (rest : List Char) :
    (bytes rest)[0]? = some char.toUInt8 ↔ rest.head? = some char := by
  cases rest with
  | nil => simp [bytes]
  | cons first others =>
      have filled : 0 < (String.utf8EncodeChar first).length := by
        rw [String.length_utf8EncodeChar]
        exact first.utf8Size_pos
      rw [bytes_cons, List.getElem?_append_left filled, List.head?_cons, Option.some.injEq]
      constructor
      · intro found
        have value := toNat_toUInt8 single
        rcases toNat_of_mem_utf8EncodeChar (List.mem_of_getElem? found) with same | great
        · exact Char.toNat_inj.mp (same.symm.trans value)
        · omega
      · rintro rfl
        rw [String.utf8EncodeChar_eq_singleton (utf8Size_eq_one single)]
        rfl

/-- Two bytes of a text are those of two characters of one byte only if the text begins with
these. -/
theorem getElem?_bytes_zero_one_iff {first second : Char} (single : first.toNat < 128)
    (alike : second.toNat < 128) (rest : List Char) :
    (bytes rest)[0]? = some first.toUInt8 ∧ (bytes rest)[1]? = some second.toUInt8 ↔
      ∃ inside, rest = first :: second :: inside := by
  rw [getElem?_bytes_zero_iff single, List.head?_eq_some_iff]
  have next : ∀ others, (bytes (first :: others))[1]? = (bytes others)[0]? := by
    intro others
    have behind := getElem?_bytes_append [first] others 0
    rw [width_cons, width_nil, utf8Size_eq_one single] at behind
    exact behind
  constructor
  · rintro ⟨⟨others, rfl⟩, found⟩
    rw [next, getElem?_bytes_zero_iff alike, List.head?_eq_some_iff] at found
    obtain ⟨inside, rfl⟩ := found
    exact ⟨inside, rfl⟩
  · rintro ⟨inside, rfl⟩
    rw [next, getElem?_bytes_zero_iff alike]
    exact ⟨⟨_, rfl⟩, rfl⟩

/-- Behind the first byte of a character all its bytes are great. -/
theorem exists_getElem?_utf8EncodeChar {char : Char} {index : ℕ} (behind : 0 < index)
    (inside : index < char.utf8Size) :
    ∃ byte, (String.utf8EncodeChar char)[index]? = some byte ∧ 128 ≤ byte.toNat := by
  rw [← String.length_utf8EncodeChar] at inside
  refine ⟨_, List.getElem?_eq_getElem inside, ?_⟩
  rcases toNat_of_mem_utf8EncodeChar (List.getElem_mem inside) with same | great
  · rw [same]
    by_contra single
    rw [String.length_utf8EncodeChar, utf8Size_eq_one (Nat.lt_of_not_le single)] at inside
    omega
  · exact great

end Text

namespace Interpolation

variable {text before rest inside : List Char} {form : Form}

/-! ## Openings -/

/-- Two bytes open a section exactly where one begins. -/
theorem opened?_eq_some_iff :
    opened? (Text.bytes (before ++ rest)) (Text.width before) = some form ↔
      ∃ inside, rest = form.opening ++ inside := by
  have first := Text.getElem?_bytes_append before rest 0
  have second := Text.getElem?_bytes_append before rest 1
  have different : '$'.toUInt8 ≠ '#'.toUInt8 := by decide
  rw [Nat.add_zero] at first
  rw [opened?, second, first]
  cases form with
  | plain =>
      refine Iff.trans ?_ (Text.getElem?_bytes_zero_one_iff (by decide) (by decide) rest)
      grind
  | numeric =>
      refine Iff.trans ?_ (Text.getElem?_bytes_zero_one_iff (by decide) (by decide) rest)
      grind

theorem opened?_eq_none_iff :
    opened? (Text.bytes (before ++ rest)) (Text.width before) = none ↔
      ∀ (form : Form) (inside : List Char), rest ≠ form.opening ++ inside := by
  rw [Option.eq_none_iff_forall_ne_some]
  refine forall_congr' fun form => ?_
  rw [ne_eq, opened?_eq_some_iff, not_exists]

/-! ## Sections -/

/-- A cut behind some text ends where the text ends. -/
theorem cut_append (before between after : List Char) :
    Guarded.cut (Text.width before) (Text.width (before ++ between)) (before ++ between ++ after) =
      .ok between := by
  rw [Guarded.cut, Text.slice?_append, Text.width_append, if_pos (Nat.le_add_right _ _)]

theorem cut_width (before rest : List Char) :
    Guarded.cut (Text.width before) (Text.width (before ++ rest)) (before ++ rest) = .ok rest := by
  have cut := cut_append before rest []
  rw [List.append_nil] at cut
  exact cut

theorem guardedLexicalError_eq (before : List Char) (char : Char) (rest : List Char)
    (start : ℕ) :
    guardedLexicalError (before ++ char :: rest) start (Text.width before) =
      .ok (lexicalError (Text.width before) char) := by
  rw [guardedLexicalError, cut_width]

section

variable {start passed : ℕ} {state : State} {following : List Char} {lexeme : Lexeme}

/-- A token that is read in a part of a text is read in the text, from which it is cut out. -/
theorem cut_of_next (text_eq : text = before ++ rest)
    (place : Text.width before = start + 2 + passed)
    (read : Lexer.next passed rest = .read lexeme following) :
    Guarded.cut (start + 2 + lexeme.start) (start + 2 + lexeme.stop) text = .ok lexeme.text ∧
      Lexer.next (start + 2 + passed) rest =
        .read ⟨lexeme.token, lexeme.text, start + 2 + lexeme.start⟩ following ∧
      ∃ behind, text = behind ++ following ∧ Text.width behind = start + 2 + lexeme.stop := by
  obtain ⟨blanks, _, rfl, starts, _⟩ := Lexer.next_eq_read_iff.mp read
  have first : Text.width (before ++ blanks) = start + 2 + lexeme.start := by
    rw [Text.width_append, place, starts, Nat.add_assoc]
  have last : Text.width (before ++ blanks ++ lexeme.text) = start + 2 + lexeme.stop := by
    rw [Text.width_append, first, Lexeme.stop, Nat.add_assoc]
  have whole : text = before ++ blanks ++ lexeme.text ++ following := by
    rw [text_eq]
    simp only [List.append_assoc]
  refine ⟨?_, ?_, _, whole, last⟩
  · rw [← first, ← last, whole]
    exact cut_append _ _ _
  · rw [Nat.add_comm, Lexer.next_add, read, Lexer.Step.shift, Lexeme.shift, Nat.add_comm]

theorem stop_moved (start : ℕ) (lexeme : Lexeme) :
    Lexeme.stop ⟨lexeme.token, lexeme.text, start + 2 + lexeme.start⟩ = start + 2 + lexeme.stop :=
  Nat.add_assoc ..

/-- Every step of the recognizer has a result, the same as without guards. -/
theorem guardedRecognize_eq (text_eq : text = before ++ rest)
    (place : Text.width before = start + 2 + passed) :
    guardedRecognize text form start state passed rest =
      .ok ((recognize form start state (start + 2 + passed) rest).map Remainder.offset) := by
  -- `before` is all that stands in front of what is left, so each token extends it
  fun_induction guardedRecognize text form start state passed rest generalizing before with
  | case1 state passed rest done =>
      have moved : Lexer.next (start + 2 + passed) rest = .done := by
        rw [Nat.add_comm, Lexer.next_add, done]
        rfl
      rw [recognize_of_done moved]
      rfl
  | case2 state passed rest position char stuck =>
      have moved : Lexer.next (start + 2 + passed) rest = .stuck (start + 2 + position) char := by
        rw [Nat.add_comm, Lexer.next_add, stuck, Lexer.Step.shift, Nat.add_comm]
      obtain ⟨blanks, others, _, rfl, position_eq, _⟩ := Lexer.next_eq_stuck_iff.mp stuck
      have shown : start + 2 + position = Text.width (before ++ blanks) := by
        rw [Text.width_append, place, position_eq]
        exact (Nat.add_assoc ..).symm
      rw [recognize_of_stuck moved, shown, text_eq, ← List.append_assoc, guardedLexicalError_eq]
      rfl
  | case3 state passed rest lexeme following read fault broken =>
      rw [(cut_of_next text_eq place read).1] at broken
      cases broken
  | case4 state passed rest lexeme following read found cut complete =>
      obtain ⟨cuts, moved, _⟩ := cut_of_next text_eq place read
      cases cuts.symm.trans cut
      rw [recognize_of_read moved, complete, stop_moved]
      rfl
  | case5 state passed rest lexeme following read found cut next goesOn ih =>
      obtain ⟨cuts, moved, behind, whole, last⟩ := cut_of_next text_eq place read
      cases cuts.symm.trans cut
      rw [ih whole last, recognize_of_read moved, goesOn, resume, stop_moved]
  | case6 state passed rest lexeme following read found cut error refused =>
      obtain ⟨cuts, moved, _⟩ := cut_of_next text_eq place read
      cases cuts.symm.trans cut
      rw [recognize_of_read moved, refused]
      rfl

end

theorem guardedSection_eq (before inside : List Char) (form : Form) :
    guardedSection (before ++ (form.opening ++ inside)) form (Text.width before) =
      .ok ((recognize form (Text.width before) .initial (Text.width before + 2) inside).map
        Remainder.offset) := by
  have place : Text.width (before ++ form.opening) = Text.width before + 2 := by
    rw [Text.width_append]
    cases form <;> rfl
  rw [← List.append_assoc, guardedSection, ← place, cut_width, place]
  exact guardedRecognize_eq rfl place

/-! ## Texts -/

/-- Behind the last byte there is nothing to check. -/
theorem guardedCheckFrom_of_le {index : ℕ} (behind : Text.width text ≤ index) :
    guardedCheckFrom text index = .ok (.ok ()) := by
  rw [← Text.length_bytes] at behind
  have missing := List.getElem?_eq_none behind
  rw [guardedCheckFrom]
  grind

theorem guardedCheckFrom_backslash {index : ℕ}
    (found : (Text.bytes text)[index]? = some '\\'.toUInt8) :
    guardedCheckFrom text index = guardedCheckFrom text (index + 2) := by
  rw [guardedCheckFrom]
  grind

/-- A byte that is no backslash and opens no section is passed. -/
theorem guardedCheckFrom_next {index : ℕ} {byte : UInt8}
    (found : (Text.bytes text)[index]? = some byte) (plain : byte ≠ '\\'.toUInt8)
    (outside : opened? (Text.bytes text) index = none) :
    guardedCheckFrom text index = guardedCheckFrom text (index + 1) := by
  rw [guardedCheckFrom]
  grind

/-- From a byte behind the first one of a character, the check gets to the end of the
character. -/
theorem guardedCheckFrom_inside (before : List Char) (char : Char) (rest : List Char)
    {index : ℕ} (behind : 0 < index) (inside : index ≤ char.utf8Size) :
    guardedCheckFrom (before ++ char :: rest) (Text.width before + index) =
      guardedCheckFrom (before ++ char :: rest) (Text.width before + char.utf8Size) := by
  obtain ⟨distance, last⟩ := Nat.exists_eq_add_of_le inside
  -- by induction on the bytes of the character that are left, none of which is ASCII
  induction distance generalizing index with
  | zero => rw [last, Nat.add_zero]
  | succ distance ih =>
      have short : index < char.utf8Size := by omega
      obtain ⟨byte, found, great⟩ := Text.exists_getElem?_utf8EncodeChar behind short
      have stands : (Text.bytes (before ++ char :: rest))[Text.width before + index]? =
          some byte := by
        rw [Text.getElem?_bytes_append, Text.bytes_cons, List.getElem?_append_left, found]
        rw [String.length_utf8EncodeChar]
        exact short
      have differs : ∀ other : Char, other.toNat < 128 → byte ≠ other.toUInt8 := by
        rintro other single rfl
        rw [Text.toNat_toUInt8 single] at great
        omega
      have outside : opened? (Text.bytes (before ++ char :: rest)) (Text.width before + index) =
          none := by
        have noDollar := differs '$' (by decide)
        have noNumberSign := differs '#' (by decide)
        simp only [opened?, stands, Option.some.injEq, noDollar, noNumberSign, if_false, ite_self]
      rw [guardedCheckFrom_next stands (differs '\\' (by decide)) outside, Nat.add_assoc]
      exact ih (Nat.succ_pos index) short (by omega)

/-- A character that is no backslash and begins no section is passed. -/
theorem guardedCheckFrom_skip {before rest : List Char} {char : Char} (plain : char ≠ '\\')
    (outside : ∀ (form : Form) (inside : List Char), char :: rest ≠ form.opening ++ inside) :
    guardedCheckFrom (before ++ char :: rest) (Text.width before) =
      guardedCheckFrom (before ++ char :: rest) (Text.width before + char.utf8Size) := by
  have filled : 0 < (Text.bytes (char :: rest)).length := by
    rw [Text.length_bytes]
    exact Nat.add_pos_left char.utf8Size_pos _
  have found := List.getElem?_eq_getElem filled
  have stands := Text.getElem?_bytes_append before (char :: rest) 0
  rw [Nat.add_zero, found] at stands
  have noBackslash : (Text.bytes (char :: rest))[0] ≠ '\\'.toUInt8 := by
    intro same
    rw [same, Text.getElem?_bytes_zero_iff (by decide), List.head?_cons] at found
    exact plain (Option.some.inj found)
  rw [guardedCheckFrom_next stands noBackslash (opened?_eq_none_iff.mpr outside)]
  exact guardedCheckFrom_inside before char rest Nat.one_pos char.utf8Size_pos

/-- A backslash and the character behind it are passed. -/
theorem guardedCheckFrom_escape (before : List Char) (char : Char) (rest : List Char) :
    guardedCheckFrom (before ++ '\\' :: char :: rest) (Text.width before) =
      guardedCheckFrom (before ++ '\\' :: char :: rest)
        (Text.width before + '\\'.utf8Size + char.utf8Size) := by
  have stands := Text.getElem?_bytes_append before ('\\' :: char :: rest) 0
  rw [Nat.add_zero, (Text.getElem?_bytes_zero_iff (by decide) _).mpr rfl] at stands
  have behind := guardedCheckFrom_inside (before ++ ['\\']) char rest Nat.one_pos
    char.utf8Size_pos
  rw [Text.width_append, List.append_assoc] at behind
  rw [guardedCheckFrom_backslash stands]
  exact behind

/-- Where a section begins, the section decides. -/
theorem guardedCheckFrom_opening {result : Except Error ℕ}
    (reads : guardedSection (before ++ (form.opening ++ inside)) form (Text.width before) =
      .ok result) :
    guardedCheckFrom (before ++ (form.opening ++ inside)) (Text.width before) =
      match result with
      | .ok stop => guardedCheckFrom (before ++ (form.opening ++ inside)) stop
      | .error error => .ok (.error error) := by
  have opens : opened? (Text.bytes (before ++ (form.opening ++ inside))) (Text.width before) =
      some form :=
    opened?_eq_some_iff.mpr ⟨inside, rfl⟩
  have stands := Text.getElem?_bytes_append before (form.opening ++ inside) 0
  obtain ⟨byte, first, plain⟩ : ∃ byte, (Text.bytes (form.opening ++ inside))[0]? = some byte ∧
      byte ≠ '\\'.toUInt8 := by
    cases form with
    | plain => exact ⟨'$'.toUInt8, rfl, by decide⟩
    | numeric => exact ⟨'#'.toUInt8, rfl, by decide⟩
  rw [Nat.add_zero, first] at stands
  rw [guardedCheckFrom]
  grind

/-- A section that is recognized is passed, and what is left of the text stands behind it. -/
theorem guardedCheckFrom_section {remainder : Remainder}
    (recognized : recognize form (Text.width before) .initial (Text.width before + 2) inside =
      .ok remainder) :
    guardedCheckFrom (before ++ (form.opening ++ inside)) (Text.width before) =
        guardedCheckFrom (before ++ (form.opening ++ inside)) remainder.offset ∧
      ∃ behind, before ++ (form.opening ++ inside) = behind ++ remainder.text ∧
        Text.width behind = remainder.offset := by
  have reads := guardedSection_eq before inside form
  rw [recognized] at reads
  obtain ⟨consumed, cut, stop⟩ := exists_append_of_recognize recognized
  refine ⟨guardedCheckFrom_opening reads, before ++ (form.opening ++ consumed), ?_, ?_⟩
  · rw [cut]
    simp only [List.append_assoc]
  · rw [stop, Text.width_append, Text.width_append, Nat.add_assoc]
    cases form <;> rfl

theorem guardedCheckFrom_of_refused {error : Error}
    (refused : recognize form (Text.width before) .initial (Text.width before + 2) inside =
      .error error) :
    guardedCheckFrom (before ++ (form.opening ++ inside)) (Text.width before) =
      .ok (.error error) := by
  have reads := guardedSection_eq before inside form
  rw [refused] at reads
  exact guardedCheckFrom_opening reads

/-- From the boundary of two characters on, every step of the check has a result, the same as
without guards. -/
theorem guardedCheckFrom_eq {offset : ℕ} (before rest : List Char)
    (place : Text.width before = offset) :
    guardedCheckFrom (before ++ rest) offset = .ok (checkFrom offset rest) := by
  fun_induction checkFrom offset rest generalizing before with
  | case1 offset =>
      apply guardedCheckFrom_of_le
      rw [List.append_nil, place]
  | case2 offset =>
      have stands := Text.getElem?_bytes_append before ['\\'] 0
      rw [Nat.add_zero, place] at stands
      rw [guardedCheckFrom_backslash stands]
      apply guardedCheckFrom_of_le
      rw [Text.width_append, place]
      exact Nat.add_le_add_left (by decide) offset
  | case3 offset char rest ih =>
      have following := ih (before ++ ['\\', char]) (by
        rw [Text.width_append, place, Nat.add_assoc]
        rfl)
      rw [List.append_assoc] at following
      rw [← place, guardedCheckFrom_escape, place]
      exact following
  | case4 offset rest remainder recognized ih | case6 offset rest remainder recognized ih =>
      subst place
      obtain ⟨passes, behind, whole, last⟩ := guardedCheckFrom_section recognized
      have following := ih behind last
      rw [← whole, ← passes] at following
      exact following
  | case5 offset rest error refused | case7 offset rest error refused =>
      subst place
      exact guardedCheckFrom_of_refused refused
  | case8 offset char rest notLast noBackslash noPlain noNumeric ih =>
      have following := ih (before ++ [char]) (by
        rw [Text.width_append, place]
        rfl)
      rw [List.append_assoc] at following
      have plain := ne_backslash_of_cases notLast noBackslash
      have outside := ne_opening_append_of_cases noPlain noNumeric
      rw [← place, guardedCheckFrom_skip plain outside, place]
      exact following

/-- Every step of a check has a result, the same as without guards. -/
theorem guardedCheck_eq (text : String) : guardedCheck text = .ok (check text) :=
  guardedCheckFrom_eq [] text.toList rfl

end Interpolation

end TemplateLanguage
