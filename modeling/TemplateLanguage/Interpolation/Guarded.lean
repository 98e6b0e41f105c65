import TemplateLanguage.Interpolation.Recognizer
import TemplateLanguage.Source.Guarded

/-!
# Checking a text by byte indices

The bytes of a text are enough to find its sections: a backslash takes the next byte with it,
which may be the first of several that make up one character, and a section is opened by two
bytes.  The tokens of a section are read from the text that is cut out behind these, so they
stand at offsets into that part, to which the index of the part is added.

Every cut is guarded here.  The text of a token and the character of a fault are cut out of the
whole text.
-/

namespace TemplateLanguage.Interpolation

/-- The form of the section that is opened by the bytes at an index. -/
def opened? (bytes : List UInt8) (index : Nat) : Option Form :=
  if bytes[index + 1]? = some '{'.toUInt8 then
    if bytes[index]? = some '$'.toUInt8 then some .plain
    else if bytes[index]? = some '#'.toUInt8 then some .numeric
    else none
  else none

/-- The fault of an offset at which no token begins, step by step. -/
def guardedLexicalError (text : List Char) (start offset : Nat) : Except Fault Error :=
  match Guarded.cut offset (Text.width text) text with
  | .error fault => .error fault
  | .ok [] => .ok (.unterminated start)
  | .ok (char :: _) => .ok (lexicalError offset char)

/-- Recognize the rest of the section that begins at `start`, step by step, where `passed`
bytes of the part behind its opening have been read.  The result is the offset after the
section. -/
def guardedRecognize (text : List Char) (form : Form) (start : Nat) (state : State)
    (passed : Nat) (rest : List Char) : Except Fault (Except Error Nat) :=
  match _reads : Lexer.next passed rest with
  | .done => .ok (.error (.unterminated start))
  | .stuck position _ => (guardedLexicalError text start (start + 2 + position)).map .error
  | .read lexeme following =>
      match Guarded.cut (start + 2 + lexeme.start) (start + 2 + lexeme.stop) text with
      | .error fault => .error fault
      | .ok found =>
          match state.step form start ⟨lexeme.token, found, start + 2 + lexeme.start⟩ with
          | .complete => .ok (.ok (start + 2 + lexeme.stop))
          | .continue next => guardedRecognize text form start next lexeme.stop following
          | .refuse error => .ok (.error error)
termination_by rest.length
decreasing_by exact Lexer.rest_length_lt_of_next _reads

/-- Recognize the section that begins at an offset, step by step. -/
def guardedSection (text : List Char) (form : Form) (start : Nat) :
    Except Fault (Except Error Nat) :=
  match Guarded.cut (start + 2) (Text.width text) text with
  | .error fault => .error fault
  | .ok inside => guardedRecognize text form start .initial 0 inside

theorem lt_of_guardedRecognize {text rest : List Char} {form : Form} {start passed stop : Nat}
    {state : State}
    (recognized : guardedRecognize text form start state passed rest = .ok (.ok stop)) :
    start < stop := by
  fun_induction guardedRecognize text form start state passed rest with
  | case1 => cases recognized
  | case2 _ _ _ position =>
      cases fault : guardedLexicalError text start (start + 2 + position) <;>
        rw [fault] at recognized <;> cases recognized
  | case3 => cases recognized
  | case4 =>
      cases recognized
      omega
  | case5 _ _ _ _ _ _ _ _ _ _ ih => exact ih recognized
  | case6 => cases recognized

/-- A section that is accepted ends behind its beginning. -/
theorem lt_of_guardedSection {text : List Char} {form : Form} {start stop : Nat}
    (accepted : guardedSection text form start = .ok (.ok stop)) : start < stop := by
  rw [guardedSection] at accepted
  split at accepted
  · cases accepted
  · exact lt_of_guardedRecognize accepted

/-- Check the sections of a text from a byte index on, step by step. -/
def guardedCheckFrom (text : List Char) (index : Nat) : Except Fault (Except Error Unit) :=
  match _inside : (Text.bytes text)[index]? with
  | none => .ok (.ok ())
  | some byte =>
      if byte = '\\'.toUInt8 then guardedCheckFrom text (index + 2)
      else
        match opened? (Text.bytes text) index with
        | none => guardedCheckFrom text (index + 1)
        | some form =>
            match _passed : guardedSection text form index with
            | .error fault => .error fault
            | .ok (.error error) => .ok (.error error)
            | .ok (.ok stop) => guardedCheckFrom text stop
termination_by (Text.bytes text).length - index
decreasing_by
  · have := (List.getElem?_eq_some_iff.mp _inside).1
    omega
  · have := (List.getElem?_eq_some_iff.mp _inside).1
    omega
  · have := (List.getElem?_eq_some_iff.mp _inside).1
    have := lt_of_guardedSection _passed
    omega

/-- Check every section of a text, step by step. -/
def guardedCheck (text : String) : Except Fault (Except Error Unit) :=
  guardedCheckFrom text.toList 0

end TemplateLanguage.Interpolation
