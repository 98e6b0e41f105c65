import TemplateLanguage.Interpolation.Recognizer

/-!
# Texts with interpolations

Outside its sections a text with interpolations is arbitrary, except that a
backslash takes the next character with it.  The check reads each section in
turn and goes on just after the closing brace; the text around the sections is
never read as tokens.
-/

namespace TemplateLanguage.Interpolation

/-- Check the sections of a text that begins at a byte offset. -/
def checkFrom (offset : Nat) (text : List Char) : Except Error Unit :=
  match text with
  | [] => .ok ()
  | ['\\'] => .ok ()
  | '\\' :: char :: rest => checkFrom (offset + '\\'.utf8Size + char.utf8Size) rest
  | '$' :: '{' :: rest =>
      match _inside : recognize .plain offset .initial (offset + 2) rest with
      | .ok remainder => checkFrom remainder.offset remainder.text
      | .error error => .error error
  | '#' :: '{' :: rest =>
      match _inside : recognize .numeric offset .initial (offset + 2) rest with
      | .ok remainder => checkFrom remainder.offset remainder.text
      | .error error => .error error
  | char :: rest => checkFrom (offset + char.utf8Size) rest
termination_by text.length
decreasing_by
  · simp only [List.length_cons]
    omega
  · have := text_length_lt_of_recognize _inside
    simp only [List.length_cons]
    omega
  · have := text_length_lt_of_recognize _inside
    simp only [List.length_cons]
    omega
  · simp only [List.length_cons]
    omega

/-- Check every section of a text. -/
def check (text : String) : Except Error Unit :=
  checkFrom 0 text.toList

end TemplateLanguage.Interpolation
