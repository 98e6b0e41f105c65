import TemplateLanguage.Text
import TemplateLanguage.Token.Basic

/-!
# Reading tokens

`Token.read?` reads one token from the beginning of a text: the longest
beginning that matches some pattern.  Only one word ends the search early: an
`r` that is directly followed by a quote always opens a raw string, so without
the closing quote nothing is read there.

`Lexer.next` skips blanks and reads a token at a byte offset;
`Lexer.lexemes` repeats it up to the end of the text or to the first position
at which no token begins.
-/

namespace TemplateLanguage

namespace Token

/-- The characters that separate tokens. -/
def isBlank (char : Char) : Bool :=
  char = ' ' || char = '\t' || char = '\r' || char = '\n'

/-- The characters with which a word begins. -/
def startsWord (char : Char) : Bool :=
  char.isAlpha || char = '_'

/-- The characters that continue a word. -/
def continuesWord (char : Char) : Bool :=
  startsWord char || char.isDigit

/-- The two kinds of quotes. -/
def isQuote (char : Char) : Bool :=
  char = '"' || char = '\''

/-- A token read from the beginning of a text, and the text after it. -/
structure Reading where
  token : Token
  text : List Char
  rest : List Char
  deriving DecidableEq, Repr

/-- Split a text just after its first quote. -/
def closeRaw? (quote : Char) : List Char → Option (List Char × List Char)
  | [] => none
  | char :: rest =>
      if char = quote then some ([char], rest)
      else (closeRaw? quote rest).map fun parts => (char :: parts.1, parts.2)

/-- Split a text just after its first quote that no backslash precedes.  A
backslash takes the next character with it, which must not be a line feed. -/
def closeCooked? (quote : Char) : List Char → Option (List Char × List Char)
  | [] => none
  | '\\' :: char :: rest =>
      if char = '\n' then none
      else (closeCooked? quote rest).map fun parts => ('\\' :: char :: parts.1, parts.2)
  | char :: rest =>
      if char = quote then some ([char], rest)
      else if char = '\\' then none
      else (closeCooked? quote rest).map fun parts => (char :: parts.1, parts.2)

/-- Read the longest word. -/
def readWord (text : List Char) : Reading :=
  { token := ofWord (text.takeWhile continuesWord)
    text := text.takeWhile continuesWord
    rest := text.dropWhile continuesWord }

/-- Read the longest number.  A point belongs to it only before a digit. -/
def readNumber (text : List Char) : Reading :=
  let whole := text.takeWhile Char.isDigit
  match text.dropWhile Char.isDigit with
  | '.' :: digit :: rest =>
      if digit.isDigit then
        { token := decimal
          text := whole ++ '.' :: (digit :: rest).takeWhile Char.isDigit
          rest := (digit :: rest).dropWhile Char.isDigit }
      else
        { token := integer, text := whole, rest := '.' :: digit :: rest }
  | rest => { token := integer, text := whole, rest := rest }

/-- Read the longest symbol. -/
def readSymbol? (text : List Char) : Option Reading :=
  (symbols.find? fun entry => entry.1.isPrefixOf text).map fun entry =>
    { token := entry.2, text := entry.1, rest := text.drop entry.1.length }

/-- Read the token with which a text begins. -/
def read? : List Char → Option Reading
  | [] => none
  | 'r' :: quote :: rest =>
      if isQuote quote then
        (closeRaw? quote rest).map fun parts =>
          { token := rawString, text := 'r' :: quote :: parts.1, rest := parts.2 }
      else
        some (readWord ('r' :: quote :: rest))
  | char :: rest =>
      if startsWord char then some (readWord (char :: rest))
      else if char.isDigit then some (readNumber (char :: rest))
      else if isQuote char then
        (closeCooked? char rest).map fun parts =>
          { token := string, text := char :: parts.1, rest := parts.2 }
      else readSymbol? (char :: rest)

theorem append_of_closeRaw? {quote : Char} {text : List Char}
    {parts : List Char × List Char} (closed : closeRaw? quote text = some parts) :
    parts.1 ++ parts.2 = text := by
  induction text generalizing parts with
  | nil => simp [closeRaw?] at closed
  | cons char rest ih =>
      rw [closeRaw?] at closed
      split at closed
      · cases closed
        rfl
      · obtain ⟨inner, found, rfl⟩ := Option.map_eq_some_iff.mp closed
        simp [ih found]

theorem append_of_closeCooked? {quote : Char} {text : List Char}
    {parts : List Char × List Char} (closed : closeCooked? quote text = some parts) :
    parts.1 ++ parts.2 = text := by
  fun_induction closeCooked? quote text generalizing parts with
  | case1 => simp at closed
  | case2 => simp at closed
  | case3 char rest _ ih =>
      obtain ⟨inner, found, rfl⟩ := Option.map_eq_some_iff.mp closed
      simp [ih found]
  | case4 =>
      cases closed
      rfl
  | case5 => simp at closed
  | case6 char rest _ _ _ ih =>
      obtain ⟨inner, found, rfl⟩ := Option.map_eq_some_iff.mp closed
      simp [ih found]

theorem append_readWord (text : List Char) :
    (readWord text).text ++ (readWord text).rest = text := by
  simp [readWord]

theorem append_readNumber (text : List Char) :
    (readNumber text).text ++ (readNumber text).rest = text := by
  have whole := List.takeWhile_append_dropWhile (p := Char.isDigit) (l := text)
  unfold readNumber
  split
  · rename_i digit rest following
    rw [following] at whole
    split <;> simpa using whole
  · exact whole

theorem append_of_readSymbol? {text : List Char} {reading : Reading}
    (success : readSymbol? text = some reading) :
    reading.text ++ reading.rest = text := by
  obtain ⟨entry, present, rfl⟩ := Option.map_eq_some_iff.mp success
  have leading := List.find?_some present
  exact List.prefix_iff_eq_append.mp (List.isPrefixOf_iff_prefix.mp leading)

/-- Reading a token splits the text. -/
theorem append_of_read? {text : List Char} {reading : Reading}
    (success : read? text = some reading) : reading.text ++ reading.rest = text := by
  unfold read? at success
  split at success
  · simp at success
  · split at success
    · obtain ⟨parts, closed, rfl⟩ := Option.map_eq_some_iff.mp success
      simp [append_of_closeRaw? closed]
    · cases success
      exact append_readWord _
  · split at success
    · cases success
      exact append_readWord _
    · split at success
      · cases success
        exact append_readNumber _
      · split at success
        · obtain ⟨parts, closed, rfl⟩ := Option.map_eq_some_iff.mp success
          simp [append_of_closeCooked? closed]
        · exact append_of_readSymbol? success

theorem readNumber_ne_nil {char : Char} {rest : List Char} (digit : char.isDigit) :
    (readNumber (char :: rest)).text ≠ [] := by
  have whole : (char :: rest).takeWhile Char.isDigit ≠ [] := by
    simp [digit]
  unfold readNumber
  split
  · split
    · simp
    · exact whole
  · exact whole

theorem readSymbol?_ne_nil {text : List Char} {reading : Reading}
    (success : readSymbol? text = some reading) : reading.text ≠ [] := by
  obtain ⟨entry, present, rfl⟩ := Option.map_eq_some_iff.mp success
  have listed : ∀ entry ∈ symbols, entry.1 ≠ [] := by decide
  exact listed entry (List.mem_of_find?_eq_some present)

/-- A token has at least one character. -/
theorem text_ne_nil_of_read? {text : List Char} {reading : Reading}
    (success : read? text = some reading) : reading.text ≠ [] := by
  unfold read? at success
  split at success
  · simp at success
  · split at success
    · obtain ⟨parts, closed, rfl⟩ := Option.map_eq_some_iff.mp success
      simp
    · cases success
      simp [readWord, List.takeWhile_cons, show continuesWord 'r' = true from by decide]
  · split at success
    · rename_i starts
      cases success
      simp [readWord, continuesWord, starts]
    · split at success
      · cases success
        exact readNumber_ne_nil ‹_›
      · split at success
        · obtain ⟨parts, closed, rfl⟩ := Option.map_eq_some_iff.mp success
          simp
        · exact readSymbol?_ne_nil success

/-- Reading a token shortens the text. -/
theorem rest_length_lt_of_read? {text : List Char} {reading : Reading}
    (success : read? text = some reading) : reading.rest.length < text.length := by
  have split := congrArg List.length (append_of_read? success)
  have filled := List.length_pos_iff.mpr (text_ne_nil_of_read? success)
  simp only [List.length_append] at split
  omega

end Token

/-- A token with its characters and the byte offset of the first one. -/
structure Lexeme where
  token : Token
  text : List Char
  start : Nat
  deriving DecidableEq, Repr

namespace Lexeme

/-- The byte offset just after the token. -/
def stop (lexeme : Lexeme) : Nat :=
  lexeme.start + Text.width lexeme.text

end Lexeme

namespace Lexer

/-- What a text holds after its leading blanks. -/
inductive Step where
  /-- Nothing. -/
  | done
  /-- A character at which no token begins, at a byte offset. -/
  | stuck (offset : Nat) (char : Char)
  /-- A token, and the text after it. -/
  | read (lexeme : Lexeme) (rest : List Char)
  deriving DecidableEq, Repr

/-- Read a token from a text that begins at a byte offset. -/
def next (offset : Nat) (text : List Char) : Step :=
  let start := offset + Text.width (text.takeWhile Token.isBlank)
  match text.dropWhile Token.isBlank with
  | [] => .done
  | char :: rest =>
      match Token.read? (char :: rest) with
      | none => .stuck start char
      | some reading => .read ⟨reading.token, reading.text, start⟩ reading.rest

/-- A step that reads a token shortens the text. -/
theorem rest_length_lt_of_next {offset : Nat} {text rest : List Char} {lexeme : Lexeme}
    (step : next offset text = .read lexeme rest) : rest.length < text.length := by
  unfold next at step
  split at step
  · simp at step
  · rename_i char tail following
    have shorter : (char :: tail).length ≤ text.length :=
      following ▸ (List.dropWhile_sublist _).length_le
    split at step
    · simp at step
    · rename_i reading success
      simp only [Step.read.injEq] at step
      have := Token.rest_length_lt_of_read? success
      rw [← step.2]
      omega

/-- The tokens of a text up to its end or to the first position at which no
token begins; that position is the second component. -/
def lexemes (offset : Nat) (text : List Char) : List Lexeme × Option Nat :=
  match _reads : next offset text with
  | .done => ([], none)
  | .stuck position _ => ([], some position)
  | .read lexeme rest =>
      let following := lexemes lexeme.stop rest
      (lexeme :: following.1, following.2)
termination_by text.length
decreasing_by exact rest_length_lt_of_next _reads

theorem lexemes_of_done {offset : Nat} {text : List Char}
    (done : next offset text = .done) : lexemes offset text = ([], none) := by
  rw [lexemes]
  split
  · rfl
  · rename_i stuck
    rw [done] at stuck
    cases stuck
  · rename_i read
    rw [done] at read
    cases read

theorem lexemes_of_read {offset : Nat} {text rest : List Char} {lexeme : Lexeme}
    (read : next offset text = .read lexeme rest) :
    lexemes offset text =
      (lexeme :: (lexemes lexeme.stop rest).1, (lexemes lexeme.stop rest).2) := by
  rw [lexemes]
  split
  · rename_i done
    rw [read] at done
    cases done
  · rename_i stuck
    rw [read] at stuck
    cases stuck
  · rename_i again
    rw [read] at again
    cases again
    rfl

end Lexer

end TemplateLanguage
