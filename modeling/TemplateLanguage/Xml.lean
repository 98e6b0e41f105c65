import TemplateLanguage.Text

/-!
# Escaping for XML

Five characters are written as entities: both angle brackets, the ampersand
and both quotes.  A whole text is escaped by `escape`, which answers with the
text itself if no character of it has an entity; a `Writer` escapes what is
written to it piece by piece.

What needs no entity is copied in stretches.  A scan over the characters keeps
the byte offset up to which the text has been dealt with, and copies from there
when it comes to a character that has an entity or to the end.
-/

namespace TemplateLanguage.Xml

/-- The entity of a character. -/
def entity? : Char → Option (List Char)
  | '<' => some ['&', 'l', 't', ';']
  | '>' => some ['&', 'g', 't', ';']
  | '&' => some ['&', 'a', 'm', 'p', ';']
  | '"' => some ['&', 'q', 'u', 'o', 't', ';']
  | '\'' => some ['&', 'a', 'p', 'o', 's', ';']
  | _ => none

/-- Whether a text is its own escaped form. -/
def isPlain (text : List Char) : Bool :=
  !text.any fun char => (entity? char).isSome

/-- A piece of the escaped form of a text. -/
inductive Piece where
  /-- What the text holds between two byte offsets. -/
  | stretch (start stop : Nat)
  | entity (spelled : List Char)
  deriving DecidableEq, Repr

/-- The text of a piece, if its offsets do not cut a character. -/
def Piece.spelled? (text : List Char) : Piece → Option (List Char)
  | stretch start stop => Text.slice? start stop text
  | entity spelled => some spelled

/-- The text of a piece; what would cut a character is left out. -/
def Piece.spelled (text : List Char) (piece : Piece) : List Char :=
  (piece.spelled? text).getD []

/-- The pieces for the rest of a text, which begins at an offset; the text
before `done` has been dealt with. -/
def piecesFrom (done offset : Nat) : List Char → List Piece
  | [] => [.stretch done offset]
  | char :: rest =>
      let next := offset + char.utf8Size
      match entity? char with
      | some spelled => .stretch done offset :: .entity spelled :: piecesFrom next next rest
      | none => piecesFrom done next rest

/-- The pieces of the escaped form of a text. -/
def pieces (text : List Char) : List Piece :=
  piecesFrom 0 0 text

/-- A text with entities, put together from its pieces. -/
def assemble (text : List Char) : List Char :=
  (pieces text).flatMap (Piece.spelled text)

/-- The escaped form of a text. -/
def escape (text : List Char) : List Char :=
  if isPlain text then text else assemble text

/-- What has been written in escaped form. -/
structure Writer where
  written : List Char
  deriving DecidableEq, Repr

/-- Something to be written. -/
inductive Write where
  | text (content : List Char)
  | char (content : Char)
  deriving DecidableEq, Repr

/-- The characters to be written. -/
def Write.content : Write → List Char
  | text content => content
  | char content => [content]

namespace Writer

/-- Write a text. -/
def writeText (writer : Writer) (text : List Char) : Writer :=
  ⟨writer.written ++ assemble text⟩

/-- Write a character. -/
def writeChar (writer : Writer) (char : Char) : Writer :=
  match entity? char with
  | some entity => ⟨writer.written ++ entity⟩
  | none => ⟨writer.written ++ [char]⟩

/-- Write a text or a character. -/
def write (writer : Writer) : Write → Writer
  | .text content => writer.writeText content
  | .char content => writer.writeChar content

end Writer

end TemplateLanguage.Xml
