import TemplateLanguage.Guarded
import TemplateLanguage.Source.Span

/-!
# Documents and their lines

A document is a named text.  Its lines are the pieces that end just after a
line feed, the last one being whatever follows the last line feed, so the
lines put together are the text.  Offsets past the end count as the end, and
the line of an offset is searched for among the offsets at which lines begin.

The number of bytes of a document has 32 bits, and so have the offsets.  Lines and columns have
to be numbers of 32 bits too, and as they are counted from one, a position at the end of the
longest documents may not exist.
-/

namespace TemplateLanguage

/-- A text and the name under which it is shown. -/
structure Document where
  name : String
  text : List Char
  deriving DecidableEq, Repr

/-- A line and a column, both counted from one; columns count bytes. -/
structure Place where
  line : Nat
  column : Nat
  deriving DecidableEq, Repr

/-- A place whose line and column are numbers of 32 bits. -/
structure Position extends Place where
  line_lt : line < wordLimit
  column_lt : column < wordLimit
  deriving DecidableEq, Repr

/-- A place as a position. -/
def Place.toPosition (place : Place) : Except Fault Position :=
  if fits : place.line < wordLimit ∧ place.column < wordLimit then
    .ok { place with line_lt := fits.1, column_lt := fits.2 }
  else
    .error .overflow

namespace Text

/-- The lines of a text, each with its line feed. -/
def lines : List Char → List (List Char)
  | [] => [[]]
  | char :: rest =>
      if char = '\n' then [char] :: lines rest
      else (lines rest).modifyHead fun line => char :: line

/-- The byte offsets at which lines begin, the first of them being given. -/
def lineStarts : Nat → List (List Char) → List Nat
  | _, [] => []
  | offset, line :: rest => offset :: lineStarts (offset + width line) rest

/-- Search increasing offsets from one index up to another, halving what is left: the index
at which an offset stands, or else the index at which it would. -/
def search (starts : List Nat) (offset low high : Nat) : Except Nat Nat :=
  if _ : low < high then
    let middle := low + (high - low) / 2
    match starts[middle]? with
    | none => .error low
    | some start =>
        if start = offset then .ok middle
        else if start < offset then search starts offset (middle + 1) high
        else search starts offset low middle
  else .error low
termination_by high - low

/-- The characters that end a line. -/
def isTerminator (char : Char) : Bool :=
  char = '\n' || char = '\r'

/-- A line without the terminators at its end. -/
def trimTerminators (line : List Char) : List Char :=
  (line.reverse.dropWhile isTerminator).reverse

theorem lines_ne_nil (text : List Char) : lines text ≠ [] := by
  induction text with
  | nil => simp [lines]
  | cons char rest ih =>
      rw [lines]
      split
      · simp
      · cases shape : lines rest with
        | nil => exact absurd shape ih
        | cons line others => simp

/-- The lines of a text put together are the text. -/
@[simp]
theorem flatten_lines (text : List Char) : (lines text).flatten = text := by
  induction text with
  | nil => simp [lines]
  | cons char rest ih =>
      rw [lines]
      split
      · simp [ih]
      · cases shape : lines rest with
        | nil => exact absurd shape (lines_ne_nil rest)
        | cons line others =>
            rw [shape] at ih
            simp [← ih]

end Text

namespace Document

/-- The lines of a document, each with its line feed. -/
def lines (document : Document) : List (List Char) :=
  Text.lines document.text

/-- The byte offsets at which the lines begin. -/
def lineStarts (document : Document) : List Nat :=
  Text.lineStarts 0 document.lines

/-- How many lines a document has. -/
def lineCount (document : Document) : Nat :=
  document.lineStarts.length

/-- The byte offset at which a span starts; it does not lie past the end. -/
def offset (document : Document) (span : Span) : Nat :=
  min span.start (Text.width document.text)

/-- Where the search for an offset among the starts of lines ends. -/
def searchLine (document : Document) (offset : Nat) : Except Nat Nat :=
  Text.search document.lineStarts offset 0 document.lineStarts.length

/-- The index of the line on which an offset lies. -/
def lineIndex (document : Document) (offset : Nat) : Nat :=
  match document.searchLine offset with
  | .ok index => index
  | .error index => index - 1

/-- The line and the column of the start of a span. -/
def place (document : Document) (span : Span) : Place :=
  let offset := document.offset span
  let index := document.lineIndex offset
  ⟨index + 1, offset - document.lineStarts.getD index 0 + 1⟩

/-- The position of the start of a span. -/
def position (document : Document) (span : Span) : Except Fault Position :=
  (document.place span).toPosition

/-- A line without its terminators; lines are counted from one. -/
def line? (document : Document) (number : Nat) : Option (List Char) :=
  match number with
  | 0 => none
  | index + 1 => document.lines[index]?.map Text.trimTerminators

/-- The text under a span, if the span does not cut a character. -/
def snippet? (document : Document) (span : Span) : Option (List Char) :=
  let length := Text.width document.text
  let start := min span.start length
  Text.slice? start (max start (min span.stop length)) document.text

end Document

end TemplateLanguage
