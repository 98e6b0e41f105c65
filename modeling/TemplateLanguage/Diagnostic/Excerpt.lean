import TemplateLanguage.Diagnostic.Basic
import TemplateLanguage.Source.Document

/-!
# Diagnostics shown with their source line

A diagnostic is shown in rows: a headline, the place, an excerpt of the source
with a line of carets under it, and one row for each related place and each
hint.  The carets stand under the part of the span that lies on the excerpt's
line, and there is always at least one.

Nothing is shown where a position does not exist.
-/

namespace TemplateLanguage

namespace Position

/-- A position in a named document. -/
def render (name : String) (position : Position) : List Char :=
  name.toList ++ ':' :: Nat.toDigits 10 position.line
    ++ ':' :: Nat.toDigits 10 position.column

end Position

namespace Excerpt

/-- The margin of a row that shows no line number. -/
def margin : List Char :=
  "   |".toList

/-- The row that holds a source line under its number. -/
def sourceRow (number : Nat) (line : List Char) : List Char :=
  (Nat.toDigits 10 number).leftpad 3 ' ' ++ " | ".toList ++ line

/-- Number of carets for a span of a given length that begins at a column of a
line of a given width. -/
def caretCount (column length lineWidth : Nat) : Nat :=
  max 1 (min length (lineWidth + 1 - column))

/-- The row of carets under a source line. -/
def caretRow (column length lineWidth : Nat) : List Char :=
  margin ++ ' ' :: List.replicate (column - 1) ' '
    ++ List.replicate (caretCount column length lineWidth) '^'

/-- The rows that show the line of a position, with carets for a span of a given length. -/
def sourceRows (document : Document) (position : Position) (length : Nat) :
    List (List Char) :=
  match document.line? position.line with
  | none => []
  | some line =>
      [ margin,
        sourceRow position.line line,
        caretRow position.column length (Text.width line) ]

end Excerpt

namespace Diagnostic

/-- The first row: the rule and the message. -/
def headline (diagnostic : Diagnostic) : List Char :=
  "error: ".toList ++ diagnostic.kind.name.toList ++ ": ".toList ++ diagnostic.message.toList

/-- The row of a related place. -/
def labelRow (document : Document) (label : Label) : Except Fault (List Char) := do
  let position ← document.position label.span
  return "   = note: ".toList ++ label.message.toList ++ " at ".toList
    ++ position.render document.name

/-- The row of a hint. -/
def noteRow (note : String) : List Char :=
  "   = help: ".toList ++ note.toList

/-- The rows of a diagnostic. -/
def rows (document : Document) (diagnostic : Diagnostic) :
    Except Fault (List (List Char)) := do
  let position ← document.position diagnostic.span
  let labels ← diagnostic.labels.mapM (labelRow document)
  return diagnostic.headline
    :: ("  --> ".toList ++ position.render document.name)
    :: Excerpt.sourceRows document position diagnostic.span.length
    ++ labels ++ diagnostic.notes.map noteRow

/-- A diagnostic shown against its document, each row ended by a line feed. -/
def render (document : Document) (diagnostic : Diagnostic) : Except Fault (List Char) := do
  let rows ← diagnostic.rows document
  return rows.flatMap fun row => row ++ ['\n']

/-- Several diagnostics with an empty row between neighbours. -/
def renderAll (document : Document) (diagnostics : List Diagnostic) :
    Except Fault (List Char) := do
  let texts ← diagnostics.mapM (render document)
  return Text.join ['\n'] texts

end Diagnostic

end TemplateLanguage
