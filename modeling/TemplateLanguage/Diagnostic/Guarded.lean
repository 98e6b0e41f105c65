import TemplateLanguage.Diagnostic.Excerpt
import TemplateLanguage.Source.Guarded

/-!
# Diagnostics shown step by step

The rows of a diagnostic are put together from positions and lines that are worked out from
offsets.  The number of carets is that of the bytes of the span, clamped between one and what is
left of the line, and a caret is preceded by one blank less than its column.
-/

namespace TemplateLanguage

namespace Excerpt

/-- The rows that show a source line, step by step. -/
def guardedRows (position : Position) (length : Nat) (line : List Char) :
    Except Fault (List (List Char)) := do
  let room := Text.width line + 1 - position.column
  let carets ← Guarded.clamp length 1 (max room 1)
  let blanks ← Guarded.difference position.column 1
  return [
    margin,
    sourceRow position.line line,
    margin ++ ' ' :: List.replicate blanks ' ' ++ List.replicate carets '^' ]

/-- The rows that show the line of a position, step by step. -/
def guardedSourceRows (document : Document) (position : Position) (length : Nat) :
    Except Fault (List (List Char)) := do
  match ← document.guardedLine position.line with
  | none => return []
  | some line => guardedRows position length line

end Excerpt

namespace Diagnostic

/-- The row of a related place, step by step. -/
def guardedLabelRow (document : Document) (label : Label) : Except Fault (List Char) := do
  let position ← document.guardedPosition label.span
  return "   = note: ".toList ++ label.message.toList ++ " at ".toList
    ++ position.render document.name

/-- A diagnostic shown against its document, step by step. -/
def guardedRender (document : Document) (diagnostic : Diagnostic) :
    Except Fault (List Char) := do
  let position ← document.guardedPosition diagnostic.span
  let excerpt ← Excerpt.guardedSourceRows document position diagnostic.span.length
  let labels ← diagnostic.labels.mapM (guardedLabelRow document)
  let rows :=
    diagnostic.headline :: ("  --> ".toList ++ position.render document.name)
      :: excerpt ++ labels ++ diagnostic.notes.map noteRow
  return rows.flatMap fun row => row ++ ['\n']

end Diagnostic

end TemplateLanguage
