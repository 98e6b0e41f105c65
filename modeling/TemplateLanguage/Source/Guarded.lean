import TemplateLanguage.Guarded
import TemplateLanguage.Source.Document

/-!
# Positions and lines worked out from offsets

A document need not keep its lines: the offsets just behind its line feeds are enough to
find positions and to cut lines out of the text.  Every step of such a computation that may
have no result is guarded here.
-/

namespace TemplateLanguage

/-- The offsets just behind the line feeds of a text that begins at a given offset. -/
def Text.lineFeedEnds : Nat → List Char → List Nat
  | _, [] => []
  | offset, char :: rest =>
      if char = '\n' then (offset + 1) :: lineFeedEnds (offset + char.utf8Size) rest
      else lineFeedEnds (offset + char.utf8Size) rest

namespace Document

/-- The offsets at which lines begin, taken from the line feeds. -/
def recordedStarts (document : Document) : List Nat :=
  0 :: Text.lineFeedEnds 0 document.text

/-- The index of the line on which an offset lies, step by step. -/
def guardedIndex (document : Document) (offset : Nat) : Except Fault Nat :=
  match Text.search document.recordedStarts offset 0 document.recordedStarts.length with
  | .ok index => .ok index
  | .error index => Guarded.difference index 1

/-- The position of the start of a span, step by step. -/
def guardedPosition (document : Document) (span : Span) : Except Fault Position := do
  let offset := document.offset span
  let index ← document.guardedIndex offset
  let start ← Guarded.offset document.recordedStarts index
  let distance ← Guarded.difference offset start
  let column ← Guarded.successor distance
  let line ← Guarded.successor index
  return ⟨⟨line, column⟩, line.isLt, column.isLt⟩

/-- A line without its terminators, if there is a line of this number, step by step. -/
def guardedLine (document : Document) (number : Nat) : Except Fault (Option (List Char)) :=
  match number with
  | 0 => .ok none
  | index + 1 =>
      match document.recordedStarts[index]? with
      | none => .ok none
      | some start => do
          let stop := document.recordedStarts[index + 1]?.getD (Text.width document.text)
          let line ← Guarded.cut start stop document.text
          return some (Text.trimTerminators line)

end Document

end TemplateLanguage
