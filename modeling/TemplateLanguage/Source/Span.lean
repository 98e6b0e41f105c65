/-!
# Spans

A span is a range of byte offsets of a text, kept together with the line of
its first byte so that it can be shown without the text.  Its end may lie
before its start; such a span is empty.
-/

namespace TemplateLanguage

/-- A range of byte offsets and the line on which it starts. -/
structure Span where
  start : Nat
  stop : Nat
  line : Nat
  deriving DecidableEq, Repr

namespace Span

/-- Number of bytes of a span. -/
def length (span : Span) : Nat :=
  span.stop - span.start

/-- Whether a span holds no byte. -/
def isEmpty (span : Span) : Bool :=
  span.stop ≤ span.start

/-- The smallest span that covers two spans. -/
def cover (first second : Span) : Span :=
  { start := min first.start second.start
    stop := max first.stop second.stop
    line := min first.line second.line }

/-- How a span is shown without its text. -/
def text (span : Span) : String :=
  "line " ++ toString span.line

theorem cover_comm (first second : Span) : first.cover second = second.cover first := by
  simp [cover, Nat.min_comm, Nat.max_comm]

theorem length_eq_zero_iff {span : Span} : span.length = 0 ↔ span.isEmpty = true := by
  simp [length, isEmpty, Nat.sub_eq_zero_iff_le]

end Span

end TemplateLanguage
