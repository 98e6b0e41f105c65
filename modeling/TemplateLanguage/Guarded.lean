import TemplateLanguage.Text

/-!
# Guarded steps

Some steps of a computation have no result everywhere.  An index may lie behind the last
offset, a difference may be negative, a cut may fall inside a character, and a number may be
too great for 32 bits.

Here every such step is guarded, and the first one that has no result is the result of the
whole.
-/

namespace TemplateLanguage

/-- The numbers of 32 bits are those below this one. -/
def wordLimit : Nat :=
  4294967296

/-- Why a step has no result. -/
inductive Fault where
  /-- No offset has the index. -/
  | missingOffset
  | negativeDifference
  /-- A cut ends before it starts, or one of its ends is not at the boundary of a character. -/
  | brokenCut
  /-- The least value that is allowed is greater than the greatest. -/
  | crossedBounds
  /-- A number has more than 32 bits. -/
  | overflow
  deriving DecidableEq, Repr

namespace Guarded

/-- The offset at an index. -/
def offset (offsets : List Nat) (index : Nat) : Except Fault Nat :=
  match offsets[index]? with
  | some offset => .ok offset
  | none => .error .missingOffset

/-- The difference of two numbers. -/
def difference (minuend subtrahend : Nat) : Except Fault Nat :=
  if subtrahend ≤ minuend then .ok (minuend - subtrahend) else .error .negativeDifference

/-- The number after a given one, which has 32 bits. -/
def successor (number : Nat) : Except Fault (Fin wordLimit) :=
  if fits : number + 1 < wordLimit then .ok ⟨number + 1, fits⟩ else .error .overflow

/-- The number closest to a given one between two bounds. -/
def clamp (number least greatest : Nat) : Except Fault Nat :=
  if least ≤ greatest then .ok (max least (min number greatest)) else .error .crossedBounds

/-- The part of a text between two byte offsets. -/
def cut (start stop : Nat) (text : List Char) : Except Fault (List Char) :=
  if start ≤ stop then
    match Text.slice? start stop text with
    | some part => .ok part
    | none => .error .brokenCut
  else
    .error .brokenCut

end Guarded

end TemplateLanguage
