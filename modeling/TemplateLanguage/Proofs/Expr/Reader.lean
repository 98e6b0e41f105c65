import TemplateLanguage.Proofs.Expr.Pieces

/-!
# Reading expressions

A reader that takes the pieces of an expression one by one and gives back the
expression, without the parentheses that were written in it.

What has been read is an operand inside frames, the innermost first.  A frame
of an operator waits for its right operand; it is completed as soon as the next
piece binds no more tightly than the operator does.  A frame of a delimiter
waits for what closes it.
-/

namespace TemplateLanguage

namespace Expr

mutual

/-- An expression without the parentheses that were written in it. -/
def ungroup (expression : Expr) : Expr :=
  match expression with
  | identifier name => identifier name
  | boolean value => boolean value
  | number value => number value
  | text value raw => text value raw
  | dot target key => dot target.ungroup key
  | index target key => index target.ungroup key.ungroup
  | call target arguments => call target.ungroup (ungroupAll arguments)
  | builtin target name => builtin target.ungroup name
  | sequence items => sequence (ungroupAll items)
  | parenthesized inner => inner.ungroup
  | negation inner => negation inner.ungroup
  | binary operator left right => binary operator left.ungroup right.ungroup
  | invalid => invalid

/-- Several expressions without the parentheses that were written in them. -/
def ungroupAll (expressions : List Expr) : List Expr :=
  match expressions with
  | [] => []
  | expression :: rest => expression.ungroup :: ungroupAll rest

end

theorem ungroupAll_eq_map (expressions : List Expr) :
    ungroupAll expressions = expressions.map ungroup := by
  induction expressions with
  | nil => rfl
  | cons expression rest ih => rw [ungroupAll, ih, List.map_cons]

end Expr

namespace Operator

/-- The operator of a token between two operands. -/
def ofToken? (token : Token) : Option Operator :=
  all.find? fun operator => operator.token = token

theorem strength_lt_atomStrength (operator : Operator) : operator.strength < Expr.atomStrength := by
  cases operator <;> decide

/-- No operator between two operands binds like a prefix operator. -/
theorem strength_ne_prefixStrength (operator : Operator) : operator.strength ≠ prefixStrength := by
  cases operator <;> decide

theorem strength_le_leftStrength (operator : Operator) :
    operator.strength ≤ operator.leftStrength := by
  cases operator <;> decide

end Operator

namespace Reader

/-- What is written around the operand that is being read. -/
inductive Frame where
  /-- A prefix `!`. -/
  | negation
  /-- An operator with its left operand. -/
  | left (operator : Operator) (operand : Expr)
  /-- Parentheses. -/
  | group
  /-- Brackets with a key after an operand. -/
  | key (target : Expr)
  /-- The items before in a list, or the arguments before in a call. -/
  | items (target : Option Expr) (before : List Expr)

namespace Frame

/-- The token that closes a list, or the arguments of a call. -/
def closing : Option Expr → Token
  | none => .rightBracket
  | some _ => .rightParen

/-- A list, or a call of a target. -/
def collect : Option Expr → List Expr → Expr
  | none, values => .sequence values
  | some target, values => .call target values

/-- The operation that a value completes before a piece that binds with some
strength. -/
def complete? (level : Nat) (value : Expr) : Frame → Option Expr
  | negation => if level ≤ Operator.prefixStrength then some (.negation value) else none
  | left operator operand =>
      if level ≤ operator.strength then some (.binary operator operand value) else none
  | _ => none

/-- The least strength of an expression that a frame leaves whole. -/
def demand : Frame → Nat
  | negation => Operator.prefixStrength
  | left operator _ => operator.strength + 1
  | _ => 0

end Frame

/-- Complete the operations that end before a piece that binds with some
strength. -/
def reduce (level : Nat) (value : Expr) : List Frame → Expr × List Frame
  | [] => (value, [])
  | frame :: frames =>
      match frame.complete? level value with
      | some whole => reduce level whole frames
      | none => (value, frame :: frames)

/-- What is expected next. -/
inductive State where
  /-- An operand. -/
  | operand (frames : List Frame)
  /-- The first item of a list, or the end of the list. -/
  | first (frames : List Frame)
  /-- The number after a minus sign. -/
  | negative (frames : List Frame)
  /-- The name after an access operator. -/
  | name (after : Interpolation.Access) (target : Expr) (frames : List Frame)
  /-- What follows a complete operand. -/
  | complete (value : Expr) (frames : List Frame)

/-- The strength with which a token binds after an operand. -/
def level (token : Token) : Nat :=
  match token with
  | .dot | .question | .leftBracket | .leftParen => Expr.atomStrength
  | token => ((Operator.ofToken? token).map Operator.strength).getD 0

/-- The expression of a single piece. -/
def literal? (piece : Piece) : Option Expr :=
  match piece.token with
  | .name => some (.identifier (String.ofList piece.text))
  | .trueWord => some (.boolean true)
  | .falseWord => some (.boolean false)
  | .integer | .decimal => (Decimal.ofDigits? false piece.text).map .number
  | .string => some (.text (String.ofList (Token.unquote piece.text)) false)
  | .rawString => some (.text (String.ofList (Token.unquoteRaw piece.text)) true)
  | _ => none

/-- Read the first piece of an operand. -/
def operand? (frames : List Frame) (piece : Piece) : Option State :=
  match piece.token with
  | .bang => some (.operand (.negation :: frames))
  | .minus => some (.negative frames)
  | .leftParen => some (.operand (.group :: frames))
  | .leftBracket => some (.first (.items none [] :: frames))
  | _ => (literal? piece).map fun value => .complete value frames

/-- Close a list without items. -/
def closeEmpty? (token : Token) : List Frame → Option State
  | .items target [] :: frames =>
      if token = Frame.closing target then some (.complete (Frame.collect target []) frames)
      else none
  | _ => none

/-- Read what ends the innermost frame, or a comma in it. -/
def close? (value : Expr) (token : Token) : List Frame → Option State
  | .group :: frames => if token = .rightParen then some (.complete value frames) else none
  | .key target :: frames =>
      if token = .rightBracket then some (.complete (.index target value) frames) else none
  | .items target before :: frames =>
      if token = .comma then some (.operand (.items target (before ++ [value]) :: frames))
      else if token = Frame.closing target then
        some (.complete (Frame.collect target (before ++ [value])) frames)
      else none
  | _ => none

/-- Read what follows an operand that nothing completes any more. -/
def follow? (value : Expr) (frames : List Frame) (token : Token) : Option State :=
  match token with
  | .dot => some (.name .key value frames)
  | .question => some (.name .builtin value frames)
  | .leftBracket => some (.operand (.key value :: frames))
  | .leftParen => some (.first (.items (some value) [] :: frames))
  | token =>
      match Operator.ofToken? token with
      | some operator => some (.operand (.left operator value :: frames))
      | none => close? value token frames

/-- The token of an access operator. -/
def accessToken : Interpolation.Access → Token
  | .key => .dot
  | .builtin => .question

/-- The value under a name after an access operator. -/
def access (target : Expr) (name : String) : Interpolation.Access → Expr
  | .key => .dot target name
  | .builtin => .builtin target name

/-- Read a piece. -/
def step? (piece : Piece) : State → Option State
  | .operand frames => operand? frames piece
  | .first frames =>
      match closeEmpty? piece.token frames with
      | some state => some state
      | none => operand? frames piece
  | .negative frames =>
      (Decimal.ofDigits? true piece.text).map fun value => .complete (.number value) frames
  | .name after target frames =>
      some (.complete (access target (String.ofList piece.text) after) frames)
  | .complete value frames =>
      follow? (reduce (level piece.token) value frames).1
        (reduce (level piece.token) value frames).2 piece.token

/-- The expression that is complete at the end of the text. -/
def finish? : State → Option Expr
  | .complete value frames =>
      match reduce 0 value frames with
      | (whole, []) => some whole
      | _ => none
  | _ => none

/-- Read pieces to the end. -/
def run (state : State) : List Piece → Option Expr
  | [] => finish? state
  | piece :: pieces => (step? piece state).bind fun following => run following pieces

/-- Read an expression from a text. -/
def read? (text : String) : Option Expr :=
  match Lexer.lexemes 0 text.toList with
  | (lexemes, none) =>
      run (.operand []) (lexemes.map fun lexeme => ⟨lexeme.token, lexeme.text⟩)
  | _ => none

/-! ## Completing operations -/

variable {value whole : Expr} {frame : Frame} {frames : List Frame} {rest : List Piece}

/-- The least strength of an expression that frames leave whole. -/
def demand (frames : List Frame) : Nat :=
  (frames.head?.map Frame.demand).getD 0

/-- The strength with which the first piece binds after an operand. -/
def nextLevel (pieces : List Piece) : Nat :=
  (pieces.head?.map fun piece => level piece.token).getD 0

theorem reduce_of_complete?_eq_none {binding : Nat}
    (whole : ∀ frame ∈ frames.head?, frame.complete? binding value = none) :
    reduce binding value frames = (value, frames) := by
  cases frames with
  | nil => rfl
  | cons frame outer => rw [reduce, whole frame rfl]

theorem demand_le_atomStrength (frames : List Frame) : demand frames ≤ Expr.atomStrength := by
  cases frames with
  | nil => exact Nat.zero_le _
  | cons frame outer =>
      cases frame with
      | negation =>
          have weaker : Operator.prefixStrength ≤ Expr.atomStrength := by decide
          exact weaker
      | left operator operand => exact operator.strength_lt_atomStrength
      | _ => exact Nat.zero_le _

/-- Postfix operators complete nothing. -/
theorem reduce_atomStrength (value : Expr) (frames : List Frame) :
    reduce Expr.atomStrength value frames = (value, frames) := by
  apply reduce_of_complete?_eq_none
  intro frame _
  cases frame with
  | negation => rfl
  | left operator operand => exact if_neg (Nat.not_le_of_lt operator.strength_lt_atomStrength)
  | _ => rfl

/-- An operator completes nothing in frames that leave its operation whole. -/
theorem reduce_strength {operator : Operator} (demands : demand frames ≤ operator.strength) :
    reduce operator.strength value frames = (value, frames) := by
  apply reduce_of_complete?_eq_none
  intro frame innermost
  rw [demand, innermost] at demands
  cases frame with
  | negation =>
      have tighter : ¬operator.strength ≤ Operator.prefixStrength := by
        intro looser
        exact operator.strength_ne_prefixStrength (Nat.le_antisymm looser demands)
      exact if_neg tighter
  | left outer operand => exact if_neg (Nat.not_le_of_lt demands)
  | _ => rfl

/-- A completed operation takes the place of its frame. -/
theorem run_complete_cons (completes : frame.complete? (nextLevel rest) value = some whole) :
    run (.complete value (frame :: frames)) rest = run (.complete whole frames) rest := by
  cases rest with
  | nil =>
      change frame.complete? 0 value = some whole at completes
      rw [run, run, finish?, finish?, reduce, completes]
  | cons piece pieces =>
      change frame.complete? (level piece.token) value = some whole at completes
      rw [run, run, step?, step?, reduce, completes]

end Reader

end TemplateLanguage
