import TemplateLanguage.Proofs.Decimal.Digits
import TemplateLanguage.Proofs.Expr.WellFormed
import TemplateLanguage.Proofs.Interpolation.Acceptance

/-!
# The pieces of a written expression

`Expr.pieces` lists the tokens of the text of an expression, each with its own
text.  It follows the cases of `Expr.render`, and it knows nothing of blanks
and of where one token ends and the next one begins.  The lexer finds the
pieces of a well-formed expression in its text, whatever follows the text, as
long as a word or a number at its end does not go on there.
-/

namespace TemplateLanguage

/-- A token with its text. -/
structure Piece where
  token : Token
  text : List Char
  deriving DecidableEq, Repr

/-- The text of a symbol. -/
def Token.symbolText (token : Token) : List Char :=
  ((symbols.find? fun entry => entry.2 = token).map Prod.fst).getD []

/-- The token of a number with some digits after the point. -/
def Token.ofPlaces (places : Nat) : Token :=
  if places = 0 then integer else decimal

theorem Token.isLiteral_ofPlaces (places : Nat) : (ofPlaces places).isLiteral = true := by
  rw [ofPlaces]
  split <;> rfl

/-- The token of an operator. -/
def Operator.token : Operator → Token
  | add => .plus
  | subtract => .minus
  | multiply => .star
  | divide => .slash
  | modulo => .percent
  | equals => .doubleEqual
  | notEquals => .notEqual
  | lessThan => .less
  | greaterThan => .greater
  | conjunction => .doubleAmpersand
  | disjunction => .doubleBar
  | fallback => .bang

/-- The least strength that an operator asks of its left operand. -/
def Operator.leftStrength (operator : Operator) : Nat :=
  if operator = .fallback then Expr.atomStrength else operator.strength

namespace Piece

/-- The piece of a symbol. -/
def symbol (token : Token) : Piece :=
  ⟨token, token.symbolText⟩

/-- Put pieces into parentheses where they are needed. -/
def group (needed : Bool) (pieces : List Piece) : List Piece :=
  if needed then symbol .leftParen :: pieces ++ [symbol .rightParen] else pieces

end Piece

namespace Expr

mutual

/-- The pieces of an expression. -/
def pieces (expression : Expr) : List Piece :=
  match expression with
  | identifier name => [⟨.name, name.toList⟩]
  | boolean true => [⟨.trueWord, ['t', 'r', 'u', 'e']⟩]
  | boolean false => [⟨.falseWord, ['f', 'a', 'l', 's', 'e']⟩]
  | number value =>
      (if value.negative then [Piece.symbol .minus] else []) ++
        [⟨Token.ofPlaces value.scale, positional value.mantissa value.scale⟩]
  | text value raw => [⟨if raw then .rawString else .string, renderString value.toList raw⟩]
  | dot target key =>
      Piece.group (target.strength < atomStrength) target.pieces
        ++ [Piece.symbol .dot, ⟨.name, key.toList⟩]
  | index target key =>
      Piece.group (target.strength < atomStrength) target.pieces
        ++ (Piece.symbol .leftBracket :: key.pieces ++ [Piece.symbol .rightBracket])
  | call target arguments =>
      Piece.group (target.strength < atomStrength) target.pieces
        ++ (Piece.symbol .leftParen :: piecesAll arguments ++ [Piece.symbol .rightParen])
  | builtin target name =>
      Piece.group (target.strength < atomStrength) target.pieces
        ++ [Piece.symbol .question, ⟨.name, name.toList⟩]
  | sequence items =>
      Piece.symbol .leftBracket :: piecesAll items ++ [Piece.symbol .rightBracket]
  | parenthesized inner => Piece.group true inner.pieces
  | negation inner =>
      Piece.symbol .bang :: Piece.group (inner.strength < Operator.prefixStrength) inner.pieces
  | binary operator left right =>
      Piece.group (left.strength < operator.leftStrength) left.pieces
        ++ Piece.symbol operator.token
        :: Piece.group (right.strength < operator.strength + 1) right.pieces
  | invalid => []

/-- The pieces of several expressions with commas between them. -/
def piecesAll (expressions : List Expr) : List Piece :=
  match expressions with
  | [] => []
  | expression :: rest => expression.pieces ++ piecesMore rest

/-- The pieces of several expressions with a comma before each. -/
def piecesMore (expressions : List Expr) : List Piece :=
  match expressions with
  | [] => []
  | expression :: rest => Piece.symbol .comma :: expression.pieces ++ piecesMore rest

end

/-- The text between the operands of an operator. -/
def infixText (operator : Operator) : List Char :=
  if operator = .fallback then ['!'] else ' ' :: operator.symbol.toList ++ [' ']

theorem render_binary (operator : Operator) (left right : Expr) :
    (binary operator left right).render =
      group (left.strength < operator.leftStrength) left.render
        ++ (infixText operator
          ++ group (right.strength < operator.strength + 1) right.render) := by
  cases operator with
  | fallback => rfl
  | _ => simp [render, infixText, Operator.leftStrength]

end Expr

namespace Lexer

/-- A text begins with these pieces, and some text is left after them. -/
inductive Yields : List Char → List Piece → List Char → Prop
  | nothing {text : List Char} : Yields text [] text
  | piece {text rest after : List Char} {piece : Piece} {pieces : List Piece} :
      Token.read? (text.dropWhile Token.isBlank) = some ⟨piece.token, piece.text, rest⟩ →
      Yields rest pieces after → Yields text (piece :: pieces) after

variable {text rest after : List Char} {first second : List Piece}

theorem Yields.append (begins : Yields text first rest) (goesOn : Yields rest second after) :
    Yields text (first ++ second) after := by
  induction begins with
  | nothing => exact goesOn
  | piece read _ ih => exact .piece read (ih goesOn)

/-- The tokens of the pieces are the tokens that are read. -/
theorem Yields.reads (yields : Yields text first after) :
    Reads text (first.map Piece.token) after := by
  induction yields with
  | nothing => exact .nothing
  | piece read _ ih => exact .token read ih

theorem next_eq_read_of_read? {reading : Token.Reading}
    (read : Token.read? (text.dropWhile Token.isBlank) = some reading) (offset : Nat) :
    ∃ start, next offset text = .read ⟨reading.token, reading.text, start⟩ reading.rest := by
  unfold next
  split
  · rename_i nothing
    rw [nothing] at read
    cases read
  · rename_i char others following
    rw [following] at read
    rw [read]
    exact ⟨_, rfl⟩

/-- A text that is read to its end is read so by the lexer. -/
theorem Yields.lexemes (yields : Yields text first []) (offset : Nat) :
    (lexemes offset text).2 = none ∧
      (lexemes offset text).1.map (fun lexeme => ⟨lexeme.token, lexeme.text⟩) = first := by
  -- the text that is left at the end is the same for all that is read before
  generalize ended : [] = after at yields
  induction yields generalizing offset with
  | nothing =>
      subst ended
      have done : next offset [] = .done := rfl
      rw [lexemes_of_done done]
      exact ⟨rfl, rfl⟩
  | piece read _ ih =>
      obtain ⟨start, next⟩ := next_eq_read_of_read? read offset
      rw [lexemes_of_read next]
      exact ⟨(ih _ ended).1, congrArg _ (ih _ ended).2⟩

/-- Where a piece is read no blanks are left out. -/
theorem Yields.cons {piece : Piece} (read : Token.read? text = some ⟨piece.token, piece.text, rest⟩)
    (goesOn : Yields rest second after) : Yields text (piece :: second) after := by
  have unblank : text.dropWhile Token.isBlank = text := by
    cases text with
    | nil => rfl
    | cons char others =>
        apply List.dropWhile_cons_of_neg
        intro blank
        rw [Token.read?_of_isBlank blank] at read
        cases read
  rw [← unblank] at read
  exact .piece read goesOn

/-- A blank may stand before the first piece. -/
theorem Yields.blank (yields : Yields text first after) (filled : first ≠ []) :
    Yields (' ' :: text) first after := by
  cases yields with
  | nothing => exact absurd rfl filled
  | piece read goesOn => exact .piece read goesOn

end Lexer

/-! ## Texts of pieces -/

/-- Before every text at which a word or a number ends, a text is read as these
pieces. -/
def Spells (text : List Char) (pieces : List Piece) : Prop :=
  ∀ rest, Token.endsToken rest = true → Lexer.Yields (text ++ rest) pieces rest

/-- The text of an operand: its first piece can begin an operand, and an equals
sign does not stand at its beginning, where it would go on with a `!`. -/
structure Writes (text : List Char) (pieces : List Piece) : Prop where
  starts : ∃ first others, pieces = first :: others ∧ first.token.startsOperand = true
  begins : ∃ first others, text = first :: others ∧ first ≠ '='
  spells : Spells text pieces

section Spelling

variable {text more : List Char} {pieces others : List Piece}

theorem Spells.nil : Spells [] [] :=
  fun _ _ => .nothing

/-- A symbol of one character that is read whatever follows. -/
theorem Spells.symbol {char : Char} {token : Token}
    (read : ∀ rest, Token.read? (char :: rest) = some ⟨token, token.symbolText, rest⟩)
    (spells : Spells text pieces) : Spells (char :: text) (Piece.symbol token :: pieces) :=
  fun rest ends => .cons (read (text ++ rest)) (spells rest ends)

/-- A token that is read before every text at which a word or a number ends. -/
theorem Spells.single {token : Token}
    (read : ∀ rest, Token.endsToken rest = true →
      Token.read? (text ++ rest) = some ⟨token, text, rest⟩) :
    Spells text [⟨token, text⟩] :=
  fun rest ends => .cons (read rest ends) .nothing

/-- Texts one after another are read as their pieces if no token runs from one
into the other. -/
theorem Spells.append (spells : Spells text pieces) (following : Spells more others)
    (apart : ∀ rest, Token.endsToken rest = true → Token.endsToken (more ++ rest) = true) :
    Spells (text ++ more) (pieces ++ others) := by
  intro rest ends
  rw [List.append_assoc]
  exact (spells (more ++ rest) (apart rest ends)).append (following rest ends)

theorem Spells.blank (spells : Spells text pieces) (filled : pieces ≠ []) :
    Spells (' ' :: text) pieces :=
  fun rest ends => (spells rest ends).blank filled

theorem Spells.parentheses (spells : Spells text pieces) :
    Spells ('(' :: text ++ [')'])
      (Piece.symbol .leftParen :: pieces ++ [Piece.symbol .rightParen]) := by
  have closed : Spells (text ++ [')']) (pieces ++ [Piece.symbol .rightParen]) :=
    spells.append (.symbol (fun _ => rfl) .nil) fun _ _ => rfl
  exact .symbol (fun _ => rfl) closed

theorem Spells.brackets (spells : Spells text pieces) :
    Spells ('[' :: text ++ [']'])
      (Piece.symbol .leftBracket :: pieces ++ [Piece.symbol .rightBracket]) := by
  have closed : Spells (text ++ [']']) (pieces ++ [Piece.symbol .rightBracket]) :=
    spells.append (.symbol (fun _ => rfl) .nil) fun _ _ => rfl
  exact .symbol (fun _ => rfl) closed

theorem Writes.pieces_ne_nil (writes : Writes text pieces) : pieces ≠ [] := by
  obtain ⟨first, others, rfl, _⟩ := writes.starts
  exact List.cons_ne_nil first others

theorem Writes.append (writes : Writes text pieces) (following : Spells more others)
    (apart : ∀ rest, Token.endsToken rest = true → Token.endsToken (more ++ rest) = true) :
    Writes (text ++ more) (pieces ++ others) where
  starts := by
    obtain ⟨first, rest, rfl, operand⟩ := writes.starts
    exact ⟨first, rest ++ others, rfl, operand⟩
  begins := by
    obtain ⟨first, rest, rfl, noEqual⟩ := writes.begins
    exact ⟨first, rest ++ more, rfl, noEqual⟩
  spells := writes.spells.append following apart

theorem Writes.group (writes : Writes text pieces) (needed : Bool) :
    Writes (Expr.group needed text) (Piece.group needed pieces) := by
  cases needed with
  | false => exact writes
  | true =>
      exact
        { starts := ⟨_, _, rfl, rfl⟩
          begins := ⟨'(', text ++ [')'], rfl, by decide⟩
          spells := writes.spells.parentheses }

/-- A negation is read as such before an operand. -/
theorem Spells.bang (writes : Writes text pieces) :
    Spells ('!' :: text) (Piece.symbol .bang :: pieces) := by
  intro rest ends
  have goesOn := writes.spells rest ends
  obtain ⟨first, others, rfl, noEqual⟩ := writes.begins
  exact .cons (Token.read?_bang noEqual) goesOn

/-- An operator is read as such before an operand. -/
theorem Spells.operator (writes : Writes text pieces) (operator : Operator) :
    Spells (Expr.infixText operator ++ text) (Piece.symbol operator.token :: pieces) := by
  have goesOn := writes.spells.blank writes.pieces_ne_nil
  intro rest ends
  cases operator with
  | fallback => exact Spells.bang writes rest ends
  | _ => exact .blank (.cons rfl (goesOn rest ends)) (List.cons_ne_nil _ _)

theorem endsToken_infixText_append (operator : Operator) (rest : List Char) :
    Token.endsToken (Expr.infixText operator ++ rest) = true := by
  cases operator <;> rfl

/-! ## Lists -/

theorem join_cons (separator : List Char) (first : List Char) (others : List (List Char)) :
    Text.join separator (first :: others) =
      first ++ others.flatMap (separator ++ ·) := by
  induction others generalizing first with
  | nil => simp [Text.join]
  | cons second others ih => simp [Text.join, ih]

theorem endsToken_flatMap_append {items : List (List Char)} {rest : List Char}
    (ends : Token.endsToken rest = true) :
    Token.endsToken (items.flatMap ([',', ' '] ++ ·) ++ rest) = true := by
  cases items with
  | nil => exact ends
  | cons item items => rfl

theorem spells_piecesMore {items : List Expr}
    (writes : ∀ item ∈ items, Writes item.render item.pieces) :
    Spells ((items.map Expr.render).flatMap ([',', ' '] ++ ·)) (Expr.piecesMore items) := by
  induction items with
  | nil => exact .nil
  | cons item items ih =>
      rw [List.forall_mem_cons] at writes
      have following := writes.1.spells.append (ih writes.2) fun _ => endsToken_flatMap_append
      have filled : item.pieces ++ Expr.piecesMore items ≠ [] := by
        simp [writes.1.pieces_ne_nil]
      rw [List.map_cons, List.flatMap_cons, Expr.piecesMore]
      exact .symbol (fun _ => rfl) (following.blank filled)

/-- Expressions with commas between them are read as their pieces. -/
theorem spells_piecesAll {items : List Expr}
    (writes : ∀ item ∈ items, Writes item.render item.pieces) :
    Spells (Text.join [',', ' '] (Expr.renderAll items)) (Expr.piecesAll items) := by
  rw [Expr.renderAll_eq_map]
  cases items with
  | nil => exact .nil
  | cons item items =>
      rw [List.forall_mem_cons] at writes
      rw [List.map_cons, join_cons, Expr.piecesAll]
      exact writes.1.spells.append (spells_piecesMore writes.2) fun _ => endsToken_flatMap_append

end Spelling

/-! ## Texts of expressions -/

section Parts

variable {word : List Char}

theorem writes_word (isWord : Token.isWord word = true)
    (operand : (Token.ofWord word).startsOperand = true) :
    Writes word [⟨Token.ofWord word, word⟩] where
  starts := ⟨_, _, rfl, operand⟩
  begins := by
    obtain ⟨first, others, rfl, starts, _⟩ := Token.exists_cons_of_isWord isWord
    exact ⟨first, others, rfl, Token.ne_of_startsWord starts rfl⟩
  spells := Spells.single fun _ => Token.read?_word isWord

theorem writes_name (named : Token.isName word = true) : Writes word [⟨.name, word⟩] := by
  have isName := Token.ofWord_of_isName named
  have writes := writes_word (Token.isWord_of_isName named) (by rw [isName]; rfl)
  rw [isName] at writes
  exact writes

theorem writes_positional (coefficient places : Nat) :
    Writes (positional coefficient places)
      [⟨Token.ofPlaces places, positional coefficient places⟩] := by
  have digits : ∀ number, ∃ first others, Nat.toDigits 10 number = first :: others ∧
      first ≠ '=' := by
    intro number
    cases written : Nat.toDigits 10 number with
    | nil => exact absurd written Nat.toDigits_ne_nil
    | cons first others =>
        have member : first ∈ Nat.toDigits 10 number := written ▸ List.mem_cons_self
        exact ⟨first, others, rfl, Token.ne_of_isDigit (isDigit_of_mem_toDigits member) rfl⟩
  by_cases pointed : places = 0
  · rw [pointed, positional_of_zero]
    exact
      { starts := ⟨_, _, rfl, rfl⟩
        begins := digits coefficient
        spells := Spells.single fun _ =>
          Token.read?_integer Nat.toDigits_ne_nil fun _ => isDigit_of_mem_toDigits }
  · rw [Token.ofPlaces, if_neg pointed, positional_of_ne_zero coefficient pointed]
    have places_ne_nil : fractionDigits coefficient places ≠ [] := by
      rw [← List.length_pos_iff, length_fractionDigits pointed]
      exact Nat.pos_of_ne_zero pointed
    exact
      { starts := ⟨_, _, rfl, rfl⟩
        begins := by
          obtain ⟨first, others, written, noEqual⟩ := digits (coefficient / Nat.pow 10 places)
          rw [written]
          exact ⟨first, _, rfl, noEqual⟩
        spells := Spells.single fun _ => Token.read?_decimal Nat.toDigits_ne_nil
          (fun _ => isDigit_of_mem_toDigits) places_ne_nil
          (fun _ => isDigit_of_mem_fractionDigits) }

theorem writes_number (value : Decimal) :
    Writes (Expr.number value).render (Expr.number value).pieces := by
  have unsigned := writes_positional value.mantissa value.scale
  rw [Expr.render, Expr.pieces, Decimal.render, signText]
  cases value.negative with
  | false => exact unsigned
  | true =>
      exact
        { starts := ⟨_, _, rfl, rfl⟩
          begins := ⟨'-', _, rfl, by decide⟩
          spells := unsigned.spells.symbol fun _ => rfl }

/-- A symbol that is read before every name makes a piece of its own there. -/
theorem spells_access {char : Char} {token : Token}
    (read : ∀ first rest, Token.startsWord first = true →
      Token.read? (char :: first :: rest) = some ⟨token, token.symbolText, first :: rest⟩)
    (named : Token.isName word = true) :
    Spells (char :: word) [Piece.symbol token, ⟨.name, word⟩] := by
  intro rest ends
  have goesOn := (writes_name named).spells rest ends
  obtain ⟨first, others, rfl, starts, _⟩ :=
    Token.exists_cons_of_isWord (Token.isWord_of_isName named)
  exact .cons (read first (others ++ rest) starts) goesOn

theorem spells_dot (named : Token.isName word = true) :
    Spells ('.' :: word) [Piece.symbol .dot, ⟨.name, word⟩] :=
  spells_access (fun _ _ starts => Token.read?_dot (Token.ne_of_startsWord starts rfl)) named

theorem spells_question (named : Token.isName word = true) :
    Spells ('?' :: word) [Piece.symbol .question, ⟨.name, word⟩] :=
  spells_access (fun _ _ starts => Token.read?_question (Token.ne_of_startsWord starts rfl)) named

theorem endsToken_dot_append (named : Token.isName word = true) (rest : List Char) :
    Token.endsToken ('.' :: word ++ rest) = true := by
  obtain ⟨first, others, rfl, starts, _⟩ :=
    Token.exists_cons_of_isWord (Token.isWord_of_isName named)
  rw [List.cons_append, List.cons_append, Token.endsToken, Token.not_isDigit_of_startsWord starts]
  rfl

end Parts

/-- The lexer finds the pieces of a well-formed expression in its text. -/
theorem Expr.WellFormed.writes {expression : Expr} (formed : expression.WellFormed) :
    Writes expression.render expression.pieces := by
  induction formed with
  | identifier named => exact writes_name named
  | boolean value =>
      cases value with
      | true => exact writes_word (by decide) (by decide)
      | false => exact writes_word (by decide) (by decide)
  | number value => exact writes_number value
  | quoted value =>
      exact
        { starts := ⟨_, _, rfl, rfl⟩
          begins := ⟨'"', _, rfl, by decide⟩
          spells := Spells.single fun _ _ => Token.read?_quoted value.toList }
  | raw unquoted =>
      exact
        { starts := ⟨_, _, rfl, rfl⟩
          begins := ⟨'r', _, rfl, by decide⟩
          spells := Spells.single fun _ _ => Token.read?_raw unquoted }
  | dot _ named ih =>
      exact (ih.group _).append (spells_dot named) fun rest _ => endsToken_dot_append named rest
  | index _ _ ihTarget ihKey =>
      rw [Expr.render, Expr.pieces, List.append_assoc]
      exact (ihTarget.group _).append ihKey.spells.brackets fun _ _ => rfl
  | call _ _ ihTarget ihArguments =>
      rw [Expr.render, Expr.pieces, List.append_assoc]
      exact (ihTarget.group _).append (spells_piecesAll ihArguments).parentheses fun _ _ => rfl
  | builtin _ named ih =>
      exact (ih.group _).append (spells_question named) fun _ _ => rfl
  | sequence _ ih =>
      exact
        { starts := ⟨_, _, rfl, rfl⟩
          begins := ⟨'[', _, rfl, by decide⟩
          spells := (spells_piecesAll ih).brackets }
  | parenthesized _ ih => exact ih.group true
  | negation _ ih =>
      exact
        { starts := ⟨_, _, rfl, rfl⟩
          begins := ⟨'!', _, rfl, by decide⟩
          spells := Spells.bang (ih.group _) }
  | binary operator _ _ ihLeft ihRight =>
      have apart : ∀ right rest,
          Token.endsToken (Expr.infixText operator ++ right ++ rest) = true := by
        intro right rest
        rw [List.append_assoc]
        exact endsToken_infixText_append operator (right ++ rest)
      rw [Expr.render_binary, Expr.pieces]
      exact (ihLeft.group _).append (Spells.operator (ihRight.group _) operator) fun rest _ =>
        apart _ rest

end TemplateLanguage
