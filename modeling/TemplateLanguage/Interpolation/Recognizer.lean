import TemplateLanguage.Interpolation.Error
import TemplateLanguage.Token.Lexer

/-!
# Recognizing a section

The inside of a section `${…}` or `#{…}` is one expression:

* an expression is a chain of operands between binary operators, where the
  operand after a range operator may be missing;
* an operand is any number of prefix operators, a primary, and its tail;
* a primary is a literal or a group in parentheses, brackets or braces;
* the tail is made of `.name`, `?name`, `??`, `[…]`, `(…)` and `!`, the last
  one followed by a primary whenever the next token can begin one.

A section that begins with a number sign may add a semicolon and any tokens up
to the closing brace.

The recognizer is a pushdown automaton.  `Expectation` says what may come
next, and the stack of `Group`s says what is open.  `State.step` consumes one
token, so the first token that no valid section could hold at its place is the
one that is refused.
-/

namespace TemplateLanguage.Interpolation

/-- The two forms of a section. -/
inductive Form where
  /-- Begins with a dollar sign. -/
  | plain
  /-- Begins with a number sign. -/
  | numeric
  deriving DecidableEq, Repr

/-- A delimiter that is open, with the place in it that is being read. -/
inductive Group where
  /-- An expression in parentheses. -/
  | paren
  /-- The key in brackets after an operand. -/
  | index
  /-- An argument of a call. -/
  | argument
  /-- An item of a list. -/
  | item
  /-- A key of a hash. -/
  | entryKey
  /-- A value of a hash. -/
  | entryValue
  deriving DecidableEq, Repr

namespace Group

/-- The token that must follow when no further item does. -/
def closing : Group → Token
  | paren | argument => .rightParen
  | index | item => .rightBracket
  | entryKey => .colon
  | entryValue => .rightBrace

/-- The character of the closing token. -/
def closingChar : Group → Char
  | paren | argument => ')'
  | index | item => ']'
  | entryKey => ':'
  | entryValue => '}'

/-- The group in which reading goes on after a comma. -/
def afterComma? : Group → Option Group
  | argument => some argument
  | item => some item
  | entryValue => some entryKey
  | paren | index | entryKey => none

/-- The token that closes the group while it is still empty. -/
def emptyClosing? : Group → Option Token
  | argument => some .rightParen
  | item => some .rightBracket
  | entryKey => some .rightBrace
  | paren | index | entryValue => none

end Group

/-- What the recognizer expects of the next token. -/
inductive Expectation where
  /-- The first token of the section. -/
  | first
  /-- The beginning of an operand. -/
  | operand
  /-- The first item of a group, or its end. -/
  | firstItem
  /-- A continuation of the operand just read. -/
  | tail
  /-- A primary, or a continuation of the operand that ends in `!`. -/
  | fallback
  /-- An operand, or the end of the expression that ends in a range operator. -/
  | bound
  /-- A name after an access operator. -/
  | name (after : Access)
  /-- Any token up to the closing brace. -/
  | format
  deriving DecidableEq, Repr

/-- The state of the recognizer inside a section. -/
structure State where
  expectation : Expectation
  groups : List Group
  deriving DecidableEq, Repr

/-- What becomes of a section when one more token is read. -/
inductive Outcome where
  /-- The section is complete. -/
  | complete
  /-- The section goes on. -/
  | continue (state : State)
  /-- The token cannot stand here. -/
  | refuse (error : Error)
  deriving DecidableEq, Repr

namespace State

/-- The state just after the opening brace. -/
def initial : State :=
  ⟨.first, []⟩

/-- Read the first token of a primary. -/
def primary? (groups : List Group) : Token → Option State
  | .leftParen => some ⟨.operand, .paren :: groups⟩
  | .leftBracket => some ⟨.firstItem, .item :: groups⟩
  | .leftBrace => some ⟨.firstItem, .entryKey :: groups⟩
  | token => if token.isLiteral then some ⟨.tail, groups⟩ else none

/-- Read the first token of an operand. -/
def operand (groups : List Group) (lexeme : Lexeme) : Outcome :=
  if lexeme.token.isPrefixOperator then .continue ⟨.operand, groups⟩
  else
    match primary? groups lexeme.token with
    | some state => .continue state
    | none => .refuse (.expectedExpression lexeme.start (String.ofList lexeme.text))

/-- Read the token after a complete expression inside a group. -/
def close (group : Group) (groups : List Group) (lexeme : Lexeme) : Outcome :=
  if lexeme.token = .comma ∧ group.afterComma?.isSome then
    .continue ⟨.operand, group.afterComma?.toList ++ groups⟩
  else if lexeme.token = group.closing then
    if group = .entryKey then .continue ⟨.operand, .entryValue :: groups⟩
    else .continue ⟨.tail, groups⟩
  else
    match lexeme.token.closer? with
    | some found => .refuse (.mismatchedDelimiter lexeme.start group.closingChar found)
    | none => .refuse (.unexpectedToken lexeme.start (String.ofList lexeme.text))

/-- Read the token after the complete expression of a section. -/
def finish (form : Form) (lexeme : Lexeme) : Outcome :=
  if lexeme.token = .rightBrace then .complete
  else if form = .numeric ∧ lexeme.token = .semicolon then .continue ⟨.format, []⟩
  else
    match lexeme.token.closer? with
    | some found => .refuse (.unexpectedDelimiter lexeme.start found)
    | none => .refuse (.unexpectedToken lexeme.start (String.ofList lexeme.text))

/-- Read the token after a complete expression. -/
def endExpression (form : Form) (groups : List Group) (lexeme : Lexeme) : Outcome :=
  match groups with
  | [] => finish form lexeme
  | group :: outer => close group outer lexeme

/-- Read the token after an operand and all of its tail. -/
def operator (form : Form) (groups : List Group) (lexeme : Lexeme) : Outcome :=
  if lexeme.token.isRange then .continue ⟨.bound, groups⟩
  else if lexeme.token.isBinaryOperator then .continue ⟨.operand, groups⟩
  else endExpression form groups lexeme

/-- Read the token after an operand. -/
def tail (form : Form) (groups : List Group) (lexeme : Lexeme) : Outcome :=
  match lexeme.token with
  | .dot => .continue ⟨.name .key, groups⟩
  | .question => .continue ⟨.name .builtin, groups⟩
  | .doubleQuestion => .continue ⟨.tail, groups⟩
  | .leftBracket => .continue ⟨.operand, .index :: groups⟩
  | .leftParen => .continue ⟨.firstItem, .argument :: groups⟩
  | .bang => .continue ⟨.fallback, groups⟩
  | _ => operator form groups lexeme

/-- Read one token of the section that begins at an offset. -/
def step (form : Form) (start : Nat) (state : State) (lexeme : Lexeme) : Outcome :=
  match state.expectation with
  | .first =>
      if lexeme.token = .rightBrace then .refuse (.empty start)
      else operand state.groups lexeme
  | .operand => operand state.groups lexeme
  | .firstItem =>
      if (state.groups.head?.bind Group.emptyClosing?) = some lexeme.token then
        .continue ⟨.tail, state.groups.tail⟩
      else operand state.groups lexeme
  | .tail => tail form state.groups lexeme
  | .fallback =>
      match primary? state.groups lexeme.token with
      | some state => .continue state
      | none => tail form state.groups lexeme
  | .bound =>
      if lexeme.token.startsOperand then operand state.groups lexeme
      else operator form state.groups lexeme
  | .name after =>
      if lexeme.token = .name then .continue ⟨.tail, state.groups⟩
      else .refuse (.expectedName lexeme.start after (String.ofList lexeme.text))
  | .format =>
      if lexeme.token = .rightBrace then .complete else .continue state

end State

/-- The fault of a position at which no token begins. -/
def lexicalError (offset : Nat) (char : Char) : Error :=
  if Token.isQuote char then .unterminatedString offset else .invalidCharacter offset char

/-- The end of a section: the byte offset after its closing brace, and the
text from there on. -/
structure Remainder where
  offset : Nat
  text : List Char
  deriving DecidableEq, Repr

/-- Recognize the rest of the section that begins at `start`. -/
def recognize (form : Form) (start : Nat) (state : State) (offset : Nat) (text : List Char) :
    Except Error Remainder :=
  match _reads : Lexer.next offset text with
  | .done => .error (.unterminated start)
  | .stuck position char => .error (lexicalError position char)
  | .read lexeme rest =>
      match state.step form start lexeme with
      | .complete => .ok ⟨lexeme.stop, rest⟩
      | .continue following => recognize form start following lexeme.stop rest
      | .refuse error => .error error
termination_by text.length
decreasing_by exact Lexer.rest_length_lt_of_next _reads

/-- A recognized section is shorter than the text that holds it. -/
theorem text_length_lt_of_recognize {form : Form} {start : Nat} {state : State}
    {offset : Nat} {text : List Char} {remainder : Remainder}
    (recognized : recognize form start state offset text = .ok remainder) :
    remainder.text.length < text.length := by
  fun_induction recognize form start state offset text with
  | case1 => cases recognized
  | case2 => cases recognized
  | case3 _ _ _ _ _ reads =>
      cases recognized
      exact Lexer.rest_length_lt_of_next reads
  | case4 _ _ _ _ _ reads _ _ ih =>
      exact Nat.lt_trans (ih recognized) (Lexer.rest_length_lt_of_next reads)
  | case5 => cases recognized

end TemplateLanguage.Interpolation
