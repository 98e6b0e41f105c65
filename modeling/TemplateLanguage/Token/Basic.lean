/-!
# Tokens of the expression language

A token says which pattern a piece of text belongs to; the text itself is
kept beside it by the lexer.  Symbols and keywords are single spellings,
listed here as tables, while numbers, strings and names are classes of texts.

The second half of the file holds the syntactic roles that the grammar of
expressions asks for.
-/

namespace TemplateLanguage

/-- The kinds of tokens of an expression. -/
inductive Token where
  | trueWord
  | falseWord
  | greaterWord
  | greaterEqualWord
  | lessWord
  | lessEqualWord
  | plus
  | minus
  | star
  | slash
  | percent
  | doubleEqual
  | equal
  | notEqual
  | less
  | lessEqual
  | greater
  | greaterEqual
  | doubleAmpersand
  | doubleBar
  | bang
  | question
  | doubleQuestion
  | dot
  | range
  | rangeExclusive
  | rangeBang
  | rangeStar
  | comma
  | colon
  | semicolon
  | leftParen
  | rightParen
  | leftBrace
  | rightBrace
  | leftBracket
  | rightBracket
  | integer
  | decimal
  | string
  | rawString
  | name
  deriving DecidableEq, Repr

namespace Token

/-- The words that are tokens of their own instead of names. -/
def keywords : List (List Char × Token) :=
  [ (['t', 'r', 'u', 'e'], trueWord),
    (['f', 'a', 'l', 's', 'e'], falseWord),
    (['g', 't'], greaterWord),
    (['g', 't', 'e'], greaterEqualWord),
    (['l', 't'], lessWord),
    (['l', 't', 'e'], lessEqualWord) ]

/-- The symbols; a symbol that begins with another one is listed before it. -/
def symbols : List (List Char × Token) :=
  [ (['.', '.', '<'], rangeExclusive),
    (['.', '.', '!'], rangeBang),
    (['.', '.', '*'], rangeStar),
    (['.', '.'], range),
    (['=', '='], doubleEqual),
    (['!', '='], notEqual),
    (['<', '='], lessEqual),
    (['>', '='], greaterEqual),
    (['&', '&'], doubleAmpersand),
    (['|', '|'], doubleBar),
    (['?', '?'], doubleQuestion),
    (['+'], plus),
    (['-'], minus),
    (['*'], star),
    (['/'], slash),
    (['%'], percent),
    (['='], equal),
    (['<'], less),
    (['>'], greater),
    (['!'], bang),
    (['?'], question),
    (['.'], dot),
    ([','], comma),
    ([':'], colon),
    ([';'], semicolon),
    (['('], leftParen),
    ([')'], rightParen),
    (['{'], leftBrace),
    (['}'], rightBrace),
    (['['], leftBracket),
    ([']'], rightBracket) ]

/-- The token of a word: its keyword, or a name. -/
def ofWord (word : List Char) : Token :=
  (keywords.lookup word).getD name

/-- The operators of a range. -/
def isRange : Token → Bool
  | range | rangeExclusive | rangeBang | rangeStar => true
  | _ => false

/-- The operators that stand between two operands. -/
def isBinaryOperator : Token → Bool
  | plus | minus | star | slash | percent
  | doubleEqual | equal | notEqual
  | less | lessEqual | greater | greaterEqual
  | greaterWord | greaterEqualWord | lessWord | lessEqualWord
  | doubleAmpersand | doubleBar => true
  | token => token.isRange

/-- The operators that stand before an operand. -/
def isPrefixOperator : Token → Bool
  | bang | minus | plus => true
  | _ => false

/-- The tokens that are an expression on their own. -/
def isLiteral : Token → Bool
  | name | integer | decimal | string | rawString | trueWord | falseWord => true
  | _ => false

/-- The tokens with which an expression without operators can begin. -/
def startsPrimary (token : Token) : Bool :=
  token.isLiteral || token matches leftParen | leftBracket | leftBrace

/-- The tokens with which an expression can begin. -/
def startsOperand (token : Token) : Bool :=
  token.startsPrimary || token.isPrefixOperator

/-- The character of a closing delimiter. -/
def closer? : Token → Option Char
  | rightParen => some ')'
  | rightBracket => some ']'
  | rightBrace => some '}'
  | _ => none

end Token

end TemplateLanguage
