import TemplateLanguage.Expr.Render
import TemplateLanguage.Proofs.Token.Boundary

/-!
# Reading what was written

What is read from the beginning of a text that begins with a word, a number, a
string or a symbol.  A word or a number goes on as long as the text lets it, so
it is read back only before a text at which it ends.  A quoted string and its
value determine each other: the text in the quotes is the value with a
backslash before each backslash and quote, and unescaping takes them away.
-/

namespace TemplateLanguage

namespace Token

/-- A word that is no keyword. -/
def isName (word : List Char) : Bool :=
  isWord word && !(keywords.map Prod.fst).contains word

/-- Whether a word or a number that stands before a text ends there. -/
def endsToken : List Char → Bool
  | [] => true
  | '.' :: next :: _ => !next.isDigit
  | char :: _ => !(continuesWord char || isQuote char)

variable {word rest : List Char}

theorem stops_of_endsToken (ends : endsToken rest = true) :
    ∀ char ∈ rest.head?, continuesWord char = false ∧ isQuote char = false := by
  intro char first
  unfold endsToken at ends
  split at ends
  · cases first
  · cases first
    decide
  · cases first
    simpa using ends

/-! ## Words -/

theorem isWord_of_isName (named : isName word = true) : isWord word = true := by
  rw [isName, Bool.and_eq_true] at named
  exact named.1

theorem ofWord_of_isName (named : isName word = true) : ofWord word = name := by
  rw [isName, Bool.and_eq_true, Bool.not_eq_true'] at named
  have noKeyword : keywords.lookup word = none := by
    rw [List.lookup_eq_none_iff]
    intro entry listed
    apply bne_iff_ne.mpr
    rintro rfl
    have contained := List.contains_iff_mem.mpr (List.mem_map_of_mem (f := Prod.fst) listed)
    rw [named.2] at contained
    cases contained
  rw [ofWord, noKeyword]
  rfl

/-- A word is read before a text at which it ends. -/
theorem read?_word (isWord : isWord word = true) (ends : endsToken rest = true) :
    read? (word ++ rest) = some ⟨ofWord word, word, rest⟩ := by
  have stops := stops_of_endsToken ends
  apply ReadsAs.read?
  exact .word isWord (fun char leading => (stops char leading).1)
    fun _ char leading => (stops char leading).2

/-! ## Numbers -/

theorem noDigit_of_endsToken (ends : endsToken rest = true) :
    ∀ char ∈ rest.head?, char.isDigit = false := by
  intro char leading
  have stop := (stops_of_endsToken ends char leading).1
  rw [continuesWord, Bool.or_eq_false_iff] at stop
  exact stop.2

/-- Digits are read before a text at which they end. -/
theorem read?_integer {digits : List Char} (filled : digits ≠ [])
    (all : ∀ char ∈ digits, char.isDigit = true) (ends : endsToken rest = true) :
    read? (digits ++ rest) = some ⟨integer, digits, rest⟩ := by
  apply ReadsAs.read?
  refine .integer filled all (noDigit_of_endsToken ends) ?_
  rintro next others rfl
  rw [endsToken, Bool.not_eq_true'] at ends
  exact ends

/-- Digits with a point between them are read before a text at which they end. -/
theorem read?_decimal {whole places : List Char} (filled : whole ≠ [])
    (all : ∀ char ∈ whole, char.isDigit = true) (placesFilled : places ≠ [])
    (allPlaces : ∀ char ∈ places, char.isDigit = true) (ends : endsToken rest = true) :
    read? (whole ++ '.' :: places ++ rest) = some ⟨decimal, whole ++ '.' :: places, rest⟩ := by
  apply ReadsAs.read?
  exact .decimal filled all placesFilled allPlaces (noDigit_of_endsToken ends)

/-! ## Symbols -/

/-- A `!` is read as such unless an equals sign follows. -/
theorem read?_bang {next : Char} (apart : next ≠ '=') :
    read? ('!' :: next :: rest) = some ⟨bang, ['!'], next :: rest⟩ := by
  simp [read?, startsWord, isQuote, readSymbol?, symbols, Ne.symm apart]

/-- A point is read as such unless another one follows. -/
theorem read?_dot {next : Char} (apart : next ≠ '.') :
    read? ('.' :: next :: rest) = some ⟨dot, ['.'], next :: rest⟩ := by
  simp [read?, startsWord, isQuote, readSymbol?, symbols, Ne.symm apart]

/-- A question mark is read as such unless another one follows. -/
theorem read?_question {next : Char} (apart : next ≠ '?') :
    read? ('?' :: next :: rest) = some ⟨question, ['?'], next :: rest⟩ := by
  simp [read?, startsWord, isQuote, readSymbol?, symbols, Ne.symm apart]

/-! ## Strings -/

/-- A raw string without quotes in it is read. -/
theorem read?_raw {value : List Char} (plain : '"' ∉ value) :
    read? (Expr.renderString value true ++ rest) =
      some ⟨rawString, Expr.renderString value true, rest⟩ := by
  apply ReadsAs.read?
  exact .rawString rfl plain

theorem quotedBody_escapeQuoted (value : List Char) :
    QuotedBody '"' (Expr.escapeQuoted value) := by
  induction value with
  | nil => exact .nil
  | cons char others ih =>
      rw [Expr.escapeQuoted] at ih ⊢
      rw [List.flatMap_cons]
      by_cases escaped : char = '\\' ∨ char = '"'
      · have noLine : char ≠ '\n' := by
          rintro rfl
          simp at escaped
        rw [if_pos escaped]
        exact .escape noLine ih
      · rw [if_neg escaped]
        rw [not_or] at escaped
        exact .plain escaped.2 escaped.1 ih

/-- Every quoted string is read. -/
theorem read?_quoted (value : List Char) :
    read? (Expr.renderString value false ++ rest) =
      some ⟨string, Expr.renderString value false, rest⟩ := by
  apply ReadsAs.read?
  exact .string rfl (quotedBody_escapeQuoted value)

/-- Take away the backslashes before other characters. -/
def unescape : List Char → List Char
  | '\\' :: char :: rest => char :: unescape rest
  | char :: rest => char :: unescape rest
  | [] => []

theorem unescape_escapeQuoted (value : List Char) :
    unescape (Expr.escapeQuoted value) = value := by
  induction value with
  | nil => rfl
  | cons char others ih =>
      rw [Expr.escapeQuoted] at ih ⊢
      rw [List.flatMap_cons]
      by_cases escaped : char = '\\' ∨ char = '"'
      · rw [if_pos escaped]
        simp only [List.cons_append, List.nil_append, unescape, ih]
      · rw [if_neg escaped]
        rw [not_or] at escaped
        simp [unescape, escaped.1, ih]

/-- The value of a quoted string. -/
def unquote (text : List Char) : List Char :=
  unescape (text.drop 1).dropLast

/-- The value of a raw string. -/
def unquoteRaw (text : List Char) : List Char :=
  (text.drop 2).dropLast

/-- A string is read back from its text. -/
theorem unquote_renderString (value : List Char) :
    unquote (Expr.renderString value false) = value := by
  have inside : ((Expr.renderString value false).drop 1).dropLast = Expr.escapeQuoted value :=
    List.dropLast_concat
  rw [unquote, inside, unescape_escapeQuoted]

theorem unquoteRaw_renderString (value : List Char) :
    unquoteRaw (Expr.renderString value true) = value :=
  List.dropLast_concat

end Token

end TemplateLanguage
