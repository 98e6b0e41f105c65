import TemplateLanguage.Proofs.Token.Reading
import TemplateLanguage.Proofs.Token.Tokenization

/-!
# Literals of strings

A text is a literal of a string if the lexer finds one token in it, from its first
character to its last, and reading that token gives the value of the string.

A string with escapes has a literal for every value, and its text is one.  The quotes
of a raw string must not occur in its value, so a raw string has a literal if one of
the two quotes is missing there.  Its text uses double quotes.  So a value with double
quotes, which would need single ones, is not written as a literal: its text breaks off
at the first of them.
-/

namespace TemplateLanguage

namespace Lexer

open Token

variable {token : Token} {text rest : List Char}

theorem next_of_readsAs (readsAs : ReadsAs token text rest) (offset : Nat) :
    next offset (text ++ rest) = .read ⟨token, text, offset⟩ rest :=
  next_eq_read_iff.mpr ⟨[], fun _ absent => absurd absent List.not_mem_nil, rfl, rfl, readsAs⟩

/-- A token is all that the lexer finds in a text exactly if it is read there before
nothing. -/
theorem lexemes_eq_singleton_iff :
    lexemes 0 text = ([⟨token, text, 0⟩], none) ↔ ReadsAs token text [] := by
  constructor
  · intro alone
    have member : ⟨token, text, 0⟩ ∈ (lexemes 0 text).1 := by
      rw [alone]
      exact List.mem_cons_self
    obtain ⟨before, rest, cut, _, readsAs⟩ := exists_of_mem_lexemes member
    have length := congrArg List.length cut
    simp only [List.length_append] at length
    have nothing : rest = [] := List.length_eq_zero_iff.mp (by omega)
    exact nothing ▸ readsAs
  · intro readsAs
    have first := next_of_readsAs readsAs 0
    rw [List.append_nil] at first
    rw [lexemes_of_read first, lexemes_of_done rfl]

end Lexer

namespace Token

/-- The token of a string. -/
def ofString (raw : Bool) : Token :=
  if raw then rawString else string

/-- The value of the text of a string. -/
def stringValue (raw : Bool) (text : List Char) : List Char :=
  if raw then unquoteRaw text else unquote text

/-- A text is one token, and it is read back as a string. -/
structure IsLiteral (value : List Char) (raw : Bool) (text : List Char) : Prop where
  alone : Lexer.lexemes 0 text = ([⟨ofString raw, text, 0⟩], none)
  value_eq : stringValue raw text = value

variable {value text : List Char}

theorem readsAs_renderString (value : List Char) (rest : List Char) :
    ReadsAs string (Expr.renderString value false) rest :=
  .string rfl (quotedBody_escapeQuoted value)

theorem readsAs_rawString_iff {rest : List Char} :
    ReadsAs rawString text rest ↔
      ∃ quote value, isQuote quote = true ∧ quote ∉ value ∧
        text = 'r' :: quote :: (value ++ [quote]) := by
  constructor
  · intro readsAs
    rcases mem_pattern_iff.mpr readsAs.belongs with double | single
    · obtain ⟨value, absent, spelled⟩ := mem_rawLiteral.mp double
      exact ⟨'"', value, rfl, absent, spelled⟩
    · obtain ⟨value, absent, spelled⟩ := mem_rawLiteral.mp single
      exact ⟨'\'', value, rfl, absent, spelled⟩
  · rintro ⟨quote, value, isQuote, absent, rfl⟩
    exact .rawString isQuote absent

/-- The literals of a raw string stand between quotes that are not in it. -/
theorem isLiteral_raw_iff :
    IsLiteral value true text ↔
      ∃ quote, isQuote quote = true ∧ quote ∉ value ∧
        text = 'r' :: quote :: (value ++ [quote]) := by
  have inside : ∀ quote inner, unquoteRaw ('r' :: quote :: (inner ++ [quote])) = inner :=
    fun _ _ => List.dropLast_concat
  constructor
  · rintro ⟨alone, reads⟩
    obtain ⟨quote, inner, isQuote, absent, rfl⟩ :=
      readsAs_rawString_iff.mp (Lexer.lexemes_eq_singleton_iff.mp alone)
    have same : inner = value := (inside quote inner).symm.trans reads
    exact ⟨quote, isQuote, same ▸ absent, same ▸ rfl⟩
  · rintro ⟨quote, isQuote, absent, rfl⟩
    refine ⟨Lexer.lexemes_eq_singleton_iff.mpr ?_, inside quote value⟩
    exact .rawString isQuote absent

theorem isLiteral_renderString (value : List Char) :
    IsLiteral value false (Expr.renderString value false) :=
  ⟨Lexer.lexemes_eq_singleton_iff.mpr (readsAs_renderString value []), unquote_renderString value⟩

/-- What is written for a raw string is a literal of it exactly if there is no double
quote in it. -/
theorem isLiteral_renderString_raw_iff :
    IsLiteral value true (Expr.renderString value true) ↔ '"' ∉ value := by
  rw [isLiteral_raw_iff]
  constructor
  · rintro ⟨quote, _, absent, spelled⟩
    obtain rfl : '"' = quote := (List.cons.inj (List.cons.inj spelled).2).1
    exact absent
  · intro absent
    exact ⟨'"', rfl, absent, rfl⟩

theorem exists_isLiteral_raw_iff :
    (∃ text, IsLiteral value true text) ↔ '"' ∉ value ∨ '\'' ∉ value := by
  constructor
  · rintro ⟨text, literal⟩
    obtain ⟨quote, isQuote, absent, _⟩ := isLiteral_raw_iff.mp literal
    rcases isQuote_iff.mp isQuote with rfl | rfl
    · exact Or.inl absent
    · exact Or.inr absent
  · rintro (absent | absent)
    · exact ⟨_, isLiteral_raw_iff.mpr ⟨'"', rfl, absent, rfl⟩⟩
    · exact ⟨_, isLiteral_raw_iff.mpr ⟨'\'', rfl, absent, rfl⟩⟩

/-- The text of a raw string with double quotes in it breaks off at the first one. -/
theorem head?_lexemes_renderString {before after : List Char} (plain : '"' ∉ before) :
    (Lexer.lexemes 0 (Expr.renderString (before ++ '"' :: after) true)).1.head? =
      some ⟨rawString, Expr.renderString before true, 0⟩ := by
  have cut : Expr.renderString (before ++ '"' :: after) true =
      Expr.renderString before true ++ (after ++ ['"']) := by
    simp [Expr.renderString]
  have readsAs : ReadsAs rawString (Expr.renderString before true) (after ++ ['"']) :=
    .rawString rfl plain
  rw [cut, Lexer.lexemes_of_read (Lexer.next_of_readsAs readsAs 0)]
  rfl

/-- What is written for a string is a literal of it, except for a raw string with double
quotes in it.  Such a string has a literal only if it has no single quotes; and what is
written for it begins with a literal of what stands before its first double quote. -/
theorem isLiteral_toText_iff (value : String) (raw : Bool) :
    (IsLiteral value.toList raw (Expr.text value raw).toText.toList ↔
        raw = false ∨ '"' ∉ value.toList) ∧
      ((∃ text, IsLiteral value.toList raw text) ↔
        raw = false ∨ '"' ∉ value.toList ∨ '\'' ∉ value.toList) ∧
      ∀ before after, raw = true → '"' ∉ before → value.toList = before ++ '"' :: after →
        (Lexer.lexemes 0 (Expr.text value raw).toText.toList).1.head? =
          some ⟨rawString, Expr.renderString before true, 0⟩ := by
  have text : (Expr.text value raw).toText.toList = Expr.renderString value.toList raw :=
    String.toList_ofList
  rw [text]
  cases raw with
  | false =>
      have literal := isLiteral_renderString value.toList
      refine ⟨iff_of_true literal (Or.inl rfl), iff_of_true ⟨_, literal⟩ (Or.inl rfl), ?_⟩
      intro before after cooked
      cases cooked
  | true =>
      rw [isLiteral_renderString_raw_iff, exists_isLiteral_raw_iff]
      refine ⟨by simp, by simp, ?_⟩
      intro before after _ plain cut
      rw [cut]
      exact head?_lexemes_renderString plain

/-- The raw string `a"b`, whose text is cut off before the `b`. -/
theorem head?_lexemes_toText_broken :
    '"' ∉ ['a'] ∧ "a\"b".toList = ['a'] ++ '"' :: ['b'] ∧
      (Lexer.lexemes 0 (Expr.text "a\"b" true).toText.toList).1.head? =
        some ⟨rawString, ['r', '"', 'a', '"'], 0⟩ := by
  refine ⟨by decide, by decide, ?_⟩
  exact (isLiteral_toText_iff "a\"b" true).2.2 ['a'] ['b'] rfl (by decide) (by decide)

/-- The raw string `a"b` has a literal, but what is written for it is none. -/
theorem not_isLiteral_toText_broken :
    (∃ text, IsLiteral "a\"b".toList true text) ∧
      ¬IsLiteral "a\"b".toList true (Expr.text "a\"b" true).toText.toList := by
  have text : (Expr.text "a\"b" true).toText.toList = Expr.renderString "a\"b".toList true :=
    String.toList_ofList
  rw [text, isLiteral_renderString_raw_iff, exists_isLiteral_raw_iff]
  decide

end Token

end TemplateLanguage
