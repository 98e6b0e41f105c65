import TemplateLanguage.Proofs.Token.Tokenization

/-!
# Blanks between tokens

No token goes on with a blank, so a token that is read before one text is read before every
text that begins with a blank, and before no text at all.  Tokens with blanks between them are
therefore read as the same tokens, however many blanks there are.
-/

namespace TemplateLanguage

namespace Token

variable {token : Token} {taken rest other : List Char} {char : Char}

theorem isBlank_iff : isBlank char = true ↔
    char = ' ' ∨ char = '\t' ∨ char = '\r' ∨ char = '\n' := by
  simp [isBlank, or_assoc]

theorem continuesWord_of_isBlank (blank : isBlank char = true) : continuesWord char = false := by
  rcases isBlank_iff.mp blank with rfl | rfl | rfl | rfl <;> decide

theorem isQuote_of_isBlank (blank : isBlank char = true) : isQuote char = false := by
  rcases isBlank_iff.mp blank with rfl | rfl | rfl | rfl <;> decide

theorem isDigit_of_isBlank (blank : isBlank char = true) : char.isDigit = false := by
  rcases isBlank_iff.mp blank with rfl | rfl | rfl | rfl <;> decide

/-- No symbol has a blank in it. -/
theorem not_mem_symbols_of_isBlank (blank : isBlank char = true) (spelled : List Char) :
    spelled ++ [char] ∉ symbols.map Prod.fst := by
  have unblank : ∀ symbol ∈ symbols.map Prod.fst, symbol.any isBlank = false := by decide
  intro listed
  have filled := unblank _ listed
  rw [List.any_append, List.any_cons, blank, Bool.true_or, Bool.or_true] at filled
  cases filled

/-- A token is read alike wherever nothing or a blank stands behind it. -/
theorem ReadsAs.of_blank (readsAs : ReadsAs token taken rest)
    (blank : ∀ char ∈ other.head?, isBlank char = true) : ReadsAs token taken other := by
  have noDigit : ∀ char ∈ other.head?, char.isDigit = false :=
    fun char leading => isDigit_of_isBlank (blank char leading)
  cases readsAs with
  | word isWord =>
      exact .word isWord (fun char leading => continuesWord_of_isBlank (blank char leading))
        fun _ char leading => isQuote_of_isBlank (blank char leading)
  | integer filled all =>
      refine .integer filled all noDigit ?_
      rintro next others rfl
      cases blank '.' rfl
  | decimal filled all placesFilled allPlaces =>
      exact .decimal filled all placesFilled allPlaces noDigit
  | string isQuote valid => exact .string isQuote valid
  | rawString isQuote absent => exact .rawString isQuote absent
  | symbol listed =>
      exact .symbol listed fun char leading =>
        not_mem_symbols_of_isBlank (blank char leading) taken

end Token

namespace Lexer

open Token

/-- Texts in a row, each with a gap behind it. -/
def respace (texts gaps : List (List Char)) : List Char :=
  (List.zipWith (· ++ ·) texts gaps).flatten

/-- Gaps for a number of tokens: they are blank, and between two tokens there is at least one
character. -/
structure AreGaps (count : Nat) (gaps : List (List Char)) : Prop where
  length_eq : gaps.length = count
  blank : ∀ gap ∈ gaps, ∀ char ∈ gap, isBlank char = true
  apart : ∀ gap ∈ gaps.dropLast, gap ≠ []

section

variable {count : Nat} {gap : List Char} {gaps : List (List Char)}

theorem AreGaps.tail (areGaps : AreGaps (count + 1) (gap :: gaps)) : AreGaps count gaps where
  length_eq := Nat.succ.inj areGaps.length_eq
  blank other member := areGaps.blank other (List.mem_cons_of_mem gap member)
  apart other member := by
    apply areGaps.apart
    cases gaps with
    | nil => cases member
    | cons next others => exact List.mem_cons_of_mem gap member

/-- A token has a blank behind it, or nothing. -/
theorem AreGaps.blank_head? (texts : List (List Char))
    (areGaps : AreGaps (texts.length + 1) (gap :: gaps)) :
    ∀ char ∈ (gap ++ respace texts gaps).head?, isBlank char = true := by
  intro char leading
  cases gap with
  | cons first others =>
      cases leading
      exact areGaps.blank _ List.mem_cons_self char List.mem_cons_self
  | nil =>
      -- an empty gap is the last one, and so no token is left
      cases gaps with
      | nil =>
          rw [List.length_eq_zero_iff.mp (Nat.succ.inj areGaps.length_eq).symm] at leading
          cases leading
      | cons next others => exact absurd rfl (areGaps.apart [] List.mem_cons_self)

end

/-- Tokens with other blanks between them are read as the same tokens. -/
theorem lexemes_respace (tokens : List Lexeme)
    (read : ∀ lexeme ∈ tokens, ∃ rest, ReadsAs lexeme.token lexeme.text rest)
    {leading : List Char} (blank : ∀ char ∈ leading, isBlank char = true)
    {gaps : List (List Char)} (areGaps : AreGaps tokens.length gaps) (offset : Nat) :
    (lexemes offset (leading ++ respace (tokens.map Lexeme.text) gaps)).1.map Lexeme.token =
        tokens.map Lexeme.token ∧
      (lexemes offset (leading ++ respace (tokens.map Lexeme.text) gaps)).1.map Lexeme.text =
        tokens.map Lexeme.text ∧
      (lexemes offset (leading ++ respace (tokens.map Lexeme.text) gaps)).2 = none := by
  induction tokens generalizing leading gaps offset with
  | nil =>
      have done : next offset (leading ++ respace [] gaps) = .done := by
        rw [next_eq_done_iff, respace, List.zipWith_nil_left, List.flatten_nil, List.append_nil]
        exact blank
      rw [List.map_nil, lexemes_of_done done]
      exact ⟨rfl, rfl, rfl⟩
  | cons lexeme rest ih =>
      cases gaps with
      | nil => cases areGaps.length_eq
      | cons gap others =>
          obtain ⟨after, readsAs⟩ := read lexeme List.mem_cons_self
          have behind : ∀ char ∈ (gap ++ respace (rest.map Lexeme.text) others).head?,
              isBlank char = true := by
            apply AreGaps.blank_head?
            rw [List.length_map]
            exact areGaps
          have first : next offset
              (leading ++ respace ((lexeme :: rest).map Lexeme.text) (gap :: others)) =
                .read ⟨lexeme.token, lexeme.text, offset + Text.width leading⟩
                  (gap ++ respace (rest.map Lexeme.text) others) := by
            refine next_eq_read_iff.mpr ⟨leading, blank, ?_, rfl, readsAs.of_blank behind⟩
            simp only [respace, List.map_cons, List.zipWith_cons_cons, List.flatten_cons,
              List.append_assoc]
          obtain ⟨kinds, texts, ended⟩ := ih
            (fun other member => read other (List.mem_cons_of_mem lexeme member))
            (areGaps.blank gap List.mem_cons_self) areGaps.tail
            (offset + Text.width leading + Text.width lexeme.text)
          rw [lexemes_of_read first]
          exact ⟨congrArg (lexeme.token :: ·) kinds, congrArg (lexeme.text :: ·) texts, ended⟩

/-- The tokens of a text in a row, with other blanks before, between and behind them. -/
def respaced (text leading : List Char) (gaps : List (List Char)) : List Char :=
  leading ++ respace ((lexemes 0 text).1.map Lexeme.text) gaps

/-- A text that is written with other blanks has the same tokens. -/
theorem lexemes_respaced (text : List Char) {leading : List Char}
    (blank : ∀ char ∈ leading, isBlank char = true) {gaps : List (List Char)}
    (areGaps : AreGaps (lexemes 0 text).1.length gaps) :
    (lexemes 0 (respaced text leading gaps)).1.map Lexeme.token =
        (lexemes 0 text).1.map Lexeme.token ∧
      (lexemes 0 (respaced text leading gaps)).1.map Lexeme.text =
        (lexemes 0 text).1.map Lexeme.text ∧
      (lexemes 0 (respaced text leading gaps)).2 = none := by
  refine lexemes_respace _ ?_ blank areGaps 0
  intro lexeme member
  obtain ⟨_, rest, _, _, readsAs⟩ := exists_of_mem_lexemes member
  exact ⟨rest, readsAs⟩

end Lexer

end TemplateLanguage
