import Mathlib.Data.List.TakeWhile
import TemplateLanguage.Proofs.Token.Boundary

/-!
# How far the lexer looks

Where a token ends depends on the token and on little of what follows: the next
character, or the next two where a point stands first.  So a token is read alike
before all texts of equal `lookahead`, and in particular before all texts that
agree up to some closing brace.

A step of the lexer skips the blanks and then reads a token, is stuck, or finds
that nothing is left.
-/

namespace TemplateLanguage

namespace Token

variable {text taken rest : List Char} {token : Token}

/-- The characters after a token that decide whether it ends there: the first
one, and after a point also the next one. -/
def lookahead : List Char → List Char
  | [] => []
  | '.' :: next :: _ => ['.', next]
  | char :: _ => [char]

theorem head?_lookahead (text : List Char) : (lookahead text).head? = text.head? := by
  unfold lookahead
  split <;> rfl

theorem head?_eq_of_lookahead_eq {other : List Char} (same : lookahead other = lookahead rest) :
    other.head? = rest.head? := by
  rw [← head?_lookahead other, same, head?_lookahead]

/-- Of what stands after a token, only the lookahead matters. -/
theorem ReadsAs.of_lookahead_eq {other : List Char} (readsAs : ReadsAs token taken rest)
    (same : lookahead other = lookahead rest) : ReadsAs token taken other := by
  have head := head?_eq_of_lookahead_eq same
  cases readsAs with
  | word isWord stops unquoted =>
      rw [← head] at stops unquoted
      exact .word isWord stops unquoted
  | integer filled all stops noPlaces =>
      rw [← head] at stops
      refine .integer filled all stops ?_
      rintro next others rfl
      -- the rest begins with the same point, and then with the same character
      cases rest with
      | nil => cases head
      | cons point others =>
          obtain rfl : '.' = point := Option.some.inj head
          cases others with
          | nil => cases same
          | cons digit others =>
              obtain rfl : next = digit := by
                simpa [lookahead] using same
              exact noPlaces next others rfl
  | decimal filled all placesFilled allPlaces stops =>
      rw [← head] at stops
      exact .decimal filled all placesFilled allPlaces stops
  | string isQuote valid => exact .string isQuote valid
  | rawString isQuote plain => exact .rawString isQuote plain
  | symbol listed ends =>
      rw [← head] at ends
      exact .symbol listed ends

/-- A character other than a point hides what stands behind it. -/
theorem lookahead_append_cons {char : Char} (noPoint : char ≠ '.') (text after other : List Char) :
    lookahead (text ++ char :: after) = lookahead (text ++ char :: other) := by
  have single : ∀ rest, lookahead (char :: rest) = [char] := by
    intro rest
    unfold lookahead
    split
    · rename_i cut
      cases cut
    · rename_i cut
      exact absurd (List.cons.inj cut).1 noPoint
    · rename_i cut
      cases cut
      rfl
  cases text with
  | nil => rw [List.nil_append, List.nil_append, single, single]
  | cons first others =>
      cases others with
      | nil =>
          by_cases point : first = '.'
          · subst point
            rfl
          · simp [lookahead, point]
      | cons second more =>
          by_cases point : first = '.'
          · subst point
            rfl
          · simp [lookahead, point]

/-- A closing brace is a token whatever follows. -/
theorem readsAs_rightBrace (rest : List Char) : ReadsAs rightBrace ['}'] rest := by
  refine .symbol (by decide) ?_
  intro char _
  simp [symbols]

/-- A closing delimiter is spelled by its character. -/
theorem eq_of_readsAs_of_closer? {char : Char} (readsAs : ReadsAs token taken rest)
    (closes : token.closer? = some char) : taken = [char] := by
  have noKeyword : ∀ entry ∈ keywords, entry.2.closer? = none := by decide
  have spelling : ∀ entry ∈ symbols, entry.2.closer?.all (entry.1 = [·]) = true := by decide
  cases readsAs with
  | word =>
      rcases mem_keywords_or_ofWord_eq_name taken with keyword | isName
      · rw [noKeyword _ keyword] at closes
        cases closes
      · rw [isName] at closes
        cases closes
  | integer => cases closes
  | decimal => cases closes
  | string => cases closes
  | rawString => cases closes
  | symbol listed =>
      have spelled := spelling _ listed
      rw [closes, Option.all_some, decide_eq_true_eq] at spelled
      exact spelled

end Token

namespace Lexer

open Token

variable {offset : Nat} {text rest : List Char} {lexeme : Lexeme}

/-- Blanks are skipped up to the first other character. -/
theorem skip_blanks {blanks : List Char} (blank : ∀ char ∈ blanks, isBlank char = true)
    {char : Char} (filled : isBlank char = false) (rest : List Char) :
    (blanks ++ char :: rest).takeWhile isBlank = blanks ∧
      (blanks ++ char :: rest).dropWhile isBlank = char :: rest := by
  apply span_append blank
  intro first leading
  cases leading
  exact filled

/-- A token is read exactly if only blanks stand before it. -/
theorem next_eq_read_iff :
    next offset text = .read lexeme rest ↔
      ∃ blanks, (∀ char ∈ blanks, isBlank char = true) ∧ text = blanks ++ (lexeme.text ++ rest) ∧
        lexeme.start = offset + Text.width blanks ∧ ReadsAs lexeme.token lexeme.text rest := by
  have cut := List.takeWhile_append_dropWhile (p := isBlank) (l := text)
  constructor
  · intro read
    unfold next at read
    split at read
    · cases read
    · rename_i char others left
      split at read
      · cases read
      · rename_i reading success
        cases read
        obtain ⟨whole, readsAs⟩ := read?_eq_some_iff.mp success
        refine ⟨_, fun _ => List.mem_takeWhile_imp, ?_, rfl, readsAs⟩
        rw [← whole, ← left, cut]
  · rintro ⟨blanks, blank, rfl, start, readsAs⟩
    have read := readsAs.read?
    cases whole : lexeme.text ++ rest with
    | nil =>
        rw [whole] at read
        cases read
    | cons char others =>
        rw [whole] at read
        have filled : isBlank char = false := by
          rw [← Bool.not_eq_true]
          intro blank
          rw [read?_of_isBlank blank] at read
          cases read
        obtain ⟨skipped, left⟩ := skip_blanks blank filled others
        simp only [next, skipped, left, read, ← start]

/-- The reader is stuck exactly if only blanks stand before a character with
which no token begins. -/
theorem next_eq_stuck_iff {position : Nat} {char : Char} :
    next offset text = .stuck position char ↔
      ∃ blanks others, (∀ char ∈ blanks, isBlank char = true) ∧ text = blanks ++ char :: others ∧
        position = offset + Text.width blanks ∧ isBlank char = false ∧
          read? (char :: others) = none := by
  have cut := List.takeWhile_append_dropWhile (p := isBlank) (l := text)
  constructor
  · intro stuck
    unfold next at stuck
    split at stuck
    · cases stuck
    · rename_i first others left
      split at stuck
      · rename_i unread
        cases stuck
        refine ⟨_, others, fun _ => List.mem_takeWhile_imp, ?_, rfl, ?_, unread⟩
        · rw [← left, cut]
        · exact stops_dropWhile isBlank text char (left ▸ rfl)
      · cases stuck
  · rintro ⟨blanks, others, blank, rfl, rfl, filled, unread⟩
    obtain ⟨skipped, left⟩ := skip_blanks blank filled others
    simp only [next, skipped, left, unread]

/-- Nothing is left exactly if only blanks are. -/
theorem next_eq_done_iff :
    next offset text = .done ↔ ∀ char ∈ text, isBlank char = true := by
  have cut := List.takeWhile_append_dropWhile (p := isBlank) (l := text)
  constructor
  · intro done
    unfold next at done
    split at done
    · rename_i left
      rw [left, List.append_nil] at cut
      rw [← cut]
      exact fun _ => List.mem_takeWhile_imp
    · split at done <;> cases done
  · intro blank
    have left : text.dropWhile isBlank = [] := List.dropWhile_eq_nil_iff.mpr blank
    simp only [next, left]

end Lexer

end TemplateLanguage
