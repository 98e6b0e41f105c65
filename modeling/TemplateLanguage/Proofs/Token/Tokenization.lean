import TemplateLanguage.Proofs.Token.Longest
import TemplateLanguage.Proofs.Token.Lookahead

/-!
# The tokens of a text

The tokens of a text follow one another without touching it: each one is the
longest match at its place, and what is outside of them is blank, up to the end
of the text or up to the fault.

The fault stands where the tokens leave off, at the first character that is
neither blank nor in a token, and there no token begins.
-/

namespace TemplateLanguage

theorem Text.width_pos {text : List Char} (filled : text ≠ []) : 0 < width text := by
  cases text with
  | nil => exact absurd rfl filled
  | cons char rest =>
      rw [width_cons]
      exact Nat.add_pos_left char.utf8Size_pos _

namespace Lexer

open Token

/-! ## Cutting a text -/

/-- A character stands in the first part of a text or in the second one. -/
theorem cut_append {first second before after : List Char} {char : Char}
    (cut : first ++ second = before ++ char :: after) :
    (∃ more, first = before ++ char :: more) ∨
      ∃ between, before = first ++ between ∧ second = between ++ char :: after := by
  rcases List.append_eq_append_iff.mp cut with ⟨between, same, right⟩ | ⟨more, left, right⟩
  · exact Or.inr ⟨between, same, right⟩
  · cases more with
    | nil =>
        rw [List.append_nil] at left
        exact Or.inr ⟨[], by rw [List.append_nil, left], right.symm⟩
    | cons next others =>
        cases right
        exact Or.inl ⟨others, left⟩

variable {offset place : Nat} {text : List Char} {lexeme : Lexeme}

/-! ## Tokens -/

/-- A token is read at its place in the text. -/
theorem exists_of_mem_lexemes (member : lexeme ∈ (lexemes offset text).1) :
    ∃ before rest, text = before ++ (lexeme.text ++ rest) ∧
      lexeme.start = offset + Text.width before ∧ ReadsAs lexeme.token lexeme.text rest := by
  fun_induction lexemes offset text with
  | case1 => cases member
  | case2 => cases member
  | case3 offset text first rest read following ih =>
      obtain ⟨blanks, _, rfl, start, readsAs⟩ := next_eq_read_iff.mp read
      rcases List.mem_cons.mp member with rfl | member
      · exact ⟨blanks, rest, rfl, start, readsAs⟩
      · obtain ⟨before, after, rfl, later, readsAs⟩ := ih member
        refine ⟨blanks ++ (first.text ++ before), after, ?_, ?_, readsAs⟩
        · simp only [List.append_assoc]
        · rw [later, Lexeme.stop, start]
          simp only [Text.width_append, Nat.add_assoc]

theorem start_lt_stop_of_mem_lexemes (member : lexeme ∈ (lexemes offset text).1) :
    lexeme.start < lexeme.stop := by
  obtain ⟨_, rest, _, _, readsAs⟩ := exists_of_mem_lexemes member
  exact Nat.lt_add_of_pos_right (Text.width_pos (text_ne_nil_of_read? readsAs.read?))

/-- Every token ends before the next ones start. -/
theorem pairwise_lexemes (offset : Nat) (text : List Char) :
    (lexemes offset text).1.Pairwise fun earlier later => earlier.stop ≤ later.start := by
  fun_induction lexemes offset text with
  | case1 => exact .nil
  | case2 => exact .nil
  | case3 offset text first rest read following ih =>
      refine .cons ?_ ih
      intro later member
      obtain ⟨before, _, _, start, _⟩ := exists_of_mem_lexemes member
      rw [start]
      exact Nat.le_add_right _ _

/-! ## Blanks and faults -/

/-- A place inside one of the tokens. -/
def Covered (lexemes : List Lexeme) (place : Nat) : Prop :=
  ∃ lexeme ∈ lexemes, lexeme.start ≤ place ∧ place < lexeme.stop

/-- Up to a place, or to the end of the text, what is outside of the tokens is
blank. -/
def OnlyBlanks (offset : Nat) (text : List Char) (lexemes : List Lexeme) (limit : Option Nat) :
    Prop :=
  ∀ before char after, text = before ++ char :: after →
    (∀ place ∈ limit, offset + Text.width before < place) →
      ¬Covered lexemes (offset + Text.width before) → isBlank char = true

theorem onlyBlanks_lexemes (offset : Nat) (text : List Char) :
    OnlyBlanks offset text (lexemes offset text).1 (lexemes offset text).2 := by
  fun_induction lexemes offset text with
  | case1 offset text done =>
      intro before char after cut _ _
      apply next_eq_done_iff.mp done
      rw [cut]
      exact List.mem_append_right _ List.mem_cons_self
  | case2 offset text position found stuck =>
      intro before char after cut early _
      obtain ⟨blanks, others, blank, rfl, rfl, _, _⟩ := next_eq_stuck_iff.mp stuck
      rcases cut_append cut with ⟨more, rfl⟩ | ⟨between, rfl, _⟩
      · exact blank char (List.mem_append_right _ List.mem_cons_self)
      · have short := early _ rfl
        rw [Text.width_append] at short
        omega
  | case3 offset text first rest read following ih =>
      intro before char after cut early outside
      obtain ⟨blanks, blank, rfl, start, _⟩ := next_eq_read_iff.mp read
      -- the character stands before the token, in it, or behind it
      rcases cut_append cut with ⟨more, rfl⟩ | ⟨between, rfl, inside⟩
      · exact blank char (List.mem_append_right _ List.mem_cons_self)
      · rw [Text.width_append, ← Nat.add_assoc, ← start] at early outside
        rcases cut_append inside with ⟨more, spelled⟩ | ⟨later, rfl, behind⟩
        · have short : Text.width between < Text.width first.text := by
            rw [spelled, Text.width_append]
            exact Nat.lt_add_of_pos_right (Text.width_pos (List.cons_ne_nil char more))
          refine absurd ⟨first, List.mem_cons_self, Nat.le_add_right _ _, ?_⟩ outside
          exact Nat.add_lt_add_left short _
        · rw [Text.width_append, ← Nat.add_assoc] at early outside
          refine ih later char after behind early ?_
          rintro ⟨lexeme, member, covers⟩
          exact outside ⟨lexeme, List.mem_cons_of_mem _ member, covers⟩

/-- The fault is at a character behind all tokens with which none begins. -/
theorem exists_of_fault (fault : (lexemes offset text).2 = some place) :
    ∃ before char after, text = before ++ char :: after ∧ place = offset + Text.width before ∧
      isBlank char = false ∧ (∀ lexeme ∈ (lexemes offset text).1, lexeme.stop ≤ place) ∧
        Unreadable (char :: after) := by
  fun_induction lexemes offset text with
  | case1 => cases fault
  | case2 offset text position found stuck =>
      cases fault
      obtain ⟨blanks, others, _, rfl, rfl, filled, unread⟩ := next_eq_stuck_iff.mp stuck
      refine ⟨blanks, found, others, rfl, rfl, filled, ?_, read?_eq_none_iff.mp unread⟩
      intro lexeme member
      cases member
  | case3 offset text first rest read following ih =>
      obtain ⟨blanks, _, rfl, start, _⟩ := next_eq_read_iff.mp read
      obtain ⟨before, char, after, rfl, rfl, filled, behind, unreadable⟩ := ih fault
      refine ⟨blanks ++ (first.text ++ before), char, after, ?_, ?_, filled, ?_, unreadable⟩
      · simp only [List.append_assoc]
      · rw [Lexeme.stop, start]
        simp only [Text.width_append, Nat.add_assoc]
      · exact List.forall_mem_cons.mpr ⟨Nat.le_add_right _ _, behind⟩

/-! ## The whole text -/

/-- How tokens and a fault stand in a text that begins at an offset. -/
structure Tokenization (offset : Nat) (text : List Char) (lexemes : List Lexeme)
    (fault : Option Nat) : Prop where
  filled : ∀ lexeme ∈ lexemes, lexeme.start < lexeme.stop
  ordered : lexemes.Pairwise fun earlier later => earlier.stop ≤ later.start
  /-- Each token is the longest match at its place. -/
  longest : ∀ lexeme ∈ lexemes, ∃ before after, text = before ++ after ∧
    lexeme.start = offset + Text.width before ∧ Longest after lexeme.token lexeme.text ∧
      ¬UnclosedRaw after
  blank : OnlyBlanks offset text lexemes fault
  /-- The fault is at the first character outside of the tokens that is not
  blank, and there no token begins. -/
  fault_iff : ∀ place, fault = some place ↔
    ∃ before char after, text = before ++ char :: after ∧ place = offset + Text.width before ∧
      isBlank char = false ∧ (∀ lexeme ∈ lexemes, lexeme.stop ≤ place) ∧
        OnlyBlanks offset text lexemes (some place) ∧ Unreadable (char :: after)

theorem not_covered {lexemes : List Lexeme}
    (behind : ∀ lexeme ∈ lexemes, lexeme.stop ≤ place) : ¬Covered lexemes place := by
  rintro ⟨lexeme, member, _, short⟩
  exact Nat.not_lt.mpr (behind lexeme member) short

theorem fault_eq_some_iff (offset : Nat) (text : List Char) (place : Nat) :
    (lexemes offset text).2 = some place ↔
      ∃ before char after, text = before ++ char :: after ∧
        place = offset + Text.width before ∧ isBlank char = false ∧
          (∀ lexeme ∈ (lexemes offset text).1, lexeme.stop ≤ place) ∧
            OnlyBlanks offset text (lexemes offset text).1 (some place) ∧
              Unreadable (char :: after) := by
  have blank := onlyBlanks_lexemes offset text
  constructor
  · intro fault
    obtain ⟨before, char, after, cut, start, filled, behind, unreadable⟩ := exists_of_fault fault
    rw [fault] at blank
    exact ⟨before, char, after, cut, start, filled, behind, blank, unreadable⟩
  · rintro ⟨before, char, after, cut, rfl, filled, behind, only, _⟩
    have outside := not_covered behind
    cases fault : (lexemes offset text).2 with
    | none =>
        rw [fault] at blank
        rw [blank before char after cut nofun outside] at filled
        cases filled
    | some other =>
        obtain ⟨earlier, found, later, otherCut, rfl, otherFilled, otherBehind, _⟩ :=
          exists_of_fault fault
        rw [fault] at blank
        rcases Nat.lt_trichotomy (offset + Text.width before) (offset + Text.width earlier) with
          first | same | second
        · rw [blank before char after cut (fun _ limit => by cases limit; exact first) outside]
            at filled
          cases filled
        · rw [same]
        · rw [only earlier found later otherCut (fun _ limit => by cases limit; exact second)
            (not_covered otherBehind)] at otherFilled
          cases otherFilled

/-- The lexer splits every text into longest matches and blanks, up to the end of
the text or to the first place at which no token begins. -/
theorem tokenization_lexemes (offset : Nat) (text : List Char) :
    Tokenization offset text (lexemes offset text).1 (lexemes offset text).2 where
  filled _ member := start_lt_stop_of_mem_lexemes member
  ordered := pairwise_lexemes offset text
  longest lexeme member := by
    obtain ⟨before, rest, cut, start, readsAs⟩ := exists_of_mem_lexemes member
    have read := readsAs.read?
    exact ⟨before, _, cut, start, longest_of_read? read, not_unclosedRaw_of_read? read⟩
  blank := onlyBlanks_lexemes offset text
  fault_iff := fault_eq_some_iff offset text

end Lexer

end TemplateLanguage
