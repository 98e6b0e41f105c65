import TemplateLanguage.Interpolation.Recognizer

/-!
# The grammar of sections

A derivation says that a sequence of tokens is a text of a category.  The only
rule that looks beyond its own tokens is that of a `!` without an operand: no
primary may follow it, because a primary would be its operand.

`Leads` cuts a sequence of tokens into a text of a category and what comes
after it.  Each category has a lemma that takes the first token off such a
sequence, which is what a reader of tokens one by one needs to know.
-/

namespace TemplateLanguage.Interpolation

/-- The categories of the grammar. -/
inductive Category where
  /-- Operands with operators between them. -/
  | expression
  /-- The operators of an expression, each with the operand after it. -/
  | operations
  /-- A primary with prefix operators before it and its tail after it. -/
  | operand
  /-- What can be operated on. -/
  | primary
  /-- What follows a primary in an operand. -/
  | tail
  /-- Expressions between commas. -/
  | list
  /-- The expressions of a list after the first one. -/
  | moreItems
  /-- Pairs of a key and a value between commas. -/
  | hash
  /-- The pairs of a hash after the first one. -/
  | moreEntries
  deriving DecidableEq, Repr

/-- No primary begins here. -/
def NoPrimary (tokens : List Token) : Prop :=
  ∀ token ∈ tokens.head?, token.startsPrimary = false

/-- A sequence of tokens is a text of a category. -/
inductive Derives : Category → List Token → Prop
  | expression {operand operations : List Token} : Derives .operand operand →
      Derives .operations operations → Derives .expression (operand ++ operations)
  | noOperation : Derives .operations []
  | operation {operator : Token} {operand operations : List Token} :
      operator.isBinaryOperator = true → Derives .operand operand →
      Derives .operations operations → Derives .operations (operator :: operand ++ operations)
  | openRange {operator : Token} {operations : List Token} : operator.isRange = true →
      Derives .operations operations → Derives .operations (operator :: operations)
  | signed {operator : Token} {operand : List Token} : operator.isPrefixOperator = true →
      Derives .operand operand → Derives .operand (operator :: operand)
  | unsigned {primary tail : List Token} : Derives .primary primary → Derives .tail tail →
      Derives .operand (primary ++ tail)
  | literal {token : Token} : token.isLiteral = true → Derives .primary [token]
  | group {inner : List Token} : Derives .expression inner →
      Derives .primary (.leftParen :: inner ++ [.rightParen])
  | list {items : List Token} : Derives .list items →
      Derives .primary (.leftBracket :: items ++ [.rightBracket])
  | hash {entries : List Token} : Derives .hash entries →
      Derives .primary (.leftBrace :: entries ++ [.rightBrace])
  | noTail : Derives .tail []
  | key {tail : List Token} : Derives .tail tail → Derives .tail (.dot :: .name :: tail)
  | builtin {tail : List Token} : Derives .tail tail → Derives .tail (.question :: .name :: tail)
  | existence {tail : List Token} : Derives .tail tail → Derives .tail (.doubleQuestion :: tail)
  | index {key tail : List Token} : Derives .expression key → Derives .tail tail →
      Derives .tail (.leftBracket :: key ++ .rightBracket :: tail)
  | call {arguments tail : List Token} : Derives .list arguments → Derives .tail tail →
      Derives .tail (.leftParen :: arguments ++ .rightParen :: tail)
  | fallback {primary tail : List Token} : Derives .primary primary → Derives .tail tail →
      Derives .tail (.bang :: primary ++ tail)
  | noFallback {tail : List Token} : NoPrimary tail → Derives .tail tail →
      Derives .tail (.bang :: tail)
  | noItem : Derives .list []
  | items {item others : List Token} : Derives .expression item → Derives .moreItems others →
      Derives .list (item ++ others)
  | lastItem : Derives .moreItems []
  | nextItem {item others : List Token} : Derives .expression item → Derives .moreItems others →
      Derives .moreItems (.comma :: item ++ others)
  | noEntry : Derives .hash []
  | entries {key value others : List Token} : Derives .expression key →
      Derives .expression value → Derives .moreEntries others →
      Derives .hash (key ++ .colon :: value ++ others)
  | lastEntry : Derives .moreEntries []
  | nextEntry {key value others : List Token} : Derives .expression key →
      Derives .expression value → Derives .moreEntries others →
      Derives .moreEntries (.comma :: key ++ .colon :: value ++ others)

/-- What may follow the expression of a section: the closing brace, and before
it a format if the section begins with a number sign. -/
inductive Ending (form : Form) : List Token → Prop
  | brace : Ending form [.rightBrace]
  | format {format : List Token} : form = .numeric → .rightBrace ∉ format →
      Ending form (.semicolon :: format ++ [.rightBrace])

/-! ## Cutting sequences of tokens -/

/-- A sequence begins with a token, and what follows it has a property. -/
def Opens (token : Token) (rest : List Token → Prop) (tokens : List Token) : Prop :=
  ∃ after, tokens = token :: after ∧ rest after

/-- A sequence begins with a text of a category, and what follows the text has a
property. -/
def Leads (category : Category) (rest : List Token → Prop) (tokens : List Token) : Prop :=
  ∃ before after, tokens = before ++ after ∧ Derives category before ∧ rest after

/-- The tokens of a section, from just after its opening brace to its closing
brace. -/
def IsSection (form : Form) : List Token → Prop :=
  Leads .expression (Ending form)

variable {rest : List Token → Prop} {token : Token} {tokens : List Token}

@[simp]
theorem opens_cons {first : Token} :
    Opens token rest (first :: tokens) ↔ first = token ∧ rest tokens := by
  constructor
  · rintro ⟨after, cut, followed⟩
    cases cut
    exact ⟨rfl, followed⟩
  · rintro ⟨rfl, followed⟩
    exact ⟨tokens, rfl, followed⟩

theorem not_opens_nil : ¬Opens token rest [] := by
  simp [Opens]

/-- Where nothing is left, no text leads to a property that needs more. -/
theorem not_leads_nil {category : Category} (filled : ¬rest []) : ¬Leads category rest [] := by
  rintro ⟨before, after, cut, _, followed⟩
  obtain ⟨_, rfl⟩ := List.append_eq_nil_iff.mp cut.symm
  exact filled followed

/-! ## The first token of a text -/

theorem leads_expression :
    Leads .expression rest = Leads .operand (Leads .operations rest) := by
  funext tokens
  apply propext
  constructor
  · rintro ⟨_, after, rfl, derived, followed⟩
    cases derived with
    | expression operand operations =>
        exact ⟨_, _, List.append_assoc .., operand, _, after, rfl, operations, followed⟩
  · rintro ⟨_, _, rfl, operand, _, after, rfl, operations, followed⟩
    exact ⟨_, after, (List.append_assoc ..).symm, .expression operand operations, followed⟩

theorem leads_operations_cons :
    Leads .operations rest (token :: tokens) ↔
      rest (token :: tokens) ∨
      token.isBinaryOperator = true ∧ Leads .operand (Leads .operations rest) tokens ∨
      token.isRange = true ∧ Leads .operations rest tokens := by
  constructor
  · rintro ⟨_, after, cut, derived, followed⟩
    cases derived with
    | noOperation =>
        rw [List.nil_append] at cut
        exact Or.inl (cut ▸ followed)
    | operation binary operand operations =>
        simp only [List.cons_append, List.append_assoc, List.cons.injEq] at cut
        obtain ⟨rfl, rfl⟩ := cut
        exact Or.inr (Or.inl ⟨binary, _, _, rfl, operand, _, after, rfl, operations, followed⟩)
    | openRange range operations =>
        simp only [List.cons_append, List.cons.injEq] at cut
        obtain ⟨rfl, rfl⟩ := cut
        exact Or.inr (Or.inr ⟨range, _, after, rfl, operations, followed⟩)
  · rintro (followed | ⟨binary, _, _, rfl, operand, _, after, rfl, operations, followed⟩ |
      ⟨range, _, after, rfl, operations, followed⟩)
    · exact ⟨[], _, rfl, .noOperation, followed⟩
    · exact ⟨_, after, by simp, .operation binary operand operations, followed⟩
    · exact ⟨_, after, by simp, .openRange range operations, followed⟩

theorem leads_operand_cons :
    Leads .operand rest (token :: tokens) ↔
      token.isPrefixOperator = true ∧ Leads .operand rest tokens ∨
      Leads .primary (Leads .tail rest) (token :: tokens) := by
  constructor
  · rintro ⟨_, after, cut, derived, followed⟩
    cases derived with
    | signed sign operand =>
        simp only [List.cons_append, List.cons.injEq] at cut
        obtain ⟨rfl, rfl⟩ := cut
        exact Or.inl ⟨sign, _, after, rfl, operand, followed⟩
    | unsigned primary tail =>
        rw [List.append_assoc] at cut
        exact Or.inr ⟨_, _, cut, primary, _, after, rfl, tail, followed⟩
  · rintro (⟨sign, _, after, rfl, operand, followed⟩ |
      ⟨_, _, cut, primary, _, after, rfl, tail, followed⟩)
    · exact ⟨_, after, by simp, .signed sign operand, followed⟩
    · exact ⟨_, after, by rw [cut, List.append_assoc], .unsigned primary tail, followed⟩

theorem leads_primary_cons :
    Leads .primary rest (token :: tokens) ↔
      token.isLiteral = true ∧ rest tokens ∨
      token = .leftParen ∧ Leads .expression (Opens .rightParen rest) tokens ∨
      token = .leftBracket ∧ Leads .list (Opens .rightBracket rest) tokens ∨
      token = .leftBrace ∧ Leads .hash (Opens .rightBrace rest) tokens := by
  constructor
  · rintro ⟨_, after, cut, derived, followed⟩
    cases derived with
    | literal isLiteral =>
        simp only [List.cons_append, List.nil_append, List.cons.injEq] at cut
        obtain ⟨rfl, rfl⟩ := cut
        exact Or.inl ⟨isLiteral, followed⟩
    | group inner =>
        simp only [List.cons_append, List.append_assoc, List.cons.injEq] at cut
        obtain ⟨rfl, rfl⟩ := cut
        exact Or.inr (Or.inl ⟨rfl, _, _, rfl, inner, after, rfl, followed⟩)
    | list items =>
        simp only [List.cons_append, List.append_assoc, List.cons.injEq] at cut
        obtain ⟨rfl, rfl⟩ := cut
        exact Or.inr (Or.inr (Or.inl ⟨rfl, _, _, rfl, items, after, rfl, followed⟩))
    | hash entries =>
        simp only [List.cons_append, List.append_assoc, List.cons.injEq] at cut
        obtain ⟨rfl, rfl⟩ := cut
        exact Or.inr (Or.inr (Or.inr ⟨rfl, _, _, rfl, entries, after, rfl, followed⟩))
  · rintro (⟨isLiteral, followed⟩ | ⟨rfl, _, _, rfl, inner, after, rfl, followed⟩ |
      ⟨rfl, _, _, rfl, items, after, rfl, followed⟩ |
      ⟨rfl, _, _, rfl, entries, after, rfl, followed⟩)
    · exact ⟨[token], tokens, rfl, .literal isLiteral, followed⟩
    · exact ⟨_, after, by simp, .group inner, followed⟩
    · exact ⟨_, after, by simp, .list items, followed⟩
    · exact ⟨_, after, by simp, .hash entries, followed⟩

/-- The first token of a tail, where no primary can follow the tail. -/
theorem leads_tail_cons (clear : ∀ tokens, rest tokens → NoPrimary tokens) :
    Leads .tail rest (token :: tokens) ↔
      rest (token :: tokens) ∨
      token = .dot ∧ Opens .name (Leads .tail rest) tokens ∨
      token = .question ∧ Opens .name (Leads .tail rest) tokens ∨
      token = .doubleQuestion ∧ Leads .tail rest tokens ∨
      token = .leftBracket ∧
        Leads .expression (Opens .rightBracket (Leads .tail rest)) tokens ∨
      token = .leftParen ∧ Leads .list (Opens .rightParen (Leads .tail rest)) tokens ∨
      token = .bang ∧
        (Leads .primary (Leads .tail rest) tokens ∨
          NoPrimary tokens ∧ Leads .tail rest tokens) := by
  constructor
  · rintro ⟨_, after, cut, derived, followed⟩
    cases derived with
    | noTail =>
        rw [List.nil_append] at cut
        exact Or.inl (cut ▸ followed)
    | key tail =>
        simp only [List.cons_append, List.cons.injEq] at cut
        obtain ⟨rfl, rfl⟩ := cut
        exact Or.inr (Or.inl ⟨rfl, _, rfl, _, after, rfl, tail, followed⟩)
    | builtin tail =>
        simp only [List.cons_append, List.cons.injEq] at cut
        obtain ⟨rfl, rfl⟩ := cut
        exact Or.inr (Or.inr (Or.inl ⟨rfl, _, rfl, _, after, rfl, tail, followed⟩))
    | existence tail =>
        simp only [List.cons_append, List.cons.injEq] at cut
        obtain ⟨rfl, rfl⟩ := cut
        exact Or.inr (Or.inr (Or.inr (Or.inl ⟨rfl, _, after, rfl, tail, followed⟩)))
    | index key tail =>
        simp only [List.cons_append, List.append_assoc, List.cons.injEq] at cut
        obtain ⟨rfl, rfl⟩ := cut
        exact Or.inr (Or.inr (Or.inr (Or.inr (Or.inl
          ⟨rfl, _, _, rfl, key, _, rfl, _, after, rfl, tail, followed⟩))))
    | call arguments tail =>
        simp only [List.cons_append, List.append_assoc, List.cons.injEq] at cut
        obtain ⟨rfl, rfl⟩ := cut
        exact Or.inr (Or.inr (Or.inr (Or.inr (Or.inr (Or.inl
          ⟨rfl, _, _, rfl, arguments, _, rfl, _, after, rfl, tail, followed⟩)))))
    | fallback primary tail =>
        simp only [List.cons_append, List.append_assoc, List.cons.injEq] at cut
        obtain ⟨rfl, rfl⟩ := cut
        exact Or.inr (Or.inr (Or.inr (Or.inr (Or.inr (Or.inr
          ⟨rfl, Or.inl ⟨_, _, rfl, primary, _, after, rfl, tail, followed⟩⟩)))))
    | @noFallback bare alone tail =>
        simp only [List.cons_append, List.cons.injEq] at cut
        obtain ⟨rfl, rfl⟩ := cut
        have none : NoPrimary (bare ++ after) := by
          cases bare with
          | nil => exact clear after followed
          | cons => exact alone
        exact Or.inr (Or.inr (Or.inr (Or.inr (Or.inr (Or.inr
          ⟨rfl, Or.inr ⟨none, _, after, rfl, tail, followed⟩⟩)))))
  · rintro (followed | ⟨rfl, _, rfl, _, after, rfl, tail, followed⟩ |
      ⟨rfl, _, rfl, _, after, rfl, tail, followed⟩ | ⟨rfl, _, after, rfl, tail, followed⟩ |
      ⟨rfl, _, _, rfl, key, _, rfl, _, after, rfl, tail, followed⟩ |
      ⟨rfl, _, _, rfl, arguments, _, rfl, _, after, rfl, tail, followed⟩ |
      ⟨rfl, ⟨_, _, rfl, primary, _, after, rfl, tail, followed⟩ |
        ⟨none, bare, after, rfl, tail, followed⟩⟩)
    · exact ⟨[], _, rfl, .noTail, followed⟩
    · exact ⟨_, after, by simp, .key tail, followed⟩
    · exact ⟨_, after, by simp, .builtin tail, followed⟩
    · exact ⟨_, after, by simp, .existence tail, followed⟩
    · exact ⟨_, after, by simp, .index key tail, followed⟩
    · exact ⟨_, after, by simp, .call arguments tail, followed⟩
    · exact ⟨_, after, by simp, .fallback primary tail, followed⟩
    · have alone : NoPrimary bare := by
        cases bare with
        | nil => exact fun _ absent => by cases absent
        | cons => exact none
      exact ⟨_, after, by simp, .noFallback alone tail, followed⟩

theorem leads_list :
    Leads .list rest tokens ↔
      rest tokens ∨ Leads .expression (Leads .moreItems rest) tokens := by
  constructor
  · rintro ⟨_, after, rfl, derived, followed⟩
    cases derived with
    | noItem => exact Or.inl followed
    | items item others =>
        exact Or.inr ⟨_, _, List.append_assoc .., item, _, after, rfl, others, followed⟩
  · rintro (followed | ⟨_, _, rfl, item, _, after, rfl, others, followed⟩)
    · exact ⟨[], tokens, rfl, .noItem, followed⟩
    · exact ⟨_, after, (List.append_assoc ..).symm, .items item others, followed⟩

theorem leads_moreItems_cons :
    Leads .moreItems rest (token :: tokens) ↔
      rest (token :: tokens) ∨
      token = .comma ∧ Leads .expression (Leads .moreItems rest) tokens := by
  constructor
  · rintro ⟨_, after, cut, derived, followed⟩
    cases derived with
    | lastItem =>
        rw [List.nil_append] at cut
        exact Or.inl (cut ▸ followed)
    | nextItem item others =>
        simp only [List.cons_append, List.append_assoc, List.cons.injEq] at cut
        obtain ⟨rfl, rfl⟩ := cut
        exact Or.inr ⟨rfl, _, _, rfl, item, _, after, rfl, others, followed⟩
  · rintro (followed | ⟨rfl, _, _, rfl, item, _, after, rfl, others, followed⟩)
    · exact ⟨[], _, rfl, .lastItem, followed⟩
    · exact ⟨_, after, by simp, .nextItem item others, followed⟩

theorem leads_hash :
    Leads .hash rest tokens ↔
      rest tokens ∨
      Leads .expression (Opens .colon (Leads .expression (Leads .moreEntries rest))) tokens := by
  constructor
  · rintro ⟨_, after, rfl, derived, followed⟩
    cases derived with
    | noEntry => exact Or.inl followed
    | entries key value others =>
        exact Or.inr ⟨_, _, by simp, key, _, rfl, _, _, rfl, value, _, after, rfl, others, followed⟩
  · rintro (followed |
      ⟨_, _, rfl, key, _, rfl, _, _, rfl, value, _, after, rfl, others, followed⟩)
    · exact ⟨[], tokens, rfl, .noEntry, followed⟩
    · exact ⟨_, after, by simp, .entries key value others, followed⟩

theorem leads_moreEntries_cons :
    Leads .moreEntries rest (token :: tokens) ↔
      rest (token :: tokens) ∨
      token = .comma ∧
        Leads .expression (Opens .colon (Leads .expression (Leads .moreEntries rest)))
          tokens := by
  constructor
  · rintro ⟨_, after, cut, derived, followed⟩
    cases derived with
    | lastEntry =>
        rw [List.nil_append] at cut
        exact Or.inl (cut ▸ followed)
    | nextEntry key value others =>
        simp only [List.cons_append, List.append_assoc, List.cons.injEq] at cut
        obtain ⟨rfl, rfl⟩ := cut
        exact Or.inr
          ⟨rfl, _, _, rfl, key, _, rfl, _, _, rfl, value, _, after, rfl, others, followed⟩
  · rintro (followed |
      ⟨rfl, _, _, rfl, key, _, rfl, _, _, rfl, value, _, after, rfl, others, followed⟩)
    · exact ⟨[], _, rfl, .lastEntry, followed⟩
    · exact ⟨_, after, by simp, .nextEntry key value others, followed⟩

/-! ## Tokens that begin a text -/

theorem startsPrimary_of_leads (leads : Leads .primary rest (token :: tokens)) :
    token.startsPrimary = true := by
  rw [leads_primary_cons] at leads
  rcases leads with ⟨isLiteral, _⟩ | ⟨rfl, _⟩ | ⟨rfl, _⟩ | ⟨rfl, _⟩
  · rw [Token.startsPrimary.eq_def, isLiteral, Bool.true_or]
  · rfl
  · rfl
  · rfl

theorem startsOperand_of_leads_operand (leads : Leads .operand rest (token :: tokens)) :
    token.startsOperand = true := by
  rw [leads_operand_cons] at leads
  rcases leads with ⟨sign, _⟩ | primary
  · rw [Token.startsOperand, sign, Bool.or_true]
  · rw [Token.startsOperand, startsPrimary_of_leads primary, Bool.true_or]

theorem startsOperand_of_leads_expression (leads : Leads .expression rest (token :: tokens)) :
    token.startsOperand = true := by
  rw [leads_expression] at leads
  exact startsOperand_of_leads_operand leads

end TemplateLanguage.Interpolation
