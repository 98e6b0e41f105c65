import TemplateLanguage.Proofs.Interpolation.Grammar

/-!
# What a state of the recognizer stands for

A state stands for the sequences of tokens that close the section from there:
`Closes` reads them off the expectation and the open groups, in terms of the
grammar alone.  A step takes the first token off such a sequence, and refuses a
token with which none begins.  So each function of the recognizer has one
lemma, and none of them is about more than one token.
-/

namespace TemplateLanguage.Interpolation

/-- The tokens that may follow a complete expression inside open groups. -/
def AfterExpression (form : Form) : List Group → List Token → Prop
  | [] => Ending form
  | .paren :: outer =>
      Opens .rightParen (Leads .tail (Leads .operations (AfterExpression form outer)))
  | .index :: outer =>
      Opens .rightBracket (Leads .tail (Leads .operations (AfterExpression form outer)))
  | .argument :: outer =>
      Leads .moreItems
        (Opens .rightParen (Leads .tail (Leads .operations (AfterExpression form outer))))
  | .item :: outer =>
      Leads .moreItems
        (Opens .rightBracket (Leads .tail (Leads .operations (AfterExpression form outer))))
  | .entryKey :: outer =>
      Opens .colon (Leads .expression (Leads .moreEntries
        (Opens .rightBrace (Leads .tail (Leads .operations (AfterExpression form outer))))))
  | .entryValue :: outer =>
      Leads .moreEntries
        (Opens .rightBrace (Leads .tail (Leads .operations (AfterExpression form outer))))

/-- The tokens that may follow a primary inside open groups. -/
def AfterPrimary (form : Form) (groups : List Group) : List Token → Prop :=
  Leads .tail (Leads .operations (AfterExpression form groups))

namespace State

/-- The tokens that close a section from a state on. -/
def Closes (form : Form) (state : State) (tokens : List Token) : Prop :=
  match state.expectation with
  | .first | .operand => Leads .expression (AfterExpression form state.groups) tokens
  | .firstItem =>
      Leads .expression (AfterExpression form state.groups) tokens ∨
        ∃ closing, state.groups.head?.bind Group.emptyClosing? = some closing ∧
          Opens closing (AfterPrimary form state.groups.tail) tokens
  | .tail => AfterPrimary form state.groups tokens
  | .fallback =>
      Leads .primary (AfterPrimary form state.groups) tokens ∨
        NoPrimary tokens ∧ AfterPrimary form state.groups tokens
  | .bound =>
      Leads .expression (AfterExpression form state.groups) tokens ∨
        Leads .operations (AfterExpression form state.groups) tokens
  | .name _ => Opens .name (AfterPrimary form state.groups) tokens
  | .format => ∃ format, .rightBrace ∉ format ∧ tokens = format ++ [.rightBrace]

end State

/-- The tokens that close a section after an outcome. -/
def Outcome.Admits (form : Form) (outcome : Outcome) (tokens : List Token) : Prop :=
  match outcome with
  | .complete => tokens = []
  | .continue state => state.Closes form tokens
  | .refuse _ => False

/-- The tokens with which nothing of an expression can go on. -/
def endsExpression : Token → Bool
  | .comma | .colon | .semicolon | .rightParen | .rightBracket | .rightBrace => true
  | _ => false

variable {form : Form} {groups : List Group} {token : Token} {tokens : List Token}

/-! ## Kinds of tokens -/

theorem startsOperand_eq_false_of_endsExpression (ends : endsExpression token = true) :
    token.startsOperand = false := by
  cases token <;> first | rfl | cases ends

theorem isBinaryOperator_eq_false_of_endsExpression (ends : endsExpression token = true) :
    token.isBinaryOperator = false := by
  cases token <;> first | rfl | cases ends

theorem startsPrimary_eq_false_of_isBinaryOperator (binary : token.isBinaryOperator = true) :
    token.startsPrimary = false := by
  cases token <;> first | rfl | cases binary

theorem startsPrimary_eq_false_of_isPrefixOperator (sign : token.isPrefixOperator = true) :
    token.startsPrimary = false := by
  cases token <;> first | rfl | cases sign

/-- An operator that begins an operand is the sign of the operand. -/
theorem isPrefixOperator_of_isBinaryOperator (binary : token.isBinaryOperator = true)
    (starts : token.startsOperand = true) : token.isPrefixOperator = true := by
  rw [Token.startsOperand, startsPrimary_eq_false_of_isBinaryOperator binary] at starts
  exact starts

theorem startsOperand_eq_false_of_isRange (range : token.isRange = true) :
    token.startsOperand = false := by
  cases token <;> first | rfl | cases range

theorem startsOperand_eq_false_of_emptyClosing? {group : Group}
    (closing : group.emptyClosing? = some token) : token.startsOperand = false := by
  cases group <;> cases closing <;> rfl

theorem isBinaryOperator_of_isRange (range : token.isRange = true) :
    token.isBinaryOperator = true := by
  cases token <;> first | rfl | cases range

/-! ## What follows an expression -/

theorem endsExpression_of_afterExpression
    (follows : AfterExpression form groups (token :: tokens)) : endsExpression token = true := by
  cases groups with
  | nil => cases follows <;> rfl
  | cons group outer =>
      cases group with
      | paren | index | entryKey =>
          obtain ⟨rfl, _⟩ := opens_cons.mp follows
          rfl
      | argument | item =>
          rw [AfterExpression, leads_moreItems_cons, opens_cons] at follows
          rcases follows with ⟨rfl, _⟩ | ⟨rfl, _⟩ <;> rfl
      | entryValue =>
          rw [AfterExpression, leads_moreEntries_cons, opens_cons] at follows
          rcases follows with ⟨rfl, _⟩ | ⟨rfl, _⟩ <;> rfl

theorem not_afterExpression_of_isBinaryOperator (binary : token.isBinaryOperator = true) :
    ¬AfterExpression form groups (token :: tokens) := by
  intro follows
  have ends := endsExpression_of_afterExpression follows
  rw [isBinaryOperator_eq_false_of_endsExpression ends] at binary
  cases binary

theorem not_afterExpression_nil : ¬AfterExpression form groups [] := by
  cases groups with
  | nil => exact fun ending => by cases ending
  | cons group outer =>
      cases group with
      | paren | index | entryKey => exact not_opens_nil
      | argument | item | entryValue => exact not_leads_nil not_opens_nil

/-- After an operand comes an operator or what follows the expression. -/
theorem first_of_leads_operations
    (follows : Leads .operations (AfterExpression form groups) (token :: tokens)) :
    token.isBinaryOperator = true ∨ endsExpression token = true := by
  rw [leads_operations_cons] at follows
  rcases follows with follows | ⟨binary, _⟩ | ⟨range, _⟩
  · exact Or.inr (endsExpression_of_afterExpression follows)
  · exact Or.inl binary
  · exact Or.inl (isBinaryOperator_of_isRange range)

/-- No primary can follow an operand. -/
theorem noPrimary_of_leads_operations (tokens : List Token)
    (follows : Leads .operations (AfterExpression form groups) tokens) : NoPrimary tokens := by
  intro token first
  cases tokens with
  | nil => cases first
  | cons head rest =>
      cases first
      rcases first_of_leads_operations follows with binary | ends
      · exact startsPrimary_eq_false_of_isBinaryOperator binary
      · exact (Bool.or_eq_false_iff.mp (startsOperand_eq_false_of_endsExpression ends)).1

/-! ## Steps -/

namespace State

theorem primary?_eq_none_iff :
    primary? groups token = none ↔ token.startsPrimary = false := by
  cases token <;> simp [primary?, Token.startsPrimary, Token.isLiteral]

theorem closes_firstItem_item :
    Closes form ⟨.firstItem, .item :: groups⟩ tokens ↔
      Leads .list (Opens .rightBracket (AfterPrimary form groups)) tokens := by
  rw [leads_list, or_comm]
  simp [Closes, AfterExpression, AfterPrimary, Group.emptyClosing?]

theorem closes_firstItem_argument :
    Closes form ⟨.firstItem, .argument :: groups⟩ tokens ↔
      Leads .list (Opens .rightParen (AfterPrimary form groups)) tokens := by
  rw [leads_list, or_comm]
  simp [Closes, AfterExpression, AfterPrimary, Group.emptyClosing?]

theorem closes_firstItem_entryKey :
    Closes form ⟨.firstItem, .entryKey :: groups⟩ tokens ↔
      Leads .hash (Opens .rightBrace (AfterPrimary form groups)) tokens := by
  rw [leads_hash, or_comm]
  simp [Closes, AfterExpression, AfterPrimary, Group.emptyClosing?]

/-- The first token of a primary is read as the grammar says. -/
theorem closes_primary? :
    (∃ state, primary? groups token = some state ∧ state.Closes form tokens) ↔
      Leads .primary (AfterPrimary form groups) (token :: tokens) := by
  have unique : ∀ state : State,
      (∃ other, some state = some other ∧ other.Closes form tokens) ↔
        state.Closes form tokens := by
    intro state
    constructor
    · rintro ⟨_, same, closes⟩
      cases same
      exact closes
    · exact fun closes => ⟨state, rfl, closes⟩
  rw [leads_primary_cons, primary?.eq_def]
  split
  · rw [unique]
    simp [Closes, AfterExpression, AfterPrimary, Token.isLiteral]
  · rw [unique, closes_firstItem_item]
    simp [Token.isLiteral]
  · rw [unique, closes_firstItem_entryKey]
    simp [Token.isLiteral]
  · rename_i noParen noBracket noBrace
    constructor
    · rintro ⟨state, found, closes⟩
      split at found
      · rename_i isLiteral
        cases found
        exact Or.inl ⟨isLiteral, closes⟩
      · cases found
    · rintro (⟨isLiteral, closes⟩ | ⟨paren, _⟩ | ⟨bracket, _⟩ | ⟨brace, _⟩)
      · exact ⟨⟨.tail, groups⟩, if_pos isLiteral, closes⟩
      · exact (noParen paren).elim
      · exact (noBracket bracket).elim
      · exact (noBrace brace).elim

variable {lexeme : Lexeme}

/-- The first token of an operand is read as the grammar says. -/
theorem admits_operand :
    (operand groups lexeme).Admits form tokens ↔
      Leads .expression (AfterExpression form groups) (lexeme.token :: tokens) := by
  rw [leads_expression, leads_operand_cons, operand]
  split
  · rename_i sign
    have primary : ¬Leads .primary (Leads .tail (Leads .operations (AfterExpression form groups)))
        (lexeme.token :: tokens) := by
      intro leads
      have starts := startsPrimary_of_leads leads
      rw [startsPrimary_eq_false_of_isPrefixOperator sign] at starts
      cases starts
    change Leads .expression (AfterExpression form groups) tokens ↔ _
    rw [leads_expression]
    simp [sign, primary]
  · rename_i unsigned
    change _ ↔ _ ∨ Leads .primary (AfterPrimary form groups) (lexeme.token :: tokens)
    rw [← closes_primary?]
    cases read : primary? groups lexeme.token with
    | none => simp [unsigned, Outcome.Admits]
    | some state => simp [unsigned, Outcome.Admits]

/-- After an expression in a group comes a comma that goes on with the group,
or the token that closes the group. -/
theorem afterExpression_cons {group : Group} :
    AfterExpression form (group :: groups) (token :: tokens) ↔
      token = .comma ∧ (∃ next, group.afterComma? = some next ∧
        Leads .expression (AfterExpression form (next :: groups)) tokens) ∨
      token = group.closing ∧
        (if group = .entryKey then
          Leads .expression (AfterExpression form (.entryValue :: groups)) tokens
        else AfterPrimary form groups tokens) := by
  cases group with
  | paren | index | entryKey =>
      simp [AfterExpression, AfterPrimary, Group.afterComma?, Group.closing]
  | argument | item =>
      rw [AfterExpression, leads_moreItems_cons, or_comm]
      simp [AfterExpression, AfterPrimary, Group.afterComma?, Group.closing]
  | entryValue =>
      rw [AfterExpression, leads_moreEntries_cons, or_comm]
      simp [AfterExpression, AfterPrimary, Group.afterComma?, Group.closing]

/-- The token after an expression in a group is read as the grammar says. -/
theorem admits_close {group : Group} :
    (close group groups lexeme).Admits form tokens ↔
      AfterExpression form (group :: groups) (lexeme.token :: tokens) := by
  rw [afterExpression_cons, close]
  split
  · rename_i comma
    obtain ⟨next, isNext⟩ := Option.isSome_iff_exists.mp comma.2
    have distinct : .comma ≠ group.closing := by cases group <;> decide
    rw [comma.1, isNext]
    simp [Outcome.Admits, Closes, distinct]
  · rename_i noComma
    have past : ¬(lexeme.token = .comma ∧ ∃ next, group.afterComma? = some next ∧
        Leads .expression (AfterExpression form (next :: groups)) tokens) := by
      rintro ⟨comma, next, isNext, _⟩
      exact noComma ⟨comma, isNext ▸ rfl⟩
    rw [or_iff_right past]
    split
    · rename_i closing
      rw [and_iff_right closing]
      by_cases key : group = .entryKey
      · rw [if_pos key, if_pos key]
        exact Iff.rfl
      · rw [if_neg key, if_neg key]
        exact Iff.rfl
    · rename_i notClosing
      split
      · exact ⟨False.elim, fun closes => notClosing closes.1⟩
      · exact ⟨False.elim, fun closes => notClosing closes.1⟩

/-- The token after the expression of a section is read as the grammar says. -/
theorem admits_finish :
    (finish form lexeme).Admits form tokens ↔ Ending form (lexeme.token :: tokens) := by
  rw [finish]
  split
  · rename_i brace
    rw [brace]
    constructor
    · intro done
      cases (done : tokens = [])
      exact .brace
    · intro ending
      cases ending
      rfl
  · rename_i noBrace
    split
    · rename_i semicolon
      rw [semicolon.2]
      constructor
      · rintro ⟨format, plain, rfl⟩
        exact .format semicolon.1 plain
      · intro ending
        cases ending with
        | format _ plain => exact ⟨_, plain, rfl⟩
    · rename_i noSemicolon
      have refused : ¬Ending form (lexeme.token :: tokens) := by
        intro ending
        generalize cut : lexeme.token :: tokens = all at ending
        cases ending with
        | brace => exact noBrace (List.cons.inj cut).1
        | format numeric _ => exact noSemicolon ⟨numeric, (List.cons.inj cut).1⟩
      split
      · exact ⟨False.elim, refused⟩
      · exact ⟨False.elim, refused⟩

theorem admits_endExpression :
    (endExpression form groups lexeme).Admits form tokens ↔
      AfterExpression form groups (lexeme.token :: tokens) := by
  cases groups with
  | nil => exact admits_finish
  | cons group outer => exact admits_close

/-- The token after an operand is read as the grammar says. -/
theorem admits_operator :
    (operator form groups lexeme).Admits form tokens ↔
      Leads .operations (AfterExpression form groups) (lexeme.token :: tokens) := by
  rw [leads_operations_cons, operator]
  split
  · rename_i range
    have binary := isBinaryOperator_of_isRange range
    rw [← leads_expression, or_iff_right (not_afterExpression_of_isBinaryOperator binary),
      and_iff_right binary, and_iff_right range]
    exact Iff.rfl
  · rename_i noRange
    split
    · rename_i binary
      rw [← leads_expression, or_iff_right (not_afterExpression_of_isBinaryOperator binary),
        and_iff_right binary, or_iff_left fun goesOn => noRange goesOn.1]
      exact Iff.rfl
    · rename_i noBinary
      rw [admits_endExpression]
      simp [noBinary, noRange]

/-- The token after a primary or one of its continuations is read as the grammar
says. -/
theorem admits_tail :
    (tail form groups lexeme).Admits form tokens ↔
      AfterPrimary form groups (lexeme.token :: tokens) := by
  have past : ∀ {token : Token}, token.isBinaryOperator = false → endsExpression token = false →
      ¬Leads .operations (AfterExpression form groups) (token :: tokens) := by
    intro token noOperator noEnd follows
    rcases first_of_leads_operations follows with binary | ends
    · rw [noOperator] at binary
      cases binary
    · rw [noEnd] at ends
      cases ends
  rw [AfterPrimary, leads_tail_cons noPrimary_of_leads_operations, tail.eq_def]
  split
  · rename_i dot
    rw [dot, or_iff_right (past rfl rfl)]
    simp [Outcome.Admits, Closes, AfterPrimary]
  · rename_i question
    rw [question, or_iff_right (past rfl rfl)]
    simp [Outcome.Admits, Closes, AfterPrimary]
  · rename_i doubleQuestion
    rw [doubleQuestion, or_iff_right (past rfl rfl)]
    simp [Outcome.Admits, Closes, AfterPrimary]
  · rename_i bracket
    rw [bracket, or_iff_right (past rfl rfl)]
    simp [Outcome.Admits, Closes, AfterExpression]
  · rename_i paren
    rw [paren, or_iff_right (past rfl rfl)]
    simp [Outcome.Admits, closes_firstItem_argument, AfterPrimary]
  · rename_i bang
    rw [bang, or_iff_right (past rfl rfl)]
    simp [Outcome.Admits, Closes, AfterPrimary]
  · rename_i noDot noQuestion noDoubleQuestion noBracket noParen noBang
    rw [admits_operator]
    constructor
    · exact Or.inl
    · rintro (follows | ⟨dot, _⟩ | ⟨question, _⟩ | ⟨doubleQuestion, _⟩ | ⟨bracket, _⟩ |
        ⟨paren, _⟩ | ⟨bang, _⟩)
      · exact follows
      · exact (noDot dot).elim
      · exact (noQuestion question).elim
      · exact (noDoubleQuestion doubleQuestion).elim
      · exact (noBracket bracket).elim
      · exact (noParen paren).elim
      · exact (noBang bang).elim

/-- The token after a bare `!` is read as the grammar says. -/
theorem admits_fallback {start : Nat} :
    (step form start ⟨.fallback, groups⟩ lexeme).Admits form tokens ↔
      Closes form ⟨.fallback, groups⟩ (lexeme.token :: tokens) := by
  change _ ↔ Leads .primary (AfterPrimary form groups) (lexeme.token :: tokens) ∨
    NoPrimary (lexeme.token :: tokens) ∧ AfterPrimary form groups (lexeme.token :: tokens)
  rw [← closes_primary?]
  simp only [step]
  cases read : primary? groups lexeme.token with
  | none =>
      have bare : NoPrimary (lexeme.token :: tokens) := by
        intro token first
        cases first
        exact primary?_eq_none_iff.mp read
      simp [bare, admits_tail]
  | some state =>
      have operand : ¬NoPrimary (lexeme.token :: tokens) := by
        intro bare
        rw [primary?_eq_none_iff.mpr (bare lexeme.token rfl)] at read
        cases read
      simp [operand, Outcome.Admits]

/-- The token after a range operator is read as the grammar says. -/
theorem admits_bound {start : Nat} :
    (step form start ⟨.bound, groups⟩ lexeme).Admits form tokens ↔
      Closes form ⟨.bound, groups⟩ (lexeme.token :: tokens) := by
  change (if lexeme.token.startsOperand then operand groups lexeme
    else operator form groups lexeme).Admits form tokens ↔
    Leads .expression (AfterExpression form groups) (lexeme.token :: tokens) ∨
      Leads .operations (AfterExpression form groups) (lexeme.token :: tokens)
  split
  · rename_i starts
    rw [admits_operand]
    constructor
    · exact Or.inl
    · rintro (leads | follows)
      · exact leads
      · rw [leads_expression, leads_operand_cons]
        rcases leads_operations_cons.mp follows with follows | ⟨binary, leads⟩ | ⟨range, _⟩
        · have ends := endsExpression_of_afterExpression follows
          rw [startsOperand_eq_false_of_endsExpression ends] at starts
          cases starts
        · exact Or.inl ⟨isPrefixOperator_of_isBinaryOperator binary starts, leads⟩
        · rw [startsOperand_eq_false_of_isRange range] at starts
          cases starts
  · rename_i noStart
    rw [admits_operator,
      or_iff_right fun leads => noStart (startsOperand_of_leads_expression leads)]

/-- The first token of a group is read as the grammar says. -/
theorem admits_firstItem {start : Nat} :
    (step form start ⟨.firstItem, groups⟩ lexeme).Admits form tokens ↔
      Closes form ⟨.firstItem, groups⟩ (lexeme.token :: tokens) := by
  change (if (groups.head?.bind Group.emptyClosing?) = some lexeme.token then
      Outcome.continue ⟨.tail, groups.tail⟩
    else operand groups lexeme).Admits form tokens ↔
    Leads .expression (AfterExpression form groups) (lexeme.token :: tokens) ∨
      ∃ closing, groups.head?.bind Group.emptyClosing? = some closing ∧
        Opens closing (AfterPrimary form groups.tail) (lexeme.token :: tokens)
  split
  · rename_i empty
    obtain ⟨group, _, closing⟩ := Option.bind_eq_some_iff.mp empty
    have noItem : ¬Leads .expression (AfterExpression form groups) (lexeme.token :: tokens) := by
      intro leads
      have starts := startsOperand_of_leads_expression leads
      rw [startsOperand_eq_false_of_emptyClosing? closing] at starts
      cases starts
    rw [or_iff_right noItem]
    constructor
    · intro follows
      exact ⟨lexeme.token, empty, opens_cons.mpr ⟨rfl, follows⟩⟩
    · rintro ⟨_, _, opens⟩
      exact (opens_cons.mp opens).2
  · rename_i filled
    rw [admits_operand, or_iff_left]
    rintro ⟨closing, isClosing, opens⟩
    rw [opens_cons] at opens
    exact filled (opens.1 ▸ isClosing)

/-- The first token of a section is read as the grammar says. -/
theorem admits_first {start : Nat} :
    (step form start ⟨.first, groups⟩ lexeme).Admits form tokens ↔
      Closes form ⟨.first, groups⟩ (lexeme.token :: tokens) := by
  change (if lexeme.token = .rightBrace then Outcome.refuse (.empty start)
    else operand groups lexeme).Admits form tokens ↔
    Leads .expression (AfterExpression form groups) (lexeme.token :: tokens)
  split
  · rename_i brace
    constructor
    · exact False.elim
    · intro leads
      have starts := startsOperand_of_leads_expression leads
      rw [brace] at starts
      cases starts
  · exact admits_operand

/-- The token after an access operator is read as the grammar says. -/
theorem admits_name {start : Nat} {after : Access} :
    (step form start ⟨.name after, groups⟩ lexeme).Admits form tokens ↔
      Closes form ⟨.name after, groups⟩ (lexeme.token :: tokens) := by
  change (if lexeme.token = .name then Outcome.continue ⟨.tail, groups⟩
    else .refuse (.expectedName lexeme.start after (String.ofList lexeme.text))).Admits
      form tokens ↔ Opens .name (AfterPrimary form groups) (lexeme.token :: tokens)
  rw [opens_cons]
  split
  · rename_i name
    exact (and_iff_right name).symm
  · rename_i noName
    exact ⟨False.elim, fun closes => noName closes.1⟩

/-- A token of a format is read as the grammar says. -/
theorem admits_format {start : Nat} :
    (step form start ⟨.format, groups⟩ lexeme).Admits form tokens ↔
      Closes form ⟨.format, groups⟩ (lexeme.token :: tokens) := by
  change (if lexeme.token = .rightBrace then Outcome.complete
    else .continue ⟨.format, groups⟩).Admits form tokens ↔
    ∃ format, .rightBrace ∉ format ∧ lexeme.token :: tokens = format ++ [.rightBrace]
  split
  · rename_i brace
    constructor
    · intro done
      cases (done : tokens = [])
      exact ⟨[], List.not_mem_nil, by rw [brace]; rfl⟩
    · rintro ⟨format, plain, cut⟩
      cases format with
      | nil => exact (List.cons.inj cut).2
      | cons first others =>
          rw [brace] at cut
          rw [← (List.cons.inj cut).1] at plain
          exact (plain List.mem_cons_self).elim
  · rename_i noBrace
    constructor
    · rintro ⟨format, plain, rfl⟩
      exact ⟨lexeme.token :: format, by simp [plain, Ne.symm noBrace], rfl⟩
    · rintro ⟨format, plain, cut⟩
      cases format with
      | nil => exact (noBrace (List.cons.inj cut).1).elim
      | cons first others =>
          exact ⟨others, fun member => plain (List.mem_cons_of_mem first member),
            (List.cons.inj cut).2⟩

/-- A step takes the first token off the sequences that close the section. -/
theorem admits_step (start : Nat) {state : State} :
    (state.step form start lexeme).Admits form tokens ↔
      state.Closes form (lexeme.token :: tokens) := by
  obtain ⟨expectation, groups⟩ := state
  cases expectation with
  | first => exact admits_first
  | operand => exact admits_operand
  | firstItem => exact admits_firstItem
  | tail => exact admits_tail
  | fallback => exact admits_fallback
  | bound => exact admits_bound
  | name after => exact admits_name
  | format => exact admits_format

/-- No section is closed without a token. -/
theorem not_closes_nil {state : State} : ¬state.Closes form [] := by
  obtain ⟨expectation, groups⟩ := state
  have noExpression : ¬Leads .expression (AfterExpression form groups) [] :=
    not_leads_nil not_afterExpression_nil
  have noOperation : ¬Leads .operations (AfterExpression form groups) [] :=
    not_leads_nil not_afterExpression_nil
  have noTail : ∀ groups, ¬AfterPrimary form groups [] :=
    fun _ => not_leads_nil (not_leads_nil not_afterExpression_nil)
  cases expectation with
  | first | operand => exact noExpression
  | firstItem =>
      rintro (leads | ⟨_, _, opens⟩)
      · exact noExpression leads
      · exact not_opens_nil opens
  | tail => exact noTail groups
  | fallback =>
      rintro (leads | ⟨_, follows⟩)
      · exact not_leads_nil (noTail groups) leads
      · exact noTail groups follows
  | bound =>
      rintro (leads | follows)
      · exact noExpression leads
      · exact noOperation follows
  | name => exact not_opens_nil
  | format =>
      rintro ⟨format, _, cut⟩
      exact List.cons_ne_nil _ _ (List.append_eq_nil_iff.mp cut.symm).2

end State

end TemplateLanguage.Interpolation
