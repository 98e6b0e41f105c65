import TemplateLanguage.Proofs.Escape.Formed
import TemplateLanguage.Proofs.Expr.Pieces

/-!
# Written expressions are accepted

The tokens of a well-formed expression are an expression of the grammar of
sections.  How much more they are depends on the strength of the expression: the
tokens of an expression that binds like a prefix operator are an operand, and
those of one that binds more tightly are a primary with a tail, to which the
grammar can add more.  The grammar has no strengths, so only the operand
positions of postfix and prefix operators and of `!` need parentheses for it;
the others need them for the sake of grouping.
-/

namespace TemplateLanguage

namespace Interpolation

variable {token : Token} {tokens first second : List Token}

/-! ## Building derivations -/

/-- Operators with their operands may follow others. -/
theorem derives_operations_append (before : Derives .operations first)
    (after : Derives .operations second) : Derives .operations (first ++ second) := by
  generalize isOperations : Category.operations = category at before
  induction before with
  | noOperation => exact after
  | operation binary operand _ _ ih =>
      rw [List.append_assoc]
      exact .operation binary operand (ih isOperations)
  | openRange range _ ih => exact .openRange range (ih isOperations)
  | _ => cases isOperations

/-- The grammar takes operators in the order in which they stand. -/
theorem derives_binary (binary : token.isBinaryOperator = true)
    (left : Derives .expression first) (right : Derives .expression second) :
    Derives .expression (first ++ token :: second) := by
  cases left with
  | expression operand operations =>
      cases right with
      | expression nextOperand nextOperations =>
          rw [List.append_assoc]
          exact .expression operand (derives_operations_append operations
            (.operation binary nextOperand nextOperations))

theorem derives_expression_of_operand (operand : Derives .operand tokens) :
    Derives .expression tokens := by
  rw [← List.append_nil tokens]
  exact .expression operand .noOperation

/-- A primary and a tail that every other tail may follow. -/
def IsChain (tokens : List Token) : Prop :=
  ∃ primary tail, tokens = primary ++ tail ∧ Derives .primary primary ∧
    ∀ more, Derives .tail more → Derives .tail (tail ++ more)

theorem isChain_of_primary (primary : Derives .primary tokens) : IsChain tokens :=
  ⟨tokens, [], (List.append_nil tokens).symm, primary, fun _ more => more⟩

theorem isChain_literal (isLiteral : token.isLiteral = true) : IsChain [token] :=
  isChain_of_primary (.literal isLiteral)

theorem IsChain.append (chain : IsChain first)
    (continues : ∀ more, Derives .tail more → Derives .tail (second ++ more)) :
    IsChain (first ++ second) := by
  obtain ⟨primary, tail, rfl, derived, goesOn⟩ := chain
  refine ⟨primary, tail ++ second, List.append_assoc .., derived, ?_⟩
  intro more following
  rw [List.append_assoc]
  exact goesOn _ (continues more following)

/-- The operand of a `!` after a chain is a chain too. -/
theorem IsChain.fallback (chain : IsChain first) (replacement : IsChain second) :
    IsChain (first ++ .bang :: second) := by
  obtain ⟨primary, tail, rfl, derived, goesOn⟩ := replacement
  apply chain.append
  intro more following
  rw [List.cons_append, List.append_assoc]
  exact .fallback derived (goesOn more following)

theorem IsChain.operand (chain : IsChain tokens) : Derives .operand tokens := by
  obtain ⟨primary, tail, rfl, derived, goesOn⟩ := chain
  have ends := goesOn [] .noTail
  rw [List.append_nil] at ends
  exact .unsigned derived ends

/-- Put tokens into parentheses where they are needed. -/
def groupTokens (needed : Bool) (tokens : List Token) : List Token :=
  if needed then .leftParen :: tokens ++ [.rightParen] else tokens

end Interpolation

open Interpolation

/-! ## The tokens of an expression -/

theorem Piece.map_token_group (needed : Bool) (pieces : List Piece) :
    (group needed pieces).map token = groupTokens needed (pieces.map token) := by
  cases needed with
  | false => rfl
  | true => simp [group, groupTokens, symbol]

theorem Piece.map_token_brackets (pieces : List Piece) :
    (symbol .leftBracket :: pieces ++ [symbol .rightBracket]).map token =
      .leftBracket :: pieces.map token ++ [.rightBracket] := by
  simp [symbol]

theorem Piece.map_token_parentheses (pieces : List Piece) :
    (symbol .leftParen :: pieces ++ [symbol .rightParen]).map token =
      .leftParen :: pieces.map token ++ [.rightParen] := by
  simp [symbol]

theorem Operator.isBinaryOperator_token {operator : Operator} (eager : operator ≠ .fallback) :
    operator.token.isBinaryOperator = true := by
  cases operator with
  | fallback => exact absurd rfl eager
  | _ => rfl

namespace Expr

/-- The tokens of the text of an expression. -/
def tokens (expression : Expr) : List Token :=
  expression.pieces.map Piece.token

/-- What the tokens of an expression are in the grammar. -/
structure Parses (expression : Expr) : Prop where
  isExpression : Derives .expression expression.tokens
  isOperand : Operator.prefixStrength ≤ expression.strength → Derives .operand expression.tokens
  isChain : Operator.prefixStrength < expression.strength → IsChain expression.tokens

variable {expression : Expr}

theorem parses_of_isChain (chain : IsChain expression.tokens) : Parses expression where
  isExpression := derives_expression_of_operand chain.operand
  isOperand := fun _ => chain.operand
  isChain := fun _ => chain

theorem parses_of_isOperand (weak : ¬Operator.prefixStrength < expression.strength)
    (operand : Derives .operand expression.tokens) : Parses expression where
  isExpression := derives_expression_of_operand operand
  isOperand := fun _ => operand
  isChain := fun strong => absurd strong weak

theorem parses_of_isExpression (weak : ¬Operator.prefixStrength ≤ expression.strength)
    (derived : Derives .expression expression.tokens) : Parses expression where
  isExpression := derived
  isOperand := fun strong => absurd strong weak
  isChain := fun strong => absurd (Nat.le_of_lt strong) weak

theorem Parses.isChain_group (parses : Parses expression) :
    IsChain (groupTokens (expression.strength < atomStrength) expression.tokens) := by
  by_cases weak : expression.strength < atomStrength
  · rw [groupTokens, if_pos (decide_eq_true weak)]
    exact isChain_of_primary (.group parses.isExpression)
  · rw [groupTokens, if_neg (by simp [weak])]
    apply parses.isChain
    exact Nat.lt_of_lt_of_le (by decide) (Nat.le_of_not_lt weak)

theorem Parses.isOperand_group (parses : Parses expression) :
    Derives .operand
      (groupTokens (expression.strength < Operator.prefixStrength) expression.tokens) := by
  by_cases weak : expression.strength < Operator.prefixStrength
  · rw [groupTokens, if_pos (decide_eq_true weak)]
    exact (isChain_of_primary (.group parses.isExpression)).operand
  · rw [groupTokens, if_neg (by simp [weak])]
    exact parses.isOperand (Nat.le_of_not_lt weak)

theorem Parses.isExpression_group (parses : Parses expression) (needed : Bool) :
    Derives .expression (groupTokens needed expression.tokens) := by
  cases needed with
  | false => exact parses.isExpression
  | true =>
      have chain := isChain_of_primary (.group parses.isExpression)
      exact derives_expression_of_operand chain.operand

theorem derives_moreItems {items : List Expr} (parses : ∀ item ∈ items, Parses item) :
    Derives .moreItems ((piecesMore items).map Piece.token) := by
  induction items with
  | nil => exact .lastItem
  | cons item items ih =>
      rw [List.forall_mem_cons] at parses
      rw [piecesMore, List.map_append, List.map_cons]
      exact .nextItem parses.1.isExpression (ih parses.2)

theorem derives_list {items : List Expr} (parses : ∀ item ∈ items, Parses item) :
    Derives .list ((piecesAll items).map Piece.token) := by
  cases items with
  | nil => exact .noItem
  | cons item items =>
      rw [List.forall_mem_cons] at parses
      rw [piecesAll, List.map_append]
      exact .items parses.1.isExpression (derives_moreItems parses.2)

/-- A minus sign before a number is a prefix operator. -/
theorem parses_number (value : Decimal) : Parses (number value) := by
  have chain := isChain_literal (Token.isLiteral_ofPlaces value.scale)
  cases sign : value.negative with
  | false =>
      apply parses_of_isChain
      rw [tokens, pieces, sign]
      exact chain
  | true =>
      apply parses_of_isOperand
      · rw [strength, sign]
        exact Nat.lt_irrefl _
      · rw [tokens, pieces, sign]
        exact .signed rfl chain.operand

/-- The tokens of a well-formed expression are an expression of the grammar. -/
theorem WellFormed.parses (formed : expression.WellFormed) : Parses expression := by
  induction formed with
  | identifier named => exact parses_of_isChain (isChain_literal rfl)
  | boolean value =>
      cases value with
      | true => exact parses_of_isChain (isChain_literal rfl)
      | false => exact parses_of_isChain (isChain_literal rfl)
  | number value => exact parses_number value
  | quoted value => exact parses_of_isChain (isChain_literal rfl)
  | raw unquoted => exact parses_of_isChain (isChain_literal rfl)
  | dot _ named ih =>
      apply parses_of_isChain
      rw [tokens, pieces, List.map_append, Piece.map_token_group]
      exact ih.isChain_group.append fun _ more => .key more
  | index _ _ ihTarget ihKey =>
      apply parses_of_isChain
      rw [tokens, pieces, List.map_append, Piece.map_token_group, Piece.map_token_brackets]
      apply ihTarget.isChain_group.append
      intro more following
      rw [List.append_assoc]
      exact .index ihKey.isExpression following
  | call _ _ ihTarget ihArguments =>
      apply parses_of_isChain
      rw [tokens, pieces, List.map_append, Piece.map_token_group, Piece.map_token_parentheses]
      apply ihTarget.isChain_group.append
      intro more following
      rw [List.append_assoc]
      exact .call (derives_list ihArguments) following
  | builtin _ named ih =>
      apply parses_of_isChain
      rw [tokens, pieces, List.map_append, Piece.map_token_group]
      exact ih.isChain_group.append fun _ more => .builtin more
  | sequence _ ih =>
      apply parses_of_isChain
      rw [tokens, pieces, Piece.map_token_brackets]
      exact isChain_of_primary (.list (derives_list ih))
  | parenthesized _ ih =>
      apply parses_of_isChain
      rw [tokens, pieces, Piece.map_token_group]
      exact isChain_of_primary (.group ih.isExpression)
  | negation _ ih =>
      apply parses_of_isOperand (Nat.lt_irrefl _)
      rw [tokens, pieces, List.map_cons, Piece.map_token_group]
      exact .signed rfl ih.isOperand_group
  | @binary operator left right _ _ ihLeft ihRight =>
      by_cases default : operator = .fallback
      · subst default
        apply parses_of_isChain
        rw [tokens, pieces, List.map_append, List.map_cons, Piece.map_token_group,
          Piece.map_token_group]
        exact ihLeft.isChain_group.fallback ihRight.isChain_group
      · apply parses_of_isExpression
        · cases operator with
          | fallback => exact absurd rfl default
          | _ => exact of_decide_eq_false rfl
        · rw [tokens, pieces, List.map_append, List.map_cons, Piece.map_token_group,
            Piece.map_token_group]
          exact derives_binary (Operator.isBinaryOperator_token default)
            (ihLeft.isExpression_group _) (ihRight.isExpression_group _)

end Expr

/-! ## Sections -/

namespace Interpolation

/-- A section of a form around a text. -/
def Form.enclose (form : Form) (text : String) : String :=
  String.ofList form.opening ++ text ++ "\x7d"

/-- A section around the text of a well-formed expression passes the check. -/
theorem check_enclose_of_wellFormed (form : Form) {expression : Expr}
    (formed : expression.WellFormed) : check (form.enclose expression.toText) = .ok () := by
  have brace : Lexer.Yields ['}'] [Piece.symbol .rightBrace] [] := .cons rfl .nothing
  have reads := ((formed.writes.spells ['}'] rfl).append brace).reads
  rw [List.map_append] at reads
  have isSection : IsSection form (expression.tokens ++ [.rightBrace]) :=
    ⟨expression.tokens, [.rightBrace], rfl, formed.parses.isExpression, .brace⟩
  have text : (form.enclose expression.toText).toList =
      form.opening ++ (expression.render ++ ['}']) := by
    simp [Form.enclose, Expr.toText]
  rw [check, text]
  exact checkFrom_eq_ok_iff.mpr (.interpolation reads isSection .done)

/-- The check accepts what is written: the text of a well-formed expression in a
section of each form.  Substitution keeps expressions well formed, and so every
escaped form that an analysis stores is accepted if the expressions of the
template are well formed. -/
theorem check_enclose_toText :
    (∀ (form : Form) (expression : Expr), expression.WellFormed →
      check (form.enclose expression.toText) = .ok ()) ∧
    (∀ (expression : Expr) (name : String) (replacement : Expr), expression.WellFormed →
      replacement.WellFormed → (expression.substitute name replacement).WellFormed) ∧
    ∀ (template : Template) (options : AnalysisOptions), template.Formed →
      ∀ (id : NodeId) (written : Expr),
        (template.analyze options).2.escaped? id = some written →
        ∀ form : Form, check (form.enclose written.toText) = .ok () := by
  refine ⟨fun form expression formed => check_enclose_of_wellFormed form formed,
    fun expression name replacement formed => formed.substitute name, ?_⟩
  intro template options formed id written stored form
  exact check_enclose_of_wellFormed form ((formed.analyze options).stored id written stored)

theorem formed_doubleEscapeTemplate : Template.doubleEscapeTemplate.Formed where
  parts := by
    intro id escapable
    have listed : ∀ id < Template.doubleEscapeTemplate.tree.size,
        Template.doubleEscapeTemplate.tree.hasKind NodeKind.hasEscapedForm id = true →
          id = 1 ∨ id = 6 ∨ id = 10 := by decide +kernel
    rcases listed id (Tree.lt_size_of_hasKind escapable) escapable with rfl | rfl | rfl
    · have value : Template.doubleEscapeTemplate.tree.firstExpression 1 = .identifier "a" := by
        with_unfolding_all rfl
      rw [value]
      exact .identifier (by decide)
    · have value : Template.doubleEscapeTemplate.tree.firstExpression 6 = .identifier "y" := by
        with_unfolding_all rfl
      rw [value]
      exact .identifier (by decide)
    · have value : Template.doubleEscapeTemplate.tree.firstExpression 10 =
          .builtin (.identifier "x") "html" := by
        with_unfolding_all rfl
      rw [value]
      exact .builtin (.identifier (by decide)) (by decide)
  stored := by
    intro id form stored
    have fresh : Template.doubleEscapeTemplate.escaped = Array.replicate 12 none := by
      with_unfolding_all rfl
    rw [Template.escaped?, fresh] at stored
    have member := Array.mem_of_getElem? (Option.join_eq_some_iff.mp stored)
    cases Array.eq_of_mem_replicate member

/-- A default that needs parentheses, a raw string that holds a brace, and an
escaped form. -/
theorem check_enclose_signedDefault :
    let signed : Expr := .number ⟨true, 1, 0, by decide, by decide⟩
    let signedDefault : Expr := .negation (.binary .fallback (.identifier "x") signed)
    signedDefault.WellFormed ∧ signedDefault.toText = "!x!(-1)" ∧
      check (Form.plain.enclose signedDefault.toText) = .ok () ∧
      (signedDefault.substitute "x" (.text "\x7d" true)).WellFormed ∧
      ∃ written, (Template.doubleEscapeTemplate.analyze {}).2.escaped? 1 = some written ∧
        check (Form.numeric.enclose written.toText) = .ok () := by
  intro signed signedDefault
  have formed : signedDefault.WellFormed :=
    .negation (.binary .fallback (.identifier (by decide)) (.number _))
  have stored : (Template.doubleEscapeTemplate.analyze {}).2.escaped? 1 =
      some (.builtin (.identifier "a") "html") := by
    with_unfolding_all rfl
  exact ⟨formed, by decide, check_enclose_toText.1 .plain signedDefault formed,
    check_enclose_toText.2.1 signedDefault "x" (.text "\x7d" true) formed (.raw (by decide)),
    _, stored, check_enclose_toText.2.2 Template.doubleEscapeTemplate {}
      formed_doubleEscapeTemplate 1 _ stored .numeric⟩

end Interpolation

end TemplateLanguage
