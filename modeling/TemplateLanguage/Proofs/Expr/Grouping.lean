import TemplateLanguage.Proofs.Expr.Reader

/-!
# The text of an expression keeps its grouping

The reader inverts the printer: from the text of a well-formed expression it
gives back the expression without its written parentheses.  So expressions with
equal texts are grouped alike, and the parentheses that the printer inserts are
enough.

An operand is read back inside any frames that leave it whole, before anything
that binds no more tightly than the operand does.  The printer asks for exactly
that: where an operand is too weak for its place, it stands in parentheses, and
inside of them every operand is whole.
-/

namespace TemplateLanguage

theorem Piece.group_true_append (pieces rest : List Piece) :
    group true pieces ++ rest =
      symbol .leftParen :: (pieces ++ symbol .rightParen :: rest) := by
  simp [group]

namespace Reader

variable {expression : Expr} {frames : List Frame} {rest : List Piece}

/-- An expression is read back from its pieces wherever they are whole. -/
def ReadsBack (expression : Expr) : Prop :=
  ∀ frames rest, demand frames ≤ expression.strength → nextLevel rest ≤ expression.strength →
    run (.operand frames) (expression.pieces ++ rest) =
      run (.complete expression.ungroup frames) rest

theorem run_cons {state following : State} {piece : Piece}
    (step : step? piece state = some following) :
    run state (piece :: rest) = run following rest := by
  rw [run, step]
  rfl

/-! ## Single pieces -/

theorem operand?_of_isLiteral {piece : Piece} (isLiteral : piece.token.isLiteral = true) :
    operand? frames piece = (literal? piece).map fun value => .complete value frames := by
  unfold operand?
  split
  · rename_i bang
    rw [bang] at isLiteral
    cases isLiteral
  · rename_i minus
    rw [minus] at isLiteral
    cases isLiteral
  · rename_i paren
    rw [paren] at isLiteral
    cases isLiteral
  · rename_i bracket
    rw [bracket] at isLiteral
    cases isLiteral
  · rfl

theorem literal?_ofPlaces (places : Nat) (text : List Char) :
    literal? ⟨Token.ofPlaces places, text⟩ = (Decimal.ofDigits? false text).map .number := by
  by_cases pointed : places = 0
  · rw [Token.ofPlaces, if_pos pointed]
    rfl
  · rw [Token.ofPlaces, if_neg pointed]
    rfl

theorem readsBack_of_literal? {piece : Piece} (single : expression.pieces = [piece])
    (isLiteral : piece.token.isLiteral = true)
    (literal : literal? piece = some expression.ungroup) : ReadsBack expression := by
  intro frames rest _ _
  have step : step? piece (.operand frames) = some (.complete expression.ungroup frames) := by
    rw [step?, operand?_of_isLiteral isLiteral, literal]
    rfl
  rw [single]
  exact run_cons step

theorem readsBack_identifier (name : String) : ReadsBack (.identifier name) := by
  apply readsBack_of_literal? rfl rfl
  rw [literal?, String.ofList_toList]
  rfl

theorem readsBack_boolean (value : Bool) : ReadsBack (.boolean value) := by
  cases value with
  | true => exact readsBack_of_literal? rfl rfl rfl
  | false => exact readsBack_of_literal? rfl rfl rfl

theorem readsBack_quoted (value : String) : ReadsBack (.text value false) := by
  apply readsBack_of_literal? rfl rfl
  have literal : literal? ⟨.string, Expr.renderString value.toList false⟩ =
      some (.text (String.ofList (Token.unquote (Expr.renderString value.toList false))) false) :=
    rfl
  rw [Token.unquote_renderString, String.ofList_toList] at literal
  exact literal

theorem readsBack_raw (value : String) : ReadsBack (.text value true) := by
  apply readsBack_of_literal? rfl rfl
  have literal : literal? ⟨.rawString, Expr.renderString value.toList true⟩ =
      some (.text (String.ofList (Token.unquoteRaw (Expr.renderString value.toList true))) true) :=
    rfl
  rw [Token.unquoteRaw_renderString, String.ofList_toList] at literal
  exact literal

/-- The minus sign of a number is read before its digits. -/
theorem readsBack_number (value : Decimal) : ReadsBack (.number value) := by
  have digits := value.ofDigits?_positional
  cases sign : value.negative with
  | false =>
      rw [sign] at digits
      have single : (Expr.number value).pieces =
          [⟨Token.ofPlaces value.scale, positional value.mantissa value.scale⟩] := by
        rw [Expr.pieces, sign]
        rfl
      apply readsBack_of_literal? single (Token.isLiteral_ofPlaces value.scale)
      rw [literal?_ofPlaces, digits]
      rfl
  | true =>
      rw [sign] at digits
      intro frames rest _ _
      rw [Expr.pieces, sign]
      apply (run_cons rfl).trans
      apply run_cons
      rw [step?, digits]
      rfl

/-! ## Operands -/

/-- Parentheses are read around whatever stands in them. -/
theorem ReadsBack.parentheses (readsBack : ReadsBack expression) (frames : List Frame)
    (rest : List Piece) :
    run (.operand frames) (Piece.group true expression.pieces ++ rest) =
      run (.complete expression.ungroup frames) rest := by
  calc
    run (.operand frames) (Piece.group true expression.pieces ++ rest) =
        run (.operand (.group :: frames))
          (expression.pieces ++ (Piece.symbol .rightParen :: rest)) := by
      rw [Piece.group_true_append]
      exact run_cons rfl
    _ = run (.complete expression.ungroup (.group :: frames))
          (Piece.symbol .rightParen :: rest) :=
      readsBack _ _ (Nat.zero_le _) (Nat.zero_le _)
    _ = run (.complete expression.ungroup frames) rest := run_cons rfl

/-- An operand is read back wherever an operand of some strength is whole, since
it stands in parentheses if it is weaker. -/
theorem ReadsBack.group (readsBack : ReadsBack expression) {strength : Nat}
    (demands : demand frames ≤ strength) (binds : nextLevel rest ≤ strength) :
    run (.operand frames)
        (Piece.group (expression.strength < strength) expression.pieces ++ rest) =
      run (.complete expression.ungroup frames) rest := by
  by_cases weak : expression.strength < strength
  · rw [decide_eq_true weak]
    exact readsBack.parentheses frames rest
  · rw [decide_eq_false weak]
    have strong := Nat.le_of_not_lt weak
    exact readsBack frames rest (Nat.le_trans demands strong) (Nat.le_trans binds strong)

/-- The target of a postfix operator is read back in every place. -/
theorem ReadsBack.follow (readsBack : ReadsBack expression) {token : Token} {following : State}
    (binds : level token = Expr.atomStrength)
    (follows : follow? expression.ungroup frames token = some following) :
    run (.operand frames)
        (Piece.group (expression.strength < Expr.atomStrength) expression.pieces ++
          Piece.symbol token :: rest) =
      run following rest := by
  have whole : nextLevel (Piece.symbol token :: rest) = Expr.atomStrength := binds
  rw [readsBack.group (demand_le_atomStrength frames) (Nat.le_of_eq whole)]
  apply run_cons
  rw [step?, show level (Piece.symbol token).token = Expr.atomStrength from binds,
    reduce_atomStrength]
  exact follows

/-! ## Lists -/

theorem nextLevel_piecesMore_append (items : List Expr) (list : Option Expr)
    (rest : List Piece) :
    nextLevel (Expr.piecesMore items ++ Piece.symbol (Frame.closing list) :: rest) = 0 := by
  cases items with
  | nil => cases list <;> rfl
  | cons item items => rfl

theorem Frame.startsOperand_closing (list : Option Expr) :
    (closing list).startsOperand = false := by
  cases list <;> rfl

/-- An item of a list is read up to what follows it there. -/
theorem ReadsBack.item (readsBack : ReadsBack expression) (items : List Expr)
    (list : Option Expr) (before : List Expr) :
    run (.operand (.items list before :: frames))
        (expression.pieces ++
          (Expr.piecesMore items ++ Piece.symbol (Frame.closing list) :: rest)) =
      run (.complete expression.ungroup (.items list before :: frames))
        (Expr.piecesMore items ++ Piece.symbol (Frame.closing list) :: rest) := by
  apply readsBack
  · exact Nat.zero_le _
  · rw [nextLevel_piecesMore_append]
    exact Nat.zero_le _

/-- The closing token of a list ends it after an item. -/
theorem run_closing (list : Option Expr) (before : List Expr) (value : Expr) :
    run (.complete value (.items list before :: frames))
        (Piece.symbol (Frame.closing list) :: rest) =
      run (.complete (Frame.collect list (before ++ [value])) frames) rest := by
  apply run_cons
  cases list <;> rfl

/-- The items after an item are read up to the end of the list. -/
theorem run_piecesMore {items : List Expr} (readsBack : ∀ item ∈ items, ReadsBack item)
    (list : Option Expr) (before : List Expr) (value : Expr) :
    run (.complete value (.items list before :: frames))
        (Expr.piecesMore items ++ Piece.symbol (Frame.closing list) :: rest) =
      run (.complete (Frame.collect list (before ++ value :: items.map Expr.ungroup)) frames)
        rest := by
  induction items generalizing before value with
  | nil => exact run_closing list before value
  | cons item items ih =>
      rw [List.forall_mem_cons] at readsBack
      calc
        run (.complete value (.items list before :: frames))
            (Expr.piecesMore (item :: items) ++ Piece.symbol (Frame.closing list) :: rest) =
            run (.operand (.items list (before ++ [value]) :: frames))
              (item.pieces ++ (Expr.piecesMore items ++
                Piece.symbol (Frame.closing list) :: rest)) := by
          rw [Expr.piecesMore, List.append_assoc]
          apply run_cons
          cases list <;> rfl
        _ = run (.complete item.ungroup (.items list (before ++ [value]) :: frames))
              (Expr.piecesMore items ++ Piece.symbol (Frame.closing list) :: rest) :=
          readsBack.1.item items list _
        _ = _ := by
          rw [ih readsBack.2, List.append_assoc]
          rfl

/-- A list is read from just after its opening token. -/
theorem run_piecesAll {items : List Expr} (readsBack : ∀ item ∈ items, ReadsBack item)
    (writes : ∀ item ∈ items, Writes item.render item.pieces) (list : Option Expr) :
    run (.first (.items list [] :: frames))
        (Expr.piecesAll items ++ Piece.symbol (Frame.closing list) :: rest) =
      run (.complete (Frame.collect list (Expr.ungroupAll items)) frames) rest := by
  rw [Expr.ungroupAll_eq_map]
  cases items with
  | nil =>
      apply run_cons
      cases list <;> rfl
  | cons item items =>
      rw [List.forall_mem_cons] at readsBack writes
      obtain ⟨first, others, pieces, operand⟩ := writes.1.starts
      have filled : closeEmpty? first.token (.items list [] :: frames) = none := by
        apply if_neg
        intro closes
        rw [closes, Frame.startsOperand_closing] at operand
        cases operand
      calc
        run (.first (.items list [] :: frames))
            (Expr.piecesAll (item :: items) ++ Piece.symbol (Frame.closing list) :: rest) =
            run (.operand (.items list [] :: frames))
              (item.pieces ++ (Expr.piecesMore items ++
                Piece.symbol (Frame.closing list) :: rest)) := by
          rw [Expr.piecesAll, List.append_assoc, pieces, List.cons_append, run, run, step?, step?,
            filled]
        _ = run (.complete item.ungroup (.items list [] :: frames))
              (Expr.piecesMore items ++ Piece.symbol (Frame.closing list) :: rest) :=
          readsBack.1.item items list _
        _ = _ := run_piecesMore readsBack.2 list [] item.ungroup

/-! ## Expressions -/

theorem readsBack_access {target : Expr} (readsBack : ReadsBack target) (name : String)
    (after : Interpolation.Access) : ReadsBack (access target name after) := by
  have pieces : (access target name after).pieces =
      Piece.group (target.strength < Expr.atomStrength) target.pieces ++
        [Piece.symbol (accessToken after), ⟨.name, name.toList⟩] := by
    cases after <;> rfl
  have ungrouped : (access target name after).ungroup = access target.ungroup name after := by
    cases after <;> rfl
  intro frames rest _ _
  calc
    run (.operand frames) ((access target name after).pieces ++ rest) =
        run (.name after target.ungroup frames) (⟨.name, name.toList⟩ :: rest) := by
      rw [pieces, List.append_assoc]
      cases after with
      | key => exact readsBack.follow rfl rfl
      | builtin => exact readsBack.follow rfl rfl
    _ = run (.complete (access target name after).ungroup frames) rest := by
      apply run_cons
      rw [step?, String.ofList_toList, ungrouped]

theorem readsBack_index {target key : Expr} (readsBack : ReadsBack target)
    (readsBackKey : ReadsBack key) : ReadsBack (.index target key) := by
  intro frames rest _ _
  calc
    run (.operand frames) ((Expr.index target key).pieces ++ rest) =
        run (.operand (.key target.ungroup :: frames))
          (key.pieces ++ Piece.symbol .rightBracket :: rest) := by
      rw [Expr.pieces, List.append_assoc, List.append_assoc]
      exact readsBack.follow rfl rfl
    _ = run (.complete key.ungroup (.key target.ungroup :: frames))
          (Piece.symbol .rightBracket :: rest) :=
      readsBackKey _ _ (Nat.zero_le _) (Nat.zero_le _)
    _ = run (.complete (Expr.index target key).ungroup frames) rest := run_cons rfl

theorem readsBack_call {target : Expr} {arguments : List Expr} (readsBack : ReadsBack target)
    (readsBackArguments : ∀ argument ∈ arguments, ReadsBack argument)
    (writes : ∀ argument ∈ arguments, Writes argument.render argument.pieces) :
    ReadsBack (.call target arguments) := by
  intro frames rest _ _
  calc
    run (.operand frames) ((Expr.call target arguments).pieces ++ rest) =
        run (.first (.items (some target.ungroup) [] :: frames))
          (Expr.piecesAll arguments ++ Piece.symbol .rightParen :: rest) := by
      rw [Expr.pieces, List.append_assoc, List.append_assoc]
      exact readsBack.follow rfl rfl
    _ = run (.complete (Expr.call target arguments).ungroup frames) rest :=
      run_piecesAll readsBackArguments writes (some target.ungroup)

theorem readsBack_sequence {items : List Expr} (readsBack : ∀ item ∈ items, ReadsBack item)
    (writes : ∀ item ∈ items, Writes item.render item.pieces) :
    ReadsBack (.sequence items) := by
  intro frames rest _ _
  calc
    run (.operand frames) ((Expr.sequence items).pieces ++ rest) =
        run (.first (.items none [] :: frames))
          (Expr.piecesAll items ++ Piece.symbol .rightBracket :: rest) := by
      rw [Expr.pieces, List.append_assoc]
      exact run_cons rfl
    _ = run (.complete (Expr.sequence items).ungroup frames) rest :=
      run_piecesAll readsBack writes none

/-- A negation is complete before everything that binds no more tightly. -/
theorem readsBack_negation {inner : Expr} (readsBack : ReadsBack inner) :
    ReadsBack (.negation inner) := by
  intro frames rest _ binds
  have completes : Frame.negation.complete? (nextLevel rest) inner.ungroup =
      some (.negation inner.ungroup) := if_pos binds
  calc
    run (.operand frames) ((Expr.negation inner).pieces ++ rest) =
        run (.operand (.negation :: frames))
          (Piece.group (inner.strength < Operator.prefixStrength) inner.pieces ++ rest) := by
      rw [Expr.pieces]
      exact run_cons rfl
    _ = run (.complete inner.ungroup (.negation :: frames)) rest :=
      readsBack.group (Nat.le_refl _) binds
    _ = run (.complete (Expr.negation inner).ungroup frames) rest := run_complete_cons completes

theorem level_token (operator : Operator) : level operator.token = operator.strength := by
  cases operator <;> rfl

theorem follow?_token (operator : Operator) (value : Expr) (frames : List Frame) :
    follow? value frames operator.token = some (.operand (.left operator value :: frames)) := by
  cases operator <;> rfl

/-- The left operand is complete when its operator comes, which leaves the whole
operation to the frames around it; the right operand is complete when the
operation is. -/
theorem readsBack_binary {left right : Expr} (operator : Operator) (readsBackLeft : ReadsBack left)
    (readsBackRight : ReadsBack right) : ReadsBack (.binary operator left right) := by
  intro frames rest demands binds
  -- the left operand is no weaker than the operation, so frames that leave the
  -- operation whole leave the operand whole too
  have looser := operator.strength_le_leftStrength
  have operatorBinds : nextLevel (Piece.symbol operator.token ::
      (Piece.group (right.strength < operator.strength + 1) right.pieces ++ rest)) ≤
      operator.leftStrength := Nat.le_trans (Nat.le_of_eq (level_token operator)) looser
  have completes : (Frame.left operator left.ungroup).complete? (nextLevel rest) right.ungroup =
      some (.binary operator left.ungroup right.ungroup) := if_pos binds
  calc
    run (.operand frames) ((Expr.binary operator left right).pieces ++ rest) =
        run (.complete left.ungroup frames)
          (Piece.symbol operator.token ::
            (Piece.group (right.strength < operator.strength + 1) right.pieces ++ rest)) := by
      rw [Expr.pieces, List.append_assoc]
      exact readsBackLeft.group (Nat.le_trans demands looser) operatorBinds
    _ = run (.operand (.left operator left.ungroup :: frames))
          (Piece.group (right.strength < operator.strength + 1) right.pieces ++ rest) := by
      apply run_cons
      rw [step?, show level (Piece.symbol operator.token).token = operator.strength from
        level_token operator, reduce_strength demands]
      exact follow?_token operator left.ungroup frames
    _ = run (.complete right.ungroup (.left operator left.ungroup :: frames)) rest :=
      readsBackRight.group (Nat.le_refl _) (Nat.le_succ_of_le binds)
    _ = run (.complete (Expr.binary operator left right).ungroup frames) rest :=
      run_complete_cons completes

/-- Reading inverts printing on pieces. -/
theorem readsBack_of_wellFormed {expression : Expr} (formed : expression.WellFormed) :
    ReadsBack expression := by
  induction formed with
  | identifier _ => exact readsBack_identifier _
  | boolean value => exact readsBack_boolean value
  | number value => exact readsBack_number value
  | quoted value => exact readsBack_quoted value
  | raw _ => exact readsBack_raw _
  | dot _ _ ih => exact readsBack_access ih _ .key
  | index _ _ ihTarget ihKey => exact readsBack_index ihTarget ihKey
  | call _ formed ihTarget ihArguments =>
      exact readsBack_call ihTarget ihArguments fun argument member =>
        (formed argument member).writes
  | builtin _ _ ih => exact readsBack_access ih _ .builtin
  | sequence formed ih =>
      exact readsBack_sequence ih fun item member => (formed item member).writes
  | parenthesized _ ih => exact fun frames rest _ _ => ih.parentheses frames rest
  | negation _ ih => exact readsBack_negation ih
  | binary operator _ _ ihLeft ihRight => exact readsBack_binary operator ihLeft ihRight

/-- From the text of a well-formed expression the expression is read, without
its written parentheses. -/
theorem read?_toText {expression : Expr} (formed : expression.WellFormed) :
    read? expression.toText = some expression.ungroup := by
  have yields := formed.writes.spells [] rfl
  rw [List.append_nil] at yields
  obtain ⟨ended, pieces⟩ := yields.lexemes 0
  have whole := readsBack_of_wellFormed formed [] [] (Nat.zero_le _) (Nat.zero_le _)
  rw [List.append_nil] at whole
  rw [read?, Expr.toText, String.toList_ofList]
  generalize Lexer.lexemes 0 expression.render = result at ended pieces ⊢
  obtain ⟨lexemes, stuck⟩ := result
  cases ended
  rw [← pieces] at whole
  exact whole

end Reader

namespace Expr

/-- Well-formed expressions with equal texts are equal without their written
parentheses, so the parentheses that the printer inserts keep the grouping of
every expression. -/
theorem ungroup_eq_of_toText_eq {first second : Expr} (firstFormed : first.WellFormed)
    (secondFormed : second.WellFormed) (same : first.toText = second.toText) :
    first.ungroup = second.ungroup := by
  have read := Reader.read?_toText firstFormed
  rw [same, Reader.read?_toText secondFormed] at read
  exact (Option.some.inj read).symm

/-- Parentheses that were written read like those that the printer inserts. -/
theorem ungroup_eq_of_toText_eq_difference :
    let difference := binary .subtract (identifier "b") (number ⟨true, 1, 0, by decide, by decide⟩)
    let inserted := binary .subtract (identifier "a") difference
    let written := binary .subtract (identifier "a") (parenthesized difference)
    inserted.WellFormed ∧ written.WellFormed ∧ inserted.toText = "a - (b - -1)" ∧
      inserted.toText = written.toText ∧ inserted.ungroup = written.ungroup := by
  intro difference inserted written
  have formed : difference.WellFormed :=
    .binary .subtract (.identifier (by decide)) (.number _)
  have insertedFormed : inserted.WellFormed :=
    .binary .subtract (.identifier (by decide)) formed
  have writtenFormed : written.WellFormed :=
    .binary .subtract (.identifier (by decide)) (.parenthesized formed)
  have same : inserted.toText = written.toText := by decide
  exact ⟨insertedFormed, writtenFormed, by decide, same,
    ungroup_eq_of_toText_eq insertedFormed writtenFormed same⟩

end Expr

end TemplateLanguage
