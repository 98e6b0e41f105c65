import TemplateLanguage.Proofs.Expr.Planting
import TemplateLanguage.Proofs.Expr.Substitution

/-!
# Places in an expression

A place in an expression is the way down to it, operand by operand.  A substitution changes an
expression only at the places of the variable that it replaces: what stands anywhere else keeps its
kind, and with it its key, its built-in or its operator, and its operands are those from before with
the variable replaced in them.

So the variables of the result are known from those of the two expressions, a variable that does not
occur can be replaced by anything, and two substitutions can change places as soon as the variable
of the first one does not occur in what the second one puts in.
-/

namespace TemplateLanguage.Expr

/-- What stands at a place of an expression: at the end of a way that names an operand at each
step. -/
def at? (expression : Expr) : List Nat → Option Expr
  | [] => some expression
  | position :: place => expression.operands[position]?.bind fun operand => operand.at? place

/-- A variable stands at some place.  A key and the name of a built-in stand at none. -/
def Occurs (name : String) (expression : Expr) : Prop :=
  ∃ place, expression.at? place = some (identifier name)

/-! ## Expressions by kind and operands -/

theorem eq_of_kind?_of_operands {expression other : Expr}
    (kinds : expression.kind? = other.kind?) (same : expression.operands = other.operands) :
    expression = other := by
  cases isKind : other.kind? with
  | some kind =>
      rw [isKind] at kinds
      calc expression
          = kind.assemble expression.operands := (assemble_operands kinds).symm
        _ = kind.assemble other.operands := by rw [same]
        _ = other := assemble_operands isKind
  | none =>
      rw [isKind] at kinds
      cases expression <;> cases kinds
      cases other <;> cases isKind
      rfl

/-- What holds of all variables, and of every other expression whenever it holds of its operands,
holds of all expressions. -/
theorem variables_induction {motive : Expr → Prop}
    (identifier : ∀ name, motive (identifier name))
    (compound : ∀ expression, (∀ name, expression ≠ .identifier name) →
      (∀ operand ∈ expression.operands, motive operand) → motive expression)
    (expression : Expr) : motive expression := by
  induction expression using operands_induction with
  | step expression ih =>
      by_cases isVariable : ∃ name, expression = .identifier name
      · obtain ⟨name, rfl⟩ := isVariable
        exact identifier name
      · exact compound expression (not_exists.mp isVariable) ih

/-- The variables of an expression that is no variable are those of its operands. -/
theorem identifiers_eq_flatMap_operands {expression : Expr}
    (compound : ∀ name, expression ≠ identifier name) :
    expression.identifiers = expression.operands.flatMap identifiers := by
  cases expression with
  | identifier name => exact absurd rfl (compound name)
  | _ => simp [identifiers, operands, identifiersAll_eq_flatMap]

theorem mem_identifiers_iff_occurs {name : String} {expression : Expr} :
    name ∈ expression.identifiers ↔ Occurs name expression := by
  induction expression using variables_induction with
  | identifier other =>
      rw [identifiers, List.mem_singleton]
      constructor
      · rintro rfl
        exact ⟨[], rfl⟩
      · rintro ⟨place, stands⟩
        cases place with
        | nil =>
            cases stands
            rfl
        | cons => cases stands
  | compound expression compound ih =>
      rw [identifiers_eq_flatMap_operands compound, List.mem_flatMap]
      constructor
      · rintro ⟨operand, member, occurs⟩
        obtain ⟨place, stands⟩ := (ih operand member).mp occurs
        obtain ⟨position, found⟩ := List.mem_iff_getElem?.mp member
        exact ⟨position :: place, Option.bind_eq_some_iff.mpr ⟨operand, found, stands⟩⟩
      · rintro ⟨place, stands⟩
        cases place with
        | nil => exact (compound name (Option.some.inj stands)).elim
        | cons position place =>
            obtain ⟨operand, found, stands⟩ := Option.bind_eq_some_iff.mp stands
            have member := List.mem_of_getElem? found
            exact ⟨operand, member, (ih operand member).mpr ⟨place, stands⟩⟩

section

variable {expression : Expr} {bindings : List (String × Expr)}

/-- Nothing but a variable is given another kind. -/
theorem kind?_instantiate (compound : ∀ name, expression ≠ identifier name) :
    (expression.instantiate bindings).kind? = expression.kind? := by
  cases expression with
  | identifier name => exact absurd rfl (compound name)
  | _ => rfl

theorem operands_instantiate (compound : ∀ name, expression ≠ identifier name) :
    (expression.instantiate bindings).operands =
      expression.operands.map fun operand => operand.instantiate bindings := by
  cases expression with
  | identifier name => exact absurd rfl (compound name)
  | _ => simp [instantiate, operands, instantiateAll_eq_map]

theorem instantiate_ne_identifier (compound : ∀ name, expression ≠ identifier name)
    (name : String) : expression.instantiate bindings ≠ identifier name := by
  intro isVariable
  have kinds : (expression.instantiate bindings).kind? = expression.kind? :=
    kind?_instantiate compound
  rw [isVariable] at kinds
  cases expression <;> cases kinds
  exact compound _ rfl

/-- The variables of the result are those of what is bound to the variables, in their order. -/
theorem identifiers_instantiate (expression : Expr) (bindings : List (String × Expr)) :
    (expression.instantiate bindings).identifiers =
      expression.identifiers.flatMap fun name =>
        ((identifier name).instantiate bindings).identifiers := by
  induction expression using variables_induction with
  | identifier name => rw [identifiers, List.flatMap_singleton]
  | compound expression compound ih =>
      rw [identifiers_eq_flatMap_operands (instantiate_ne_identifier compound),
        operands_instantiate compound, identifiers_eq_flatMap_operands compound,
        List.flatMap_map, List.flatMap_assoc, List.flatMap_congr ih]

/-- Nothing is replaced where every variable is bound to itself or not at all. -/
theorem instantiate_eq_self
    (same : ∀ name ∈ expression.identifiers,
      (identifier name).instantiate bindings = identifier name) :
    expression.instantiate bindings = expression := by
  induction expression using variables_induction with
  | identifier name => exact same name (List.mem_singleton.mpr rfl)
  | compound expression compound ih =>
      rw [identifiers_eq_flatMap_operands compound] at same
      apply eq_of_kind?_of_operands (kind?_instantiate compound)
      have kept : ∀ operand ∈ expression.operands,
          operand.instantiate bindings = id operand := by
        intro operand member
        apply ih operand member
        intro name occurs
        exact same name (List.mem_flatMap_of_mem member occurs)
      rw [operands_instantiate compound, List.map_congr_left kept, List.map_id]

end

/-! ## Substitutions -/

section

variable {expression replacement : Expr} {name : String}

theorem substitute_identifier_self (name : String) (replacement : Expr) :
    (identifier name).substitute name replacement = replacement := by
  rw [substitute, if_pos rfl]

theorem substitute_identifier_of_ne {other : String} (different : other ≠ name) :
    (identifier other).substitute name replacement = identifier other := by
  rw [substitute, if_neg different]

/-- Where a variable does not occur, it can be replaced by anything. -/
theorem substitute_of_not_mem_identifiers (absent : name ∉ expression.identifiers)
    (replacement : Expr) : expression.substitute name replacement = expression := by
  rw [← instantiate_singleton]
  apply instantiate_eq_self
  intro other occurs
  rw [instantiate_singleton]
  exact substitute_identifier_of_ne fun same => absent (same ▸ occurs)

/-- A variable stands for itself. -/
theorem substitute_self (expression : Expr) (name : String) :
    expression.substitute name (identifier name) = expression := by
  rw [← instantiate_singleton]
  apply instantiate_eq_self
  intro other _
  rw [instantiate_singleton]
  by_cases same : other = name
  · rw [same, substitute_identifier_self]
  · exact substitute_identifier_of_ne same

/-- The variables of the result are those that are left and those that are put in. -/
theorem mem_identifiers_substitute {other : String} :
    other ∈ (expression.substitute name replacement).identifiers ↔
      other ∈ expression.identifiers ∧ other ≠ name ∨
        name ∈ expression.identifiers ∧ other ∈ replacement.identifiers := by
  rw [← instantiate_singleton, identifiers_instantiate, List.mem_flatMap]
  simp only [instantiate_singleton]
  constructor
  · rintro ⟨occurring, occurs, left⟩
    by_cases same : occurring = name
    · rw [same, substitute_identifier_self] at left
      exact Or.inr ⟨same ▸ occurs, left⟩
    · rw [substitute_identifier_of_ne same, identifiers, List.mem_singleton] at left
      exact Or.inl ⟨left ▸ occurs, left ▸ same⟩
  · rintro (⟨occurs, different⟩ | ⟨occurs, putIn⟩)
    · refine ⟨other, occurs, ?_⟩
      rw [substitute_identifier_of_ne different]
      exact List.mem_singleton.mpr rfl
    · refine ⟨name, occurs, ?_⟩
      rw [substitute_identifier_self]
      exact putIn

/-- Two substitutions change places where the variable of the first one does not occur in what the
second one puts in, which is then put into the first replacement too. -/
theorem substitute_substitute {other : String} {value : Expr} (different : name ≠ other)
    (absent : name ∉ value.identifiers) :
    (expression.substitute name replacement).substitute other value =
      (expression.substitute other value).substitute name (replacement.substitute other value) := by
  have first : (expression.substitute name replacement).substitute other value =
      expression.instantiate [(name, replacement.substitute other value), (other, value)] := by
    rw [← instantiate_singleton expression, substitute_instantiate]
    rfl
  have second : (expression.substitute other value).substitute name
        (replacement.substitute other value) =
      expression.instantiate [(other, value), (name, replacement.substitute other value)] := by
    rw [← instantiate_singleton expression, substitute_instantiate, substituteIn,
      List.map_singleton, substitute_of_not_mem_identifiers absent]
    rfl
  rw [first, second]
  apply instantiate_congr
  intro occurring _
  -- the two variables are different, so that the order of the bindings does not matter
  by_cases isFirst : occurring = name
  · have noSecond := beq_false_of_ne different
    simp only [isFirst, List.lookup_cons, beq_self_eq_true, noSecond]
  · have noFirst := beq_false_of_ne isFirst
    simp only [List.lookup_cons, noFirst, List.lookup_nil]

/-- At every place stands what stood there before, with the variable replaced in it. -/
theorem at?_substitute {place : List Nat} {part : Expr}
    (stands : expression.at? place = some part) :
    (expression.substitute name replacement).at? place =
      some (part.substitute name replacement) := by
  induction place generalizing expression with
  | nil =>
      cases stands
      rfl
  | cons position place ih =>
      obtain ⟨operand, found, stands⟩ := Option.bind_eq_some_iff.mp stands
      have compound : ∀ other, expression ≠ identifier other := by
        rintro other rfl
        cases found
      rw [← instantiate_singleton, at?, operands_instantiate compound, List.getElem?_map, found,
        Option.map_some, Option.bind_some, instantiate_singleton]
      exact ih stands

theorem kind?_substitute (different : expression ≠ identifier name) :
    (expression.substitute name replacement).kind? = expression.kind? := by
  cases expression with
  | identifier other =>
      rw [substitute_identifier_of_ne fun same => different (congrArg identifier same)]
  | _ => rfl

end

/-- The laws of substitution.  Two substitutions change places where the variable of the first one
does not occur in what the second one puts in.  To put in the variable itself changes nothing, and
neither does replacing a variable that does not occur.  What occurs afterwards is what is left and
what is put in.  At every place stands what stood there before with the variable replaced in it,
and it keeps its kind, so also its key or its built-in, unless it is that variable. -/
theorem substitute_comm_and_at?_substitute (expression replacement value : Expr)
    (name other : String) :
    (name ≠ other → ¬Occurs name value →
        (expression.substitute name replacement).substitute other value =
          (expression.substitute other value).substitute name
            (replacement.substitute other value)) ∧
      expression.substitute name (identifier name) = expression ∧
      (¬Occurs name expression → expression.substitute name replacement = expression) ∧
      (∀ occurring, Occurs occurring (expression.substitute name replacement) ↔
        Occurs occurring expression ∧ occurring ≠ name ∨
          Occurs name expression ∧ Occurs occurring replacement) ∧
      ∀ place part, expression.at? place = some part →
        (expression.substitute name replacement).at? place =
            some (part.substitute name replacement) ∧
          (part ≠ identifier name → (part.substitute name replacement).kind? = part.kind?) := by
  simp only [← mem_identifiers_iff_occurs]
  refine ⟨substitute_substitute, substitute_self expression name, ?_, ?_, ?_⟩
  · exact fun absent => substitute_of_not_mem_identifiers absent replacement
  · exact fun _ => mem_identifiers_substitute
  · exact fun _ _ stands => ⟨at?_substitute stands, kind?_substitute⟩

/-- In `html?html.html` the variable is replaced, first by `y` and then by `z`, and the built-in and
the key of the same name stay. -/
theorem substitute_comm_and_at?_substitute_html :
    "html" ≠ "y" ∧ ¬Occurs "html" (identifier "z") ∧
      (dot (builtin (identifier "html") "html") "html").at? [0] =
        some (builtin (identifier "html") "html") ∧
      (((dot (builtin (identifier "html") "html") "html").substitute "y"
        (identifier "z")).substitute "html" ((identifier "y").substitute "y" (identifier "z"))) =
          dot (builtin (identifier "z") "html") "html" ∧
      ((builtin (identifier "html") "html").substitute "html" (identifier "y")).kind? =
        some (.builtin "html") := by
  have different : "html" ≠ "y" := by decide
  have absent : ¬Occurs "html" (identifier "z") := by
    rw [← mem_identifiers_iff_occurs]
    simp [identifiers]
  have stands : (dot (builtin (identifier "html") "html") "html").at? [0] =
      some (builtin (identifier "html") "html") := rfl
  obtain ⟨exchange, _, _, _, places⟩ := substitute_comm_and_at?_substitute
    (dot (builtin (identifier "html") "html") "html") (identifier "y") (identifier "z") "html" "y"
  refine ⟨different, absent, stands, (exchange different absent).symm, ?_⟩
  exact (places [0] _ stands).2 (by simp)

end TemplateLanguage.Expr
