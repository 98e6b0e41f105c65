import TemplateLanguage.Expr.Basic

/-!
# Substitutions one inside the other

`Expr.instantiate` replaces several variables at once, each by the first
expression bound to it.  Replacing a variable afterwards replaces it in what
was put in, and in what was left.

A list of layers, each a variable and an expression in it, is laid around a
value in two ways.  `Expr.nest` puts into each layer what the layers inside
make of the value, and touches nothing else.  `Expr.weave` also replaces, in
each layer, the variables of the layers inside, and so it is what one
substitution after the other from the outside in leads to.  The two agree
where no layer mentions a variable of a layer inside it.
-/

namespace TemplateLanguage.Expr

mutual

/-- Replace every bound variable by the first expression bound to it. -/
def instantiate (expression : Expr) (bindings : List (String × Expr)) : Expr :=
  match expression with
  | identifier name => (bindings.lookup name).getD (identifier name)
  | boolean value => boolean value
  | number value => number value
  | text value raw => text value raw
  | dot target key => dot (target.instantiate bindings) key
  | index target key => index (target.instantiate bindings) (key.instantiate bindings)
  | call target arguments =>
      call (target.instantiate bindings) (instantiateAll arguments bindings)
  | builtin target name => builtin (target.instantiate bindings) name
  | sequence items => sequence (instantiateAll items bindings)
  | parenthesized inner => parenthesized (inner.instantiate bindings)
  | negation inner => negation (inner.instantiate bindings)
  | binary operator left right =>
      binary operator (left.instantiate bindings) (right.instantiate bindings)
  | invalid => invalid

/-- Replace the bound variables in each of several expressions. -/
def instantiateAll (expressions : List Expr) (bindings : List (String × Expr)) : List Expr :=
  match expressions with
  | [] => []
  | expression :: rest => expression.instantiate bindings :: instantiateAll rest bindings

end

mutual

/-- The variables of an expression, with repetitions. -/
def identifiers (expression : Expr) : List String :=
  match expression with
  | identifier name => [name]
  | boolean _ | number _ | text _ _ | invalid => []
  | dot target _ | builtin target _ => target.identifiers
  | index target key => target.identifiers ++ key.identifiers
  | call target arguments => target.identifiers ++ identifiersAll arguments
  | sequence items => identifiersAll items
  | parenthesized inner | negation inner => inner.identifiers
  | binary _ left right => left.identifiers ++ right.identifiers

/-- The variables of several expressions. -/
def identifiersAll (expressions : List Expr) : List String :=
  match expressions with
  | [] => []
  | expression :: rest => expression.identifiers ++ identifiersAll rest

end

theorem instantiateAll_eq_map (expressions : List Expr) (bindings : List (String × Expr)) :
    instantiateAll expressions bindings =
      expressions.map fun expression => expression.instantiate bindings := by
  induction expressions with
  | nil => rfl
  | cons expression rest ih => rw [instantiateAll, ih, List.map_cons]

theorem identifiersAll_eq_flatMap (expressions : List Expr) :
    identifiersAll expressions = expressions.flatMap identifiers := by
  induction expressions with
  | nil => rfl
  | cons expression rest ih => rw [identifiersAll, ih, List.flatMap_cons]

/-! ## Bindings -/

/-- Only what is bound to the variables of an expression matters. -/
theorem instantiate_congr {expression : Expr} {bindings others : List (String × Expr)}
    (agree : ∀ name ∈ expression.identifiers, bindings.lookup name = others.lookup name) :
    expression.instantiate bindings = expression.instantiate others := by
  induction expression with
  | identifier name => rw [instantiate, instantiate, agree name (List.mem_singleton.mpr rfl)]
  | boolean value => rfl
  | number value => rfl
  | text value raw => rfl
  | dot target key ih => rw [instantiate, instantiate, ih agree]
  | index target key ihTarget ihKey =>
      rw [instantiate, instantiate,
        ihTarget fun name member => agree name (List.mem_append_left _ member),
        ihKey fun name member => agree name (List.mem_append_right _ member)]
  | call target arguments ihTarget ihArguments =>
      rw [identifiers, identifiersAll_eq_flatMap] at agree
      rw [instantiate, instantiate, instantiateAll_eq_map, instantiateAll_eq_map,
        ihTarget fun name member => agree name (List.mem_append_left _ member)]
      apply congrArg (call (target.instantiate others))
      apply List.map_congr_left
      intro argument present
      apply ihArguments argument present
      intro name member
      exact agree name (List.mem_append_right _ (List.mem_flatMap_of_mem present member))
  | builtin target name ih => rw [instantiate, instantiate, ih agree]
  | sequence items ih =>
      rw [identifiers, identifiersAll_eq_flatMap] at agree
      rw [instantiate, instantiate, instantiateAll_eq_map, instantiateAll_eq_map]
      apply congrArg sequence
      apply List.map_congr_left
      intro item present
      apply ih item present
      intro name member
      exact agree name (List.mem_flatMap_of_mem present member)
  | parenthesized inner ih => rw [instantiate, instantiate, ih agree]
  | negation inner ih => rw [instantiate, instantiate, ih agree]
  | binary operator left right ihLeft ihRight =>
      rw [instantiate, instantiate,
        ihLeft fun name member => agree name (List.mem_append_left _ member),
        ihRight fun name member => agree name (List.mem_append_right _ member)]
  | invalid => rfl

/-- A substitution binds one variable. -/
theorem instantiate_singleton (expression : Expr) (name : String) (replacement : Expr) :
    expression.instantiate [(name, replacement)] = expression.substitute name replacement := by
  induction expression with
  | identifier other =>
      rw [instantiate, substitute]
      by_cases same : other = name
      · rw [if_pos same, same, List.lookup_cons_self]
        rfl
      · rw [if_neg same, List.lookup_cons, beq_false_of_ne same]
        rfl
  | boolean value => rfl
  | number value => rfl
  | text value raw => rfl
  | dot target key ih => rw [instantiate, substitute, ih]
  | index target key ihTarget ihKey => rw [instantiate, substitute, ihTarget, ihKey]
  | call target arguments ihTarget ihArguments =>
      rw [instantiate, substitute, ihTarget, instantiateAll_eq_map, substituteAll_eq_map,
        List.map_congr_left ihArguments]
  | builtin target builtinName ih => rw [instantiate, substitute, ih]
  | sequence items ih =>
      rw [instantiate, substitute, instantiateAll_eq_map, substituteAll_eq_map,
        List.map_congr_left ih]
  | parenthesized inner ih => rw [instantiate, substitute, ih]
  | negation inner ih => rw [instantiate, substitute, ih]
  | binary operator left right ihLeft ihRight => rw [instantiate, substitute, ihLeft, ihRight]
  | invalid => rfl

/-- Bindings in which a variable is replaced. -/
def substituteIn (bindings : List (String × Expr)) (name : String) (replacement : Expr) :
    List (String × Expr) :=
  bindings.map fun binding => (binding.1, binding.2.substitute name replacement)

theorem lookup_substituteIn (bindings : List (String × Expr)) (name other : String)
    (replacement : Expr) :
    (substituteIn bindings name replacement).lookup other =
      (bindings.lookup other).map fun bound => bound.substitute name replacement := by
  induction bindings with
  | nil => rfl
  | cons binding rest ih =>
      rw [substituteIn, List.map_cons, List.lookup_cons, List.lookup_cons]
      cases other == binding.1 with
      | true => rfl
      | false => exact ih

/-- Replacing a variable after some others replaces it in what is bound to
them, and itself where none of them has the same name. -/
theorem substitute_instantiate (expression : Expr) (bindings : List (String × Expr))
    (name : String) (replacement : Expr) :
    (expression.instantiate bindings).substitute name replacement =
      expression.instantiate (substituteIn bindings name replacement ++ [(name, replacement)]) := by
  induction expression with
  | identifier other =>
      rw [instantiate, instantiate, List.lookup_append, lookup_substituteIn]
      cases bindings.lookup other with
      | some bound => rfl
      | none => exact (instantiate_singleton (identifier other) name replacement).symm
  | boolean value => rfl
  | number value => rfl
  | text value raw => rfl
  | dot target key ih => rw [instantiate, instantiate, substitute, ih]
  | index target key ihTarget ihKey => rw [instantiate, instantiate, substitute, ihTarget, ihKey]
  | call target arguments ihTarget ihArguments =>
      rw [instantiate, instantiate, substitute, ihTarget, instantiateAll_eq_map,
        instantiateAll_eq_map, substituteAll_eq_map, List.map_map]
      exact congrArg (call _) (List.map_congr_left ihArguments)
  | builtin target builtinName ih => rw [instantiate, instantiate, substitute, ih]
  | sequence items ih =>
      rw [instantiate, instantiate, substitute, instantiateAll_eq_map, instantiateAll_eq_map,
        substituteAll_eq_map, List.map_map]
      exact congrArg sequence (List.map_congr_left ih)
  | parenthesized inner ih => rw [instantiate, instantiate, substitute, ih]
  | negation inner ih => rw [instantiate, instantiate, substitute, ih]
  | binary operator left right ihLeft ihRight =>
      rw [instantiate, instantiate, substitute, ihLeft, ihRight]
  | invalid => rfl

/-! ## Layers -/

/-- A value inside layers, the outermost first: each layer with what the layers
inside make of the value in place of its variable. -/
def nest : List (String × Expr) → Expr → Expr
  | [], value => value
  | (name, layer) :: inside, value => layer.substitute name (nest inside value)

mutual

/-- A value inside layers, the outermost first, where each variable of a layer
is read in the scope of the layer. -/
def weave : List (String × Expr) → Expr → Expr
  | [], value => value
  | (name, layer) :: inside, value =>
      layer.instantiate ((name, weave inside value) :: scope inside value)

/-- What the variables of layers stand for around a value: what the layers
inside make of the value. -/
def scope : List (String × Expr) → Expr → List (String × Expr)
  | [], _ => []
  | (name, _) :: inside, value => (name, weave inside value) :: scope inside value

end

/-- No layer mentions the variable of a layer inside it, unless it is its own
variable too. -/
def Apart : List (String × Expr) → Prop
  | [] => True
  | (name, layer) :: inside =>
      (∀ other ∈ layer.identifiers, other ≠ name → other ∉ inside.map Prod.fst) ∧ Apart inside

theorem weave_cons (name : String) (layer : Expr) (inside : List (String × Expr))
    (value : Expr) :
    weave ((name, layer) :: inside) value =
      layer.instantiate (scope ((name, layer) :: inside) value) :=
  rfl

/-- A further layer around the value is put in place of the variable that it
replaces. -/
theorem weave_and_scope_append (outside : List (String × Expr)) (name : String)
    (layer value : Expr) :
    weave (outside ++ [(name, layer)]) value =
        (weave outside layer).substitute name value ∧
      scope (outside ++ [(name, layer)]) value =
        substituteIn (scope outside layer) name value ++ [(name, value)] := by
  induction outside with
  | nil => exact ⟨instantiate_singleton layer name value, rfl⟩
  | cons outermost rest ih =>
      obtain ⟨outerName, outerLayer⟩ := outermost
      have bindings : scope ((outerName, outerLayer) :: rest ++ [(name, layer)]) value =
          substituteIn (scope ((outerName, outerLayer) :: rest) layer) name value ++
            [(name, value)] := by
        rw [List.cons_append, scope, ih.1, ih.2]
        rfl
      refine ⟨?_, bindings⟩
      rw [weave_cons, substitute_instantiate, ← bindings]
      rfl

theorem weave_append_singleton (outside : List (String × Expr)) (name : String)
    (layer value : Expr) :
    weave (outside ++ [(name, layer)]) value = (weave outside layer).substitute name value :=
  (weave_and_scope_append outside name layer value).1

theorem map_fst_scope (layers : List (String × Expr)) (value : Expr) :
    (scope layers value).map Prod.fst = layers.map Prod.fst := by
  induction layers with
  | nil => rfl
  | cons layer inside ih => rw [scope, List.map_cons, List.map_cons, ih]

/-- A variable that no layer replaces stands for nothing. -/
theorem lookup_scope_eq_none {layers : List (String × Expr)} {name : String} {value : Expr}
    (unbound : name ∉ layers.map Prod.fst) : (scope layers value).lookup name = none := by
  rw [List.lookup_eq_none_iff]
  intro binding present
  apply bne_iff_ne.mpr
  rintro rfl
  rw [← map_fst_scope layers value] at unbound
  exact unbound (List.mem_map_of_mem present)

/-- Where the layers are apart, nothing but the variable of a layer is replaced
in it. -/
theorem weave_eq_nest {layers : List (String × Expr)} (apart : Apart layers) (value : Expr) :
    weave layers value = nest layers value := by
  induction layers with
  | nil => rfl
  | cons outermost inside ih =>
      obtain ⟨name, layer⟩ := outermost
      rw [weave, nest, ← ih apart.2, ← instantiate_singleton]
      apply instantiate_congr
      intro other mentioned
      rw [List.lookup_cons, List.lookup_cons]
      by_cases own : other = name
      · rw [own, beq_self_eq_true]
      · rw [beq_false_of_ne own]
        exact lookup_scope_eq_none (apart.1 other mentioned own)

end TemplateLanguage.Expr
