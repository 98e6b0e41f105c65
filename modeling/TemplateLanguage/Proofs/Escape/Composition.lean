import TemplateLanguage.Proofs.Escape.Lexical
import TemplateLanguage.Proofs.Expr.Substitution

/-!
# Composition of nested escapes

The escapes around an interpolation are layers around its expression, each
with its parameter and its escape expression.  What an analysis stores is the
expression woven into the layers: a variable of an escape expression is read
from its own block inward.  So the escapes compose from the inside out as long
as no escape expression mentions the parameter of a block further in.
-/

namespace TemplateLanguage

namespace Tree

/-- The escape blocks in effect at a node, the innermost first: the block that
is active at the node, the one that is active at that block, and so on. -/
def escapesAround (tree : Tree) (id : NodeId) : List NodeId :=
  match _active : tree.activeEscape? id with
  | none => []
  | some block => block :: tree.escapesAround block
termination_by tree.size - id
decreasing_by exact size_sub_lt_of_activeEscape? _active

/-- The parameters and the escape expressions of the blocks in effect at a node,
the outermost first. -/
def escapeLayers (tree : Tree) (id : NodeId) : List (String × Expr) :=
  (tree.escapesAround id).reverse.map fun block =>
    (tree.escapeParameter block, tree.firstExpression block)

variable {tree : Tree} {id : NodeId}

theorem escapeLayers_of_activeEscape?_eq_none (inactive : tree.activeEscape? id = none) :
    tree.escapeLayers id = [] := by
  rw [escapeLayers, escapesAround]
  split
  · rfl
  · rename_i active
    rw [inactive] at active
    cases active

theorem escapeLayers_of_activeEscape?_eq_some {block : NodeId}
    (active : tree.activeEscape? id = some block) :
    tree.escapeLayers id =
      tree.escapeLayers block ++ [(tree.escapeParameter block, tree.firstExpression block)] := by
  rw [escapeLayers, escapesAround]
  split
  · rename_i inactive
    rw [active] at inactive
    cases inactive
  · rename_i other found
    rw [active] at found
    cases found
    rw [List.reverse_cons, List.map_append]
    rfl

/-- The escaped form of a node is its expression woven into the escapes around
the node. -/
theorem escapedForm_eq_weave (id : NodeId) :
    tree.escapedForm id = Expr.weave (tree.escapeLayers id) (tree.firstExpression id) := by
  fun_induction tree.escapedForm id with
  | case1 id inactive =>
      rw [escapeLayers_of_activeEscape?_eq_none inactive]
      rfl
  | case2 id block active ih =>
      rw [escapeLayers_of_activeEscape?_eq_some active, Expr.weave_append_singleton, ih]

end Tree

namespace Template

/-- Nested escapes compose from the inside out, with each variable of an escape
expression read from its own block inward.  Where no escape expression mentions
the parameter of a block further in, the expression goes through the innermost
escape first, and its result through the one around it. -/
theorem escaped?_analyze_eq_weave (template : Template) (options : AnalysisOptions)
    (topmost : template.tree.parent? template.root = none) {id : NodeId}
    (reached : template.tree.Reaches (Survey.descends template.tree) template.root id)
    (interpolation : template.tree.kind? id = some .interpolation) :
    (template.analyze options).2.escaped? id =
        some (Expr.weave (template.tree.escapeLayers id) (template.tree.firstExpression id)) ∧
      (Expr.Apart (template.tree.escapeLayers id) →
        (template.analyze options).2.escaped? id =
          some (Expr.nest (template.tree.escapeLayers id)
            (template.tree.firstExpression id))) := by
  have stored : (template.analyze options).2.escaped? id =
      some (Expr.weave (template.tree.escapeLayers id) (template.tree.firstExpression id)) := by
    rw [← Tree.escapedForm_eq_weave]
    exact escaped?_analyze_eq_escapedForm options topmost reached
      (Tree.hasKind_hasEscapedForm_iff.mpr (Or.inl interpolation))
  refine ⟨stored, fun apart => ?_⟩
  rw [stored, Expr.weave_eq_nest apart]

/-- An escape block with a given escape expression and the parameter `x`, around
one that writes its parameter `y` in upper case, around an interpolation. -/
def twoEscapes (outerForm : Build NodeId) : Build Template := do
  let outerForm ← outerForm
  let target ← Build.node (.expression (.identifier "y")) []
  let innerForm ← Build.node (.builtin "upper_case") [target]
  let value ← Build.node (.expression (.identifier "v")) []
  let written ← Build.node .interpolation [value]
  let inner ← Build.withBody (.escapeBlock "y") [innerForm] [written]
  let outer ← Build.withBody (.escapeBlock "x") [outerForm] [inner]
  Build.finish [outer]

/-- The outer escape expression is a built-in of its own parameter. -/
def apartTemplate : Template :=
  (twoEscapes (do
    let target ← Build.node (.expression (.identifier "x")) []
    Build.node (.builtin "html") [target]) (.new "apart")).get (by decide) |>.1

/-- The value is written in upper case first, and the result is escaped. -/
theorem escaped?_analyze_apartTemplate :
    apartTemplate.tree.parent? apartTemplate.root = none ∧
      apartTemplate.tree.kind? 5 = some .interpolation ∧
      (apartTemplate.analyze {}).2.escaped? 5 =
        some (.builtin (.builtin (.identifier "v") "upper_case") "html") := by
  have topmost : apartTemplate.tree.parent? apartTemplate.root = none := by decide
  have interpolation : apartTemplate.tree.kind? 5 = some .interpolation := by decide
  have preorder : apartTemplate.tree.preorder (Survey.descends apartTemplate.tree)
      apartTemplate.root = [10, 9, 1, 0, 8, 7, 3, 2, 6, 5, 4] := by decide +kernel
  have reached : apartTemplate.tree.Reaches (Survey.descends apartTemplate.tree)
      apartTemplate.root 5 := by
    rw [Tree.reaches_iff_mem_preorder, preorder]
    decide
  have value : apartTemplate.tree.firstExpression 5 = .identifier "v" := by
    with_unfolding_all rfl
  have layers : apartTemplate.tree.escapeLayers 5 =
      [("x", .builtin (.identifier "x") "html"),
        ("y", .builtin (.identifier "y") "upper_case")] := by
    with_unfolding_all rfl
  have apart : Expr.Apart (apartTemplate.tree.escapeLayers 5) := by
    rw [layers]
    simp [Expr.Apart, Expr.identifiers]
  have stored := (escaped?_analyze_eq_weave apartTemplate {} topmost reached interpolation).2 apart
  rw [layers, value] at stored
  exact ⟨topmost, interpolation, stored⟩

/-- The outer escape expression adds the parameter of the inner block. -/
def capturingTemplate : Template :=
  (twoEscapes (do
    let left ← Build.node (.expression (.identifier "x")) []
    let right ← Build.node (.expression (.identifier "y")) []
    Build.node (.expression (.binary .add)) [left, right]) (.new "capturing")).get (by decide) |>.1

/-- A variable of the outer escape expression that is the parameter of the inner
block is replaced by the value, so the escapes do not compose from the inside
out. -/
theorem escaped?_analyze_ne_nest :
    capturingTemplate.tree.parent? capturingTemplate.root = none ∧
      capturingTemplate.tree.Reaches (Survey.descends capturingTemplate.tree)
        capturingTemplate.root 6 ∧
      capturingTemplate.tree.kind? 6 = some .interpolation ∧
      (capturingTemplate.analyze {}).2.escaped? 6 =
        some (.binary .add (.builtin (.identifier "v") "upper_case") (.identifier "v")) ∧
      (capturingTemplate.analyze {}).2.escaped? 6 ≠
        some (Expr.nest (capturingTemplate.tree.escapeLayers 6)
          (capturingTemplate.tree.firstExpression 6)) := by
  have topmost : capturingTemplate.tree.parent? capturingTemplate.root = none := by decide
  have preorder : capturingTemplate.tree.preorder (Survey.descends capturingTemplate.tree)
      capturingTemplate.root = [11, 10, 2, 0, 1, 9, 8, 4, 3, 7, 6, 5] := by decide +kernel
  have reached : capturingTemplate.tree.Reaches (Survey.descends capturingTemplate.tree)
      capturingTemplate.root 6 := by
    rw [Tree.reaches_iff_mem_preorder, preorder]
    decide
  have value : capturingTemplate.tree.firstExpression 6 = .identifier "v" := by
    with_unfolding_all rfl
  have layers : capturingTemplate.tree.escapeLayers 6 =
      [("x", .binary .add (.identifier "x") (.identifier "y")),
        ("y", .builtin (.identifier "y") "upper_case")] := by
    with_unfolding_all rfl
  have stored : (capturingTemplate.analyze {}).2.escaped? 6 =
      some (.binary .add (.builtin (.identifier "v") "upper_case") (.identifier "v")) := by
    rw [escaped?_analyze_eq_escapedForm {} topmost reached (by decide),
      Tree.escapedForm_eq_weave, layers, value]
    rfl
  refine ⟨topmost, reached, by decide, stored, ?_⟩
  rw [stored, layers, value]
  simp [Expr.nest, Expr.substitute]

end Template

end TemplateLanguage
