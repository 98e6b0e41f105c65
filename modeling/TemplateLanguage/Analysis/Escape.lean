import TemplateLanguage.Tree.Expression
import TemplateLanguage.Tree.Tour

/-!
# Escaped forms

An escape block changes what the interpolations of its body write: its own
escape expression, with the interpolated expression put in place of the
block's parameter.  Escape blocks nest, and the escape expression of an inner
block is itself escaped by the block around it.  A noescape block suspends the
innermost escape for its body.

During a tour the active escapes form a stack.  Entering a block puts it on
the stack after its own form is known, so the top of the stack always holds a
form; entering a noescape block takes the top away and keeps it for the way
out.
-/

namespace TemplateLanguage

/-- An escape block in effect, with its parameter and its escaped form. -/
structure ActiveEscape where
  block : NodeId
  parameter : String
  form : Expr
  deriving Repr

/-- The escapes in effect at a point of a tour, the innermost first, and the
forms found so far. -/
structure Escapes where
  active : List ActiveEscape
  /-- What the enclosing noescape blocks have taken away, innermost first. -/
  suspended : List (Option ActiveEscape)
  pushes : Nat
  pops : Nat
  maxDepth : Nat
  forms : Array (Option Expr)
  deriving Repr

namespace Escapes

/-- No escape in effect, and no form known of any of `size` nodes. -/
def start (size : Nat) : Escapes :=
  { active := []
    suspended := []
    pushes := 0
    pops := 0
    maxDepth := 0
    forms := Array.replicate size none }

/-- Number of escapes in effect. -/
def depth (escapes : Escapes) : Nat :=
  escapes.active.length

/-- An expression as the innermost escape writes it. -/
def apply (escapes : Escapes) (expression : Expr) : Expr :=
  match escapes.active with
  | [] => expression
  | escape :: _ => escape.form.substitute escape.parameter expression

/-- Put an escape into effect. -/
def push (escapes : Escapes) (escape : ActiveEscape) : Escapes :=
  { escapes with
    active := escape :: escapes.active
    pushes := escapes.pushes + 1
    maxDepth := max escapes.maxDepth (escapes.depth + 1) }

/-- Take the innermost escape out of effect, if there is one. -/
def pop (escapes : Escapes) : Escapes :=
  match escapes.active with
  | [] => escapes
  | _ :: outer => { escapes with active := outer, pops := escapes.pops + 1 }

/-- Take the innermost escape out of effect and keep it. -/
def suspend (escapes : Escapes) : Escapes :=
  { escapes.pop with suspended := escapes.active.head? :: escapes.suspended }

/-- Put back into effect what was suspended last. -/
def resume (escapes : Escapes) : Escapes :=
  match escapes.suspended with
  | [] => escapes
  | none :: outer => { escapes with suspended := outer }
  | some escape :: outer => { escapes with suspended := outer }.push escape

/-- Note the escaped form of a node. -/
def annotate (escapes : Escapes) (id : NodeId) (form : Expr) : Escapes :=
  { escapes with forms := escapes.forms.setIfInBounds id (some form) }

/-- The effect of one step of a tour. -/
def step (tree : Tree) (escapes : Escapes) : Visit → Escapes
  | .enter id =>
      match tree.kind? id with
      | some (.escapeBlock parameter) =>
          let form := escapes.apply (tree.firstExpression id)
          (escapes.annotate id form).push ⟨id, parameter, form⟩
      | some .noEscapeBlock => escapes.suspend
      | _ => escapes
  | .leave id =>
      match tree.kind? id with
      | some (.escapeBlock _) => escapes.pop
      | some .noEscapeBlock => escapes.resume
      | some .interpolation => escapes.annotate id (escapes.apply (tree.firstExpression id))
      | _ => escapes

theorem size_forms_step (tree : Tree) (escapes : Escapes) (visit : Visit) :
    (escapes.step tree visit).forms.size = escapes.forms.size := by
  cases visit with
  | enter id =>
      simp only [step]
      split
      · simp [annotate, push]
      · simp only [suspend, pop]
        split <;> rfl
      · rfl
  | leave id =>
      simp only [step]
      split
      · simp only [pop]
        split <;> rfl
      · simp only [resume]
        split <;> rfl
      · simp [annotate]
      · rfl

end Escapes

end TemplateLanguage
