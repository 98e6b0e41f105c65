import TemplateLanguage.Proofs.Escape.Lexical
import TemplateLanguage.Proofs.Expr.WellFormed

/-!
# Escaped forms are well formed

A tour makes escaped forms out of the expressions of interpolations and escape
blocks by substitution alone.  So where these are well formed, every form on the
stack of escapes, every one taken away by a noescape block and every one noted
is well formed too, and an analysis stores no others.
-/

namespace TemplateLanguage

/-- The expressions that escaped forms are made of are well formed. -/
def Tree.HasFormedParts (tree : Tree) : Prop :=
  ∀ id, tree.hasKind NodeKind.hasEscapedForm id = true → (tree.firstExpression id).WellFormed

theorem Tree.lt_size_of_hasKind {tree : Tree} {property : NodeKind → Bool} {id : NodeId}
    (hasKind : tree.hasKind property id = true) : id < tree.size := by
  obtain ⟨kind, present, _⟩ := (Option.any_eq_true ..).mp hasKind
  obtain ⟨node, found, _⟩ := Option.map_eq_some_iff.mp present
  exact lt_size_of_node? found

namespace Escapes

/-- All forms that are known or in effect are well formed. -/
structure Formed (escapes : Escapes) : Prop where
  active : ∀ escape ∈ escapes.active, escape.form.WellFormed
  suspended : ∀ escape : ActiveEscape, some escape ∈ escapes.suspended → escape.form.WellFormed
  noted : ∀ (id : NodeId) (form : Expr), escapes.forms[id]? = some (some form) → form.WellFormed

variable {escapes : Escapes} {expression : Expr}

theorem formed_start (size : Nat) : (start size).Formed where
  active := List.forall_mem_nil _
  suspended := fun _ absent => absurd absent List.not_mem_nil
  noted := by
    intro id form known
    have unknown := Array.eq_of_mem_replicate (Array.mem_of_getElem? known)
    cases unknown

theorem Formed.apply (formed : escapes.Formed) (part : expression.WellFormed) :
    (escapes.apply expression).WellFormed := by
  have active := formed.active
  rw [Escapes.apply]
  split
  · exact part
  · rename_i escape outer innermost
    rw [innermost] at active
    exact (active escape List.mem_cons_self).substitute _ part

theorem Formed.annotate (formed : escapes.Formed) (id : NodeId) (part : expression.WellFormed) :
    (escapes.annotate id expression).Formed where
  active := formed.active
  suspended := formed.suspended
  noted := by
    intro other form known
    rw [Escapes.annotate, Array.getElem?_setIfInBounds] at known
    by_cases same : id = other
    · rw [if_pos same] at known
      split at known
      · cases known
        exact part
      · cases known
    · rw [if_neg same] at known
      exact formed.noted other form known

theorem Formed.push (formed : escapes.Formed) {escape : ActiveEscape}
    (part : escape.form.WellFormed) : (escapes.push escape).Formed where
  active := List.forall_mem_cons.mpr ⟨part, formed.active⟩
  suspended := formed.suspended
  noted := formed.noted

theorem Formed.pop (formed : escapes.Formed) : escapes.pop.Formed where
  active := by
    rw [active_pop]
    exact fun escape member => formed.active escape (List.mem_of_mem_tail member)
  suspended := by
    rw [suspended_pop]
    exact formed.suspended
  noted := by
    rw [forms_pop]
    exact formed.noted

theorem Formed.suspend (formed : escapes.Formed) : escapes.suspend.Formed where
  active := formed.pop.active
  suspended := by
    intro escape member
    rcases List.mem_cons.mp member with innermost | member
    · exact formed.active escape (List.mem_of_head? innermost.symm)
    · exact formed.suspended escape member
  noted := formed.pop.noted

theorem Formed.resume (formed : escapes.Formed) : escapes.resume.Formed := by
  have suspended := formed.suspended
  rw [Escapes.resume]
  split
  · exact formed
  · rename_i outer held
    rw [held] at suspended
    exact
      { formed with
        suspended := fun escape member => suspended escape (List.mem_cons_of_mem _ member) }
  · rename_i escape outer held
    rw [held] at suspended
    apply Formed.push
    · exact
        { formed with
          suspended := fun escape member => suspended escape (List.mem_cons_of_mem _ member) }
    · exact suspended escape List.mem_cons_self

/-- A step of a tour keeps all forms well formed. -/
theorem Formed.step {tree : Tree} (formed : escapes.Formed) (parts : tree.HasFormedParts)
    (visit : Visit) :
    (escapes.step tree visit).Formed := by
  cases visit with
  | enter id =>
      simp only [Escapes.step]
      split
      · rename_i parameter kind
        have escapable := Tree.hasKind_hasEscapedForm_iff.mpr (Or.inr ⟨parameter, kind⟩)
        have form := formed.apply (parts id escapable)
        exact (formed.annotate id form).push form
      · exact formed.suspend
      · exact formed
  | leave id =>
      simp only [Escapes.step]
      split
      · exact formed.pop
      · exact formed.resume
      · rename_i kind
        have escapable := Tree.hasKind_hasEscapedForm_iff.mpr (Or.inl kind)
        exact formed.annotate id (formed.apply (parts id escapable))
      · exact formed

/-- A tour keeps all forms well formed. -/
theorem Formed.foldl {tree : Tree} (formed : escapes.Formed) (parts : tree.HasFormedParts)
    (visits : List Visit) :
    (visits.foldl (Escapes.step tree) escapes).Formed := by
  induction visits generalizing escapes with
  | nil => exact formed
  | cons visit rest ih => exact ih (formed.step parts visit)

end Escapes

namespace Template

/-- The expressions that escapes are made of are well formed, and so are the
escaped forms that are stored. -/
structure Formed (template : Template) : Prop where
  parts : template.tree.HasFormedParts
  stored : ∀ (id : NodeId) (form : Expr), template.escaped? id = some form → form.WellFormed

/-- An analysis stores well-formed escaped forms. -/
theorem Formed.analyze {template : Template} (formed : template.Formed)
    (options : AnalysisOptions) : (template.analyze options).2.Formed where
  parts := formed.parts
  stored := by
    intro id form stored
    have tour := (Escapes.formed_start template.tree.size).foldl formed.parts
      (template.tree.tour (Survey.descends template.tree) template.root)
    rw [escaped?, getElem?_escaped_analyze] at stored
    cases before : template.escaped[id]? with
    | none =>
        rw [before] at stored
        cases stored
    | some old =>
        rw [before] at stored
        change (template.noted[id]?.join <|> old) = some form at stored
        cases noted : template.noted[id]?.join with
        | none =>
            rw [noted] at stored
            apply formed.stored id form
            rw [escaped?, before]
            exact stored
        | some other =>
            rw [noted] at stored
            cases stored
            exact tour.noted id form (Option.join_eq_some_iff.mp noted)

end Template

end TemplateLanguage
