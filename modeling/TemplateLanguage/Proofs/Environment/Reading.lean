import TemplateLanguage.Environment.Comparison

/-!
# Reading from an environment

What is seen of an environment is its locale and its collator.  An environment that has
made its collator differs from one that has not, but the two are seen alike.

To ask for the collator, or to compare values, does not change what is seen, and what is
answered comes from the collator only.  The answer of a comparison is that of the equality
or the order of values under the collator, though the comparison stops early and may not
ask for the collator at all.
-/

namespace TemplateLanguage.Environment

/-- What is seen of an environment. -/
structure View where
  locale : String
  collator : Collator

/-- What is seen of an environment, whether it holds its collator or not. -/
def view (environment : Environment) : View :=
  ⟨environment.locale, environment.collator⟩

/-- An action answers by the collator and does not change what is seen. -/
structure Reads {α : Type} (action : StateM Environment α) (answer : Collator → α) : Prop where
  answer_eq : ∀ environment, (action.run environment).1 = answer environment.collator
  view_eq : ∀ environment, (action.run environment).2.view = environment.view

namespace Reads

variable {α β : Type} {action other : StateM Environment α} {answer otherAnswer : Collator → α}

protected theorem pure (value : α) : Reads (pure value) fun _ => value :=
  ⟨fun _ => rfl, fun _ => rfl⟩

protected theorem bind {next : α → StateM Environment β} {answers : α → Collator → β}
    (first : Reads action answer) (rest : ∀ value, Reads (next value) (answers value)) :
    Reads (action >>= next) fun collator => answers (answer collator) collator where
  answer_eq environment := by
    have same : (action.run environment).2.collator = environment.collator :=
      congrArg View.collator (first.view_eq environment)
    calc
      ((action >>= next).run environment).1 =
          ((next (action.run environment).1).run (action.run environment).2).1 := rfl
      _ = answers (answer environment.collator) environment.collator := by
        rw [(rest _).answer_eq, first.answer_eq, same]
  view_eq environment :=
    ((rest _).view_eq (action.run environment).2).trans (first.view_eq environment)

protected theorem map (reads : Reads action answer) (change : α → β) :
    Reads (do return change (← action)) fun collator => change (answer collator) :=
  reads.bind fun value => .pure (change value)

/-- A condition that does not hold ends a comparison. -/
protected theorem and {first rest : StateM Environment Bool} {holds more : Collator → Bool}
    (reads : Reads first holds) (restReads : Reads rest more) :
    Reads (do if ← first then rest else return false) fun collator =>
      holds collator && more collator := by
  have split : ∀ value : Bool, Reads (if value then rest else pure false) fun collator =>
      value && more collator := by
    intro value
    cases value with
    | false => exact .pure false
    | true => exact restReads
  exact reads.bind split

end Reads

theorem reads_askCollator : Reads askCollator fun collator => collator where
  answer_eq environment := by
    rcases environment with ⟨locale, _ | held⟩ <;> rfl
  view_eq environment := by
    rcases environment with ⟨locale, _ | held⟩ <;> rfl

theorem equalItems_of_length_ne {collator : Collator} {first second : List Value}
    (different : first.length ≠ second.length) :
    Value.equalItems collator first second = false := by
  induction first generalizing second with
  | nil =>
      cases second with
      | nil => exact absurd rfl different
      | cons => rfl
  | cons item rest ih =>
      cases second with
      | nil => rfl
      | cons other others =>
          rw [Value.equalItems, ih (different <| congrArg Nat.succ ·), Bool.and_false]

/-- Lists of different lengths are not equal, so they need not be gone through. -/
theorem reads_ite_askEqualItems {first second : List Value}
    (reads : first.length = second.length →
      Reads (askEqualItems first second) fun collator => Value.equalItems collator first second) :
    Reads (if first.length = second.length then askEqualItems first second else return false)
      fun collator => Value.equalItems collator first second := by
  by_cases length : first.length = second.length
  · rw [if_pos length]
    exact reads length
  · simp only [if_neg length, equalItems_of_length_ne length]
    exact .pure false

mutual

/-- Comparing two values answers whether they are equal. -/
theorem reads_askEqual (first second : Value) :
    Reads (askEqual first second) fun collator => first.equal collator second := by
  cases first with
  | boolean first =>
      cases second with
      | boolean second => simpa only [askEqual, Value.equal] using .pure _
      | _ => simpa only [askEqual, Value.equal] using .pure false
  | number first =>
      cases second with
      | number second => simpa only [askEqual, Value.equal] using .pure _
      | _ => simpa only [askEqual, Value.equal] using .pure false
  | string first =>
      cases second with
      | string second =>
          simpa only [askEqual, Value.equal] using
            reads_askCollator.map fun collator => collator.equal first second
      | _ => simpa only [askEqual, Value.equal] using .pure false
  | sequence first =>
      cases second with
      | sequence second =>
          simpa only [askEqual, Value.equal] using
            reads_ite_askEqualItems (reads_askEqualItems first second)
      | _ => simpa only [askEqual, Value.equal] using .pure false
  | collection first =>
      cases second with
      | collection second =>
          simpa only [askEqual, Value.equal] using
            reads_ite_askEqualItems (reads_askEqualItems first second)
      | _ => simpa only [askEqual, Value.equal] using .pure false
  | hash first =>
      cases second with
      | hash second =>
          simp only [askEqual, Value.equal]
          by_cases length : first.length = second.length
          · simpa only [length, if_true, decide_true, Bool.true_and] using
              reads_askContainedEntries first second
          · simpa only [length, if_false, decide_false, Bool.false_and] using .pure false
      | _ => simpa only [askEqual, Value.equal] using .pure false

theorem reads_askEqualItems (first second : List Value) (length : first.length = second.length) :
    Reads (askEqualItems first second) fun collator =>
      Value.equalItems collator first second := by
  cases first with
  | nil =>
      cases second with
      | nil => simpa only [askEqualItems, Value.equalItems] using .pure true
      | cons => cases length
  | cons item rest =>
      cases second with
      | nil => cases length
      | cons other others =>
          simp only [askEqualItems, Value.equalItems]
          exact (reads_askEqual item other).and
            (reads_askEqualItems rest others (Nat.succ.inj length))

theorem reads_askContainedEntries (entries others : List (String × Value)) :
    Reads (askContainedEntries entries others) fun collator =>
      Value.containedEntries collator entries others := by
  cases entries with
  | nil => simpa only [askContainedEntries, Value.containedEntries] using .pure true
  | cons entry rest =>
      obtain ⟨key, value⟩ := entry
      simp only [askContainedEntries, Value.containedEntries]
      cases others.lookup key with
      | none => exact .pure false
      | some other =>
          exact (reads_askEqual value other).and (reads_askContainedEntries rest others)

end

theorem reads_askOrder? (first second : Value) :
    Reads (askOrder? first second) fun collator => first.order? collator second := by
  cases first <;> cases second
  case string.string first second =>
    exact reads_askCollator.map fun collator => some (collator.order first second)
  all_goals exact .pure _

end TemplateLanguage.Environment
