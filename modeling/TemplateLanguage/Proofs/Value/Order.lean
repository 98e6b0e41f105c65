import TemplateLanguage.Proofs.Decimal.Order
import TemplateLanguage.Value.Compare

/-!
# The order of values

Exchanging two values reverses their order, whatever they are.  On scalars of one
type, floating-point numbers apart, the order is total and transitive, and two
scalars are equal exactly if neither stands before the other.

Numbers that are not floating-point numbers are compared as decimals, strings by
the code points of their keys.
-/

namespace TemplateLanguage

/-! ## Strings -/

namespace Collation

/-- Texts are ordered as the lists of their code points are. -/
theorem compareText_eq_compareLex (first second : List Char) :
    compareText first second = List.compareLex (compareOn Char.toNat) first second := by
  induction first generalizing second with
  | nil => cases second <;> rfl
  | cons char rest ih =>
      cases second with
      | nil => rfl
      | cons other others =>
          rw [compareText, List.compareLex_cons_cons, ih]
          rfl

instance : Std.TransCmp compareText where
  eq_swap {first second} := by
    rw [compareText_eq_compareLex, compareText_eq_compareLex]
    exact Std.OrientedCmp.eq_swap
  isLE_trans {first second third} := by
    rw [compareText_eq_compareLex, compareText_eq_compareLex, compareText_eq_compareLex]
    exact Std.TransCmp.isLE_trans

theorem compareText_eq_eq_iff {first second : List Char} :
    compareText first second = .eq ↔ first = second := by
  have distinct : Std.LawfulEqCmp (compareOn Char.toNat) := by
    refine ⟨?_⟩
    intro char other same
    exact Char.toNat_inj.mp (Std.LawfulEqOrd.eq_of_compare same)
  rw [compareText_eq_compareLex, Std.LawfulEqCmp.compare_eq_iff_eq]

end Collation

namespace Collator

variable {collator : Collator}

instance : Std.TransCmp collator.order where
  eq_swap {first second} := by
    rw [order, order]
    exact Std.OrientedCmp.eq_swap
  isLE_trans {first second third} := by
    rw [order, order, order]
    exact Std.TransCmp.isLE_trans

/-- Strings are equal exactly if none of them stands before the other. -/
theorem order_eq_eq_iff {first second : String} :
    collator.order first second = .eq ↔ collator.equal first second = true := by
  rw [order, Collation.compareText_eq_eq_iff, equal, decide_eq_true_iff]

end Collator

/-! ## Numbers -/

namespace Binary

variable {format : BinaryFormat}

theorem order?_swap (first second : Binary format) :
    second.order? first = (first.order? second).map Ordering.swap := by
  cases first with
  | nan => cases second <;> rfl
  | infinite negative =>
      cases second with
      | nan => rfl
      | infinite other => exact congrArg some Std.OrientedCmp.eq_swap
      | finite => cases negative <;> rfl
  | finite =>
      cases second with
      | nan => rfl
      | infinite negative => cases negative <;> rfl
      | finite => exact congrArg some Std.OrientedCmp.eq_swap

end Binary

namespace Number

theorem order?_swap (first second : Number) :
    second.order? first = (first.order? second).map Ordering.swap := by
  unfold order?
  cases first.toDecimal? with
  | none => cases second.toDecimal? <;> exact Binary.order?_swap _ _
  | some decimal =>
      cases second.toDecimal? with
      | none => exact Binary.order?_swap _ _
      | some other => exact congrArg some Std.OrientedCmp.eq_swap

theorem order?_eq_eq_comm {first second : Number} :
    first.order? second = some .eq ↔ second.order? first = some .eq := by
  rw [order?_swap first second]
  cases first.order? second with
  | none => exact Iff.rfl
  | some ordering => cases ordering <;> decide

/-- Numbers that are not floating-point numbers are decimals. -/
theorem exists_toDecimal? {number : Number} (exact : number.isFloating = false) :
    ∃ decimal, number.toDecimal? = some decimal := by
  cases number with
  | byte value =>
      exact Decimal.exists_ofInt? (by have := value.le_toInt; omega)
        (by have := value.toInt_lt; omega)
  | short value =>
      exact Decimal.exists_ofInt? (by have := value.le_toInt; omega)
        (by have := value.toInt_lt; omega)
  | int value =>
      exact Decimal.exists_ofInt? (by have := value.le_toInt; omega)
        (by have := value.toInt_lt; omega)
  | long value => exact Decimal.exists_ofInt? value.le_toInt value.toInt_lt
  | float | double => cases exact
  | decimal value => exact ⟨value, rfl⟩

theorem order?_of_toDecimal? {first second : Number} {decimal other : Decimal}
    (firstDecimal : first.toDecimal? = some decimal)
    (secondDecimal : second.toDecimal? = some other) :
    first.order? second = some (decimal.order other) := by
  rw [order?, firstDecimal, secondDecimal]

theorem order?_eq_eq_trans {first second third : Number} (firstExact : first.isFloating = false)
    (secondExact : second.isFloating = false) (thirdExact : third.isFloating = false)
    (start : first.order? second = some .eq) (further : second.order? third = some .eq) :
    first.order? third = some .eq := by
  obtain ⟨decimal, firstDecimal⟩ := exists_toDecimal? firstExact
  obtain ⟨other, secondDecimal⟩ := exists_toDecimal? secondExact
  obtain ⟨last, thirdDecimal⟩ := exists_toDecimal? thirdExact
  rw [order?_of_toDecimal? firstDecimal secondDecimal, Option.some.injEq] at start
  rw [order?_of_toDecimal? secondDecimal thirdDecimal, Option.some.injEq] at further
  rw [order?_of_toDecimal? firstDecimal thirdDecimal, Option.some.injEq]
  exact Std.TransCmp.eq_trans start further

end Number

/-! ## Scalars -/

namespace Value

variable {collator : Collator}

/-- Two numbers that are not floating-point numbers, two strings, or two
booleans. -/
inductive SameScalar : Value → Value → Prop
  | numbers {first second : Number} : first.isFloating = false → second.isFloating = false →
      SameScalar (number first) (number second)
  | strings (first second : String) : SameScalar (string first) (string second)
  | booleans (first second : Bool) : SameScalar (boolean first) (boolean second)

/-- Exchanging two values reverses their order. -/
theorem order?_swap (collator : Collator) (first second : Value) :
    second.order? collator first = (first.order? collator second).map Ordering.swap := by
  cases first with
  | number value =>
      cases second with
      | number other => exact Number.order?_swap value other
      | _ => rfl
  | string value =>
      cases second with
      | string other => exact congrArg some Std.OrientedCmp.eq_swap
      | _ => rfl
  | boolean value =>
      cases second with
      | boolean other => exact congrArg some Std.OrientedCmp.eq_swap
      | _ => rfl
  | _ => cases second <;> rfl

/-- Scalars of one type have an order. -/
theorem exists_order? {first second : Value} (same : SameScalar first second) :
    ∃ ordering, first.order? collator second = some ordering := by
  cases same with
  | numbers firstExact secondExact =>
      obtain ⟨decimal, firstDecimal⟩ := Number.exists_toDecimal? firstExact
      obtain ⟨other, secondDecimal⟩ := Number.exists_toDecimal? secondExact
      exact ⟨_, Number.order?_of_toDecimal? firstDecimal secondDecimal⟩
  | strings => exact ⟨_, rfl⟩
  | booleans => exact ⟨_, rfl⟩

/-- Scalars of one type are equal exactly if none of them stands before the
other. -/
theorem order?_eq_eq_iff {first second : Value} (same : SameScalar first second) :
    first.order? collator second = some .eq ↔ first.equal collator second = true := by
  cases same with
  | numbers => rw [equal, order?, decide_eq_true_iff]
  | strings first second =>
      rw [equal, order?, Option.some.injEq]
      exact Collator.order_eq_eq_iff
  | booleans first second =>
      rw [equal, order?, Option.some.injEq, decide_eq_true_iff]
      exact Std.LawfulEqCmp.compare_eq_iff_eq

/-- One value has an order to another one and does not stand after it. -/
def NotAfter (collator : Collator) (first second : Value) : Prop :=
  ∃ ordering, first.order? collator second = some ordering ∧ ordering.isLE = true

theorem NotAfter.trans {first second third : Value} (same : SameScalar first second)
    (others : SameScalar second third) (start : NotAfter collator first second)
    (further : NotAfter collator second third) : NotAfter collator first third := by
  obtain ⟨_, firstOrder, start⟩ := start
  obtain ⟨_, secondOrder, further⟩ := further
  cases same with
  | numbers firstExact secondExact =>
      cases others with
      | numbers _ thirdExact =>
          obtain ⟨decimal, firstDecimal⟩ := Number.exists_toDecimal? firstExact
          obtain ⟨other, secondDecimal⟩ := Number.exists_toDecimal? secondExact
          obtain ⟨last, thirdDecimal⟩ := Number.exists_toDecimal? thirdExact
          rw [order?, Number.order?_of_toDecimal? firstDecimal secondDecimal] at firstOrder
          rw [order?, Number.order?_of_toDecimal? secondDecimal thirdDecimal] at secondOrder
          cases firstOrder
          cases secondOrder
          exact ⟨_, Number.order?_of_toDecimal? firstDecimal thirdDecimal,
            Std.TransCmp.isLE_trans start further⟩
  | strings =>
      cases others
      cases firstOrder
      cases secondOrder
      exact ⟨_, rfl, Std.TransCmp.isLE_trans start further⟩
  | booleans =>
      cases others
      cases firstOrder
      cases secondOrder
      exact ⟨_, rfl, Std.TransCmp.isLE_trans start further⟩

end Value

end TemplateLanguage
