import TemplateLanguage.Proofs.Decimal.Binary
import TemplateLanguage.Proofs.Decimal.Places
import TemplateLanguage.Proofs.Number.Value

/-!
# Comparing numbers

Numbers whose values decimals have are compared by value, whatever their
representations are.  Numbers below the limit of decimals are compared by value as well, once
their values are rounded to the places that a decimal has.  A number beyond the limit is
compared as a binary number.  Then two numbers of one representation are still compared by
value, and a number that is not beyond the limit may be equal to one that is, but it is never
on the wrong side of it.
-/

namespace TemplateLanguage

open Rounding

/-! ## The limit of decimals -/

/-- A conversion that does not cross the limit of decimals. -/
structure SameSide (value converted : ℚ) : Prop where
  high : 2 ^ 96 ≤ value → 2 ^ 96 ≤ converted
  low : value ≤ -2 ^ 96 → converted ≤ -2 ^ 96
  inside : |value| < 2 ^ 96 → |converted| ≤ 2 ^ 96

namespace SameSide

variable {value converted : ℚ}

theorem of_inside (small : |value| < 2 ^ 96) (bound : |converted| ≤ 2 ^ 96) :
    SameSide value converted := by
  rw [abs_lt] at small
  constructor
  · intro high
    exact absurd small.2 (not_lt.mpr high)
  · intro low
    exact absurd small.1 (not_lt.mpr low)
  · exact fun _ => bound

protected theorem neg (same : SameSide value converted) : SameSide (-value) (-converted) := by
  constructor
  · intro high
    exact le_neg_of_le_neg (same.low (le_neg_of_le_neg high))
  · intro low
    exact neg_le_neg (same.high (neg_le_neg_iff.mp low))
  · rw [abs_neg, abs_neg]
    exact same.inside

end SameSide

namespace Binary

variable {format : BinaryFormat}

theorem sameSide_shown (number : Magnitude) (full : 0 < format.precision)
    (least : format.least ≤ 96)
    (canonical : format.Canonical number.mantissa number.exponent) :
    SameSide (number.shown format) number.toRat := by
  have nonneg := shown_nonneg format number
  constructor
  · exact pow_le_toRat_of_shown full canonical least
  · intro low
    exact absurd nonneg (not_le.mpr (low.trans_lt (by norm_num)))
  · rw [abs_of_nonneg nonneg, abs_of_nonneg number.toRat_nonneg]
    intro small
    exact toRat_le_pow_of_shown full canonical least small.le

theorem sameSide_spelled {number : Binary format} (full : 0 < format.precision)
    (least : format.least ≤ 96) (finite : number.isFinite = true) :
    SameSide (spelled number.render) number.toRat := by
  cases number with
  | nan | infinite => cases finite
  | finite negative mantissa exponent canonical =>
      have same := sameSide_shown ⟨mantissa, exponent⟩ full least canonical
      rw [spelled_render_finite, toRat]
      cases negative with
      | false => exact same
      | true => exact same.neg

end Binary

/-! ## Widening -/

namespace Binary

/-- A number with 24 bits is a number with 53 bits. -/
theorem convert_spec {number : Binary .single} (finite : number.isFinite = true) :
    (number.convert : Binary .double).isFinite = true ∧
      (number.convert : Binary .double).toRat = number.toRat := by
  cases number with
  | nan | infinite => cases finite
  | finite negative mantissa exponent canonical =>
      have exact : (nearestMagnitude .double (Magnitude.value ⟨mantissa, exponent⟩)).toRat =
          Magnitude.toRat ⟨mantissa, exponent⟩ := by
        apply toRat_nearestMagnitude_of_eq (by decide) (Magnitude.value_divisor_pos _)
        · exact canonical.1.trans (by decide)
        · exact le_trans (by decide) canonical.2.1
        · exact Magnitude.toRat_value _
      have bound : Magnitude.toRat ⟨mantissa, exponent⟩ ≤ 2 ^ (128 : ℤ) := by
        have precise : (mantissa : ℚ) ≤ 2 ^ (24 : ℤ) := by exact_mod_cast canonical.1.le
        have greatest : (2 : ℚ) ^ exponent ≤ 2 ^ (104 : ℤ) :=
          zpow_le_zpow_right₀ one_le_two canonical.2.2.1
        calc (mantissa : ℚ) * 2 ^ exponent ≤ 2 ^ (24 : ℤ) * 2 ^ (104 : ℤ) :=
              mul_le_mul precise greatest (zpow_pos two_pos _).le (by positivity)
          _ = 2 ^ (128 : ℤ) := by norm_num
      have wide := canonical_nearestMagnitude (by decide) (by decide)
        (show 128 < BinaryFormat.double.greatest + BinaryFormat.double.precision by decide)
        (Magnitude.value_divisor_pos ⟨mantissa, exponent⟩) (exact.trans_le bound)
      have same : (Binary.finite negative mantissa exponent canonical).convert =
          Binary.finite negative _ _ wide := ofMagnitude_eq wide
      rw [same, toRat, toRat]
      refine ⟨rfl, ?_⟩
      rw [← exact]

theorem ofInt_spec {value : ℤ} (least : -2 ^ 63 ≤ value) (greatest : value < 2 ^ 63) :
    (ofInt value : Binary .double).isFinite = true ∧
      |(ofInt value : Binary .double).toRat| ≤ 2 ^ 96 := by
  apply Decimal.nearest_spec _ Nat.one_pos
  rw [Quotient.toRat_natCast]
  have bound : value.natAbs ≤ 2 ^ 96 := by omega
  exact_mod_cast bound

end Binary

namespace Decimal

variable {format : BinaryFormat} {number : Binary format}

theorem mantissaLimit_eq_pow : (mantissaLimit : ℚ) = 2 ^ 96 := by
  rw [mantissaLimit_eq]
  norm_num

theorem abs_value_lt_limit (number : Decimal) : |number.value| < mantissaLimit :=
  number.abs_value_lt.trans_le
    (div_le_self (Nat.cast_nonneg _) (one_le_pow₀ (by norm_num)))

/-- A binary number whose text spells a value below the limit becomes a decimal of this value,
rounded to places. -/
theorem exists_ofBinary?_toPlaces (finite : number.isFinite = true)
    (precise : 40 * 2 ^ format.precision ≤ 10 ^ 28)
    (small : |spelled number.render| < mantissaLimit) :
    ∃ decimal, ofBinary? number = some decimal ∧
      decimal.value = toPlaces (spelled number.render) := by
  obtain ⟨negative, coefficient, places, text, _, few⟩ := Binary.exists_render_eq finite
  rw [ofBinary?, if_pos finite, text]
  rw [text, abs_spelled_signText] at small
  apply exists_ofText?_toPlaces
  rcases few with few | none
  · exact .inr (few.trans_le precise)
  · rw [none, pow_zero, div_one] at small
    exact .inl ⟨none, by exact_mod_cast small⟩

/-- A binary number whose text spells a value beyond the limit has no decimal. -/
theorem ofBinary?_eq_none (tooGreat : mantissaLimit ≤ |spelled number.render|) :
    ofBinary? number = none := by
  rw [ofBinary?]
  split
  · rename_i finite
    obtain ⟨negative, coefficient, places, text, _⟩ := Binary.exists_render_eq finite
    rw [text] at tooGreat ⊢
    apply ofText?_positional_eq_none
    rw [abs_spelled_signText, le_div_iff₀ (by positivity)] at tooGreat
    rw [Nat.le_div_iff_mul_le (by positivity)]
    exact_mod_cast tooGreat
  · rfl

/-- What the text of a finite number without a decimal spells is beyond the limit, and it stays
there when it is read as a number with 53 bits. -/
theorem pow_le_near_of_ofBinary?_eq_none (finite : number.isFinite = true)
    (precise : 40 * 2 ^ format.precision ≤ 10 ^ 28) (none : ofBinary? number = none)
    {quotient : Quotient} (positive : 0 < quotient.divisor)
    (spells : quotient.toRat = |spelled number.render|) : 2 ^ 96 ≤ (near quotient).toRat := by
  have great : (mantissaLimit : ℚ) ≤ |spelled number.render| := by
    by_contra small
    obtain ⟨decimal, converts, _⟩ := exists_ofBinary?_toPlaces finite precise (not_le.mp small)
    rw [converts] at none
    cases none
  rw [mantissaLimit_eq_pow, ← spells] at great
  exact pow_le_toRat_near 96 positive great

end Decimal

namespace Number

/-! ## Values and conversions -/

/-- Whether a number is neither infinite nor none. -/
def isFinite : Number → Bool
  | float value => value.isFinite
  | double value => value.isFinite
  | _ => true

/-- A decimal has the value of a number. -/
def HasDecimal (number : Number) : Prop :=
  ∃ decimal : Decimal, decimal.value = number.value

/-- A number is beyond the limit of decimals. -/
def TooGreat (number : Number) : Prop :=
  Decimal.mantissaLimit ≤ |number.value|

theorem HasDecimal.not_tooGreat {number : Number} (hasDecimal : number.HasDecimal) :
    ¬number.TooGreat := by
  obtain ⟨decimal, value⟩ := hasDecimal
  rw [TooGreat, ← value]
  exact not_le.mpr decimal.abs_value_lt_limit

theorem HasDecimal.toPlaces_value {number : Number} (hasDecimal : number.HasDecimal) :
    toPlaces number.value = number.value := by
  obtain ⟨decimal, value⟩ := hasDecimal
  rw [← value, Decimal.toPlaces_value]

/-- A number below the limit is converted to a decimal of its value, rounded to places. -/
theorem exists_toDecimal?_toPlaces {number : Number} (finite : number.isFinite = true)
    (small : ¬number.TooGreat) :
    ∃ decimal, number.toDecimal? = some decimal ∧ decimal.value = toPlaces number.value := by
  rw [TooGreat, not_le] at small
  cases floating : number.isFloating with
  | false =>
      obtain ⟨decimal, converts⟩ := exists_toDecimal? floating
      refine ⟨decimal, converts, ?_⟩
      rw [value_eq_value floating converts, Decimal.toPlaces_value]
  | true =>
      cases number with
      | float value => exact Decimal.exists_ofBinary?_toPlaces finite (by decide) small
      | double value => exact Decimal.exists_ofBinary?_toPlaces finite (by decide) small
      | _ => cases floating

/-- A number beyond the limit has no decimal. -/
theorem toDecimal?_of_tooGreat {number : Number} (tooGreat : number.TooGreat) :
    number.toDecimal? = none := by
  cases floating : number.isFloating with
  | false =>
      obtain ⟨decimal, converts⟩ := exists_toDecimal? floating
      have small := decimal.abs_value_lt_limit
      rw [← value_eq_value floating converts] at small
      exact absurd tooGreat (not_le.mpr small)
  | true =>
      cases number with
      | float value => exact Decimal.ofBinary?_eq_none tooGreat
      | double value => exact Decimal.ofBinary?_eq_none tooGreat
      | _ => cases floating

theorem isFinite_toDouble {number : Number} (finite : number.isFinite = true) :
    number.toDouble.isFinite = true := by
  cases represents : number.integer? with
  | some integer =>
      obtain ⟨least, greatest⟩ := bounds_of_integer? represents
      rw [(eq_of_integer? represents).2.2]
      exact (Binary.ofInt_spec least greatest).1
  | none =>
      cases number with
      | byte | short | int | long => cases represents
      | float value => exact (Binary.convert_spec finite).1
      | double value => exact finite
      | decimal value => exact value.toBinary_spec.1

theorem sameSide_toDouble {number : Number} (finite : number.isFinite = true) :
    SameSide number.value number.toDouble.toRat := by
  cases represents : number.integer? with
  | some integer =>
      obtain ⟨least, greatest⟩ := bounds_of_integer? represents
      have bound : |integer| < 2 ^ 96 := abs_lt.mpr ⟨by omega, by omega⟩
      have small : |(integer : ℚ)| < 2 ^ 96 := by
        rw [← Int.cast_abs]
        exact_mod_cast bound
      rw [(eq_of_integer? represents).2.2, value_of_integer? represents]
      exact SameSide.of_inside small (Binary.ofInt_spec least greatest).2
  | none =>
      cases number with
      | byte | short | int | long => cases represents
      | float value =>
          rw [toDouble, (Binary.convert_spec finite).2]
          exact Binary.sameSide_spelled (by decide) (by decide) finite
      | double value => exact Binary.sameSide_spelled (by decide) (by decide) finite
      | decimal value =>
          have small := value.abs_value_lt_limit
          rw [Decimal.mantissaLimit_eq_pow] at small
          rw [value_eq_value rfl rfl]
          exact SameSide.of_inside small value.toBinary_spec.2

/-! ## The comparison -/

variable {first second : Number}

theorem order?_of_tooGreat (finite : first.isFinite = true) (otherFinite : second.isFinite = true)
    (tooGreat : first.TooGreat ∨ second.TooGreat) :
    first.order? second = some (compare first.toDouble.toRat second.toDouble.toRat) := by
  rw [← Binary.order?_eq_compare (isFinite_toDouble finite) (isFinite_toDouble otherFinite),
    order?]
  rcases tooGreat with tooGreat | tooGreat
  · rw [toDecimal?_of_tooGreat tooGreat]
  · rw [toDecimal?_of_tooGreat tooGreat]
    cases first.toDecimal? <;> rfl

theorem order?_of_not_tooGreat (finite : first.isFinite = true)
    (otherFinite : second.isFinite = true) (small : ¬first.TooGreat)
    (otherSmall : ¬second.TooGreat) :
    first.order? second = some (compare (toPlaces first.value) (toPlaces second.value)) := by
  obtain ⟨decimal, converts, value⟩ := exists_toDecimal?_toPlaces finite small
  obtain ⟨other, otherConverts, otherValue⟩ := exists_toDecimal?_toPlaces otherFinite otherSmall
  rw [order?_of_toDecimal? converts otherConverts, Decimal.order_eq_compare_value, value,
    otherValue]

theorem order?_of_hasDecimal (finite : first.isFinite = true)
    (otherFinite : second.isFinite = true) (hasDecimal : first.HasDecimal)
    (otherHasDecimal : second.HasDecimal) :
    first.order? second = some (compare first.value second.value) := by
  rw [order?_of_not_tooGreat finite otherFinite hasDecimal.not_tooGreat
    otherHasDecimal.not_tooGreat, hasDecimal.toPlaces_value, otherHasDecimal.toPlaces_value]

/-- Finite numbers have an order. -/
theorem exists_order? (finite : first.isFinite = true) (otherFinite : second.isFinite = true) :
    ∃ ordering, first.order? second = some ordering := by
  rw [order?]
  cases first.toDecimal? with
  | none =>
      exact ⟨_, Binary.order?_eq_compare (isFinite_toDouble finite)
        (isFinite_toDouble otherFinite)⟩
  | some decimal =>
      cases second.toDecimal? with
      | none =>
          exact ⟨_, Binary.order?_eq_compare (isFinite_toDouble finite)
            (isFinite_toDouble otherFinite)⟩
      | some other => exact ⟨_, rfl⟩

theorem isFloating_of_tooGreat {number : Number} (tooGreat : number.TooGreat) :
    number.isFloating = true := by
  cases floating : number.isFloating with
  | true => rfl
  | false =>
      obtain ⟨decimal, converts⟩ := exists_toDecimal? floating
      rw [toDecimal?_of_tooGreat tooGreat] at converts
      cases converts

/-- Two floating-point numbers of one format are compared by value. -/
theorem compare_toDouble_of_typeName_eq (finite : first.isFinite = true)
    (otherFinite : second.isFinite = true) (floating : first.isFloating = true)
    (same : first.typeName = second.typeName) :
    compare first.toDouble.toRat second.toDouble.toRat = compare first.value second.value := by
  apply Option.some.inj
  cases first with
  | byte | short | int | long | decimal => cases floating
  | float value =>
      cases second with
      | float other =>
          rw [toDouble, toDouble, (Binary.convert_spec finite).2,
            (Binary.convert_spec otherFinite).2, ← Binary.order?_eq_compare finite otherFinite]
          exact Binary.order?_eq_compare_spelled (by decide) finite otherFinite
      | _ => simp [typeName] at same
  | double value =>
      cases second with
      | double other =>
          rw [toDouble, toDouble, ← Binary.order?_eq_compare finite otherFinite]
          exact Binary.order?_eq_compare_spelled (by decide) finite otherFinite
      | _ => simp [typeName] at same

/-- A number beyond the limit is not on the wrong side of one that is not. -/
theorem compare_toDouble_of_not_tooGreat (finite : first.isFinite = true)
    (otherFinite : second.isFinite = true) (tooGreat : first.TooGreat)
    (small : ¬second.TooGreat) :
    compare first.toDouble.toRat second.toDouble.toRat = compare first.value second.value ∨
      compare first.toDouble.toRat second.toDouble.toRat = .eq := by
  have side := sameSide_toDouble finite
  rw [TooGreat, Decimal.mantissaLimit_eq_pow] at tooGreat small
  have inside := (sameSide_toDouble otherFinite).inside (not_le.mp small)
  rw [not_le, abs_lt] at small
  rw [abs_le] at inside
  rcases le_abs.mp tooGreat with high | low
  · have above : second.toDouble.toRat ≤ first.toDouble.toRat := inside.2.trans (side.high high)
    rw [compare_gt_iff_gt.mpr (small.2.trans_le high)]
    rcases above.eq_or_lt with same | greater
    · exact .inr (compare_eq_iff_eq.mpr same.symm)
    · exact .inl (compare_gt_iff_gt.mpr greater)
  · have negative : first.value ≤ -2 ^ 96 := le_neg_of_le_neg low
    have below : first.toDouble.toRat ≤ second.toDouble.toRat :=
      (side.low negative).trans inside.1
    rw [compare_lt_iff_lt.mpr (negative.trans_lt small.1)]
    rcases below.eq_or_lt with same | less
    · exact .inr (compare_eq_iff_eq.mpr same)
    · exact .inl (compare_lt_iff_lt.mpr less)

end Number

/-- Rounding to places does not reverse an order. -/
theorem compare_toPlaces (first second : ℚ) :
    compare (toPlaces first) (toPlaces second) = compare first second ∨
      compare (toPlaces first) (toPlaces second) = .eq := by
  rcases lt_trichotomy first second with less | rfl | greater
  · rw [compare_lt_iff_lt.mpr less, compare_lt_iff_lt, compare_eq_iff_eq]
    exact (toPlaces_mono less.le).lt_or_eq
  · exact .inr (compare_eq_iff_eq.mpr rfl)
  · rw [compare_gt_iff_gt.mpr greater, compare_gt_iff_gt, compare_eq_iff_eq]
    exact (toPlaces_mono greater.le).lt_or_eq.imp_right Eq.symm

theorem compare_swap (first second : ℚ) : compare first second = (compare second first).swap :=
  Std.OrientedCmp.eq_swap

namespace Value

open Number

variable {first second : Number}

/-- Numbers below the limit are equal if their values are, rounded to places. -/
theorem equal_iff_toPlaces_eq (collator : Collator) (finite : first.isFinite = true)
    (otherFinite : second.isFinite = true) (small : ¬first.TooGreat)
    (otherSmall : ¬second.TooGreat) :
    (number first).equal collator (number second) = true ↔
      toPlaces first.value = toPlaces second.value := by
  rw [equal, order?_of_not_tooGreat finite otherFinite small otherSmall, decide_eq_true_iff,
    Option.some.injEq, compare_eq_iff_eq]

/-- Finite numbers have an order.  It is the order of their values if these are values of
decimals.  Below the limit of decimals it is the order of the values rounded to the places of a
decimal, so that different values may be equal, but equality is transitive.  If a number is
beyond the limit and the other one has the same representation, it is the order of their values
too; if only one is beyond the limit, they may be equal instead. -/
theorem compare_numbers (collator : Collator) (finite : first.isFinite = true)
    (otherFinite : second.isFinite = true) :
    ∃ ordering, (number first).order? collator (number second) = some ordering ∧
      ((number first).equal collator (number second) = true ↔ ordering = .eq) ∧
      (first.HasDecimal → second.HasDecimal → ordering = compare first.value second.value) ∧
      (¬first.TooGreat → ¬second.TooGreat →
        ordering = compare (toPlaces first.value) (toPlaces second.value) ∧
        (ordering = compare first.value second.value ∨ ordering = .eq) ∧
        ∀ third : Number, third.isFinite = true → ¬third.TooGreat → ordering = .eq →
          (number second).equal collator (number third) = true →
            (number first).equal collator (number third) = true) ∧
      (first.TooGreat ∨ second.TooGreat →
        ordering = compare first.toDouble.toRat second.toDouble.toRat ∧
        (first.typeName = second.typeName → ordering = compare first.value second.value) ∧
        (¬(first.TooGreat ∧ second.TooGreat) →
          ordering = compare first.value second.value ∨ ordering = .eq)) := by
  obtain ⟨ordering, orders⟩ := Number.exists_order? finite otherFinite
  have equalIff : (number first).equal collator (number second) = true ↔ ordering = .eq := by
    rw [equal, orders, decide_eq_true_iff, Option.some.injEq]
  refine ⟨ordering, orders, equalIff, ?_, ?_, ?_⟩
  · intro hasDecimal otherHasDecimal
    rw [order?_of_hasDecimal finite otherFinite hasDecimal otherHasDecimal] at orders
    exact (Option.some.inj orders).symm
  · intro small otherSmall
    rw [order?_of_not_tooGreat finite otherFinite small otherSmall, Option.some.injEq] at orders
    refine ⟨orders.symm, orders ▸ compare_toPlaces first.value second.value, ?_⟩
    intro third thirdFinite thirdSmall same
    rw [← equalIff, equal_iff_toPlaces_eq collator finite otherFinite small otherSmall] at same
    rw [equal_iff_toPlaces_eq collator otherFinite thirdFinite otherSmall thirdSmall,
      equal_iff_toPlaces_eq collator finite thirdFinite small thirdSmall]
    exact same.trans
  · intro tooGreat
    rw [order?_of_tooGreat finite otherFinite tooGreat, Option.some.injEq] at orders
    refine ⟨orders.symm, ?_, ?_⟩
    · intro same
      rw [← orders]
      rcases tooGreat with great | otherGreat
      · exact compare_toDouble_of_typeName_eq finite otherFinite (isFloating_of_tooGreat great)
          same
      · have swapped := compare_toDouble_of_typeName_eq otherFinite finite
          (isFloating_of_tooGreat otherGreat) same.symm
        rw [compare_swap, swapped, ← compare_swap]
    · intro one
      rw [← orders]
      rcases tooGreat with great | otherGreat
      · exact compare_toDouble_of_not_tooGreat finite otherFinite great
          (fun otherGreat => one ⟨great, otherGreat⟩)
      · have swapped := compare_toDouble_of_not_tooGreat otherFinite finite otherGreat
          (fun great => one ⟨great, otherGreat⟩)
        rw [compare_swap, compare_swap first.value, Ordering.swap_inj, Ordering.swap_eq_eq]
        exact swapped

/-- One tenth, rounded to 24 bits. -/
def singleTenth : Number :=
  .float (.finite false 13421773 (-27) (by decide))

/-- One tenth, rounded to 53 bits. -/
def doubleTenth : Number :=
  .double (.finite false 7205759403792794 (-56) (by decide))

/-- Two numbers that differ, but not in their texts. -/
theorem compare_numbers_tenths :
    singleTenth.isFinite = true ∧ doubleTenth.isFinite = true ∧
      singleTenth.toDouble.toRat ≠ doubleTenth.toDouble.toRat ∧
      singleTenth.HasDecimal ∧ doubleTenth.HasDecimal ∧
      (number singleTenth).equal (.ofLocale "en") (number doubleTenth) = true := by
  have singleText : singleTenth.render = ['0', '.', '1'] := by decide +kernel
  have doubleText : doubleTenth.render = ['0', '.', '1'] := by decide +kernel
  have tenth : Decimal.value ⟨false, 1, 1, by decide, by decide⟩ = spelled ['0', '.', '1'] :=
    (Decimal.spelled_render _).symm
  have hasDecimal : singleTenth.HasDecimal := ⟨_, tenth.trans (congrArg spelled singleText.symm)⟩
  have otherHasDecimal : doubleTenth.HasDecimal :=
    ⟨_, tenth.trans (congrArg spelled doubleText.symm)⟩
  have finite : singleTenth.isFinite = true := rfl
  have otherFinite : doubleTenth.isFinite = true := rfl
  obtain ⟨ordering, _, equalIff, byValue, _, _⟩ :=
    compare_numbers (.ofLocale "en") finite otherFinite
  have same : singleTenth.value = doubleTenth.value := by
    rw [Number.value, Number.value, singleText, doubleText]
  refine ⟨finite, otherFinite, ?_, hasDecimal, otherHasDecimal, ?_⟩
  · rw [singleTenth, doubleTenth, toDouble, (Binary.convert_spec rfl).2, toDouble]
    norm_num [Binary.toRat, Binary.Magnitude.toRat]
  · rw [equalIff, byValue hasDecimal otherHasDecimal, same]
    exact compare_eq_iff_eq.mpr rfl

/-- The greatest decimal. -/
def greatestDecimal : Number :=
  .decimal ((Decimal.ofInt? 79228162514264337593543950335).get (by decide))

/-- The number with 53 bits after the greatest decimal. -/
def doubleLimit : Number :=
  .double (.finite false (2 ^ 52) 44 (by decide))

/-- Numbers of different values may be equal. -/
theorem equal_numbers_of_different_values :
    greatestDecimal.isFinite = true ∧ doubleLimit.isFinite = true ∧
      (number greatestDecimal).equal (.ofLocale "en") (number doubleLimit) = true ∧
      greatestDecimal.value ≠ doubleLimit.value := by
  have text : doubleLimit.render = positional 79228162514264340000000000000 0 := by
    decide +kernel
  refine ⟨rfl, rfl, by decide +kernel, ?_⟩
  rw [value_eq_value rfl rfl, Decimal.value_of_ofInt? (Option.some_get _).symm, Number.value, text,
    spelled_positional]
  norm_num

end Value

end TemplateLanguage
