import TemplateLanguage.Number.Basic
import TemplateLanguage.Proofs.Decimal.Spelling

/-!
# The values of numbers

A number is worth what its text spells.  For integers and decimals this is the
number itself.  A binary number has the shortest text that identifies it, so the
number nearest to one tenth is worth one tenth.
-/

namespace TemplateLanguage

namespace Number

/-- The number that the text of a number spells. -/
def value (number : Number) : ℚ :=
  spelled number.render

theorem spelled_renderInt (integer : ℤ) : spelled (renderInt integer) = integer := by
  rw [renderInt, ← positional_of_zero, spelled_signText, pow_zero, div_one]
  by_cases negative : integer < 0
  · rw [if_pos (decide_eq_true negative)]
    have size : ((integer.natAbs : ℤ) : ℚ) = -integer := by
      rw [Int.ofNat_natAbs_of_nonpos negative.le, Int.cast_neg]
    rw [Int.cast_natCast] at size
    rw [size, neg_neg]
  · have size : ((integer.natAbs : ℤ) : ℚ) = integer := by
      rw [Int.natAbs_of_nonneg (Int.not_lt.mp negative)]
    rw [Int.cast_natCast] at size
    rw [if_neg (by simp [negative]), size]

/-- The integer that a number represents, if it is neither a decimal nor a
floating-point number. -/
def integer? : Number → Option ℤ
  | byte value => some value.toInt
  | short value => some value.toInt
  | int value => some value.toInt
  | long value => some value.toInt
  | _ => none

section

variable {number : Number} {integer : ℤ} {decimal : Decimal}

/-- Integers have at most 64 bits. -/
theorem bounds_of_integer? (represents : number.integer? = some integer) :
    -2 ^ 63 ≤ integer ∧ integer < 2 ^ 63 := by
  cases number with
  | byte value =>
      cases represents
      have := value.le_toInt
      have := value.toInt_lt
      omega
  | short value =>
      cases represents
      have := value.le_toInt
      have := value.toInt_lt
      omega
  | int value =>
      cases represents
      have := value.le_toInt
      have := value.toInt_lt
      omega
  | long value =>
      cases represents
      exact ⟨value.le_toInt, value.toInt_lt⟩
  | _ => cases represents

/-- Integers are converted as integers, whatever their width. -/
theorem eq_of_integer? (represents : number.integer? = some integer) :
    number.render = renderInt integer ∧ number.toDecimal? = Decimal.ofInt? integer ∧
      number.toDouble = Binary.ofInt integer := by
  cases number with
  | byte | short | int | long =>
      cases represents
      exact ⟨rfl, rfl, rfl⟩
  | _ => cases represents

theorem value_of_integer? (represents : number.integer? = some integer) :
    number.value = integer := by
  rw [value, (eq_of_integer? represents).1, spelled_renderInt]

/-- A number that is not a floating-point number is worth as much as its decimal. -/
theorem value_eq_value (exact : number.isFloating = false)
    (converts : number.toDecimal? = some decimal) : number.value = decimal.value := by
  cases represents : number.integer? with
  | some integer =>
      rw [(eq_of_integer? represents).2.1] at converts
      rw [value_of_integer? represents, Decimal.value_of_ofInt? converts]
  | none =>
      cases number with
      | byte | short | int | long => cases represents
      | float | double => cases exact
      | decimal value =>
          cases converts
          exact Decimal.spelled_render decimal

end

end Number

end TemplateLanguage
