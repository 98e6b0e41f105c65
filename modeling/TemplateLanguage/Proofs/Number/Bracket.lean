import TemplateLanguage.Number.Cast
import TemplateLanguage.Proofs.Decimal.Bracket
import TemplateLanguage.Proofs.Number.Comparison

/-!
# The integers next to a number

`floor` and `ceiling` lead to the integers next to a number.  A number that has a decimal
lies between the same integers as the decimal does, unless it is too small to leave one
of the places of a decimal.  A number that is too great for a decimal is integral, so it
stays as it is; but the text of a number with 24 bits changes when it gets 53 bits.
-/

namespace TemplateLanguage

open Rounding

/-! ## Great binary numbers -/

namespace Binary

variable {format : BinaryFormat}

/-- A number that is greater than every mantissa has no places after the point. -/
theorem exponent_nonneg_of_large {number : Magnitude}
    (precise : number.mantissa < 2 ^ format.precision)
    (large : 2 ^ format.precision ≤ number.toRat) : 0 ≤ number.exponent := by
  by_contra fraction
  have bound : (number.mantissa : ℚ) < 2 ^ format.precision := by exact_mod_cast precise
  have unit : (2 : ℚ) ^ number.exponent ≤ 1 :=
    zpow_le_one_of_nonpos₀ one_le_two (not_le.mp fraction).le
  have small : number.toRat ≤ number.mantissa :=
    mul_le_of_le_one_right (Nat.cast_nonneg _) unit
  exact (large.trans small).not_gt bound

theorem exists_shown_eq_natCast (format : BinaryFormat) {number : Magnitude}
    (whole : 0 ≤ number.exponent) : ∃ integer : ℕ, number.shown format = integer := by
  rw [Magnitude.shown]
  by_cases zero : number.mantissa = 0
  · exact ⟨0, by rw [if_pos zero, Nat.cast_zero]⟩
  · have least := (shortest_spec format zero).2.1
    rw [min_eq_left whole] at least
    obtain ⟨zeros, same⟩ := Int.eq_ofNat_of_zero_le least
    refine ⟨(shortest format number).coefficient * 10 ^ zeros, ?_⟩
    rw [if_neg zero, Scientific.toRat, same, zpow_natCast]
    push_cast
    rfl

/-- Such a number stays as it is, and its text has no places either. -/
theorem toIntegral_of_large {number : Binary format} (up : Bool) (finite : number.isFinite = true)
    (large : 2 ^ format.precision ≤ |number.toRat|) :
    number.toIntegral up = number ∧ ∃ integer : ℤ, spelled number.render = integer := by
  cases number with
  | nan | infinite => cases finite
  | finite negative mantissa exponent canonical =>
      rw [abs_toRat] at large
      have whole : 0 ≤ Magnitude.exponent ⟨mantissa, exponent⟩ :=
        exponent_nonneg_of_large canonical.1 large
      refine ⟨if_pos whole, ?_⟩
      obtain ⟨integer, same⟩ := exists_shown_eq_natCast format whole
      rw [spelled_render_finite, same]
      cases negative with
      | false => exact ⟨integer, (Int.cast_natCast integer).symm⟩
      | true => exact ⟨-integer, by push_cast; rfl⟩

end Binary

namespace Binary

variable {format : BinaryFormat} {number : Binary format}

/-- The number that the text of a finite binary number spells lies between the same integers when
it is rounded to the places of a decimal. -/
theorem sameBrackets_toPlaces_spelled (finite : number.isFinite = true)
    (precise : 40 * 2 ^ format.precision ≤ 10 ^ 28) :
    SameBrackets (spelled number.render) (toPlaces (spelled number.render)) := by
  obtain ⟨negative, coefficient, places, text, _, few⟩ := exists_render_eq finite
  rw [text]
  exact Decimal.sameBrackets_toPlaces negative (few.symm.imp_right fun few => few.trans_le precise)

end Binary

namespace Number

theorem exists_toDecimal?_sameBrackets {number : Number} (finite : number.isFinite = true)
    (small : ¬number.TooGreat) :
    ∃ decimal, number.toDecimal? = some decimal ∧ SameBrackets number.value decimal.value := by
  obtain ⟨decimal, converts, value⟩ := exists_toDecimal?_toPlaces finite small
  refine ⟨decimal, converts, ?_⟩
  rw [value]
  cases floating : number.isFloating with
  | false =>
      obtain ⟨exact, same⟩ := exists_toDecimal? floating
      rw [value_eq_value floating same, Decimal.toPlaces_value]
      exact .refl _
  | true =>
      cases number with
      | float value => exact Binary.sameBrackets_toPlaces_spelled finite (by decide)
      | double value => exact Binary.sameBrackets_toPlaces_spelled finite (by decide)
      | _ => cases floating

/-- A number that is too great for a decimal is an integer with 53 bits. -/
theorem large_toDouble {number : Number} (finite : number.isFinite = true)
    (tooGreat : number.TooGreat) :
    2 ^ BinaryFormat.double.precision ≤ |number.toDouble.toRat| := by
  have side := sameSide_toDouble finite
  rw [TooGreat, Decimal.mantissaLimit_eq_pow] at tooGreat
  have beyond : 2 ^ 96 ≤ |number.toDouble.toRat| := by
    rcases le_abs.mp tooGreat with high | low
    · exact (side.high high).trans (le_abs_self _)
    · exact (le_neg_of_le_neg (side.low (le_neg_of_le_neg low))).trans (neg_le_abs _)
  exact (pow_le_pow_right₀ one_le_two (by decide)).trans beyond

end Number

namespace NumericCast

/-! ## Rounding to the integers next to a number -/

variable {number : Number}

theorem apply_of_toDecimal? {decimal : Decimal} (converts : number.toDecimal? = some decimal) :
    NumericCast.floor.apply number = .ok (.decimal decimal.floor) ∧
      NumericCast.ceiling.apply number = .ok (.decimal decimal.ceiling) := by
  rw [apply, apply, roundWith, roundWith, converts]
  exact ⟨rfl, rfl⟩

theorem apply_of_tooGreat (finite : number.isFinite = true) (tooGreat : number.TooGreat) :
    NumericCast.floor.apply number = .ok (.double number.toDouble) ∧
      NumericCast.ceiling.apply number = .ok (.double number.toDouble) := by
  have wide := Number.isFinite_toDouble finite
  have large := Number.large_toDouble finite tooGreat
  rw [apply, apply, roundWith, roundWith, Number.toDecimal?_of_tooGreat tooGreat]
  simp only [if_pos wide, Binary.floor, Binary.ceiling,
    (Binary.toIntegral_of_large _ wide large).1, and_self]

/-- A finite number lies between its floor and its ceiling, and these are integers.  The
two inequalities do not speak of a number that the places of a decimal round to zero from
the wrong side.  A number with 24 bits that is too great for a decimal gets 53 bits and
keeps its exact value, though perhaps not its text. -/
theorem apply_floor_ceiling (finite : number.isFinite = true) :
    ∃ (floor ceiling : Number) (below above : ℤ),
      NumericCast.floor.apply number = .ok floor ∧
      NumericCast.ceiling.apply number = .ok ceiling ∧
      floor.value = below ∧ ceiling.value = above ∧
      ((∀ value, number = .float value → ¬number.TooGreat) →
        (¬(-Decimal.halfPlace < number.value ∧ number.value < 0) →
          below ≤ number.value ∧ number.value < below + 1) ∧
        (¬(0 < number.value ∧ number.value < Decimal.halfPlace) →
          above - 1 < number.value ∧ number.value ≤ above)) ∧
      ∀ value, number = .float value → number.TooGreat →
        ∃ wide, floor = .double wide ∧ ceiling = .double wide ∧ wide.toRat = value.toRat := by
  by_cases tooGreat : number.TooGreat
  · obtain ⟨floors, ceils⟩ := apply_of_tooGreat finite tooGreat
    have large := Number.large_toDouble finite tooGreat
    obtain ⟨integer, same⟩ :=
      (Binary.toIntegral_of_large false (Number.isFinite_toDouble finite) large).2
    refine ⟨_, _, integer, integer, floors, ceils, same, same, ?_, ?_⟩
    · intro wide
      have kept : number.value = integer := by
        rw [← same]
        cases number with
        | float value => exact absurd tooGreat (wide value rfl)
        | double value => rfl
        | _ => cases Number.isFloating_of_tooGreat tooGreat
      rw [kept]
      exact ⟨fun _ => ⟨le_rfl, lt_add_one _⟩, fun _ => ⟨sub_one_lt _, le_rfl⟩⟩
    · rintro value rfl _
      exact ⟨_, rfl, rfl, (Binary.convert_spec finite).2⟩
  · obtain ⟨decimal, converts, same⟩ := Number.exists_toDecimal?_sameBrackets finite tooGreat
    obtain ⟨floors, ceils⟩ := apply_of_toDecimal? converts
    refine ⟨_, _, ⌊decimal.value⌋, ⌈decimal.value⌉, floors, ceils, ?_, ?_, ?_, ?_⟩
    · rw [Number.value_eq_value rfl rfl, Decimal.value_floor]
    · rw [Number.value_eq_value rfl rfl, Decimal.value_ceiling]
    · intro _
      constructor
      · intro kept
        rw [same.floor_eq kept]
        exact ⟨Int.floor_le _, Int.lt_floor_add_one _⟩
      · intro kept
        rw [same.ceil_eq kept]
        exact ⟨by linarith [Int.ceil_lt_add_one number.value], Int.le_ceil _⟩
    · exact fun _ _ great => absurd great tooGreat

/-- Minus three tenths, rounded to 53 bits. -/
def minusThreeTenths : Number :=
  .double (.finite true 5404319552844595 (-54) (by decide))

/-- Minus three tenths lie between minus one and zero. -/
theorem apply_floor_ceiling_minusThreeTenths :
    minusThreeTenths.isFinite = true ∧
      ∃ floor ceiling, NumericCast.floor.apply minusThreeTenths = .ok floor ∧
        NumericCast.ceiling.apply minusThreeTenths = .ok ceiling ∧
        floor.value = -1 ∧ ceiling.value = 0 := by
  obtain ⟨floor, ceiling, below, above, floors, ceils, floorValue, ceilingValue, next, _⟩ :=
    apply_floor_ceiling (show minusThreeTenths.isFinite = true from rfl)
  obtain ⟨nextBelow, nextAbove⟩ := next fun _ float => by cases float
  have text : minusThreeTenths.render = signText true ++ positional 3 1 := by decide +kernel
  have value : minusThreeTenths.value = -(3 / 10) := by
    rw [Number.value, text, spelled_signText]
    norm_num
  rw [value] at nextBelow nextAbove
  obtain ⟨belowLe, belowLt⟩ := nextBelow (by norm_num [Decimal.halfPlace])
  obtain ⟨aboveLt, aboveLe⟩ := nextAbove (by norm_num)
  have one : below = -1 := by
    have least : (-2 : ℚ) < below := by linarith
    have greatest : (below : ℚ) < 0 := by linarith
    have leastInt : -2 < below := by exact_mod_cast least
    have greatestInt : below < 0 := by exact_mod_cast greatest
    omega
  have zero : above = 0 := by
    have least : (-1 : ℚ) < above := by linarith
    have greatest : (above : ℚ) < 1 := by linarith
    have leastInt : -1 < above := by exact_mod_cast least
    have greatestInt : above < 1 := by exact_mod_cast greatest
    omega
  refine ⟨rfl, floor, ceiling, floors, ceils, ?_, ?_⟩
  · rw [floorValue, one]
    norm_num
  · rw [ceilingValue, zero, Int.cast_zero]

/-- The number with 24 bits next to the thirty-eighth power of ten. -/
def greatSingle : Number :=
  .float (.finite false 9860761 103 (by decide))

/-- The same number with 53 bits. -/
def wideSingle : Binary .double :=
  .finite false 5293955751084032 74 (by decide)

/-- Its text is that of the power of ten with 24 bits, but a smaller one with 53 bits. -/
theorem apply_floor_greatSingle :
    greatSingle.isFinite = true ∧ NumericCast.floor.apply greatSingle = .ok (.double wideSingle) ∧
      Number.value (.double wideSingle) = 99999996802856920000000000000000000000 ∧
      greatSingle.value = 10 ^ 38 ∧
      ¬(Number.value (.double wideSingle) ≤ greatSingle.value ∧
        greatSingle.value < Number.value (.double wideSingle) + 1) := by
  have text : greatSingle.render = positional (10 ^ 38) 0 := by decide +kernel
  have wideText : Number.render (.double wideSingle) =
      positional 99999996802856920000000000000000000000 0 := by decide +kernel
  have value : greatSingle.value = 10 ^ 38 := by
    rw [Number.value, text, spelled_positional]
    norm_num
  have wideValue : Number.value (.double wideSingle) = 99999996802856920000000000000000000000 := by
    rw [Number.value, wideText, spelled_positional]
    norm_num
  refine ⟨rfl, by decide +kernel, wideValue, value, ?_⟩
  rw [value, wideValue]
  norm_num

end NumericCast

end TemplateLanguage
