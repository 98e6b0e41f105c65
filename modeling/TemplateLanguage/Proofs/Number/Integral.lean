import TemplateLanguage.Number.Cast
import TemplateLanguage.Proofs.Decimal.Floor
import TemplateLanguage.Proofs.Number.Value

/-!
# Casts to integers

A cast to an integer of some width takes a number that is not a floating-point number
to its integer part, rounding toward zero, and keeps the low bits of it.  So a cast to
a greater width in between changes nothing.  Casts of floating-point numbers clamp at
32 bits or at 64 before they keep any bits; but whatever the number is, fewer bits than
32 are the low bits of its 32.
-/

namespace TemplateLanguage

/-- The integer part of a rational number, rounding toward zero. -/
def towardZero (value : ℚ) : ℤ :=
  if 0 ≤ value then ⌊value⌋ else ⌈value⌉

theorem towardZero_intCast (integer : ℤ) : towardZero integer = integer := by
  rw [towardZero]
  split
  · exact Int.floor_intCast integer
  · exact Int.ceil_intCast integer

theorem towardZero_neg (value : ℚ) : towardZero (-value) = -towardZero value := by
  rw [towardZero, towardZero, Int.floor_neg, Int.ceil_neg]
  rcases lt_trichotomy value 0 with negative | rfl | positive
  · rw [if_pos (by linarith), if_neg (by linarith)]
  · simp
  · rw [if_neg (by linarith), if_pos (by linarith)]

theorem Decimal.toInt_eq_towardZero (number : Decimal) :
    number.toInt = towardZero number.value := by
  have scale : (0 : ℚ) < 10 ^ number.scale := by positivity
  have nonneg : (0 : ℚ) ≤ (number.fraction : ℚ) / 10 ^ number.scale := by positivity
  have small : (number.fraction : ℚ) / 10 ^ number.scale < 1 := by
    rw [div_lt_one scale]
    exact_mod_cast Nat.mod_lt number.mantissa number.unit_pos
  have whole : towardZero (number.whole + (number.fraction : ℚ) / 10 ^ number.scale) =
      number.whole := by
    rw [towardZero, if_pos (by positivity), Int.floor_eq_iff]
    push_cast
    constructor <;> linarith
  rw [Decimal.toInt, value_eq_parts]
  split
  · rw [towardZero_neg, whole]
  · rw [whole]

namespace Number

variable {number : Number}

/-- Without clamping, the integer part is that of the value. -/
theorem integerPart_eq_towardZero (exact : number.isFloating = false) (least greatest : ℤ) :
    number.integerPart least greatest = towardZero number.value := by
  cases represents : number.integer? with
  | some integer =>
      rw [value_of_integer? represents, towardZero_intCast]
      cases number with
      | byte | short | int | long => exact Option.some.inj represents
      | float | double | decimal => cases represents
  | none =>
      cases number with
      | byte | short | int | long => cases represents
      | float | double => cases exact
      | decimal value =>
          rw [value_eq_value rfl rfl]
          exact value.toInt_eq_towardZero

theorem toInt16_eq (number : Number) : number.toInt16 = .ofInt number.toInt32.toInt := by
  cases number with
  | long value =>
      rw [toInt32, Int16.ofInt_int32ToInt, Int32.toInt16_ofInt]
      rfl
  | _ => rfl

theorem toInt8_eq (number : Number) : number.toInt8 = .ofInt number.toInt32.toInt := by
  cases number with
  | long value =>
      rw [toInt32, Int8.ofInt_int32ToInt, Int32.toInt8_ofInt]
      rfl
  | _ => rfl

end Number

namespace NumericCast

/-- Number of bits of the integers that a cast yields. -/
def width? : NumericCast → Option ℕ
  | byte => some 8
  | short => some 16
  | int => some 32
  | long => some 64
  | _ => none

/-- The number in the representation of a cast to integers that has the low bits of an
integer. -/
def wrap? : NumericCast → ℤ → Option Number
  | byte, integer => some (.byte (.ofInt integer))
  | short, integer => some (.short (.ofInt integer))
  | int, integer => some (.int (.ofInt integer))
  | long, integer => some (.long (.ofInt integer))
  | _, _ => none

variable {kind wide narrow : NumericCast} {width wideWidth : ℕ}
  {number result : Number}

/-- A cast to integers yields the integer that has so many of the low bits. -/
theorem exists_wrap?_eq (integral : kind.width? = some width) (integer : ℤ) :
    ∃ result, kind.wrap? integer = some result ∧ result.typeName = kind.name ∧
      result.integer? = some (integer.bmod (2 ^ width)) := by
  cases kind with
  | byte =>
      cases integral
      exact ⟨_, rfl, rfl, congrArg some Int8.toInt_ofInt⟩
  | short =>
      cases integral
      exact ⟨_, rfl, rfl, congrArg some Int16.toInt_ofInt⟩
  | int =>
      cases integral
      exact ⟨_, rfl, rfl, congrArg some Int32.toInt_ofInt⟩
  | long =>
      cases integral
      exact ⟨_, rfl, rfl, congrArg some Int64.toInt_ofInt⟩
  | float | double | floor | ceiling | round => cases integral

/-- The low bits of an integer are those of more of its low bits. -/
theorem ofInt_bmod (le : width ≤ wideWidth) (integer : ℤ) :
    BitVec.ofInt width (integer.bmod (2 ^ wideWidth)) = BitVec.ofInt width integer := by
  apply BitVec.eq_of_toInt_eq
  rw [BitVec.toInt_ofInt, BitVec.toInt_ofInt]
  exact Int.bmod_bmod_of_dvd (Nat.pow_dvd_pow 2 le)

theorem wrap?_bmod (integral : narrow.width? = some width) (le : width ≤ wideWidth)
    (integer : ℤ) : narrow.wrap? (integer.bmod (2 ^ wideWidth)) = narrow.wrap? integer := by
  have same := ofInt_bmod le integer
  cases narrow with
  | byte =>
      cases integral
      exact congrArg (fun bits => some (Number.byte ⟨⟨bits⟩⟩)) same
  | short =>
      cases integral
      exact congrArg (fun bits => some (Number.short ⟨⟨bits⟩⟩)) same
  | int =>
      cases integral
      exact congrArg (fun bits => some (Number.int ⟨⟨bits⟩⟩)) same
  | long =>
      cases integral
      exact congrArg (fun bits => some (Number.long ⟨⟨bits⟩⟩)) same
  | float | double | floor | ceiling | round => cases integral

/-- A cast to at most 32 bits keeps the low bits of the cast to 32. -/
theorem apply_of_wrap?_toInt32 (integral : kind.width? = some width) (few : width ≤ 32)
    (wrapped : kind.wrap? number.toInt32.toInt = some result) :
    kind.apply number = .ok result := by
  cases kind with
  | byte =>
      cases wrapped
      rw [apply, Number.toInt8_eq]
  | short =>
      cases wrapped
      rw [apply, Number.toInt16_eq]
  | int =>
      cases wrapped
      rw [apply, Int32.ofInt_toInt]
  | long =>
      cases integral
      omega
  | float | double | floor | ceiling | round => cases integral

/-- A cast of a number that is not a floating-point number keeps the low bits of its
integer part. -/
theorem apply_of_wrap?_towardZero (integral : kind.width? = some width)
    (exact : number.isFloating = false)
    (wrapped : kind.wrap? (towardZero number.value) = some result) :
    kind.apply number = .ok result := by
  by_cases few : width ≤ 32
  · have low : number.toInt32.toInt = (towardZero number.value).bmod (2 ^ 32) := by
      rw [Number.toInt32, Number.integerPart_eq_towardZero exact, Int32.toInt_ofInt]
      rfl
    apply apply_of_wrap?_toInt32 integral few
    rw [low, wrap?_bmod integral few, wrapped]
  · cases kind with
    | long =>
        cases wrapped
        rw [apply, Number.toInt64, Number.integerPart_eq_towardZero exact]
    | byte | short | int =>
        cases integral
        omega
    | float | double | floor | ceiling | round => cases integral

theorem eq_bmod_of_apply {integer : ℤ} (exact : number.isFloating = false)
    (integral : kind.width? = some width) (applied : kind.apply number = .ok result)
    (represents : result.integer? = some integer) :
    integer = (towardZero number.value).bmod (2 ^ width) := by
  obtain ⟨other, wrapped, _, otherRepresents⟩ :=
    exists_wrap?_eq integral (towardZero number.value)
  rw [apply_of_wrap?_towardZero integral exact wrapped, Except.ok.injEq] at applied
  rw [← applied, otherRepresents, Option.some.injEq] at represents
  exact represents.symm

/-- Two casts that keep bits of one integer yield the same as the narrower one of them. -/
theorem apply_bind_apply (wideIntegral : wide.width? = some wideWidth)
    (integral : narrow.width? = some width) (le : width ≤ wideWidth) {integer : ℤ}
    (wideApplies : ∀ result, wide.wrap? integer = some result → wide.apply number = .ok result)
    (applies : ∀ result, narrow.wrap? integer = some result → narrow.apply number = .ok result) :
    wide.apply number >>= narrow.apply = narrow.apply number := by
  obtain ⟨between, widened, _, represents⟩ := exists_wrap?_eq wideIntegral integer
  obtain ⟨result, wrapped, _⟩ := exists_wrap?_eq integral integer
  have exact : between.isFloating = false := by
    cases between with
    | float | double => cases represents
    | _ => rfl
  have again : narrow.apply between = .ok result := by
    apply apply_of_wrap?_towardZero integral exact
    rw [Number.value_of_integer? represents, towardZero_intCast, wrap?_bmod integral le, wrapped]
  rw [wideApplies between widened, applies result wrapped]
  exact again

/-- The casts to integers.  Those to 16 and to 8 bits keep the low bits of the one to 32;
if the number is not a floating-point number, all of them keep the low bits of its integer
part.  So a cast through a greater width yields the same, unless it takes a floating-point
number to more than 32 bits. -/
theorem apply_integral (number : Number) :
    ∃ (long : Int64) (int : Int32) (short : Int16) (byte : Int8),
      NumericCast.long.apply number = .ok (.long long) ∧
      NumericCast.int.apply number = .ok (.int int) ∧
      NumericCast.short.apply number = .ok (.short short) ∧
      NumericCast.byte.apply number = .ok (.byte byte) ∧
      short.toBitVec = int.toBitVec.setWidth 16 ∧ byte.toBitVec = int.toBitVec.setWidth 8 ∧
      (number.isFloating = false →
        long.toInt = (towardZero number.value).bmod (2 ^ 64) ∧
        int.toInt = (towardZero number.value).bmod (2 ^ 32) ∧
        short.toInt = (towardZero number.value).bmod (2 ^ 16) ∧
        byte.toInt = (towardZero number.value).bmod (2 ^ 8)) ∧
      ∀ (wide narrow : NumericCast) (wideWidth width : ℕ), wide.width? = some wideWidth →
        narrow.width? = some width → width ≤ wideWidth →
        wideWidth ≤ 32 ∨ number.isFloating = false →
          wide.apply number >>= narrow.apply = narrow.apply number := by
  refine ⟨number.toInt64, number.toInt32, number.toInt16, number.toInt8, rfl, rfl, rfl, rfl,
    ?_, ?_, ?_, ?_⟩
  · rw [Number.toInt16_eq, Int16.ofInt_int32ToInt, Int32.toBitVec_toInt16]
    exact BitVec.signExtend_eq_setWidth_of_le _ (by decide)
  · rw [Number.toInt8_eq, Int8.ofInt_int32ToInt, Int32.toBitVec_toInt8]
    exact BitVec.signExtend_eq_setWidth_of_le _ (by decide)
  · intro exact
    exact ⟨eq_bmod_of_apply exact (show long.width? = some 64 from rfl) rfl rfl,
      eq_bmod_of_apply exact (show int.width? = some 32 from rfl) rfl rfl,
      eq_bmod_of_apply exact (show short.width? = some 16 from rfl) rfl rfl,
      eq_bmod_of_apply exact (show byte.width? = some 8 from rfl) rfl rfl⟩
  · intro wide narrow wideWidth width wideIntegral integral le exact
    rcases exact with few | exact
    · exact apply_bind_apply wideIntegral integral le
        (fun _ => apply_of_wrap?_toInt32 wideIntegral few)
        (fun _ => apply_of_wrap?_toInt32 integral (le.trans few))
    · exact apply_bind_apply wideIntegral integral le
        (fun _ => apply_of_wrap?_towardZero wideIntegral exact)
        (fun _ => apply_of_wrap?_towardZero integral exact)

/-- The decimal `-18446744073709551999.5`. -/
def belowLong : Number :=
  .decimal ((Decimal.ofParts? true 184467440737095519995 1).get (by decide))

/-- A decimal with a place after the point, and beyond the integers of 64 bits. -/
theorem apply_integral_belowLong :
    belowLong.isFloating = false ∧ towardZero belowLong.value = -18446744073709551999 ∧
      (∃ low, NumericCast.byte.apply belowLong = .ok (.byte low) ∧ low.toInt = -127) ∧
      NumericCast.long.apply belowLong >>= NumericCast.byte.apply =
        NumericCast.byte.apply belowLong := by
  obtain ⟨_, _, _, low, _, _, _, lowest, _, _, bits, through⟩ := apply_integral belowLong
  have cut : towardZero belowLong.value = -18446744073709551999 := by
    rw [← Number.integerPart_eq_towardZero rfl 0 0]
    decide
  refine ⟨rfl, cut, ⟨low, lowest, ?_⟩, ?_⟩
  · rw [(bits rfl).2.2.2, cut]
    decide
  · exact through .long .byte 64 8 rfl rfl (by decide) (Or.inr rfl)

end NumericCast

end TemplateLanguage
