import TemplateLanguage.Binary.Shortest
import TemplateLanguage.Proofs.Binary.Rounding

/-!
# The shortest text identifies its number

The search for the shortest text ends with a decimal number in the interval of the
reals that round to the given number.  So the text is read back as the same number,
and the texts of a format are ordered as its numbers are.
-/

namespace TemplateLanguage

open Rounding

/-! ## Decimal digits with an exponent -/

namespace Scientific

/-- The rational number that digits with an exponent stand for. -/
def toRat (number : Scientific) : ℚ :=
  number.coefficient * 10 ^ number.exponent

theorem value_divisor_pos (number : Scientific) : 0 < number.value.divisor :=
  Quotient.scale_divisor_pos Nat.one_pos (by decide) _

theorem toRat_value (number : Scientific) : number.value.toRat = number.toRat := by
  rw [value, Quotient.toRat_scale, Quotient.toRat, Nat.cast_one, div_one, toRat, Nat.cast_ofNat]

/-- Stripping keeps the number and leaves no zero at the end of its digits. -/
theorem strip_spec {coefficient : ℕ} (nonzero : coefficient ≠ 0) (exponent : ℤ) :
    (strip coefficient exponent).toRat = coefficient * 10 ^ exponent ∧
      exponent ≤ (strip coefficient exponent).exponent ∧
      (strip coefficient exponent).coefficient % 10 ≠ 0 := by
  induction coefficient, exponent using strip.induct with
  | case1 coefficient exponent shorter ih =>
      have tenth : coefficient = coefficient / 10 * 10 := by omega
      obtain ⟨value, le, digit⟩ := ih (by omega)
      rw [strip, dif_pos shorter]
      refine ⟨?_, by omega, digit⟩
      rw [value, zpow_add_one₀ (by norm_num)]
      nth_rewrite 2 [tenth]
      push_cast
      ring
  | case2 coefficient exponent complete =>
      rw [strip, dif_neg complete]
      exact ⟨rfl, le_rfl, fun zero => complete ⟨nonzero, zero⟩⟩

end Scientific

namespace Binary

variable {format : BinaryFormat}

/-! ## Intervals -/

namespace Interval

/-- A number lies between the ends of an interval, or on an end that belongs to it. -/
def Holds (interval : Interval) (number : ℚ) : Prop :=
  interval.low.toRat < number ∧ number < interval.high.toRat ∨
    interval.closed = true ∧ interval.low.toRat ≤ number ∧ number ≤ interval.high.toRat

theorem contains_iff {interval : Interval} {quotient : Quotient}
    (low : 0 < interval.low.divisor) (high : 0 < interval.high.divisor)
    (positive : 0 < quotient.divisor) :
    interval.contains quotient = true ↔ interval.Holds quotient.toRat := by
  have outcome : interval.contains quotient = true ↔
      interval.low.order quotient = .lt ∧ quotient.order interval.high = .lt ∨
        interval.closed = true ∧ interval.low.order quotient ≠ .gt ∧
          quotient.order interval.high ≠ .gt := by
    rw [contains]
    cases interval.low.order quotient <;> cases quotient.order interval.high <;> simp
  rw [outcome, Quotient.order_eq_compare low positive,
    Quotient.order_eq_compare positive high, compare_lt_iff_lt, compare_lt_iff_lt,
    compare_le_iff_le, compare_le_iff_le, Holds]

end Interval

/-! ## The interval about a number -/

/-- The distance from a number to the low end of its interval, in units of its last bit. -/
def gapBelow (format : BinaryFormat) (number : Magnitude) : ℚ :=
  if number.mantissa = 2 ^ (format.precision - 1) ∧ number.exponent ≠ format.least then 1 / 4
  else 1 / 2

theorem toRat_around {number : Magnitude} (nonzero : number.mantissa ≠ 0) :
    (Interval.around format number).low.toRat =
        (number.mantissa - gapBelow format number) * 2 ^ number.exponent ∧
      (Interval.around format number).high.toRat =
        (number.mantissa + 1 / 2) * 2 ^ number.exponent := by
  have quarter : (2 : ℚ) ^ number.exponent = 4 * 2 ^ (number.exponent - 2) := by
    rw [zpow_sub₀ two_ne_zero]
    norm_num
    ring
  have positive := Nat.pos_of_ne_zero nonzero
  simp only [Interval.around, Magnitude.toRat_value, Magnitude.toRat, quarter]
  constructor
  · rw [gapBelow, Nat.pow_eq]
    split
    · rw [Nat.cast_sub (by omega)]
      push_cast
      ring
    · rw [Nat.cast_sub (by omega)]
      push_cast
      ring
  · push_cast
    ring

/-- The bounds of an interval in units of the last bit of its number. -/
theorem bounds_of_holds {number : Magnitude} {point : ℚ} (nonzero : number.mantissa ≠ 0)
    (holds : (Interval.around format number).Holds point) :
    number.mantissa - gapBelow format number ≤ point / 2 ^ number.exponent ∧
      point / 2 ^ number.exponent ≤ number.mantissa + 1 / 2 ∧
      (point / 2 ^ number.exponent = number.mantissa - gapBelow format number ∨
        point / 2 ^ number.exponent = number.mantissa + 1 / 2 → Even number.mantissa) := by
  have unit : (0 : ℚ) < 2 ^ number.exponent := zpow_pos two_pos _
  rw [Interval.Holds, (toRat_around nonzero).1, (toRat_around nonzero).2] at holds
  rw [le_div_iff₀ unit, div_le_iff₀ unit, div_eq_iff unit.ne', div_eq_iff unit.ne']
  rcases holds with ⟨low, high⟩ | ⟨closed, low, high⟩
  · exact ⟨low.le, high.le, fun ends => ends.elim (fun same => absurd same low.ne')
      (fun same => absurd same high.ne)⟩
  · exact ⟨low, high, fun _ => Nat.even_iff.mpr (by simpa [Interval.around] using closed)⟩

theorem gapBelow_le (format : BinaryFormat) (number : Magnitude) :
    gapBelow format number ≤ 1 / 2 := by
  rw [gapBelow]
  split <;> norm_num

theorem pos_of_holds {number : Magnitude} {point : ℚ} (nonzero : number.mantissa ≠ 0)
    (holds : (Interval.around format number).Holds point) : 0 < point := by
  have low := (bounds_of_holds nonzero holds).1
  have gap := gapBelow_le format number
  have some : (1 : ℚ) ≤ number.mantissa := by exact_mod_cast Nat.pos_of_ne_zero nonzero
  have ratio : 0 < point / 2 ^ number.exponent := by linarith
  exact (div_pos_iff_of_pos_right (zpow_pos two_pos _)).mp ratio

theorem nearestEven_of_holds {number : Magnitude} {point : ℚ} (nonzero : number.mantissa ≠ 0)
    (holds : (Interval.around format number).Holds point) :
    NearestEven number.mantissa (point / 2 ^ number.exponent) := by
  obtain ⟨low, high, tie⟩ := bounds_of_holds nonzero holds
  have gap := gapBelow_le format number
  constructor
  · rw [abs_le]
    push_cast
    constructor <;> linarith
  · intro half
    apply (Int.even_coe_nat _).mpr (tie _)
    push_cast at half
    rcases (abs_eq (by norm_num)).mp half with before | after
    · exact .inl (by linarith)
    · exact .inr (by linarith)

theorem log_lt_of_holds {number : Magnitude} {point : ℚ}
    (precise : number.mantissa < 2 ^ format.precision) (nonzero : number.mantissa ≠ 0)
    (holds : (Interval.around format number).Holds point) :
    Int.log 2 point < format.precision + number.exponent := by
  have bound : (number.mantissa : ℚ) + 1 ≤ 2 ^ format.precision := by exact_mod_cast precise
  have high := (bounds_of_holds nonzero holds).2.1
  rw [← Int.lt_zpow_iff_log_lt Nat.one_lt_two (pos_of_holds nonzero holds), Nat.cast_ofNat,
    zpow_add₀ two_ne_zero, zpow_natCast, ← div_lt_iff₀ (zpow_pos two_pos _)]
  linarith

/-- Only the interval about the least mantissa of full precision reaches to the numbers
with a smaller exponent. -/
theorem leading_of_holds {number : Magnitude} {point : ℚ} (nonzero : number.mantissa ≠ 0)
    (full : 2 ^ (format.precision - 1) ≤ number.mantissa)
    (holds : (Interval.around format number).Holds point)
    (below : point / 2 ^ number.exponent < 2 ^ (format.precision - 1)) :
    number.mantissa = 2 ^ (format.precision - 1) := by
  by_contra other
  have greater : (2 : ℚ) ^ (format.precision - 1) + 1 ≤ number.mantissa := by
    exact_mod_cast lt_of_le_of_ne full (Ne.symm other)
  have low := (bounds_of_holds nonzero holds).1
  have gap := gapBelow_le format number
  linarith

/-- The grid about what lies in the interval about a number is the grid of the number.
Only below the least mantissa of full precision the grid is finer, and there the number
is the nearest one as well. -/
theorem gridOf_of_holds {number : Magnitude} {point : ℚ} (full : 0 < format.precision)
    (canonical : format.Canonical number.mantissa number.exponent)
    (nonzero : number.mantissa ≠ 0)
    (holds : (Interval.around format number).Holds point) :
    gridOf format point = number.exponent ∨
      gridOf format point = number.exponent - 1 ∧
        NearestEven (2 * number.mantissa) (point / 2 ^ (number.exponent - 1)) := by
  obtain ⟨precise, least, _, lead⟩ := canonical
  have unit : (0 : ℚ) < 2 ^ number.exponent := zpow_pos two_pos _
  have positive := pos_of_holds nonzero holds
  have below := log_lt_of_holds precise nonzero holds
  have bits : ((format.precision - 1 : ℕ) : ℤ) = format.precision - 1 := by omega
  by_cases cut : number.exponent ≠ format.least ∧
      point / 2 ^ number.exponent < 2 ^ (format.precision - 1)
  · have leading := leading_of_holds nonzero (lead.resolve_right cut.1) holds cut.2
    have mantissa : (number.mantissa : ℚ) = 2 ^ (format.precision - 1) := by
      exact_mod_cast leading
    have low := (bounds_of_holds nonzero holds).1
    rw [gapBelow, if_pos ⟨leading, cut.1⟩, mantissa] at low
    have whole : (1 : ℚ) ≤ 2 ^ (format.precision - 1) := one_le_pow₀ one_le_two
    have above : format.precision - 1 + number.exponent - 1 ≤ Int.log 2 point := by
      rw [← Int.zpow_le_iff_le_log Nat.one_lt_two positive, Nat.cast_ofNat,
        zpow_sub_one₀ two_ne_zero, zpow_add₀ two_ne_zero, ← bits, zpow_natCast, mul_right_comm,
        ← le_div_iff₀ unit]
      linarith
    have under : Int.log 2 point < format.precision - 1 + number.exponent := by
      rw [← Int.lt_zpow_iff_log_lt Nat.one_lt_two positive, Nat.cast_ofNat,
        zpow_add₀ two_ne_zero, ← bits, zpow_natCast, ← div_lt_iff₀ unit]
      exact cut.2
    have twice : point / 2 ^ (number.exponent - 1) = 2 * (point / 2 ^ number.exponent) := by
      rw [zpow_sub_one₀ two_ne_zero]
      field_simp
    right
    constructor
    · rw [gridOf]
      omega
    · constructor
      · rw [twice, abs_le]
        push_cast
        constructor <;> linarith
      · exact fun _ => even_two_mul _
  · left
    rw [not_and_or, not_not, not_lt] at cut
    rw [gridOf]
    rcases cut with finest | large
    · omega
    · have above : format.precision - 1 + number.exponent ≤ Int.log 2 point := by
        rw [← Int.zpow_le_iff_le_log Nat.one_lt_two positive, Nat.cast_ofNat,
          zpow_add₀ two_ne_zero, ← bits, zpow_natCast, ← le_div_iff₀ unit]
        exact large
      omega

/-- What lies in the interval about a number is rounded to the number. -/
theorem toRat_nearestMagnitude_of_holds {number : Magnitude} {quotient : Quotient}
    (full : 0 < format.precision) (positive : 0 < quotient.divisor)
    (canonical : format.Canonical number.mantissa number.exponent)
    (nonzero : number.mantissa ≠ 0)
    (holds : (Interval.around format number).Holds quotient.toRat) :
    (nearestMagnitude format quotient).toRat = number.toRat := by
  obtain ⟨rounded, nearest, value⟩ := exists_nearestEven full positive
  rcases gridOf_of_holds full canonical nonzero holds with same | ⟨finer, nearer⟩
  · have exact := nearest.unique (same ▸ nearestEven_of_holds nonzero holds)
    rw [value, same, Magnitude.toRat, ← Int.cast_natCast, exact, Int.cast_natCast]
  · have exact := nearest.unique (finer ▸ nearer)
    rw [value, finer, Magnitude.toRat, ← Int.cast_natCast, exact, zpow_sub_one₀ two_ne_zero]
    push_cast
    ring

/-! ## The search -/

theorem contains_of_onGrid? {interval : Interval} {value : Quotient} {exponent : ℤ}
    {coefficient : ℕ} (found : onGrid? interval value exponent = some coefficient) :
    interval.contains (Scientific.value ⟨coefficient, exponent⟩) = true := by
  simp only [onGrid?] at found
  split at found
  · rename_i down up
    cases found
    split
    · exact down
    · exact up
  · rename_i down _
    cases found
    exact down
  · rename_i _ up
    cases found
    exact up
  · cases found

/-- The neighbour below a value is found on a grid if it lies in the interval. -/
theorem onGrid?_ne_none {interval : Interval} {value : Quotient} {exponent : ℤ} {whole : ℕ}
    (low : 0 < interval.low.divisor) (high : 0 < interval.high.divisor)
    (positive : 0 < value.divisor) (le : whole * 10 ^ exponent ≤ value.toRat)
    (lt : value.toRat < (whole + 1) * 10 ^ exponent)
    (holds : interval.Holds (whole * 10 ^ exponent)) :
    onGrid? interval value exponent ≠ none := by
  have unit : (0 : ℚ) < 10 ^ exponent := zpow_pos (by norm_num) _
  have divisor := Quotient.scale_divisor_pos positive (show 0 < 10 by decide) (-exponent)
  have scaled : ((value.scale 10 (-exponent)).dividend : ℚ) /
      (value.scale 10 (-exponent)).divisor = value.toRat / 10 ^ exponent := by
    rw [← Quotient.toRat, Quotient.toRat_scale, zpow_neg, Nat.cast_ofNat, div_eq_mul_inv]
  rw [← le_div_iff₀ unit, ← scaled, le_div_iff₀ (by exact_mod_cast divisor)] at le
  rw [← div_lt_iff₀ unit, ← scaled, div_lt_iff₀ (by exact_mod_cast divisor)] at lt
  have down : (value.scale 10 (-exponent)).dividend / (value.scale 10 (-exponent)).divisor =
      whole := Nat.div_eq_of_lt_le (by exact_mod_cast le) (by exact_mod_cast lt)
  have inside : interval.contains (Scientific.value ⟨whole, exponent⟩) = true := by
    rw [Interval.contains_iff low high (Scientific.value_divisor_pos _), Scientific.toRat_value]
    exact holds
  simp only [onGrid?, down, inside]
  cases interval.contains (Scientific.value ⟨whole + 1, exponent⟩) <;> simp

/-- A grid on which something is found stops the search, unless a coarser one does. -/
theorem exists_searchGrids_eq {interval : Interval} {value : Quotient} {finest : ℤ}
    (low : 0 < interval.low.divisor) (high : 0 < interval.high.divisor)
    (reached : onGrid? interval value finest ≠ none) (exponent : ℤ) (finer : ℕ)
    (coarse : finest ≤ exponent) (enough : exponent < finest + finer) :
    ∃ coefficient grid, finest ≤ grid ∧
      interval.Holds (Scientific.toRat ⟨coefficient, grid⟩) ∧
      searchGrids interval value exponent finer = Scientific.strip coefficient grid := by
  induction finer generalizing exponent with
  | zero => omega
  | succ finer ih =>
      rw [searchGrids]
      cases found : onGrid? interval value exponent with
      | some coefficient =>
          have inside := contains_of_onGrid? found
          rw [Interval.contains_iff low high (Scientific.value_divisor_pos _),
            Scientific.toRat_value] at inside
          exact ⟨coefficient, exponent, coarse, inside, rfl⟩
      | none =>
          have further : exponent ≠ finest := fun last => reached (last ▸ found)
          obtain ⟨coefficient, grid, le, inside, same⟩ := ih (exponent - 1) (by omega) (by omega)
          exact ⟨coefficient, grid, le, inside, same⟩

/-- The exponent of the finest grid that the search can need. -/
theorem exists_point (number : Magnitude) :
    ∃ whole : ℕ, number.toRat = whole * 10 ^ min 0 number.exponent := by
  rw [Magnitude.toRat]
  rcases Int.le_total 0 number.exponent with nonneg | nonpos
  · obtain ⟨exponent, same⟩ := Int.eq_ofNat_of_zero_le nonneg
    refine ⟨number.mantissa * 2 ^ exponent, ?_⟩
    rw [min_eq_left nonneg, zpow_zero, mul_one, same, zpow_natCast]
    push_cast
    rfl
  · obtain ⟨places, same⟩ := Int.eq_ofNat_of_zero_le (Int.neg_nonneg.mpr nonpos)
    refine ⟨number.mantissa * 5 ^ places, ?_⟩
    have exponent : number.exponent = -(places : ℤ) := by omega
    have split : (10 : ℚ) ^ places = 2 ^ places * 5 ^ places := by
      rw [← mul_pow]
      norm_num
    rw [min_eq_right nonpos, exponent, zpow_neg, zpow_neg, zpow_natCast, zpow_natCast, split]
    push_cast
    field_simp

theorem toRat_pos {number : Magnitude} (nonzero : number.mantissa ≠ 0) : 0 < number.toRat :=
  mul_pos (by exact_mod_cast Nat.pos_of_ne_zero nonzero) (zpow_pos two_pos _)

theorem log_ten_ge {number : Magnitude} (nonzero : number.mantissa ≠ 0) :
    min 0 number.exponent ≤ Int.log 10 number.toRat := by
  have some : (1 : ℚ) ≤ number.mantissa := by exact_mod_cast Nat.pos_of_ne_zero nonzero
  have unit : (0 : ℚ) < 2 ^ number.exponent := zpow_pos two_pos _
  obtain ⟨places, exponent⟩ : ∃ places : ℕ, min 0 number.exponent = -(places : ℤ) :=
    ⟨(-min 0 number.exponent).toNat, by omega⟩
  have powers : (10 : ℚ) ^ (-(places : ℤ)) ≤ 2 ^ (-(places : ℤ)) := by
    rw [zpow_neg, zpow_neg, zpow_natCast, zpow_natCast]
    exact inv_anti₀ (by positivity) (pow_le_pow_left₀ (by norm_num) (by norm_num) places)
  rw [← Int.zpow_le_iff_le_log (by decide) (toRat_pos nonzero), Nat.cast_ofNat, exponent]
  calc (10 : ℚ) ^ (-(places : ℤ)) ≤ 2 ^ (-(places : ℤ)) := powers
    _ ≤ 2 ^ number.exponent := zpow_le_zpow_right₀ one_le_two (by omega)
    _ ≤ number.mantissa * 2 ^ number.exponent := le_mul_of_one_le_left unit.le some

theorem holds_around (format : BinaryFormat) (number : Magnitude) (nonzero : number.mantissa ≠ 0) :
    (Interval.around format number).Holds number.toRat := by
  have unit : (0 : ℚ) < 2 ^ number.exponent := zpow_pos two_pos _
  have gap : 0 < gapBelow format number := by
    rw [gapBelow]
    split <;> norm_num
  left
  rw [(toRat_around nonzero).1, (toRat_around nonzero).2, Magnitude.toRat]
  constructor
  · exact mul_lt_mul_of_pos_right (by linarith) unit
  · exact mul_lt_mul_of_pos_right (by linarith) unit

/-- A grid on which something is found bounds the places of the shortest digits. -/
theorem exists_shortest_eq (format : BinaryFormat) {number : Magnitude} {finest : ℤ}
    (nonzero : number.mantissa ≠ 0)
    (reached : onGrid? (Interval.around format number) number.value finest ≠ none)
    (least : min 0 number.exponent ≤ finest) (coarse : finest ≤ Int.log 10 number.toRat) :
    ∃ coefficient grid, finest ≤ grid ∧
      (Interval.around format number).Holds (Scientific.toRat ⟨coefficient, grid⟩) ∧
      shortest format number = Scientific.strip coefficient grid := by
  have dividend : number.value.dividend ≠ 0 := by
    intro zero
    have positive := toRat_pos nonzero
    rw [← Magnitude.toRat_value, Quotient.toRat, zero, Nat.cast_zero, zero_div] at positive
    exact positive.ne rfl
  have coarsest : magnitude 10 number.value = Int.log 10 number.toRat := by
    rw [magnitude_eq_log (by decide) dividend number.value_divisor_pos, Magnitude.toRat_value]
  rw [shortest, coarsest]
  exact exists_searchGrids_eq (Magnitude.value_divisor_pos _) (Magnitude.value_divisor_pos _)
    reached _ _ coarse (by omega)

/-- On the grid of its own exponent a number is a point. -/
theorem onGrid?_min_ne_none (format : BinaryFormat) {number : Magnitude}
    (nonzero : number.mantissa ≠ 0) :
    onGrid? (Interval.around format number) number.value (min 0 number.exponent) ≠ none := by
  obtain ⟨whole, point⟩ := exists_point number
  have unit : (0 : ℚ) < 10 ^ min 0 number.exponent := zpow_pos (by norm_num) _
  apply onGrid?_ne_none (Magnitude.value_divisor_pos _) (Magnitude.value_divisor_pos _)
    number.value_divisor_pos
  · rw [Magnitude.toRat_value, point]
  · rw [Magnitude.toRat_value, point]
    exact mul_lt_mul_of_pos_right (lt_add_one _) unit
  · rw [← point]
    exact holds_around format number nonzero

/-- Once a grid is reached, the shortest digits lie in the interval about their number,
they do not end in a zero, and they have no more places than the grid. -/
theorem shortest_spec_of_reached (format : BinaryFormat) {number : Magnitude} {finest : ℤ}
    (nonzero : number.mantissa ≠ 0)
    (reached : onGrid? (Interval.around format number) number.value finest ≠ none)
    (least : min 0 number.exponent ≤ finest) (coarse : finest ≤ Int.log 10 number.toRat) :
    (Interval.around format number).Holds (shortest format number).toRat ∧
      finest ≤ (shortest format number).exponent ∧
      (shortest format number).coefficient % 10 ≠ 0 := by
  obtain ⟨coefficient, grid, le, inside, same⟩ :=
    exists_shortest_eq format nonzero reached least coarse
  have found : coefficient ≠ 0 := by
    intro zero
    have positive := pos_of_holds nonzero inside
    rw [Scientific.toRat, zero, Nat.cast_zero, zero_mul] at positive
    exact positive.ne rfl
  obtain ⟨value, further, digit⟩ := Scientific.strip_spec found grid
  rw [same, value]
  exact ⟨inside, le.trans further, digit⟩

/-- The shortest digits lie in the interval about their number, they do not end in a
zero, and they have places only if the number has. -/
theorem shortest_spec (format : BinaryFormat) {number : Magnitude}
    (nonzero : number.mantissa ≠ 0) :
    (Interval.around format number).Holds (shortest format number).toRat ∧
      min 0 number.exponent ≤ (shortest format number).exponent ∧
      (shortest format number).coefficient % 10 ≠ 0 :=
  shortest_spec_of_reached format nonzero (onGrid?_min_ne_none format nonzero) le_rfl
    (log_ten_ge nonzero)

end Binary

end TemplateLanguage
