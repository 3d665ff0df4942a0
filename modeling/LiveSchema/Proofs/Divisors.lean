import LiveSchema.Keyword.Number
import Mathlib.Data.Rat.Defs
import Mathlib.Algebra.Order.Ring.Rat

/-! A positive number is never zero as a divisor, neither as its shortest numeral
nor as the double nearest to it. -/

namespace LiveSchema

private theorem power_pos {base : Nat} (positive : 0 < base) (exponent : Nat) : 0 < Nat.pow base exponent :=
  Nat.pow_pos positive

theorem powerOfTwo_pos (exponent : Nat) : 0 < powerOfTwo exponent := power_pos (by decide) exponent

theorem powerOfTen_pos (exponent : Nat) : 0 < powerOfTen exponent := power_pos (by decide) exponent

namespace Decimal

theorem stripZeros_digits {decimal : Decimal} (nonzero : decimal.digits ≠ 0) (limit : Nat) :
    (decimal.stripZeros limit).digits ≠ 0 := by
  induction limit generalizing decimal with
  | zero => exact nonzero
  | succ limit ih =>
    simp only [stripZeros]
    split
    next divisible => exact ih (by simp only; omega)
    next => exact nonzero

theorem toRat_ne_zero {decimal : Decimal} (nonzero : decimal.digits ≠ 0) : decimal.toRat ≠ 0 := by
  have power := powerOfTen_pos decimal.exponent.natAbs
  unfold toRat
  split
  · intro zero
    rw [Rat.mkRat_eq_zero (by omega)] at zero
    omega
  · have product := Nat.mul_pos (Nat.pos_of_ne_zero nonzero) power
    exact_mod_cast Nat.pos_iff_ne_zero.mp product

theorem compareFraction_zero {decimal : Decimal} (zero : decimal.digits = 0) {numerator : Nat}
    (positive : 0 < numerator) (denominator : Nat) :
    decimal.compareFraction numerator denominator = .lt := by
  unfold compareFraction
  have power := powerOfTen_pos decimal.exponent.natAbs
  split
  · rw [zero, Nat.zero_mul, Nat.compare_eq_lt]
    exact Nat.mul_pos positive power
  · rw [zero, Nat.zero_mul, Nat.zero_mul, Nat.compare_eq_lt]
    exact positive

end Decimal

namespace Double

theorem Neighbourhood.digits_of_contains {hood : Neighbourhood} (positive : 0 < hood.low) {decimal : Decimal}
    (inside : hood.contains decimal = true) : decimal.digits ≠ 0 := by
  intro zero
  simp only [contains, Decimal.compareFraction_zero zero positive] at inside
  split at inside <;> simp at inside

theorem Neighbourhood.contains_of_select? {hood : Neighbourhood} {scale : Int} {count : Nat} {decimal : Decimal}
    (selected : hood.select? scale count = some decimal) : hood.contains decimal = true := by
  unfold select? at selected
  extract_lets exponent floor down up at selected
  split at selected
  next down up =>
    split at selected <;> rw [← Option.some.inj selected]
    · exact down
    · exact up
    · split
      · exact down
      · exact up
  next down _ => exact Option.some.inj selected ▸ down
  next _ up => exact Option.some.inj selected ▸ up
  next => cases selected

variable {exponent : Fin 2047} {fraction : Fin fractionCount}

theorem neighbourhood_low (nonzero : magnitude exponent fraction ≠ 0) :
    0 < (neighbourhood exponent fraction).low := by
  have significant : significand exponent fraction ≠ 0 := by
    intro zero
    exact nonzero (by simp [magnitude, zero])
  have step := powerOfTwo_pos (unit exponent)
  simp only [neighbourhood]
  refine Nat.mul_pos ?_ step
  split <;> omega

theorem shortest_digits (nonzero : magnitude exponent fraction ≠ 0) : (shortest exponent fraction).digits ≠ 0 := by
  simp only [shortest, nonzero, if_false]
  split
  next decimal found =>
    obtain ⟨index, _, selected⟩ := List.exists_of_findSome?_eq_some found
    exact Decimal.stripZeros_digits
      (Neighbourhood.digits_of_contains (neighbourhood_low nonzero)
        (Neighbourhood.contains_of_select? selected)) 17
  next =>
    have five : ∀ exponent, Nat.pow 5 exponent ≠ 0 := fun exponent => Nat.pos_iff_ne_zero.mp (power_pos (by decide) exponent)
    exact Nat.mul_ne_zero nonzero (five 1074)

theorem divideToEven_pos {numerator denominator : Nat} (positive : 0 < denominator)
    (large : denominator ≤ numerator) : 0 < divideToEven numerator denominator := by
  have quotient := Nat.div_pos large positive
  simp only [divideToEven]
  split
  · exact quotient
  · split <;> omega

theorem isZero_finite {negative : Bool} (nonzero : significand exponent fraction ≠ 0) :
    (finite negative exponent fraction).isZero = false := by
  have step := powerOfTwo_pos (unit exponent)
  exact decide_eq_false (Nat.mul_ne_zero nonzero (Nat.pos_iff_ne_zero.mp step))

theorem ofUnits_not_zero {negative : Bool} {units unit : Nat} (nonzero : units ≠ 0) :
    (ofUnits negative units unit).isZero = false := by
  unfold ofUnits
  extract_lets field
  split
  next inRange =>
    apply isZero_finite
    by_cases small : units < fractionCount
    · have first : field = 0 := if_pos small
      simpa [significand, first, Nat.mod_eq_of_lt small] using nonzero
    · have later : field = unit + 1 := if_neg small
      simp [significand, later]
  next => rfl

theorem nearest_not_zero {negative : Bool} {numerator denominator : Nat} (positive : 0 < denominator)
    (large : denominator ≤ numerator) : (nearest negative numerator denominator).isZero = false := by
  simp only [nearest]
  split
  · exact ofUnits_not_zero (by decide)
  · refine ofUnits_not_zero (Nat.pos_iff_ne_zero.mp (divideToEven_pos ?_ ?_))
    · exact Nat.mul_pos positive (powerOfTwo_pos _)
    · have scaled : numerator * powerOfTwo 1074 / denominator ≠ 0 := by
        have room := powerOfTwo_pos 1074
        refine Nat.pos_iff_ne_zero.mp (Nat.div_pos ?_ positive)
        exact Nat.le_trans large (Nat.le_mul_of_pos_right numerator room)
      have power : powerOfTwo ((numerator * powerOfTwo 1074 / denominator).log2 - 52) ≤
          numerator * powerOfTwo 1074 / denominator :=
        Nat.le_trans (Nat.pow_le_pow_right (by omega) (Nat.sub_le _ _)) (Nat.log2_self_le scaled)
      rw [Nat.mul_comm]
      exact (Nat.le_div_iff_mul_le positive).mp power

end Double

namespace Number

theorem zero_lt_int {value : Int} (positive : zero.lt (.int value) = true) : 0 < value := by
  have above : (0 : Rat) < value := by simpa [lt, zero, place?, Extended.lt, Extended.le] using positive
  exact_mod_cast above

theorem zero_lt_finite {negative : Bool} {exponent : Fin 2047} {fraction : Fin fractionCount}
    (positive : zero.lt (.double (.finite negative exponent fraction)) = true) :
    Double.magnitude exponent fraction ≠ 0 := by
  intro nothing
  simp [lt, zero, place?, Double.toRat?, nothing, Extended.lt, Extended.le] at positive

/-- The numeral of a positive number, if it has one, is not zero. -/
theorem numeral?_ne_zero {value : Number} (positive : zero.lt value = true) {size : Rat}
    (written : value.numeral? = some size) : size ≠ 0 := by
  cases value with
  | int whole =>
    have above := zero_lt_int positive
    simp only [numeral?, Option.some.injEq] at written
    rw [← written]
    exact_mod_cast (by omega : whole ≠ 0)
  | double value =>
    cases value with
    | nan | infinite => simp [numeral?] at written
    | finite negative exponent fraction =>
      have nonzero := Decimal.toRat_ne_zero (Double.shortest_digits (zero_lt_finite positive))
      simp only [numeral?, Option.some.injEq] at written
      rw [← written]
      split
      · exact neg_ne_zero.mpr nonzero
      · exact nonzero

theorem ofRat_not_zero {whole : Int} (positive : 0 < whole) : (Double.ofRat whole).isZero = false := by
  unfold Double.ofRat
  rw [Rat.num_intCast, Rat.den_intCast]
  exact Double.nearest_not_zero (by omega) (by omega)

theorem isZero_of_positive {value : Double} (positive : zero.lt (.double value) = true) : value.isZero = false := by
  cases value with
  | nan | infinite => rfl
  | finite => exact decide_eq_false (zero_lt_finite positive)

/-- The double nearest to a positive number, if there is one, is not zero. -/
theorem toDouble?_not_zero {value : Number} (positive : zero.lt value = true) {rounded : Double}
    (nearest : value.toDouble? = some rounded) : rounded.isZero = false := by
  cases value with
  | int whole =>
    have kept := ofRat_not_zero (zero_lt_int positive)
    have bounded : (Double.ofRat whole).bounded? = some rounded := nearest
    generalize Double.ofRat whole = double at kept bounded
    cases double with
    | infinite negative => cases bounded
    | nan | finite => exact Option.some.inj bounded ▸ kept
  | double value => exact Option.some.inj nearest ▸ isZero_of_positive positive

theorem Divisibility.ofBool_ne_byZero (multiple : Bool) : ofBool multiple ≠ .byZero := by
  cases multiple <;> simp [ofBool]

theorem numeralDivisibility_ne_byZero (value : Number) {divisor : Number} (positive : zero.lt divisor = true) :
    value.numeralDivisibility divisor ≠ .byZero := by
  unfold numeralDivisibility
  split
  next value divisor =>
    have above := zero_lt_int positive
    rw [if_neg (by omega)]
    exact Divisibility.ofBool_ne_byZero _
  next =>
    unfold ratioDivisibility
    split
    next written =>
      rw [if_neg (numeral?_ne_zero positive written)]
      exact Divisibility.ofBool_ne_byZero _
    next => simp

theorem quotientDivisibility_ne_byZero (value : Number) {divisor : Number} (positive : zero.lt divisor = true) :
    value.quotientDivisibility divisor ≠ .byZero := by
  unfold quotientDivisibility
  split
  next value divisor =>
    have above := zero_lt_int positive
    rw [if_neg (by omega)]
    exact Divisibility.ofBool_ne_byZero _
  next =>
    split
    next nearest =>
      unfold doubleDivisibility
      rw [toDouble?_not_zero positive nearest, if_neg Bool.false_ne_true]
      split
      · exact Divisibility.ofBool_ne_byZero _
      · simp
      · simp
    next => simp

end Number

/-- A positive divisor never divides by zero, in either mode. -/
theorem Keyword.divisibility_ne_byZero (mode : MultipleMode) (value : Number) {divisor : Number}
    (positive : Number.zero.lt divisor = true) : divisibility mode value divisor ≠ .byZero := by
  cases mode with
  | decimal => exact Number.numeralDivisibility_ne_byZero value positive
  | float => exact Number.quotientDivisibility_ne_byZero value positive

end LiveSchema
