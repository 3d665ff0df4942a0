import LiveSchema.Proofs.Rounding
import Mathlib.Algebra.Order.Field.Power
import Mathlib.Tactic.Linarith

/-! The values of numerals and their order of magnitude. The estimate of the order from binary
logarithms is too low by a few places at most, because ten to the power of 1233 and two to the
power of 4096 differ by less than a factor of ten. -/

namespace LiveSchema

theorem cast_powerOfTwo (exponent : Nat) : (powerOfTwo exponent : ℚ) = 2 ^ (exponent : ℤ) :=
  (Nat.cast_pow 2 exponent).trans (zpow_natCast _ _).symm

theorem cast_powerOfTen (exponent : Nat) : (powerOfTen exponent : ℚ) = 10 ^ (exponent : ℤ) :=
  (Nat.cast_pow 10 exponent).trans (zpow_natCast _ _).symm

theorem ten_pos (exponent : ℤ) : (0 : ℚ) < 10 ^ exponent := zpow_pos (by norm_num) exponent

theorem ten_mono {less more : ℤ} (le : less ≤ more) : (10 : ℚ) ^ less ≤ 10 ^ more := zpow_le_zpow_right₀ (by norm_num) le

theorem ten_add (one two : ℤ) : (10 : ℚ) ^ (one + two) = 10 ^ one * 10 ^ two := zpow_add₀ (by norm_num) one two

namespace Decimal

theorem toRat_eq_div (decimal : Decimal) : decimal.toRat = (decimal.numerator : ℚ) / decimal.denominator := by
  unfold toRat Decimal.numerator Decimal.denominator
  split
  · rw [Rat.mkRat_eq_div]
    rfl
  · rw [Nat.cast_one, div_one]

theorem toRat_eq (decimal : Decimal) : decimal.toRat = decimal.digits * 10 ^ decimal.exponent := by
  rw [toRat_eq_div]
  unfold Decimal.numerator Decimal.denominator
  split
  next behind =>
    have opposite : decimal.exponent = -(decimal.exponent.natAbs : ℤ) := by omega
    rw [cast_powerOfTen, div_eq_mul_inv, ← zpow_neg, ← opposite]
  next before =>
    have same : decimal.exponent = (decimal.exponent.natAbs : ℤ) := by omega
    rw [Nat.cast_one, div_one, Nat.cast_mul, cast_powerOfTen, ← same]

theorem compareFraction_gt_iff {decimal : Decimal} {numerator denominator : Nat} (positive : 0 < denominator) :
    decimal.compareFraction numerator denominator = .gt ↔ (numerator : ℚ) / denominator < decimal.toRat := by
  have own := decimal.denominator_pos
  rw [compareFraction_eq, Nat.compare_eq_gt, toRat_eq_div, div_lt_div_iff₀ (by exact_mod_cast positive) (by exact_mod_cast own)]
  norm_cast

theorem stripZeros_toRat (limit : Nat) (decimal : Decimal) : (decimal.stripZeros limit).toRat = decimal.toRat := by
  induction limit generalizing decimal with
  | zero => rfl
  | succ limit ih =>
    rw [stripZeros]
    split
    next divisible =>
      obtain ⟨tenth, whole⟩ := Nat.dvd_of_mod_eq_zero divisible.2
      rw [ih, toRat_eq, toRat_eq, ten_add, whole, Nat.mul_div_cancel_left tenth (by decide)]
      push_cast
      ring
    next => rfl

theorem stripZeros_digits_le (limit : Nat) (decimal : Decimal) : (decimal.stripZeros limit).digits ≤ decimal.digits := by
  induction limit generalizing decimal with
  | zero => exact Nat.le_refl _
  | succ limit ih =>
    rw [stripZeros]
    split
    · exact (ih _).trans (Nat.div_le_self _ _)
    · exact Nat.le_refl _

/-- Of a power of ten there is one digit left. -/
theorem stripZeros_power {count limit : Nat} (enough : count ≤ limit) (exponent : ℤ) :
    (stripZeros limit ⟨powerOfTen count, exponent⟩).digits = 1 := by
  induction count generalizing limit exponent with
  | zero => cases limit <;> rfl
  | succ count ih =>
    obtain ⟨more, rfl⟩ : ∃ more, limit = more + 1 := ⟨limit - 1, by omega⟩
    have step : powerOfTen (count + 1) = powerOfTen count * 10 := Nat.pow_succ 10 count
    have nonzero : powerOfTen (count + 1) ≠ 0 := (powerOfTen_pos _).ne'
    rw [stripZeros, if_pos ⟨nonzero, by rw [step]; exact Nat.mul_mod_left _ _⟩]
    dsimp only
    rw [step, Nat.mul_div_cancel _ (by decide)]
    exact ih (by omega) _

/-- The last numeral of so many digits is followed by a power of ten, which needs no more. -/
theorem stripZeros_digits_lt {limit count : Nat} (enough : count ≤ limit) (some : 0 < count) {decimal : Decimal}
    (bounded : decimal.digits ≤ powerOfTen count) : (decimal.stripZeros limit).digits < powerOfTen count := by
  rcases Nat.lt_or_eq_of_le bounded with less | power
  · exact (stripZeros_digits_le limit decimal).trans_lt less
  · obtain ⟨digits, exponent⟩ := decimal
    obtain rfl : digits = powerOfTen count := power
    rw [stripZeros_power enough]
    exact Nat.one_lt_pow some.ne' (by decide)

end Decimal

section Scale

variable {few many : Nat} (below : powerOfTen few ≤ powerOfTwo many) (above : powerOfTwo many ≤ powerOfTen (few + 1))
  (some : many ≠ 0) {tens twos : ℤ}
include below above some

theorem ten_le_two (far : -(many : ℤ) ≤ twos) (enough : many * tens + many ≤ few * twos) : (10 : ℚ) ^ tens ≤ 2 ^ twos := by
  rw [← pow_le_pow_iff_left₀ (ten_pos tens).le (zpow_pos (by norm_num) twos).le some, ← zpow_natCast, ← zpow_natCast, ← zpow_mul,
    ← zpow_mul]
  obtain ⟨count, rfl | rfl⟩ := twos.eq_nat_or_neg
  · calc (10 : ℚ) ^ (tens * many) ≤ 10 ^ ((few : ℤ) * count) := ten_mono (by linarith)
      _ = (powerOfTen few : ℚ) ^ count := by rw [cast_powerOfTen, zpow_mul, zpow_natCast _ count]
      _ ≤ (powerOfTwo many : ℚ) ^ count := pow_le_pow_left₀ (Nat.cast_nonneg _) (Nat.cast_le.mpr below) count
      _ = 2 ^ ((count : ℤ) * many) := by rw [cast_powerOfTwo, mul_comm, zpow_mul, zpow_natCast _ count]
  · have wide : ((few + 1 : Nat) : ℤ) * count = few * count + count := by push_cast; ring
    calc (10 : ℚ) ^ (tens * many) ≤ 10 ^ (-(((few + 1 : Nat) : ℤ) * count)) := ten_mono (by linarith)
      _ = ((powerOfTen (few + 1) : ℚ) ^ count)⁻¹ := by rw [cast_powerOfTen, zpow_neg, zpow_mul, zpow_natCast _ count]
      _ ≤ ((powerOfTwo many : ℚ) ^ count)⁻¹ := by
        have power := powerOfTwo_pos many
        gcongr
      _ = 2 ^ (-(count : ℤ) * many) := by rw [cast_powerOfTwo, neg_mul, zpow_neg, mul_comm, zpow_mul, zpow_natCast _ count]

theorem two_le_ten (near : twos ≤ many) (enough : few * twos + many ≤ many * tens) : (2 : ℚ) ^ twos ≤ 10 ^ tens := by
  rw [← pow_le_pow_iff_left₀ (zpow_pos (by norm_num) twos).le (ten_pos tens).le some, ← zpow_natCast, ← zpow_natCast, ← zpow_mul,
    ← zpow_mul]
  obtain ⟨count, rfl | rfl⟩ := twos.eq_nat_or_neg
  · have wide : ((few + 1 : Nat) : ℤ) * count = few * count + count := by push_cast; ring
    calc (2 : ℚ) ^ ((count : ℤ) * many) = (powerOfTwo many : ℚ) ^ count := by
          rw [cast_powerOfTwo, mul_comm, zpow_mul, zpow_natCast _ count]
      _ ≤ (powerOfTen (few + 1) : ℚ) ^ count := pow_le_pow_left₀ (Nat.cast_nonneg _) (Nat.cast_le.mpr above) count
      _ = 10 ^ (((few + 1 : Nat) : ℤ) * count) := by rw [cast_powerOfTen, zpow_mul, zpow_natCast _ count]
      _ ≤ 10 ^ (tens * many) := ten_mono (by linarith)
  · calc (2 : ℚ) ^ (-(count : ℤ) * many) = ((powerOfTwo many : ℚ) ^ count)⁻¹ := by
          rw [cast_powerOfTwo, neg_mul, zpow_neg, mul_comm, zpow_mul, zpow_natCast _ count]
      _ ≤ ((powerOfTen few : ℚ) ^ count)⁻¹ := by
        have power := powerOfTen_pos few
        gcongr
      _ = 10 ^ (-((few : ℤ) * count)) := by rw [cast_powerOfTen, zpow_neg, zpow_mul, zpow_natCast _ count]
      _ ≤ 10 ^ (tens * many) := ten_mono (by linarith)

end Scale

/-- Binary logarithms give a fraction up to a factor of four. -/
theorem log_bounds {numerator denominator : Nat} (positive : 0 < numerator) (nonzero : 0 < denominator) :
    (2 : ℚ) ^ ((numerator.log2 : ℤ) - denominator.log2 - 1) ≤ (numerator : ℚ) / denominator ∧
      (numerator : ℚ) / denominator < 2 ^ ((numerator.log2 : ℤ) - denominator.log2 + 1) := by
  have divides : (0 : ℚ) < denominator := by exact_mod_cast nonzero
  have least : ((2 : ℚ) ^ (numerator.log2 : ℤ)) ≤ numerator := by
    rw [zpow_natCast]
    exact_mod_cast Nat.log2_self_le positive.ne'
  have most : (numerator : ℚ) < 2 ^ ((numerator.log2 : ℤ) + 1) := by
    have bound : numerator < 2 ^ (numerator.log2 + 1) := Nat.lt_log2_self
    exact_mod_cast bound
  have under : ((2 : ℚ) ^ (denominator.log2 : ℤ)) ≤ denominator := by
    rw [zpow_natCast]
    exact_mod_cast Nat.log2_self_le nonzero.ne'
  have beyond : (denominator : ℚ) < 2 ^ ((denominator.log2 : ℤ) + 1) := by
    have bound : denominator < 2 ^ (denominator.log2 + 1) := Nat.lt_log2_self
    exact_mod_cast bound
  have two : (2 : ℚ) ≠ 0 := by norm_num
  constructor
  · rw [le_div_iff₀ divides]
    calc (2 : ℚ) ^ ((numerator.log2 : ℤ) - denominator.log2 - 1) * denominator
        ≤ 2 ^ ((numerator.log2 : ℤ) - denominator.log2 - 1) * 2 ^ ((denominator.log2 : ℤ) + 1) := by gcongr
      _ = 2 ^ (numerator.log2 : ℤ) := by rw [← zpow_add₀ two]; congr 1; ring
      _ ≤ numerator := least
  · rw [div_lt_iff₀ divides]
    calc (numerator : ℚ) < 2 ^ ((numerator.log2 : ℤ) + 1) := most
      _ = 2 ^ ((numerator.log2 : ℤ) - denominator.log2 + 1) * 2 ^ (denominator.log2 : ℤ) := by rw [← zpow_add₀ two]; congr 1; ring
      _ ≤ 2 ^ ((numerator.log2 : ℤ) - denominator.log2 + 1) * denominator := by gcongr

/-- The scale of a fraction is the number of digits before its point. -/
theorem Decimal.scale_bounds {numerator denominator : Nat} (positive : 0 < numerator) (nonzero : 0 < denominator)
    (above : numerator.log2 < 4000) (below : denominator.log2 < 4000) :
    (10 : ℚ) ^ (scale numerator denominator - 1) ≤ (numerator : ℚ) / denominator ∧
      (numerator : ℚ) / denominator < 10 ^ scale numerator denominator := by
  obtain ⟨lower, upper⟩ := log_bounds positive nonzero
  have tens : powerOfTen 1233 ≤ powerOfTwo 4096 := by decide +kernel
  have twos : powerOfTwo 4096 ≤ powerOfTen (1233 + 1) := by decide +kernel
  unfold scale
  extract_lets estimate exceeds
  have exceeds_iff : ∀ step : Nat, exceeds step = true ↔ (numerator : ℚ) / denominator < 10 ^ (estimate + step) := by
    intro step
    change ((⟨1, estimate + step⟩ : Decimal).compareFraction numerator denominator == .gt) = true ↔ _
    rw [beq_iff_eq, compareFraction_gt_iff nonzero, toRat_eq, Nat.cast_one, one_mul]
  have estimate_eq : estimate = ((numerator.log2 : ℤ) - denominator.log2 - 1) * 1233 / 4096 - 1 := rfl
  have first : exceeds 0 = false := by
    rw [Bool.eq_false_iff, ne_eq, exceeds_iff, not_lt, Nat.cast_zero, add_zero]
    exact (ten_le_two tens twos (by decide) (by push_cast; omega) (by push_cast; omega)).trans lower
  have last : exceeds 7 = true := by
    rw [exceeds_iff]
    exact upper.trans_le (two_le_ten tens twos (by decide) (by push_cast; omega) (by push_cast; omega))
  have found : ∃ step, (List.range 8).find? exceeds = some step := by
    rw [← Option.isSome_iff_exists, List.find?_isSome]
    exact ⟨7, by decide, last⟩
  obtain ⟨step, found⟩ := found
  obtain ⟨passes, _, before⟩ := List.find?_range_eq_some.mp found
  have later : step ≠ 0 := by
    rintro rfl
    rw [first] at passes
    cases passes
  rw [found, Option.getD_some]
  refine ⟨?_, (exceeds_iff step).mp passes⟩
  have previous := before (step - 1) (by omega)
  rw [Bool.not_eq_true', Bool.eq_false_iff, ne_eq, exceeds_iff, not_lt] at previous
  rwa [show estimate + step - 1 = estimate + ((step - 1 : Nat) : ℤ) by omega]

end LiveSchema
