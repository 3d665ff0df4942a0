import LiveSchema.Proofs.Divisors
import Mathlib.Tactic.Ring

/-! How numerals are read. The double nearest to a fraction is the one in whose neighbourhood
the fraction lies, where an end belongs to the neighbour with the even significand. So every
fraction that is not too large lies in just one neighbourhood. -/

namespace LiveSchema

theorem powerOfTwo_succ (exponent : Nat) : powerOfTwo (exponent + 1) = 2 * powerOfTwo exponent :=
  (Nat.pow_succ 2 exponent).trans (Nat.mul_comm _ _)

theorem powerOfTwo_add (one two : Nat) : powerOfTwo (one + two) = powerOfTwo one * powerOfTwo two := Nat.pow_add 2 one two

theorem powerOfTwo_mono {less more : Nat} (le : less ≤ more) : powerOfTwo less ≤ powerOfTwo more :=
  Nat.pow_le_pow_right (by decide) le

theorem powerOfTwo_strict {less more : Nat} (lt : less < more) : powerOfTwo less < powerOfTwo more :=
  Nat.pow_lt_pow_right (by decide) lt

theorem powerOfTen_add (one two : Nat) : powerOfTen (one + two) = powerOfTen one * powerOfTen two := Nat.pow_add 10 one two

theorem powerOfTen_mono {less more : Nat} (le : less ≤ more) : powerOfTen less ≤ powerOfTen more :=
  Nat.pow_le_pow_right (by decide) le

theorem quarters_eq : Double.quarters = 4 * powerOfTwo 1074 := by
  rw [Double.quarters, powerOfTwo_succ, powerOfTwo_succ, ← Nat.mul_assoc]

namespace Double

/-- A whole number is nearest to a quotient, and it is even if another one is as near. -/
structure RoundsTo (numerator denominator rounded : Nat) : Prop where
  below : 2 * (rounded * denominator) ≤ 2 * numerator + denominator
  above : 2 * numerator ≤ 2 * (rounded * denominator) + denominator
  even : 2 * (rounded * denominator) = 2 * numerator + denominator ∨ 2 * numerator = 2 * (rounded * denominator) + denominator →
    rounded % 2 = 0

theorem divideToEven_rounds (numerator : Nat) {denominator : Nat} (positive : 0 < denominator) :
    RoundsTo numerator denominator (divideToEven numerator denominator) := by
  have whole := Nat.div_add_mod' numerator denominator
  have rest := Nat.mod_lt numerator positive
  have next : (numerator / denominator + 1) * denominator = numerator / denominator * denominator + denominator := Nat.succ_mul _ _
  unfold divideToEven
  dsimp only
  generalize numerator / denominator = quotient at whole next ⊢
  generalize numerator % denominator = left at whole rest ⊢
  split
  · refine ⟨?_, ?_, ?_⟩ <;> omega
  · split
    · refine ⟨?_, ?_, ?_⟩ <;> omega
    · rcases Nat.mod_two_eq_zero_or_one quotient with even | odd
      · rw [even, Nat.add_zero]
        refine ⟨?_, ?_, ?_⟩ <;> omega
      · rw [odd]
        refine ⟨?_, ?_, ?_⟩ <;> omega

theorem RoundsTo.unique {numerator denominator one two : Nat} (positive : 0 < denominator)
    (first : RoundsTo numerator denominator one) (second : RoundsTo numerator denominator two) : one = two := by
  have apart : ∀ {less more : Nat}, RoundsTo numerator denominator less → RoundsTo numerator denominator more → ¬ less < more := by
    intro less more lower upper smaller
    obtain ⟨gap, rfl⟩ := Nat.exists_eq_add_of_lt smaller
    have step : (less + gap + 1) * denominator = less * denominator + gap * denominator + denominator := by ring
    have room := upper.below
    have limit := lower.above
    have none : gap * denominator = 0 := by omega
    have adjacent : gap = 0 := (Nat.mul_eq_zero.mp none).resolve_right (by omega)
    have even := lower.even (.inr (by omega))
    have again := upper.even (.inl (by omega))
    omega
  exact Nat.le_antisymm (Nat.not_lt.mp (apart second first)) (Nat.not_lt.mp (apart first second))

variable {negative : Bool} {exponent : Fin 2047} {fraction : Fin fractionCount} {numerator denominator : Nat}

theorem significand_lt (exponent : Fin 2047) (fraction : Fin fractionCount) : significand exponent fraction < 2 * fractionCount := by
  have small := fraction.isLt
  unfold significand
  split <;> omega

/-- A double is made of its own significand and unit. -/
theorem ofUnits_significand (negative : Bool) (exponent : Fin 2047) (fraction : Fin fractionCount) :
    ofUnits negative (significand exponent fraction) (unit exponent) = .finite negative exponent fraction := by
  have small := fraction.isLt
  have inRange := exponent.isLt
  have field : (if significand exponent fraction < fractionCount then 0 else unit exponent + 1) = exponent.val := by
    unfold significand unit
    by_cases zero : exponent.val = 0
    · rw [if_pos zero, if_pos small, zero]
    · rw [if_neg zero, if_neg (by omega)]
      omega
  have rest : significand exponent fraction % fractionCount = fraction.val := by
    unfold significand
    split
    · exact Nat.mod_eq_of_lt small
    · rw [Nat.add_mod_right, Nat.mod_eq_of_lt small]
  unfold ofUnits
  simp only [field, rest, inRange, dite_true]

/-- Whatever is finite among the doubles that are made is made of its own significand and unit. -/
theorem ofUnits_eq_finite {units place : Nat} {sign : Bool} (bounded : units < 2 * fractionCount)
    (least : units < fractionCount → place = 0) (made : ofUnits negative units place = .finite sign exponent fraction) :
    sign = negative ∧ significand exponent fraction = units ∧ unit exponent = place ∧
      (fractionCount ≤ units → exponent.val = place + 1) := by
  unfold ofUnits at made
  extract_lets field at made
  split at made
  next inRange =>
    injection made with same first second
    subst same first second
    by_cases small : units < fractionCount
    · have zero : field = 0 := if_pos small
      refine ⟨rfl, ?_, ?_, fun large => absurd small (Nat.not_lt.mpr large)⟩
      · simp only [significand, zero, if_true, Nat.mod_eq_of_lt small]
      · simp only [unit, zero, least small]
    · have later : field = place + 1 := if_neg small
      refine ⟨rfl, ?_, ?_, fun _ => later⟩
      · have cut : units % fractionCount = units - fractionCount := by
          rw [Nat.mod_eq_sub_mod (Nat.not_lt.mp small), Nat.mod_eq_of_lt (by omega)]
        simp only [significand, later, Nat.succ_ne_zero, if_false, cut]
        omega
      · simp only [unit, later]
        rfl
  next => cases made

/-- The unit in which a quotient is rounded leaves it fifty-three binary places. -/
structure Fits (scaled denominator unit : Nat) : Prop where
  below : scaled < 2 * fractionCount * (denominator * powerOfTwo unit)
  above : unit ≠ 0 → fractionCount * (denominator * powerOfTwo unit) ≤ scaled

theorem powerOfTwo_unit (unit : Nat) : 2 ^ (52 + unit) = fractionCount * powerOfTwo unit := by
  rw [Nat.pow_add]
  rfl

theorem fits_log (scaled : Nat) (positive : 0 < denominator) : Fits scaled denominator ((scaled / denominator).log2 - 52) := by
  generalize quotient_eq : scaled / denominator = quotient
  generalize unit_eq : quotient.log2 - 52 = unit
  have upper : quotient < 2 ^ (52 + unit + 1) := Nat.lt_of_lt_of_le Nat.lt_log2_self (Nat.pow_le_pow_right (by decide) (by omega))
  refine ⟨?_, fun later => ?_⟩
  · rw [← quotient_eq, Nat.div_lt_iff_lt_mul positive, Nat.pow_succ, powerOfTwo_unit] at upper
    calc scaled < fractionCount * powerOfTwo unit * 2 * denominator := upper
      _ = 2 * fractionCount * (denominator * powerOfTwo unit) := by ring
  · have nonzero : quotient ≠ 0 := by
      rintro rfl
      rw [Nat.log2_zero] at unit_eq
      omega
    have lower : 2 ^ (52 + unit) ≤ quotient := (Nat.le_log2 nonzero).mp (by omega)
    rw [← quotient_eq, Nat.le_div_iff_mul_le positive, powerOfTwo_unit] at lower
    calc fractionCount * (denominator * powerOfTwo unit) = fractionCount * powerOfTwo unit * denominator := by ring
      _ ≤ scaled := lower

theorem Fits.unique {scaled one two : Nat} (first : Fits scaled denominator one)
    (second : Fits scaled denominator two) : one = two := by
  have ordered : ∀ {less more : Nat}, Fits scaled denominator less → Fits scaled denominator more → ¬ less < more := by
    intro less more lower upper smaller
    obtain ⟨gap, rfl⟩ := Nat.exists_eq_add_of_lt smaller
    have power : powerOfTwo (less + gap + 1) = 2 * (powerOfTwo less * powerOfTwo gap) := by rw [powerOfTwo_succ, powerOfTwo_add]
    have room := powerOfTwo_pos gap
    have reached := upper.above (by omega)
    have bounded := lower.below
    rw [power] at reached
    have larger : fractionCount * (denominator * (2 * powerOfTwo less)) ≤
        fractionCount * (denominator * (2 * (powerOfTwo less * powerOfTwo gap))) := by
      gcongr
      exact Nat.le_mul_of_pos_right _ room
    have same : 2 * fractionCount * (denominator * powerOfTwo less) = fractionCount * (denominator * (2 * powerOfTwo less)) := by ring
    omega
  exact Nat.le_antisymm (Nat.not_lt.mp (ordered second first)) (Nat.not_lt.mp (ordered first second))

/-- How a fraction is rounded in the unit that fits. -/
theorem nearest_of_rounds {place rounded : Nat} (positive : 0 < denominator) (fits : Fits (numerator * powerOfTwo 1074) denominator place)
    (rounds : RoundsTo (numerator * powerOfTwo 1074) (denominator * powerOfTwo place) rounded) :
    nearest negative numerator denominator =
      if rounded = 2 * fractionCount then ofUnits negative fractionCount (place + 1) else ofUnits negative rounded place := by
  have least := Fits.unique (fits_log _ positive) fits
  have spread := Nat.mul_pos positive (powerOfTwo_pos place)
  unfold nearest
  extract_lets scaled unit result
  have same : unit = place := least
  have equal : result = rounded := by
    have made := divideToEven_rounds scaled (Nat.mul_pos positive (powerOfTwo_pos unit))
    rw [same] at made
    exact (RoundsTo.unique spread (same ▸ made) rounds)
  rw [same, equal]

/-- A fraction is between the ends of a neighbourhood, or on an end that counts. -/
structure Neighbourhood.Around (hood : Neighbourhood) (numerator denominator : Nat) : Prop where
  above : hood.low * denominator ≤ numerator
  below : numerator ≤ hood.high * denominator
  ends : numerator = hood.low * denominator ∨ numerator = hood.high * denominator → hood.closed = true

/-- How far down a neighbourhood reaches, in quarter units. -/
def reach (exponent : Fin 2047) (fraction : Fin fractionCount) : Nat := if fraction.val = 0 ∧ 1 < exponent.val then 1 else 2

theorem neighbourhood_low_mul (exponent : Fin 2047) (fraction : Fin fractionCount) (denominator : Nat) :
    (neighbourhood exponent fraction).low * denominator =
      4 * (significand exponent fraction * (denominator * powerOfTwo (unit exponent))) -
        reach exponent fraction * (denominator * powerOfTwo (unit exponent)) := by
  simp only [neighbourhood, reach, Nat.sub_mul]
  congr 1 <;> ring

theorem neighbourhood_high_mul (exponent : Fin 2047) (fraction : Fin fractionCount) (denominator : Nat) :
    (neighbourhood exponent fraction).high * denominator =
      4 * (significand exponent fraction * (denominator * powerOfTwo (unit exponent))) +
        2 * (denominator * powerOfTwo (unit exponent)) := by
  simp only [neighbourhood]
  ring

theorem neighbourhood_closed : (neighbourhood exponent fraction).closed = true ↔ significand exponent fraction % 2 = 0 :=
  decide_eq_true_iff

/-- A neighbourhood reaches as far down as it does up, except below a power of two. -/
theorem reach_cases (exponent : Fin 2047) (fraction : Fin fractionCount) :
    reach exponent fraction = 2 ∧ (unit exponent = 0 ∨ fractionCount < significand exponent fraction) ∨
      reach exponent fraction = 1 ∧ unit exponent ≠ 0 ∧ significand exponent fraction = fractionCount := by
  unfold reach significand unit
  by_cases power : fraction.val = 0 ∧ 1 < exponent.val
  · rw [if_pos power, if_neg (by omega), power.1, Nat.zero_add]
    exact .inr ⟨rfl, by omega, rfl⟩
  · rw [if_neg power]
    refine .inl ⟨rfl, ?_⟩
    split <;> omega

/-- To lie in a neighbourhood that reaches as far down as up is to be rounded to its middle. -/
theorem around_iff_rounds {scaled : Nat} (far : reach exponent fraction = 2) :
    (neighbourhood exponent fraction).Around (4 * scaled) denominator ↔
      RoundsTo scaled (denominator * powerOfTwo (unit exponent)) (significand exponent fraction) := by
  have low := neighbourhood_low_mul exponent fraction denominator
  have high := neighbourhood_high_mul exponent fraction denominator
  rw [far] at low
  constructor
  · rintro ⟨above, below, ends⟩
    rw [neighbourhood_closed] at ends
    refine ⟨?_, ?_, fun tie => ends ?_⟩ <;> omega
  · rintro ⟨below, above, even⟩
    refine ⟨?_, ?_, fun tie => neighbourhood_closed.mpr ?_⟩
    · omega
    · omega
    · by_cases nothing : significand exponent fraction = 0
      · rw [nothing]
      · have some := Nat.le_mul_of_pos_left (denominator * powerOfTwo (unit exponent)) (Nat.pos_of_ne_zero nothing)
        exact even (by omega)

theorem around_iff_close {scaled : Nat} (near : reach exponent fraction = 1) (power : significand exponent fraction = fractionCount) :
    (neighbourhood exponent fraction).Around (4 * scaled) denominator ↔
      4 * (fractionCount * (denominator * powerOfTwo (unit exponent))) ≤ 4 * scaled + denominator * powerOfTwo (unit exponent) ∧
      4 * scaled ≤ 4 * (fractionCount * (denominator * powerOfTwo (unit exponent))) + 2 * (denominator * powerOfTwo (unit exponent)) := by
  have low := neighbourhood_low_mul exponent fraction denominator
  have high := neighbourhood_high_mul exponent fraction denominator
  have closed : (neighbourhood exponent fraction).closed = true := neighbourhood_closed.mpr (power ▸ rfl)
  rw [power] at low high
  rw [near] at low
  constructor
  · rintro ⟨above, below, _⟩
    constructor <;> omega
  · rintro ⟨above, below⟩
    refine ⟨?_, ?_, fun _ => closed⟩ <;> omega

/-- A double is what a fraction is rounded to if the fraction fits its unit. -/
theorem nearest_of_unit (positive : 0 < denominator) (fits : Fits (numerator * powerOfTwo 1074) denominator (unit exponent))
    (rounds : RoundsTo (numerator * powerOfTwo 1074) (denominator * powerOfTwo (unit exponent)) (significand exponent fraction)) :
    nearest negative numerator denominator = .finite negative exponent fraction := by
  rw [nearest_of_rounds positive fits rounds, if_neg (significand_lt exponent fraction).ne, ofUnits_significand]

/-- Just below a power of two a fraction fits half the unit, and is rounded up to the power. -/
theorem nearest_of_below {place : Nat} (positive : 0 < denominator) (power : significand exponent fraction = fractionCount)
    (half : unit exponent = place + 1)
    (above : 4 * (fractionCount * (denominator * powerOfTwo (unit exponent))) ≤
      4 * (numerator * powerOfTwo 1074) + denominator * powerOfTwo (unit exponent))
    (below : numerator * powerOfTwo 1074 < fractionCount * (denominator * powerOfTwo (unit exponent))) :
    nearest negative numerator denominator = .finite negative exponent fraction := by
  have made := ofUnits_significand negative exponent fraction
  have spread := Nat.mul_pos positive (powerOfTwo_pos place)
  have twice : denominator * powerOfTwo (unit exponent) = 2 * (denominator * powerOfTwo place) := by
    rw [half, powerOfTwo_succ, Nat.mul_left_comm]
  rw [power, half] at made
  rw [twice] at above below
  have fits : Fits (numerator * powerOfTwo 1074) denominator place := by
    simp only [fractionCount] at above below
    refine ⟨?_, fun _ => ?_⟩ <;> simp only [fractionCount] <;> omega
  have rounds : RoundsTo (numerator * powerOfTwo 1074) (denominator * powerOfTwo place) (2 * fractionCount) := by
    simp only [fractionCount] at above below
    refine ⟨?_, ?_, fun _ => ?_⟩ <;> simp only [fractionCount] <;> omega
  rw [nearest_of_rounds positive fits rounds, if_pos rfl, made]

/-- A fraction is rounded to the double in whose neighbourhood it lies. -/
theorem nearest_of_around (positive : 0 < denominator)
    (around : (neighbourhood exponent fraction).Around (4 * (numerator * powerOfTwo 1074)) denominator) :
    nearest negative numerator denominator = .finite negative exponent fraction := by
  have spread := Nat.mul_pos positive (powerOfTwo_pos (unit exponent))
  rcases reach_cases exponent fraction with ⟨far, place⟩ | ⟨near, later, power⟩
  · have rounds := (around_iff_rounds far).mp around
    obtain ⟨below, above, _⟩ := id rounds
    refine nearest_of_unit positive ⟨?_, fun later => ?_⟩ rounds
    · have wide := Nat.mul_le_mul_right (denominator * powerOfTwo (unit exponent)) (Nat.succ_le_of_lt (significand_lt exponent fraction))
      rw [Nat.succ_mul] at wide
      omega
    · have wide := Nat.mul_le_mul_right (denominator * powerOfTwo (unit exponent)) (Nat.succ_le_of_lt (place.resolve_left later))
      rw [Nat.succ_mul] at wide
      omega
  · obtain ⟨above, below⟩ := (around_iff_close near power).mp around
    by_cases reached : fractionCount * (denominator * powerOfTwo (unit exponent)) ≤ numerator * powerOfTwo 1074
    · have fits : Fits (numerator * powerOfTwo 1074) denominator (unit exponent) := by
        refine ⟨?_, fun _ => reached⟩
        simp only [fractionCount] at below ⊢
        omega
      refine nearest_of_unit positive fits ?_
      rw [power]
      exact ⟨by omega, by omega, fun _ => rfl⟩
    · obtain ⟨place, half⟩ := Nat.exists_eq_succ_of_ne_zero later
      exact nearest_of_below positive power half above (Nat.not_le.mp reached)

/-- What fits a unit is rounded to at most as many units as a double can have, and to fewer than
the normal ones only in the least unit. -/
theorem Fits.rounded {scaled place rounded : Nat} (positive : 0 < denominator) (fits : Fits scaled denominator place)
    (rounds : RoundsTo scaled (denominator * powerOfTwo place) rounded) :
    rounded ≤ 2 * fractionCount ∧ (rounded < fractionCount → place = 0) := by
  have spread := Nat.mul_pos positive (powerOfTwo_pos place)
  obtain ⟨under, filled⟩ := fits
  obtain ⟨below, above, _⟩ := rounds
  refine ⟨?_, fun small => ?_⟩
  · by_contra larger
    have wide := Nat.mul_le_mul_right (denominator * powerOfTwo place) (Nat.succ_le_of_lt (Nat.not_le.mp larger))
    rw [Nat.succ_mul] at wide
    omega
  · by_contra later
    have wide := Nat.mul_le_mul_right (denominator * powerOfTwo place) (Nat.succ_le_of_lt small)
    have reached := filled later
    rw [Nat.succ_mul] at wide
    omega

/-- A double that a fraction is rounded to has the fraction in its neighbourhood. -/
theorem around_of_nearest {sign : Bool} (positive : 0 < denominator)
    (found : nearest negative numerator denominator = .finite sign exponent fraction) :
    sign = negative ∧ (neighbourhood exponent fraction).Around (4 * (numerator * powerOfTwo 1074)) denominator := by
  have fits := fits_log (numerator * powerOfTwo 1074) positive
  generalize (numerator * powerOfTwo 1074 / denominator).log2 - 52 = place at fits
  have rounds := divideToEven_rounds (numerator * powerOfTwo 1074) (Nat.mul_pos positive (powerOfTwo_pos place))
  generalize divideToEven (numerator * powerOfTwo 1074) (denominator * powerOfTwo place) = rounded at rounds
  obtain ⟨limit, least⟩ := fits.rounded positive rounds
  rw [nearest_of_rounds positive fits rounds] at found
  generalize numerator * powerOfTwo 1074 = scaled at fits rounds
  split at found
  next top =>
    obtain ⟨same, own, placed, _⟩ := ofUnits_eq_finite (by decide) (fun small => absurd small (by decide)) found
    refine ⟨same, ?_⟩
    rcases reach_cases exponent fraction with ⟨far, other⟩ | ⟨near, _, power⟩
    · omega
    · have below := rounds.below
      have under := fits.below
      rw [top] at below
      rw [around_iff_close near power, placed, powerOfTwo_succ, Nat.mul_left_comm denominator]
      simp only [fractionCount] at below under ⊢
      constructor <;> omega
  next ordinary =>
    obtain ⟨same, own, placed, _⟩ := ofUnits_eq_finite (by omega) least found
    refine ⟨same, ?_⟩
    rcases reach_cases exponent fraction with ⟨far, _⟩ | ⟨near, later, power⟩
    · rw [around_iff_rounds far, own, placed]
      exact rounds
    · have above := rounds.above
      have reached := fits.above (placed ▸ later)
      rw [← own, power] at above
      rw [around_iff_close near power, placed]
      constructor <;> omega

theorem nearest_eq_finite_iff (positive : 0 < denominator) : nearest negative numerator denominator = .finite negative exponent fraction ↔
    (neighbourhood exponent fraction).Around (4 * (numerator * powerOfTwo 1074)) denominator :=
  ⟨fun found => (around_of_nearest positive found).2, nearest_of_around positive⟩

/-- A double is made of a finite number of units or is infinite, with the sign that was given. -/
theorem ofUnits_cases (negative : Bool) (units place : Nat) : ofUnits negative units place = .infinite negative ∨
    ∃ exponent fraction, ofUnits negative units place = .finite negative exponent fraction := by
  unfold ofUnits
  extract_lets field
  by_cases inRange : field < 2047
  · rw [dif_pos inRange]
    exact .inr ⟨_, _, rfl⟩
  · rw [dif_neg inRange]
    exact .inl rfl

theorem nearest_cases (negative : Bool) (numerator denominator : Nat) : nearest negative numerator denominator = .infinite negative ∨
    ∃ exponent fraction, nearest negative numerator denominator = .finite negative exponent fraction := by
  unfold nearest
  extract_lets scaled unit rounded
  split
  · exact ofUnits_cases _ _ _
  · exact ofUnits_cases _ _ _

/-- What is at most half of the least double is rounded to zero. -/
theorem nearest_of_small (positive : 0 < denominator) (small : 2 * (numerator * powerOfTwo 1074) ≤ denominator) :
    nearest negative numerator denominator = .finite negative 0 0 := by
  apply nearest_of_around positive
  have zero : significand 0 0 = 0 := rfl
  have least : powerOfTwo (unit 0) = 1 := rfl
  refine ⟨?_, ?_, fun _ => neighbourhood_closed.mpr zero⟩
  · rw [neighbourhood_low_mul, zero, Nat.zero_mul, Nat.mul_zero, Nat.zero_sub]
    exact Nat.zero_le _
  · rw [neighbourhood_high_mul, zero, least]
    omega

/-- What is larger than every finite double is rounded to infinity. -/
theorem nearest_of_large (positive : 0 < denominator) (large : powerOfTwo 1024 * denominator ≤ numerator) :
    nearest negative numerator denominator = .infinite negative := by
  refine (nearest_cases negative numerator denominator).resolve_right ?_
  rintro ⟨exponent, fraction, found⟩
  obtain ⟨_, _, below, _⟩ := around_of_nearest positive found
  rw [neighbourhood_high_mul] at below
  have inRange : unit exponent ≤ 2045 := Nat.sub_le_of_le_add (Nat.le_of_lt_succ exponent.isLt)
  have step : denominator * powerOfTwo (unit exponent) ≤ denominator * powerOfTwo 2045 :=
    Nat.mul_le_mul_left denominator (powerOfTwo_mono inRange)
  have wide := Nat.mul_le_mul_right (denominator * powerOfTwo (unit exponent)) (Nat.le_sub_one_of_lt (significand_lt exponent fraction))
  have powers : powerOfTwo 1024 * powerOfTwo 1074 = 2 * fractionCount * powerOfTwo 2045 := by
    rw [← powerOfTwo_add, show 1024 + 1074 = 53 + 2045 from rfl, powerOfTwo_add, show powerOfTwo 53 = 2 * fractionCount from rfl]
  have reached : 2 * fractionCount * (denominator * powerOfTwo 2045) ≤ numerator * powerOfTwo 1074 :=
    calc 2 * fractionCount * (denominator * powerOfTwo 2045) = powerOfTwo 1024 * powerOfTwo 1074 * denominator := by rw [powers]; ring
      _ = powerOfTwo 1024 * denominator * powerOfTwo 1074 := Nat.mul_right_comm _ _ _
      _ ≤ numerator * powerOfTwo 1074 := Nat.mul_le_mul_right _ large
  have some := Nat.mul_pos positive (powerOfTwo_pos (unit exponent))
  generalize denominator * powerOfTwo 2045 = most at step reached
  generalize denominator * powerOfTwo (unit exponent) = width at step wide below some
  simp only [fractionCount] at wide reached
  omega

end Double

namespace Decimal

/-- The fraction that a numeral stands for. -/
def numerator (decimal : Decimal) : Nat :=
  if decimal.exponent < 0 then decimal.digits else decimal.digits * powerOfTen decimal.exponent.natAbs

def denominator (decimal : Decimal) : Nat :=
  if decimal.exponent < 0 then powerOfTen decimal.exponent.natAbs else 1

theorem denominator_pos (decimal : Decimal) : 0 < decimal.denominator := by
  unfold denominator
  split
  · exact powerOfTen_pos _
  · exact Nat.one_pos

theorem compareFraction_eq (decimal : Decimal) (numerator denominator : Nat) :
    decimal.compareFraction numerator denominator = compare (decimal.numerator * denominator) (numerator * decimal.denominator) := by
  unfold compareFraction Decimal.numerator Decimal.denominator
  split
  · rfl
  · rw [Nat.mul_one]

end Decimal

namespace Double

theorem Neighbourhood.contains_iff {hood : Neighbourhood} {decimal : Decimal} :
    hood.contains decimal = true ↔ hood.Around (decimal.numerator * quarters) decimal.denominator := by
  unfold contains
  simp only [Decimal.compareFraction_eq]
  generalize decimal.numerator * quarters = place
  generalize low_eq : hood.low * decimal.denominator = low
  generalize high_eq : hood.high * decimal.denominator = high
  have around_iff : hood.Around place decimal.denominator ↔
      low ≤ place ∧ place ≤ high ∧ (place = low ∨ place = high → hood.closed = true) := by
    subst low_eq high_eq
    exact ⟨fun around => ⟨around.above, around.below, around.ends⟩, fun all => ⟨all.1, all.2.1, all.2.2⟩⟩
  rw [around_iff]
  cases hood.closed with
  | true => simp [Nat.compare_eq_lt, Nat.compare_eq_gt]
  | false =>
    simp [Nat.compare_eq_lt, Nat.compare_eq_gt]
    omega

/-- A numeral lies in the neighbourhood of the double that it is rounded to. -/
theorem nearest_iff_contains {negative : Bool} {exponent : Fin 2047} {fraction : Fin fractionCount} {decimal : Decimal} :
    nearest negative decimal.numerator decimal.denominator = .finite negative exponent fraction ↔
      (neighbourhood exponent fraction).contains decimal = true := by
  rw [nearest_eq_finite_iff decimal.denominator_pos, Neighbourhood.contains_iff, quarters_eq, Nat.mul_left_comm]

end Double

namespace Decimal

/-- How many digits a numeral has. -/
def width (decimal : Decimal) : Nat := (toString decimal.digits).length

theorem width_le_iff {decimal : Decimal} {count : Nat} (positive : 0 < count) :
    decimal.width ≤ count ↔ decimal.digits < powerOfTen count := by
  have length : decimal.width = (Nat.toDigits 10 decimal.digits).length := by
    rw [width, Nat.toString_eq_ofList_toDigits, String.length_ofList]
  rw [length]
  exact Nat.length_toDigits_le_iff (by decide) positive

theorem width_pos (decimal : Decimal) : 0 < decimal.width := by
  rw [width, Nat.toString_eq_ofList_toDigits, String.length_ofList]
  exact Nat.length_toDigits_pos

theorem digits_lt (decimal : Decimal) : decimal.digits < powerOfTen decimal.width :=
  (width_le_iff decimal.width_pos).mp (Nat.le_refl _)

/-- The first digit of a numeral is not zero. -/
theorem le_digits {decimal : Decimal} (nonzero : decimal.digits ≠ 0) : powerOfTen (decimal.width - 1) ≤ decimal.digits := by
  by_cases single : decimal.width - 1 = 0
  · rw [single]
    exact Nat.pos_of_ne_zero nonzero
  · by_contra less
    have shorter := (width_le_iff (Nat.pos_of_ne_zero single)).mpr (Nat.not_le.mp less)
    omega

end Decimal

namespace Double

/-- A numeral that has its first digit far behind the point is rounded to zero. -/
theorem nearest_of_tiny {negative : Bool} {decimal : Decimal}
    (tiny : decimal.digits = 0 ∨ (decimal.width : Int) + decimal.exponent < -330) :
    nearest negative decimal.numerator decimal.denominator = .finite negative 0 0 := by
  apply nearest_of_small decimal.denominator_pos
  unfold Decimal.numerator Decimal.denominator
  rcases tiny with zero | far
  · rw [zero, Nat.zero_mul, ite_self, Nat.zero_mul]
    exact Nat.zero_le _
  · rw [if_pos (by omega), if_pos (by omega)]
    calc 2 * (decimal.digits * powerOfTwo 1074) = decimal.digits * powerOfTwo 1075 := by
          rw [powerOfTwo_succ 1074, Nat.mul_left_comm]
      _ ≤ powerOfTen decimal.width * powerOfTen 330 := Nat.mul_le_mul decimal.digits_lt.le (by decide +kernel)
      _ = powerOfTen (decimal.width + 330) := (powerOfTen_add _ _).symm
      _ ≤ powerOfTen decimal.exponent.natAbs := powerOfTen_mono (by omega)

/-- A numeral that has its first digit far before the point is rounded to infinity. -/
theorem nearest_of_huge {negative : Bool} {decimal : Decimal} (nonzero : decimal.digits ≠ 0)
    (huge : 310 < (decimal.width : Int) + decimal.exponent) :
    nearest negative decimal.numerator decimal.denominator = .infinite negative := by
  apply nearest_of_large decimal.denominator_pos
  have limit : powerOfTwo 1024 ≤ powerOfTen 310 := by decide +kernel
  have first := Decimal.le_digits nonzero
  unfold Decimal.numerator Decimal.denominator
  split
  next behind =>
    calc powerOfTwo 1024 * powerOfTen decimal.exponent.natAbs ≤ powerOfTen 310 * powerOfTen decimal.exponent.natAbs :=
          Nat.mul_le_mul_right _ limit
      _ = powerOfTen (310 + decimal.exponent.natAbs) := (powerOfTen_add _ _).symm
      _ ≤ powerOfTen (decimal.width - 1) := powerOfTen_mono (by omega)
      _ ≤ decimal.digits := first
  next before =>
    calc powerOfTwo 1024 * 1 = powerOfTwo 1024 := Nat.mul_one _
      _ ≤ powerOfTen 310 := limit
      _ ≤ powerOfTen (decimal.width - 1 + decimal.exponent.natAbs) := powerOfTen_mono (by omega)
      _ = powerOfTen (decimal.width - 1) * powerOfTen decimal.exponent.natAbs := powerOfTen_add _ _
      _ ≤ decimal.digits * powerOfTen decimal.exponent.natAbs := Nat.mul_le_mul_right _ first

/-- How a numeral is read does not depend on whether its size is looked at first. -/
theorem ofDecimal_eq_nearest (negative : Bool) (decimal : Decimal) :
    ofDecimal negative decimal.digits decimal.exponent = nearest negative decimal.numerator decimal.denominator := by
  unfold ofDecimal
  extract_lets size
  split
  next tiny =>
    rw [nearest_of_tiny tiny]
    exact nearest_of_small Nat.one_pos (by rw [Nat.zero_mul]; exact Nat.zero_le _)
  next ordinary =>
    obtain ⟨nonzero, _⟩ := not_or.mp ordinary
    split
    next huge => exact (nearest_of_huge nonzero huge).symm
    next =>
      unfold Decimal.numerator Decimal.denominator
      split
      · rfl
      · rfl

/-- A numeral is read as the double in whose neighbourhood it lies. -/
theorem ofDecimal_eq_finite_iff {negative : Bool} {exponent : Fin 2047} {fraction : Fin fractionCount} {decimal : Decimal} :
    ofDecimal negative decimal.digits decimal.exponent = .finite negative exponent fraction ↔
      (neighbourhood exponent fraction).contains decimal = true := by
  rw [ofDecimal_eq_nearest, nearest_iff_contains]

end Double
end LiveSchema
