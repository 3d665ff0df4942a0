import LiveSchema.Proofs.DecimalScale

/-! Shortest numerals. A double is written with the fewest digits that are read as the same
double again; of the numerals with so few digits the nearest one is taken, and of two that are
as near the even one. There is no other numeral of which all that is true. -/

namespace LiveSchema

namespace Decimal

theorem toRat_le_iff (place : ℤ) {one two : Nat} :
    (⟨one, place⟩ : Decimal).toRat ≤ (⟨two, place⟩ : Decimal).toRat ↔ one ≤ two := by
  rw [toRat_eq, toRat_eq, mul_le_mul_iff_of_pos_right (ten_pos place), Nat.cast_le]

theorem toRat_inj {one two : Nat} {place : ℤ} :
    (⟨one, place⟩ : Decimal).toRat = (⟨two, place⟩ : Decimal).toRat ↔ one = two := by
  rw [toRat_eq, toRat_eq, mul_left_inj' (ten_pos place).ne', Nat.cast_inj]

theorem toRat_nonneg (decimal : Decimal) : 0 ≤ decimal.toRat := by
  rw [toRat_eq]
  exact mul_nonneg (Nat.cast_nonneg _) (ten_pos _).le

theorem toRat_next (digits : Nat) (place : ℤ) :
    (⟨digits + 1, place⟩ : Decimal).toRat = (⟨digits, place⟩ : Decimal).toRat + 10 ^ place := by
  rw [toRat_eq, toRat_eq]
  push_cast
  ring

/-- Between two numerals of a place there is half of an odd one. -/
theorem toRat_between (digits : Nat) (place : ℤ) : (⟨2 * digits + 1, place⟩ : Decimal).toRat =
    (⟨digits, place⟩ : Decimal).toRat + (⟨digits + 1, place⟩ : Decimal).toRat := by
  rw [toRat_eq, toRat_eq, toRat_eq]
  push_cast
  ring

theorem compareFraction_lt_iff {decimal : Decimal} {numerator denominator : Nat} (positive : 0 < denominator) :
    decimal.compareFraction numerator denominator = .lt ↔ decimal.toRat < (numerator : ℚ) / denominator := by
  have own := decimal.denominator_pos
  rw [compareFraction_eq, Nat.compare_eq_lt, toRat_eq_div, div_lt_div_iff₀ (by exact_mod_cast own) (by exact_mod_cast positive)]
  norm_cast

theorem compareFraction_eq_iff {decimal : Decimal} {numerator denominator : Nat} (positive : 0 < denominator) :
    decimal.compareFraction numerator denominator = .eq ↔ decimal.toRat = (numerator : ℚ) / denominator := by
  have own : (decimal.denominator : ℚ) ≠ 0 := by exact_mod_cast decimal.denominator_pos.ne'
  have other : (denominator : ℚ) ≠ 0 := by exact_mod_cast positive.ne'
  rw [compareFraction_eq, Nat.compare_eq_eq, toRat_eq_div, div_eq_div_iff own other]
  norm_cast

end Decimal

namespace Double

theorem quarters_pos : 0 < quarters := powerOfTwo_pos _

namespace Neighbourhood

variable {hood : Neighbourhood} {place : ℤ} {numeral : Decimal}

/-- A number lies between the ends of a neighbourhood, or on an end that counts. -/
structure Inside (hood : Neighbourhood) (size : ℚ) : Prop where
  above : (hood.low : ℚ) ≤ size * quarters
  below : size * quarters ≤ hood.high
  ends : size * quarters = hood.low ∨ size * quarters = hood.high → hood.closed = true

theorem contains_iff_inside {decimal : Decimal} : hood.contains decimal = true ↔ hood.Inside decimal.toRat := by
  have own : (0 : ℚ) < decimal.denominator := by exact_mod_cast decimal.denominator_pos
  have scaled : decimal.toRat * quarters = ((decimal.numerator * quarters : Nat) : ℚ) / decimal.denominator := by
    rw [Decimal.toRat_eq_div]
    push_cast
    ring
  have low_iff : (hood.low : ℚ) ≤ decimal.toRat * quarters ↔ hood.low * decimal.denominator ≤ decimal.numerator * quarters := by
    rw [scaled, le_div_iff₀ own]
    norm_cast
  have high_iff : decimal.toRat * quarters ≤ hood.high ↔ decimal.numerator * quarters ≤ hood.high * decimal.denominator := by
    rw [scaled, div_le_iff₀ own]
    norm_cast
  have end_iff : ∀ bound : Nat, decimal.toRat * quarters = bound ↔ decimal.numerator * quarters = bound * decimal.denominator := by
    intro bound
    rw [scaled, div_eq_iff own.ne']
    norm_cast
  rw [contains_iff]
  constructor
  · intro around
    exact ⟨low_iff.mpr around.above, high_iff.mpr around.below, fun tie => around.ends (tie.imp (end_iff _).mp (end_iff _).mp)⟩
  · intro inside
    exact ⟨low_iff.mp inside.above, high_iff.mp inside.below, fun tie => inside.ends (tie.imp (end_iff _).mpr (end_iff _).mpr)⟩

/-- There are no gaps in a neighbourhood. -/
theorem Inside.between {one two size : ℚ} (first : hood.Inside one) (last : hood.Inside two) (least : one ≤ size)
    (most : size ≤ two) : hood.Inside size := by
  have positive : (0 : ℚ) < quarters := by exact_mod_cast quarters_pos
  have lower := mul_le_mul_of_nonneg_right least positive.le
  have upper := mul_le_mul_of_nonneg_right most positive.le
  refine ⟨first.above.trans lower, upper.trans last.below, ?_⟩
  rintro (bottom | top)
  · exact first.ends (.inl (le_antisymm (lower.trans bottom.le) first.above))
  · exact last.ends (.inr (le_antisymm last.below (top.ge.trans upper)))

def middle (hood : Neighbourhood) : ℚ := hood.centre / quarters

/-- The last numeral of a place that is not above the middle of a neighbourhood. -/
def floor (hood : Neighbourhood) (place : ℤ) : Nat :=
  if place < 0 then hood.centre * powerOfTen place.natAbs / quarters
  else hood.centre / (quarters * powerOfTen place.natAbs)

theorem floor_bounds (hood : Neighbourhood) (place : ℤ) :
    (⟨hood.floor place, place⟩ : Decimal).toRat ≤ hood.middle ∧
      hood.middle < (⟨hood.floor place + 1, place⟩ : Decimal).toRat := by
  have nonzero := quarters_pos
  have power := powerOfTen_pos place.natAbs
  simp only [Decimal.toRat_eq_div, Decimal.numerator, Decimal.denominator, floor, middle]
  -- the powers stay closed, for they are too large to be computed
  generalize quarters = unit at nonzero ⊢
  generalize powerOfTen place.natAbs = tens at power ⊢
  have positive : (0 : ℚ) < unit := by exact_mod_cast nonzero
  have scaled : (0 : ℚ) < tens := by exact_mod_cast power
  split
  next behind =>
    rw [div_le_div_iff₀ scaled positive, div_lt_div_iff₀ positive scaled]
    have least := Nat.div_mul_le_self (hood.centre * tens) unit
    have most := Nat.lt_mul_div_succ (hood.centre * tens) nonzero
    rw [Nat.mul_comm unit] at most
    exact ⟨by exact_mod_cast least, by exact_mod_cast most⟩
  next before =>
    rw [Nat.cast_one, div_one, div_one, le_div_iff₀ positive, div_lt_iff₀ positive]
    have least := Nat.div_mul_le_self hood.centre (unit * tens)
    have most := Nat.lt_mul_div_succ hood.centre (Nat.mul_pos nonzero power)
    generalize hood.centre / (unit * tens) = whole at least most ⊢
    rw [Nat.mul_comm unit, ← Nat.mul_assoc] at least
    rw [Nat.mul_comm, Nat.mul_comm unit, ← Nat.mul_assoc] at most
    exact ⟨by exact_mod_cast least, by exact_mod_cast most⟩

/-- How far a numeral is from the middle of a neighbourhood. -/
def distance (hood : Neighbourhood) (numeral : Decimal) : ℚ := |numeral.toRat - hood.middle|

/-- A numeral of a place is nearest to the middle of a neighbourhood among those inside, and it
is even if there is another one as near. -/
structure Picks (hood : Neighbourhood) (place : ℤ) (numeral : Decimal) : Prop where
  placed : numeral.exponent = place
  bounded : numeral.digits ≤ hood.floor place + 1
  inside : hood.Inside numeral.toRat
  nearest : ∀ digits, hood.Inside (⟨digits, place⟩ : Decimal).toRat → hood.distance numeral ≤ hood.distance ⟨digits, place⟩
  even : ∀ digits, hood.Inside (⟨digits, place⟩ : Decimal).toRat → hood.distance numeral = hood.distance ⟨digits, place⟩ →
    digits = numeral.digits ∨ numeral.digits % 2 = 0 ∧ (digits = numeral.digits + 1 ∨ numeral.digits = digits + 1)

/-- Below a power of ten a numeral of a place that far down has just as many digits, or is the power. -/
theorem Picks.digits_le {scale : ℤ} {count : Nat} (picks : hood.Picks (scale - count) numeral) (limited : hood.middle < 10 ^ scale) :
    numeral.digits ≤ powerOfTen count := by
  have power : (⟨powerOfTen count, scale - count⟩ : Decimal).toRat = 10 ^ scale := by
    rw [Decimal.toRat_eq, cast_powerOfTen, ← ten_add, add_sub_cancel]
  have least := (hood.floor_bounds (scale - count)).1
  have under := (least.trans_lt limited).trans_eq power.symm
  have floor : hood.floor (scale - count) < powerOfTen count :=
    lt_of_not_ge fun more => absurd ((Decimal.toRat_le_iff _).mpr more) (not_le.mpr under)
  exact picks.bounded.trans floor

/-- Another numeral of the place that is as near is the same, or it is next to the even one. -/
theorem Picks.adjacent {digits : Nat} (picks : hood.Picks place numeral) (inside : hood.Inside (⟨digits, place⟩ : Decimal).toRat)
    (tie : hood.distance numeral = hood.distance ⟨digits, place⟩) : (⟨digits, place⟩ : Decimal).toRat = numeral.toRat ∨
      ∃ half : ℤ, numeral.toRat = 2 * half * ((⟨digits, place⟩ : Decimal).toRat - numeral.toRat) := by
  obtain ⟨own, exponent⟩ := numeral
  obtain rfl : exponent = place := picks.placed
  rcases picks.even digits inside tie with same | ⟨even, next⟩
  · exact .inl (Decimal.toRat_inj.mpr same)
  obtain ⟨half, rfl⟩ : ∃ half, own = 2 * half := ⟨own / 2, (Nat.mul_div_cancel' (Nat.dvd_of_mod_eq_zero even)).symm⟩
  rcases next with after | before
  · refine .inr ⟨half, ?_⟩
    rw [after, Decimal.toRat_next, add_sub_cancel_left, Decimal.toRat_eq]
    push_cast
    rfl
  · refine .inr ⟨-half, ?_⟩
    have before : 2 * half = digits + 1 := before
    have spread : (⟨digits, exponent⟩ : Decimal).toRat - (⟨2 * half, exponent⟩ : Decimal).toRat = -10 ^ exponent := by
      rw [before, Decimal.toRat_next, sub_add_cancel_left]
    rw [spread, Decimal.toRat_eq]
    push_cast
    ring

/-- A candidate is at least as near as all numerals on its side. -/
structure Leads (hood : Neighbourhood) (place : ℤ) (candidate digits : Nat) : Prop where
  near : hood.distance ⟨candidate, place⟩ ≤ hood.distance ⟨digits, place⟩
  alone : hood.distance ⟨candidate, place⟩ = hood.distance ⟨digits, place⟩ → digits = candidate

theorem distance_floor {digits : Nat} (lower : digits ≤ hood.floor place) :
    hood.distance ⟨digits, place⟩ = hood.middle - (⟨digits, place⟩ : Decimal).toRat := by
  have least := (hood.floor_bounds place).1
  rw [distance, abs_sub_comm, abs_of_nonneg (sub_nonneg.mpr (((Decimal.toRat_le_iff place).mpr lower).trans least))]

theorem distance_next {digits : Nat} (upper : hood.floor place + 1 ≤ digits) :
    hood.distance ⟨digits, place⟩ = (⟨digits, place⟩ : Decimal).toRat - hood.middle := by
  have most := (hood.floor_bounds place).2
  rw [distance, abs_of_nonneg (sub_nonneg.mpr (most.le.trans ((Decimal.toRat_le_iff place).mpr upper)))]

theorem leads_floor {digits : Nat} (lower : digits ≤ hood.floor place) : hood.Leads place (hood.floor place) digits := by
  have further := (Decimal.toRat_le_iff place).mpr lower
  constructor
  · rw [distance_floor le_rfl, distance_floor lower]
    exact sub_le_sub_left further _
  · rw [distance_floor le_rfl, distance_floor lower, sub_right_inj, Decimal.toRat_inj]
    exact Eq.symm

theorem leads_next {digits : Nat} (upper : hood.floor place + 1 ≤ digits) : hood.Leads place (hood.floor place + 1) digits := by
  have further := (Decimal.toRat_le_iff place).mpr upper
  constructor
  · rw [distance_next le_rfl, distance_next upper]
    exact sub_le_sub_right further _
  · rw [distance_next le_rfl, distance_next upper, sub_left_inj, Decimal.toRat_inj]
    exact Eq.symm

/-- Half of an odd numeral between the two candidates says which is nearer. -/
theorem compare_between (hood : Neighbourhood) (place : ℤ) :
    hood.distance ⟨hood.floor place + 1, place⟩ - hood.distance ⟨hood.floor place, place⟩ =
      (⟨2 * hood.floor place + 1, place⟩ : Decimal).toRat - ((2 * hood.centre : Nat) : ℚ) / quarters := by
  have twice : ((2 * hood.centre : Nat) : ℚ) / quarters = 2 * hood.middle := by
    rw [middle, Nat.cast_mul, mul_div_assoc, Nat.cast_ofNat]
  rw [distance_floor le_rfl, distance_next le_rfl, twice, Decimal.toRat_between]
  ring

/-- Of two candidates that lead on their sides one is picked if it is nearer, or as near and even. -/
theorem picks_of_leads {own other : Nat} (inside : hood.Inside (⟨own, place⟩ : Decimal).toRat) (bounded : own ≤ hood.floor place + 1)
    (sides : ∀ digits, hood.Inside (⟨digits, place⟩ : Decimal).toRat →
      hood.Leads place own digits ∨ hood.Leads place other digits ∧ hood.Inside (⟨other, place⟩ : Decimal).toRat)
    (next : other = own + 1 ∨ own = other + 1)
    (closer : hood.Inside (⟨other, place⟩ : Decimal).toRat → hood.distance ⟨own, place⟩ < hood.distance ⟨other, place⟩ ∨
      hood.distance ⟨own, place⟩ = hood.distance ⟨other, place⟩ ∧ own % 2 = 0) : hood.Picks place ⟨own, place⟩ := by
  refine ⟨rfl, bounded, inside, fun digits present => ?_, fun digits present tie => ?_⟩
  · rcases sides digits present with leads | ⟨leads, there⟩
    · exact leads.near
    · rcases closer there with less | ⟨same, _⟩
      · exact less.le.trans leads.near
      · exact same.trans_le leads.near
  · rcases sides digits present with leads | ⟨leads, there⟩
    · exact .inl (leads.alone tie)
    · rcases closer there with less | ⟨same, even⟩
      · exact absurd (less.trans_le leads.near) tie.not_lt
      · rw [leads.alone (same.symm.trans tie)]
        exact .inr ⟨even, next⟩

variable (centred : hood.Inside hood.middle)
include centred

/-- A numeral inside is below the middle, and then so is the last one, or it is above, and then
so is the first one. -/
theorem sides {digits : Nat} (inside : hood.Inside (⟨digits, place⟩ : Decimal).toRat) :
    hood.Leads place (hood.floor place) digits ∧ hood.Inside (⟨hood.floor place, place⟩ : Decimal).toRat ∨
      hood.Leads place (hood.floor place + 1) digits ∧ hood.Inside (⟨hood.floor place + 1, place⟩ : Decimal).toRat := by
  obtain ⟨least, most⟩ := hood.floor_bounds place
  rcases Nat.lt_or_ge (hood.floor place) digits with upper | lower
  · exact .inr ⟨leads_next upper, centred.between inside most.le ((Decimal.toRat_le_iff place).mpr upper)⟩
  · exact .inl ⟨leads_floor lower, inside.between centred ((Decimal.toRat_le_iff place).mpr lower) least⟩

theorem picks_floor (inside : hood.Inside (⟨hood.floor place, place⟩ : Decimal).toRat)
    (closer : hood.Inside (⟨hood.floor place + 1, place⟩ : Decimal).toRat →
      hood.distance ⟨hood.floor place, place⟩ < hood.distance ⟨hood.floor place + 1, place⟩ ∨
      hood.distance ⟨hood.floor place, place⟩ = hood.distance ⟨hood.floor place + 1, place⟩ ∧ hood.floor place % 2 = 0) :
    hood.Picks place ⟨hood.floor place, place⟩ :=
  picks_of_leads inside (Nat.le_succ _) (fun _ present => (sides centred present).imp_left And.left) (.inl rfl) closer

theorem picks_next (inside : hood.Inside (⟨hood.floor place + 1, place⟩ : Decimal).toRat)
    (closer : hood.Inside (⟨hood.floor place, place⟩ : Decimal).toRat →
      hood.distance ⟨hood.floor place + 1, place⟩ < hood.distance ⟨hood.floor place, place⟩ ∨
      hood.distance ⟨hood.floor place + 1, place⟩ = hood.distance ⟨hood.floor place, place⟩ ∧ (hood.floor place + 1) % 2 = 0) :
    hood.Picks place ⟨hood.floor place + 1, place⟩ :=
  picks_of_leads inside (Nat.le_refl _) (fun _ present => (sides centred present).symm.imp_left And.left) (.inr rfl) closer

theorem select?_eq_some {scale : ℤ} {count : Nat} (selected : hood.select? scale count = some numeral) :
    hood.Picks (scale - count) numeral := by
  unfold select? at selected
  extract_lets place floor down up at selected
  have between : hood.distance up - hood.distance down =
      (⟨2 * floor + 1, place⟩ : Decimal).toRat - ((2 * hood.centre : Nat) : ℚ) / quarters := hood.compare_between place
  split at selected
  next below above =>
    split at selected
    next nearer =>
      rw [Decimal.compareFraction_gt_iff quarters_pos, ← sub_pos, ← between, sub_pos] at nearer
      rw [← Option.some.inj selected]
      exact picks_floor centred (contains_iff_inside.mp below) fun _ => .inl nearer
    next nearer =>
      rw [Decimal.compareFraction_lt_iff quarters_pos, ← sub_neg, ← between, sub_neg] at nearer
      rw [← Option.some.inj selected]
      exact picks_next centred (contains_iff_inside.mp above) fun _ => .inl nearer
    next same =>
      rw [Decimal.compareFraction_eq_iff quarters_pos, ← sub_eq_zero, ← between, sub_eq_zero] at same
      rw [← Option.some.inj selected]
      split
      next even => exact picks_floor centred (contains_iff_inside.mp below) fun _ => .inr ⟨same.symm, even⟩
      next odd =>
        have even : (floor + 1) % 2 = 0 := by omega
        exact picks_next centred (contains_iff_inside.mp above) fun _ => .inr ⟨same, even⟩
  next below outside =>
    rw [← Option.some.inj selected]
    refine picks_floor centred (contains_iff_inside.mp below) fun above => ?_
    cases outside.symm.trans (contains_iff_inside.mpr above)
  next outside above =>
    rw [← Option.some.inj selected]
    refine picks_next centred (contains_iff_inside.mp above) fun below => ?_
    cases outside.symm.trans (contains_iff_inside.mpr below)
  next => cases selected

theorem select?_eq_none {scale : ℤ} {count : Nat} (nothing : hood.select? scale count = none) (digits : Nat) :
    ¬ hood.Inside (⟨digits, scale - count⟩ : Decimal).toRat := by
  intro inside
  unfold select? at nothing
  extract_lets place floor down up at nothing
  split at nothing
  next => split at nothing <;> cases nothing
  next => cases nothing
  next => cases nothing
  next low high =>
    rcases sides centred inside with ⟨_, below⟩ | ⟨_, above⟩
    · cases low.symm.trans (contains_iff_inside.mpr below)
    · cases high.symm.trans (contains_iff_inside.mpr above)

/-- A numeral inside with so few digits gives way to one of the place where so many digits
begin, and that one is not further from the middle. -/
theorem exists_at_place {scale : ℤ} {count : Nat} (some : 0 < count) (scaled : (10 : ℚ) ^ (scale - 1) ≤ hood.middle) {other : Decimal}
    (few : other.digits < powerOfTen count) (inside : hood.Inside other.toRat) :
    ∃ digits, hood.Inside (⟨digits, scale - count⟩ : Decimal).toRat ∧
      hood.distance ⟨digits, scale - count⟩ ≤ hood.distance other ∧
      (hood.distance ⟨digits, scale - count⟩ = hood.distance other →
        (⟨digits, scale - count⟩ : Decimal).toRat = other.toRat) := by
  -- a coarser numeral is also one of the place, and a finer one with so few digits is below all of them
  by_cases coarse : scale - count ≤ other.exponent
  · have same : (⟨other.digits * powerOfTen (other.exponent - (scale - count)).natAbs, scale - count⟩ : Decimal).toRat =
        other.toRat := by
      rw [Decimal.toRat_eq, Decimal.toRat_eq, Nat.cast_mul, cast_powerOfTen, mul_assoc, ← ten_add]
      congr 2
      dsimp only
      omega
    refine ⟨_, same ▸ inside, (congrArg (|· - hood.middle|) same).le, fun _ => same⟩
  · have least : (⟨powerOfTen (count - 1), scale - count⟩ : Decimal).toRat = 10 ^ (scale - 1) := by
      rw [Decimal.toRat_eq, cast_powerOfTen, ← ten_add]
      congr 1
      dsimp only
      omega
    have below : other.toRat < 10 ^ (scale - 1) := by
      rw [Decimal.toRat_eq]
      calc (other.digits : ℚ) * 10 ^ other.exponent < powerOfTen count * 10 ^ other.exponent := by
            have positive := ten_pos other.exponent
            gcongr
        _ = 10 ^ ((count : ℤ) + other.exponent) := by rw [cast_powerOfTen, ten_add]
        _ ≤ 10 ^ (scale - 1) := ten_mono (by omega)
    have nearer : hood.distance ⟨powerOfTen (count - 1), scale - count⟩ < hood.distance other := by
      rw [distance, distance, least, abs_sub_comm, abs_of_nonneg (by linarith), abs_sub_comm, abs_of_nonneg (by linarith)]
      linarith
    refine ⟨powerOfTen (count - 1), ?_, nearer.le, fun tie => absurd tie nearer.ne⟩
    rw [least]
    exact inside.between centred below.le scaled

end Neighbourhood

variable {negative : Bool} {exponent : Fin 2047} {fraction : Fin fractionCount}

/-- The value of a double without its sign. -/
def size (exponent : Fin 2047) (fraction : Fin fractionCount) : ℚ := magnitude exponent fraction / powerOfTwo 1074

theorem size_nonneg (exponent : Fin 2047) (fraction : Fin fractionCount) : 0 ≤ size exponent fraction :=
  div_nonneg (Nat.cast_nonneg _) (Nat.cast_nonneg _)

theorem toRat?_eq (negative : Bool) (exponent : Fin 2047) (fraction : Fin fractionCount) :
    (finite negative exponent fraction).toRat? = some (if negative then -size exponent fraction else size exponent fraction) := by
  unfold toRat? size
  dsimp only
  generalize powerOfTwo 1074 = unit
  rw [Rat.mkRat_eq_div]
  cases negative with
  | false => rfl
  | true =>
    rw [if_pos rfl, if_pos rfl]
    push_cast
    rw [neg_div]

theorem neighbourhood_middle (exponent : Fin 2047) (fraction : Fin fractionCount) :
    (neighbourhood exponent fraction).middle = size exponent fraction := by
  have centre : (neighbourhood exponent fraction).centre = 4 * magnitude exponent fraction := Nat.mul_assoc _ _ _
  rw [Neighbourhood.middle, centre, quarters_eq, size]
  generalize powerOfTwo 1074 = unit
  push_cast
  exact mul_div_mul_left _ _ (by norm_num)

/-- The ends of a neighbourhood and its middle in quarter units. -/
theorem neighbourhood_bounds (nonzero : significand exponent fraction ≠ 0) :
    ((neighbourhood exponent fraction).low : ℚ) =
      (4 * significand exponent fraction - reach exponent fraction) * powerOfTwo (unit exponent) ∧
    (neighbourhood exponent fraction).middle * quarters = 4 * significand exponent fraction * powerOfTwo (unit exponent) ∧
    ((neighbourhood exponent fraction).high : ℚ) = (4 * significand exponent fraction + 2) * powerOfTwo (unit exponent) := by
  have reaches : reach exponent fraction ≤ 4 * significand exponent fraction := by
    rcases reach_cases exponent fraction with ⟨far, _⟩ | ⟨near, _, power⟩ <;> omega
  have centre : (neighbourhood exponent fraction).centre = 4 * significand exponent fraction * powerOfTwo (unit exponent) := rfl
  have quarters_ne : (quarters : ℚ) ≠ 0 := Nat.cast_ne_zero.mpr quarters_pos.ne'
  refine ⟨?_, ?_, ?_⟩
  · have low : (neighbourhood exponent fraction).low =
      (4 * significand exponent fraction - reach exponent fraction) * powerOfTwo (unit exponent) := rfl
    rw [low, Nat.cast_mul, Nat.cast_sub reaches]
    push_cast
    rfl
  · rw [Neighbourhood.middle, div_mul_cancel₀ _ quarters_ne, centre]
    push_cast
    rfl
  · have high : (neighbourhood exponent fraction).high = (4 * significand exponent fraction + 2) * powerOfTwo (unit exponent) := rfl
    rw [high]
    push_cast
    rfl

/-- What is strictly between the ends of a neighbourhood is inside. -/
theorem Neighbourhood.inside_of_lt {hood : Neighbourhood} {place : ℚ} (above : (hood.low : ℚ) < place * quarters)
    (below : place * quarters < hood.high) : hood.Inside place :=
  ⟨above.le, below.le, fun tie => tie.elim (fun bottom => absurd bottom above.ne') fun top => absurd top below.ne⟩

theorem middle_inside (nonzero : significand exponent fraction ≠ 0) :
    (neighbourhood exponent fraction).Inside (neighbourhood exponent fraction).middle := by
  obtain ⟨low, middle, high⟩ := neighbourhood_bounds nonzero
  have step : (0 : ℚ) < powerOfTwo (unit exponent) := by exact_mod_cast powerOfTwo_pos _
  have reaches : (1 : ℚ) ≤ reach exponent fraction := by
    rcases reach_cases exponent fraction with ⟨far, _⟩ | ⟨near, _, _⟩
    · rw [far]
      norm_num
    · rw [near, Nat.cast_one]
  refine Neighbourhood.inside_of_lt ?_ ?_
  · rw [low, middle]
    nlinarith
  · rw [high, middle]
    linarith

/-- Of seventeen digits the gap between two numerals is smaller than every neighbourhood. -/
theorem gap_narrow (nonzero : significand exponent fraction ≠ 0) {scale : ℤ}
    (scaled : (10 : ℚ) ^ (scale - 1) ≤ (neighbourhood exponent fraction).middle) :
    (10 : ℚ) ^ (scale - 17) * quarters < (2 + reach exponent fraction) * powerOfTwo (unit exponent) := by
  obtain ⟨_, middle, _⟩ := neighbourhood_bounds nonzero
  have step : (0 : ℚ) < powerOfTwo (unit exponent) := by exact_mod_cast powerOfTwo_pos _
  have positive : (0 : ℚ) < quarters := Nat.cast_pos.mpr quarters_pos
  have gap : (10 : ℚ) ^ (scale - 17) * 10 ^ 16 = 10 ^ (scale - 1) := by
    rw [show scale - 1 = scale - 17 + 16 by ring, ten_add]
    norm_num
  have spaced : (10 : ℚ) ^ (scale - 17) * quarters * 10 ^ 16 ≤ 4 * significand exponent fraction * powerOfTwo (unit exponent) := by
    rw [← middle, mul_right_comm, gap]
    exact mul_le_mul_of_nonneg_right scaled positive.le
  generalize (10 : ℚ) ^ (scale - 17) * quarters = spread at spaced ⊢
  rcases reach_cases exponent fraction with ⟨far, _⟩ | ⟨near, _, power⟩
  · have bound : (significand exponent fraction : ℚ) ≤ 9007199254740991 := by
      exact_mod_cast Nat.le_of_lt_succ (significand_lt exponent fraction)
    have product := mul_le_mul_of_nonneg_right bound step.le
    rw [far]
    push_cast
    linarith
  · have bound : (significand exponent fraction : ℚ) = 4503599627370496 := by exact_mod_cast power
    rw [bound] at spaced
    rw [near]
    push_cast
    linarith

/-- Seventeen digits are enough for a numeral in every neighbourhood. -/
theorem exists_seventeen (nonzero : significand exponent fraction ≠ 0) {scale : ℤ}
    (scaled : (10 : ℚ) ^ (scale - 1) ≤ (neighbourhood exponent fraction).middle) :
    ∃ digits, (neighbourhood exponent fraction).Inside (⟨digits, scale - 17⟩ : Decimal).toRat := by
  obtain ⟨low, middle, high⟩ := neighbourhood_bounds nonzero
  obtain ⟨least, most⟩ := (neighbourhood exponent fraction).floor_bounds (scale - 17)
  have narrow := gap_narrow nonzero scaled
  have step : (0 : ℚ) < powerOfTwo (unit exponent) := by exact_mod_cast powerOfTwo_pos _
  have positive : (0 : ℚ) < quarters := Nat.cast_pos.mpr quarters_pos
  rw [Decimal.toRat_next] at most
  generalize (neighbourhood exponent fraction).floor (scale - 17) = floor at least most
  generalize spread_eq : (10 : ℚ) ^ (scale - 17) = spread at narrow most
  have under := mul_le_mul_of_nonneg_right least positive.le
  have beyond := mul_lt_mul_of_pos_right most positive
  rw [middle] at under beyond
  -- the last numeral below the middle is inside, or it is below the lower end and the next one is inside
  by_cases near : (4 * significand exponent fraction - reach exponent fraction : ℚ) * powerOfTwo (unit exponent) <
      (⟨floor, scale - 17⟩ : Decimal).toRat * quarters
  · refine ⟨floor, Neighbourhood.inside_of_lt ?_ ?_⟩
    · rw [low]
      exact near
    · rw [high]
      linarith
  · refine ⟨floor + 1, Neighbourhood.inside_of_lt ?_ ?_⟩
    · rw [low, Decimal.toRat_next, spread_eq]
      have reaching : (0 : ℚ) ≤ reach exponent fraction * powerOfTwo (unit exponent) := mul_nonneg (Nat.cast_nonneg _) step.le
      linarith
    · rw [high, Decimal.toRat_next, spread_eq]
      linarith

/-- The first one among so many attempts that comes to something. -/
theorem findSome?_range {attempt : Nat → Option α} {count : Nat} {found : α}
    (first : (List.range count).findSome? attempt = some found) :
    ∃ index, index < count ∧ attempt index = some found ∧ ∀ earlier, earlier < index → attempt earlier = none := by
  induction count with
  | zero => cases first
  | succ count ih =>
    rw [List.range_succ, List.findSome?_append] at first
    cases before : (List.range count).findSome? attempt with
    | some other =>
      rw [before, Option.some_or] at first
      cases first
      obtain ⟨index, within, same, earlier⟩ := ih before
      exact ⟨index, within.trans (Nat.lt_succ_self count), same, earlier⟩
    | none =>
      rw [before, Option.none_or] at first
      rw [List.findSome?_eq_none_iff] at before
      rw [List.findSome?_singleton] at first
      exact ⟨count, Nat.lt_succ_self count, first, fun earlier less => before earlier (List.mem_range.mpr less)⟩

theorem reads_iff {decimal : Decimal} : ofDecimal negative decimal.digits decimal.exponent = .finite negative exponent fraction ↔
    (neighbourhood exponent fraction).Inside decimal.toRat :=
  ofDecimal_eq_finite_iff.trans Neighbourhood.contains_iff_inside

/-- A numeral is read as a double, and it is the one by which the double is written: no other
has fewer digits, none with as few is nearer, and of two that are as near it is the even one. -/
structure Shortest (negative : Bool) (exponent : Fin 2047) (fraction : Fin fractionCount) (numeral : Decimal) : Prop where
  reads : ofDecimal negative numeral.digits numeral.exponent = .finite negative exponent fraction
  fewest : ∀ other : Decimal, ofDecimal negative other.digits other.exponent = .finite negative exponent fraction →
    numeral.width ≤ other.width
  nearest : ∀ other : Decimal, ofDecimal negative other.digits other.exponent = .finite negative exponent fraction →
    other.width = numeral.width → |numeral.toRat - size exponent fraction| ≤ |other.toRat - size exponent fraction|
  even : ∀ other : Decimal, ofDecimal negative other.digits other.exponent = .finite negative exponent fraction →
    other.width = numeral.width → |numeral.toRat - size exponent fraction| = |other.toRat - size exponent fraction| →
      other.toRat = numeral.toRat ∨ ∃ half : ℤ, numeral.toRat = 2 * half * (other.toRat - numeral.toRat)

/-- All numerals by which a double may be written have one value. -/
theorem Shortest.unique {one two : Decimal} (first : Shortest negative exponent fraction one)
    (second : Shortest negative exponent fraction two) : one.toRat = two.toRat := by
  have width := le_antisymm (first.fewest two second.reads) (second.fewest one first.reads)
  have distance := le_antisymm (first.nearest two second.reads width.symm) (second.nearest one first.reads width)
  rcases first.even two second.reads width.symm distance with same | ⟨half, here⟩
  · exact same.symm
  rcases second.even one first.reads width distance.symm with same | ⟨other, there⟩
  · exact same
  -- both would be an even number of gaps, and they are one gap apart
  by_contra different
  have apart : one.toRat - two.toRat ≠ 0 := sub_ne_zero.mpr different
  have whole : (one.toRat - two.toRat) * (2 * (half + other) + 1) = 0 := by linarith
  have odd := (mul_eq_zero.mp whole).resolve_left apart
  have odd_int : 2 * (half + other) + 1 = 0 := by exact_mod_cast odd
  omega

/-- Zero lies in its own neighbourhood, of which it is the lower end. -/
theorem zero_inside (nothing : significand exponent fraction = 0) : (neighbourhood exponent fraction).Inside 0 := by
  have low : (neighbourhood exponent fraction).low = 0 := by
    have product : (neighbourhood exponent fraction).low =
      (4 * significand exponent fraction - reach exponent fraction) * powerOfTwo (unit exponent) := rfl
    rw [product, nothing, Nat.mul_zero, Nat.zero_sub, Nat.zero_mul]
  refine ⟨?_, ?_, fun _ => neighbourhood_closed.mpr ?_⟩
  · rw [low, Nat.cast_zero, zero_mul]
  · rw [zero_mul]
    exact Nat.cast_nonneg _
  · rw [nothing]

/-- Zero is written with the one digit zero. -/
theorem shortest_zero (zero : magnitude exponent fraction = 0) : Shortest negative exponent fraction ⟨0, 0⟩ := by
  have nothing : significand exponent fraction = 0 := (Nat.mul_eq_zero.mp zero).resolve_right (powerOfTwo_pos _).ne'
  have value : (⟨0, 0⟩ : Decimal).toRat = 0 := by rw [Decimal.toRat_eq, Nat.cast_zero, zero_mul]
  have none : size exponent fraction = 0 := by rw [size, zero, Nat.cast_zero, zero_div]
  have width : (⟨0, 0⟩ : Decimal).width ≤ 1 := (Decimal.width_le_iff Nat.one_pos).mpr (powerOfTen_pos 1)
  refine ⟨?_, fun other _ => width.trans other.width_pos, fun other _ _ => ?_, fun other _ _ tie => .inl ?_⟩
  · rw [reads_iff, value]
    exact zero_inside nothing
  · rw [value, none, sub_zero, abs_zero]
    exact abs_nonneg _
  · rw [value, none, sub_zero, sub_zero, abs_zero] at tie
    rw [value, abs_eq_zero.mp tie.symm]

/-- A numeral taken at the first place where there is one inside is the shortest, also without
the zeros at its end. -/
theorem shortest_of_picks {scale : ℤ} {count : Nat} {numeral : Decimal} (nonzero : significand exponent fraction ≠ 0)
    (scaled : (10 : ℚ) ^ (scale - 1) ≤ (neighbourhood exponent fraction).middle)
    (limited : (neighbourhood exponent fraction).middle < 10 ^ scale) (some : 0 < count) (few : count ≤ 17)
    (picks : (neighbourhood exponent fraction).Picks (scale - count) numeral)
    (earlier : ∀ fewer, 0 < fewer → fewer < count →
      ∀ digits, ¬ (neighbourhood exponent fraction).Inside (⟨digits, scale - fewer⟩ : Decimal).toRat) :
    Shortest negative exponent fraction (numeral.stripZeros 17) := by
  have centred := middle_inside nonzero
  have width : (numeral.stripZeros 17).width ≤ count :=
    (Decimal.width_le_iff some).mpr (Decimal.stripZeros_digits_lt few some (picks.digits_le limited))
  have same := numeral.stripZeros_toRat 17
  have fewest : ∀ other : Decimal, ofDecimal negative other.digits other.exponent = .finite negative exponent fraction →
      count ≤ other.width := by
    intro other reads
    -- a shorter one would give way to a numeral of an earlier place, where there are none
    by_contra fewer
    obtain ⟨digits, inside, _⟩ := Neighbourhood.exists_at_place centred other.width_pos scaled other.digits_lt (reads_iff.mp reads)
    exact earlier other.width other.width_pos (not_le.mp fewer) digits inside
  have at_place : ∀ other : Decimal, ofDecimal negative other.digits other.exponent = .finite negative exponent fraction →
      other.width = (numeral.stripZeros 17).width → _ := fun other reads alike =>
    Neighbourhood.exists_at_place centred some scaled ((Decimal.width_le_iff some).mp (alike.trans_le width)) (reads_iff.mp reads)
  refine ⟨?_, fun other reads => width.trans (fewest other reads), fun other reads alike => ?_, fun other reads alike tie => ?_⟩
  · rw [reads_iff, same]
    exact picks.inside
  · obtain ⟨digits, inside, nearer, _⟩ := at_place other reads alike
    rw [same, ← neighbourhood_middle]
    exact (picks.nearest digits inside).trans nearer
  · obtain ⟨digits, inside, nearer, equal⟩ := at_place other reads alike
    rw [same, ← neighbourhood_middle] at tie
    have level := le_antisymm nearer (tie.symm.trans_le (picks.nearest digits inside))
    have value := equal level
    rw [same, ← value]
    exact picks.adjacent inside (tie.trans level.symm)

theorem centre_pos (nonzero : significand exponent fraction ≠ 0) : 0 < (neighbourhood exponent fraction).centre :=
  Nat.mul_pos (Nat.mul_pos (by decide) (Nat.pos_of_ne_zero nonzero)) (powerOfTwo_pos _)

theorem log_lt {value limit : Nat} (nonzero : value ≠ 0) (less : value < powerOfTwo limit) : value.log2 < limit :=
  (Nat.log2_lt nonzero).mpr less

theorem centre_log (nonzero : significand exponent fraction ≠ 0) : (neighbourhood exponent fraction).centre.log2 < 4000 := by
  have inRange := exponent.isLt
  have place : 55 + unit exponent ≤ 4000 := by
    unfold unit
    omega
  refine log_lt (centre_pos nonzero).ne' ?_
  calc (neighbourhood exponent fraction).centre = 4 * significand exponent fraction * powerOfTwo (unit exponent) := rfl
    _ < 4 * (2 * fractionCount) * powerOfTwo (unit exponent) :=
      Nat.mul_lt_mul_of_pos_right (Nat.mul_lt_mul_of_pos_left (significand_lt exponent fraction) (by decide)) (powerOfTwo_pos _)
    _ = powerOfTwo 55 * powerOfTwo (unit exponent) := congrArg (· * _) (by decide)
    _ = powerOfTwo (55 + unit exponent) := (powerOfTwo_add 55 _).symm
    _ ≤ powerOfTwo 4000 := powerOfTwo_mono place

theorem quarters_log : quarters.log2 < 4000 := log_lt quarters_pos.ne' (powerOfTwo_strict (by decide))

/-- The numeral that is chosen is the one by which a double is written. -/
theorem shortest_spec (negative : Bool) (exponent : Fin 2047) (fraction : Fin fractionCount) :
    Shortest negative exponent fraction (shortest exponent fraction) := by
  unfold shortest
  split
  next zero => exact shortest_zero zero
  next nonzero =>
    dsimp only
    have some : significand exponent fraction ≠ 0 := left_ne_zero_of_mul nonzero
    obtain ⟨scaled, limited⟩ := Decimal.scale_bounds (centre_pos some) quarters_pos (centre_log some) quarters_log
    split
    next numeral first =>
      obtain ⟨index, within, selected, earlier⟩ := findSome?_range first
      refine shortest_of_picks some scaled limited (Nat.succ_pos index) within
        (Neighbourhood.select?_eq_some (middle_inside some) selected) fun fewer positive less => ?_
      obtain ⟨before, rfl⟩ := Nat.exists_eq_add_of_le' positive
      exact Neighbourhood.select?_eq_none (middle_inside some) (earlier before (Nat.lt_of_succ_lt_succ less))
    next nothing =>
      obtain ⟨digits, inside⟩ := exists_seventeen some scaled
      have last := List.findSome?_eq_none_iff.mp nothing 16 (List.mem_range.mpr (by decide))
      exact absurd inside (Neighbourhood.select?_eq_none (middle_inside some) last digits)

end Double
end LiveSchema
