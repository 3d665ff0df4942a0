import LiveSchema.Proofs.EqualData
import LiveSchema.Proofs.ExactDivisibility

/-! Equal numbers as multiples. A whole number and a double of the same value are tried by their
numerals, and the numeral of a large double need not be its value. Up to two to the power of
fifty-four it is, for a whole value; a little above there is the first double that a divisor
tells from the whole number that it equals. -/

namespace LiveSchema

namespace Double

variable {negative : Bool} {exponent : Fin 2047} {fraction : Fin fractionCount} {numeral : Decimal}

/-- How far apart the doubles of one exponent are. -/
def spacing (exponent : Fin 2047) : ℚ := (powerOfTwo (unit exponent) : ℚ) / powerOfTwo 1074

theorem spacing_pos (exponent : Fin 2047) : 0 < spacing exponent :=
  div_pos (Nat.cast_pos.mpr (powerOfTwo_pos _)) (Nat.cast_pos.mpr (powerOfTwo_pos _))

theorem size_eq_spacing (exponent : Fin 2047) (fraction : Fin fractionCount) :
    size exponent fraction = significand exponent fraction * spacing exponent := by
  rw [size, magnitude, Nat.cast_mul, spacing, mul_div_assoc]

/-- Up to the exponent of the units the doubles are at most one apart. -/
theorem spacing_le_one (fine : unit exponent ≤ 1074) : spacing exponent ≤ 1 := by
  rw [spacing, div_le_one₀ (Nat.cast_pos.mpr (powerOfTwo_pos _)), Nat.cast_le]
  exact powerOfTwo_mono fine

theorem spacing_beyond {more : Nat} (coarse : unit exponent = 1074 + more) : spacing exponent = powerOfTwo more := by
  have nonzero : (powerOfTwo 1074 : ℚ) ≠ 0 := Nat.cast_ne_zero.mpr (powerOfTwo_pos 1074).ne'
  rw [spacing, coarse, powerOfTwo_add, Nat.cast_mul, mul_div_cancel_left₀ _ nonzero]

/-- A number is close to a double: within half of the spacing, but only within a quarter of it
below a power of two. -/
structure Near (exponent : Fin 2047) (fraction : Fin fractionCount) (place : ℚ) : Prop where
  above : (4 * significand exponent fraction - reach exponent fraction) * spacing exponent ≤ 4 * place
  below : 4 * place ≤ (4 * significand exponent fraction + 2) * spacing exponent
  ends : 4 * place = (4 * significand exponent fraction - reach exponent fraction) * spacing exponent ∨
    4 * place = (4 * significand exponent fraction + 2) * spacing exponent → significand exponent fraction % 2 = 0

theorem Shortest.near (shortest : Shortest negative exponent fraction numeral) (nonzero : significand exponent fraction ≠ 0) :
    Near exponent fraction numeral.toRat := by
  obtain ⟨low, _, high⟩ := neighbourhood_bounds nonzero
  obtain ⟨above, below, ends⟩ := reads_iff.mp shortest.reads
  have scale : (0 : ℚ) < powerOfTwo 1074 := Nat.cast_pos.mpr (powerOfTwo_pos 1074)
  have spaced : ∀ count : ℚ, count * powerOfTwo (unit exponent) = count * spacing exponent * powerOfTwo 1074 := fun count => by
    rw [mul_assoc, spacing, div_mul_cancel₀ _ scale.ne']
  have quartered : numeral.toRat * quarters = 4 * numeral.toRat * powerOfTwo 1074 := by
    rw [quarters_eq, Nat.cast_mul, Nat.cast_ofNat, mul_left_comm, mul_assoc]
  rw [quartered, low, spaced] at above
  rw [quartered, high, spaced] at below
  rw [quartered, low, high, spaced, spaced, mul_left_inj' scale.ne', mul_left_inj' scale.ne', neighbourhood_closed] at ends
  exact ⟨le_of_mul_le_mul_right above scale, le_of_mul_le_mul_right below scale, ends⟩

variable {place : ℚ} {whole other : ℕ}

theorem Near.half (near : Near exponent fraction place) : 2 * |place - size exponent fraction| ≤ spacing exponent := by
  have positive := spacing_pos exponent
  have reaches : (reach exponent fraction : ℚ) ≤ 2 := by
    rcases reach_cases exponent fraction with ⟨far, _⟩ | ⟨close, _, _⟩
    · rw [far, Nat.cast_ofNat]
    · rw [close, Nat.cast_one]
      norm_num
  have above := near.above
  have below := near.below
  have product := mul_le_mul_of_nonneg_right reaches positive.le
  have apart : |place - size exponent fraction| ≤ spacing exponent / 2 := by
    rw [size_eq_spacing, abs_le]
    constructor <;> linarith
  linarith

/-- The numeral of a double is off by less than the double, if that is not zero. -/
theorem Near.close (near : Near exponent fraction place) (nonzero : significand exponent fraction ≠ 0) :
    |place - size exponent fraction| < size exponent fraction := by
  have positive := spacing_pos exponent
  have some : (1 : ℚ) ≤ significand exponent fraction := by exact_mod_cast Nat.pos_of_ne_zero nonzero
  have least : spacing exponent ≤ size exponent fraction := by
    rw [size_eq_spacing]
    exact le_mul_of_one_le_left positive.le some
  have half := near.half
  linarith

/-- Where the doubles are at most one apart, there is one whole number near a whole one. -/
theorem Near.eq_of_fine (near : Near exponent fraction other) (fine : unit exponent ≤ 1074) (value : size exponent fraction = whole) :
    other = whole := by
  have half := near.half.trans (spacing_le_one fine)
  rw [value] at half
  have apart : |(other : ℤ) - whole| < 1 := by
    have less : |(other : ℚ) - whole| < 1 := by linarith
    exact_mod_cast less
  have same := Int.abs_lt_one_iff.mp apart
  omega

/-- The bounds of a whole number near a double, where the spacing is whole as well. -/
theorem Near.counted {step : ℕ} (near : Near exponent fraction other) (wide : spacing exponent = step) :
    4 * (significand exponent fraction * step) ≤ 4 * other + reach exponent fraction * step ∧
    4 * other ≤ 4 * (significand exponent fraction * step) + 2 * step ∧
    (4 * (significand exponent fraction * step) = 4 * other + reach exponent fraction * step ∨
      4 * other = 4 * (significand exponent fraction * step) + 2 * step → significand exponent fraction % 2 = 0) := by
  obtain ⟨above, below, ends⟩ := near
  rw [wide] at above below ends
  refine ⟨?_, ?_, fun tie => ends (tie.imp (fun low => ?_) fun high => ?_)⟩
  · have above : 4 * (significand exponent fraction * step : ℚ) ≤ 4 * other + reach exponent fraction * step := by linarith
    exact_mod_cast above
  · have below : (4 * other : ℚ) ≤ 4 * (significand exponent fraction * step) + 2 * step := by linarith
    exact_mod_cast below
  · have low : 4 * (significand exponent fraction * step : ℚ) = 4 * other + reach exponent fraction * step := by exact_mod_cast low
    linarith
  · have high : (4 * other : ℚ) = 4 * (significand exponent fraction * step) + 2 * step := by exact_mod_cast high
    linarith

/-- Where the doubles are further apart, the only multiple of ten near a double below the third
one from two to the power of fifty-four on is that double. -/
theorem Near.eq_of_coarse {tenth more : ℕ} (near : Near exponent fraction (10 * tenth : ℕ))
    (coarse : unit exponent = 1074 + (more + 1)) (value : size exponent fraction = whole) (small : whole < 18014398509481992) :
    10 * tenth = whole := by
  have wide := spacing_beyond coarse
  obtain ⟨above, below, ends⟩ := near.counted wide
  have product : significand exponent fraction * powerOfTwo (more + 1) = whole := by
    rw [size_eq_spacing, wide] at value
    exact_mod_cast value
  have cases := reach_cases exponent fraction
  have least : fractionCount ≤ significand exponent fraction := by omega
  match more with
  | 0 =>
    have two : powerOfTwo (0 + 1) = 2 := rfl
    rw [two] at above below product
    omega
  | 1 =>
    -- at the power itself and next to it the range holds no multiple of ten but the double
    have four : powerOfTwo (1 + 1) = 4 := rfl
    rw [four] at above below ends product
    simp only [fractionCount] at cases least
    omega
  | more + 2 =>
    have eight : powerOfTwo 3 ≤ powerOfTwo (more + 2 + 1) := powerOfTwo_mono (by omega)
    have large := Nat.mul_le_mul least eight
    have beyond : fractionCount * powerOfTwo 3 = 36028797018963968 := by decide
    omega

theorem size_pos (nonzero : significand exponent fraction ≠ 0) : 0 < size exponent fraction := by
  rw [size_eq_spacing]
  exact mul_pos (Nat.cast_pos.mpr (Nat.pos_of_ne_zero nonzero)) (spacing_pos exponent)

theorem reads_of_size {other : Decimal} (nonzero : significand exponent fraction ≠ 0) (value : other.toRat = size exponent fraction) :
    ofDecimal negative other.digits other.exponent = .finite negative exponent fraction := by
  rw [reads_iff, value, ← neighbourhood_middle]
  exact middle_inside nonzero

/-- A numeral with a last digit before the point is a multiple of ten. -/
theorem multiple_of_ten (coarse : 0 < numeral.exponent) : ∃ tenth : ℕ, numeral.toRat = (10 * tenth : ℕ) := by
  obtain ⟨more, same⟩ : ∃ more : ℕ, numeral.exponent = more + 1 := ⟨(numeral.exponent - 1).toNat, by omega⟩
  refine ⟨numeral.digits * powerOfTen more, ?_⟩
  rw [Decimal.toRat_eq, same, ten_add, Nat.cast_mul, Nat.cast_mul, cast_powerOfTen, zpow_one]
  push_cast
  ring

/-- A numeral of fewer digits than a whole number, none of them but behind the point, has a power
of ten between itself and that number. -/
theorem exists_power_between (fine : numeral.exponent ≤ 0) (fewer : numeral.width < (⟨whole, 0⟩ : Decimal).width) (some : whole ≠ 0) :
    ∃ count : ℕ, numeral.toRat < (⟨1, count⟩ : Decimal).toRat ∧ (⟨1, count⟩ : Decimal).toRat ≤ whole := by
  have least : powerOfTen ((⟨whole, 0⟩ : Decimal).width - 1) ≤ (⟨whole, 0⟩ : Decimal).digits := Decimal.le_digits some
  generalize (⟨whole, 0⟩ : Decimal).width = width at fewer least
  have power : (⟨1, (width - 1 : ℕ)⟩ : Decimal).toRat = powerOfTen (width - 1) := by
    rw [Decimal.toRat_eq, cast_powerOfTen, Nat.cast_one, one_mul]
  refine ⟨width - 1, ?_, ?_⟩
  · calc numeral.toRat = numeral.digits * 10 ^ numeral.exponent := numeral.toRat_eq
      _ ≤ numeral.digits := mul_le_of_le_one_right (Nat.cast_nonneg _) (zpow_le_one_of_nonpos₀ (by norm_num) fine)
      _ < powerOfTen numeral.width := Nat.cast_lt.mpr numeral.digits_lt
      _ ≤ powerOfTen (width - 1) := Nat.cast_le.mpr (powerOfTen_mono (by omega))
      _ = (⟨1, (width - 1 : ℕ)⟩ : Decimal).toRat := power.symm
  · rw [power]
    exact Nat.cast_le.mpr least

/-- A numeral that ends at the point or behind it is that of a whole double only if it is the
double: with fewer digits it would have to give way to a power of ten. -/
theorem Shortest.eq_of_fine (shortest : Shortest negative exponent fraction numeral) (nonzero : significand exponent fraction ≠ 0)
    (fine : numeral.exponent ≤ 0) (value : size exponent fraction = whole) : numeral.toRat = whole := by
  have own : (⟨whole, 0⟩ : Decimal).toRat = whole := by rw [Decimal.toRat_eq, zpow_zero, mul_one]
  have reads : ofDecimal negative (⟨whole, 0⟩ : Decimal).digits (⟨whole, 0⟩ : Decimal).exponent = .finite negative exponent fraction :=
    reads_of_size nonzero (own.trans value.symm)
  rcases (shortest.fewest _ reads).lt_or_eq with fewer | same
  · have some : whole ≠ 0 := by
      rintro rfl
      exact (size_pos nonzero).ne' (value.trans Nat.cast_zero)
    obtain ⟨count, below, above⟩ := exists_power_between fine fewer some
    have inside := (reads_iff.mp shortest.reads).between (reads_iff.mp reads) below.le (above.trans_eq own.symm)
    have single : (⟨1, count⟩ : Decimal).width ≤ 1 := (Decimal.width_le_iff Nat.one_pos).mpr (show 1 < powerOfTen 1 by decide)
    have nearest := shortest.nearest ⟨1, count⟩ (reads_iff.mpr inside)
      (le_antisymm (single.trans numeral.width_pos) (shortest.fewest _ (reads_iff.mpr inside)))
    rw [value, abs_sub_comm, abs_of_nonneg (by linarith), abs_sub_comm, abs_of_nonneg (by linarith)] at nearest
    linarith
  · have nearest := shortest.nearest _ reads same.symm
    rw [own, value, sub_self, abs_zero] at nearest
    exact sub_eq_zero.mp (abs_nonpos_iff.mp nearest)

/-- The numeral of a whole double below the third one from two to the power of fifty-four on is
that double. -/
theorem Shortest.eq_whole (shortest : Shortest negative exponent fraction numeral) (value : size exponent fraction = whole)
    (small : whole < 18014398509481992) : numeral.toRat = whole := by
  by_cases zero : magnitude exponent fraction = 0
  · rw [shortest.unique (shortest_zero zero), ← value, size, zero, Decimal.toRat_eq, Nat.cast_zero, zero_mul, zero_div]
  have nonzero : significand exponent fraction ≠ 0 := left_ne_zero_of_mul zero
  by_cases fine : numeral.exponent ≤ 0
  · exact shortest.eq_of_fine nonzero fine value
  obtain ⟨tenth, multiple⟩ := multiple_of_ten (not_le.mp fine)
  have near := shortest.near nonzero
  rw [multiple] at near ⊢
  by_cases close : unit exponent ≤ 1074
  · rw [near.eq_of_fine close value]
  · obtain ⟨more, coarse⟩ := Nat.exists_eq_add_of_lt (not_le.mp close)
    rw [near.eq_of_coarse coarse value small]

/-- A double is the one that its own value is rounded to. -/
theorem nearest_magnitude (negative : Bool) (exponent : Fin 2047) (fraction : Fin fractionCount) :
    nearest negative (magnitude exponent fraction) (powerOfTwo 1074) = .finite negative exponent fraction := by
  have scale := powerOfTwo_pos 1074
  apply nearest_of_around scale
  have step := Nat.mul_pos scale (powerOfTwo_pos (unit exponent))
  have low := neighbourhood_low_mul exponent fraction (powerOfTwo 1074)
  have high := neighbourhood_high_mul exponent fraction (powerOfTwo 1074)
  have centre : magnitude exponent fraction * powerOfTwo 1074 =
      significand exponent fraction * (powerOfTwo 1074 * powerOfTwo (unit exponent)) := by
    rw [magnitude, Nat.mul_assoc, Nat.mul_comm (powerOfTwo 1074)]
  rw [centre]
  generalize powerOfTwo 1074 * powerOfTwo (unit exponent) = width at step low high ⊢
  have reaches := reach_cases exponent fraction
  refine ⟨?_, ?_, fun tie => neighbourhood_closed.mpr ?_⟩
  · omega
  · omega
  · rcases reaches with ⟨far, _⟩ | ⟨_, _, power⟩
    · rw [far] at low
      have nothing : significand exponent fraction * width = 0 := by omega
      rw [(Nat.mul_eq_zero.mp nothing).resolve_right step.ne']
    · rw [power]
      decide

theorem finite_of_size {other : Fin 2047} {rest : Fin fractionCount} (same : size exponent fraction = size other rest) :
    finite negative exponent fraction = .finite negative other rest := by
  have scale : (powerOfTwo 1074 : ℚ) ≠ 0 := Nat.cast_ne_zero.mpr (powerOfTwo_pos 1074).ne'
  rw [size, size, div_left_inj' scale, Nat.cast_inj] at same
  rw [← nearest_magnitude, ← nearest_magnitude, same]

end Double

namespace Number

variable {value one two : Number} {size place : ℚ} {whole : ℤ}

theorem place?_finite (negative : Bool) (exponent : Fin 2047) (fraction : Fin fractionCount) :
    (double (.finite negative exponent fraction)).place? =
      some (.finite (if negative then -Double.size exponent fraction else Double.size exponent fraction)) :=
  congrArg (Option.map Extended.finite) (Double.toRat?_eq negative exponent fraction)

theorem abs_signed (negative : Bool) (exponent : Fin 2047) (fraction : Fin fractionCount) :
    |if negative then -Double.size exponent fraction else Double.size exponent fraction| = Double.size exponent fraction := by
  have least := Double.size_nonneg exponent fraction
  cases negative with
  | false => exact abs_of_nonneg least
  | true => exact (abs_neg _).trans (abs_of_nonneg least)

/-- Two numbers stand for the same, or neither stands for anything. -/
def Alike (one two : Number) : Prop := ∀ size, one.Denotes size ↔ two.Denotes size

theorem alike_iff : Alike one two ↔ one.numeral? = two.numeral? := by
  rw [Option.ext_iff]
  exact forall_congr' fun size => iff_congr denotes_iff denotes_iff

theorem alike_of_denotes (first : one.Denotes size) (second : two.Denotes size) : Alike one two :=
  alike_iff.mpr ((denotes_iff.mp first).trans (denotes_iff.mp second).symm)

theorem alike_of_ints {left right : ℤ} (same : (int left).place? = (int right).place?) : Alike (int left) (int right) := by
  injection same with same
  injection same with same
  rw [Int.cast_inj.mp same]
  exact fun _ => Iff.rfl

theorem denotes_nothing (negative : Bool) {exponent : Fin 2047} {fraction : Fin fractionCount} (zero : Double.size exponent fraction = 0) :
    (double (.finite negative exponent fraction)).Denotes 0 := by
  have nothing : Double.magnitude exponent fraction = 0 :=
    not_ne_iff.mp fun some => (Double.size_pos (left_ne_zero_of_mul some)).ne' zero
  exact denotes_zero ((Bool.not_eq_false' _).mpr (decide_eq_true nothing))

/-- Zero apart, two equal doubles are one double. -/
theorem alike_of_doubles {left right : Double} (same : (double left).place? = (double right).place?) :
    Alike (double left) (double right) := by
  cases left with
  | nan =>
    cases right with
    | nan | infinite => exact fun _ => Iff.rfl
    | finite => cases same
  | infinite negative =>
    cases right with
    | nan | infinite => exact fun _ => Iff.rfl
    | finite => cases negative <;> cases same
  | finite negative exponent fraction =>
    cases right with
    | nan => cases same
    | infinite other => cases other <;> cases same
    | finite other second rest =>
      rw [place?_finite, place?_finite, Option.some.injEq, Extended.finite.injEq] at same
      have size_eq := congrArg abs same
      rw [abs_signed, abs_signed] at size_eq
      have double : Double.finite negative exponent fraction = .finite negative second rest := Double.finite_of_size size_eq
      cases double
      by_cases sign : negative = other
      · rw [sign]
        exact fun _ => Iff.rfl
      · have zero : Double.size exponent fraction = 0 := by
          cases Bool.eq_not.mpr sign
          cases other with
          | false => exact neg_eq_self.mp same
          | true => exact self_eq_neg.mp same
        exact alike_of_denotes (denotes_nothing negative zero) (denotes_nothing other zero)

/-- The numeral of a number is off by less than the number, if that is not zero. -/
theorem Denotes.close (stands : value.Denotes size) (there : value.place? = some (.finite place)) (some : place ≠ 0) :
    |size - place| < |place| := by
  cases value with
  | int value =>
    cases there
    rw [show size = value from stands, sub_self, abs_zero]
    exact abs_pos.mpr some
  | double value =>
    cases value with
    | nan | infinite => exact stands.elim
    | finite negative exponent fraction =>
      obtain ⟨numeral, shortest, rfl⟩ := stands
      rw [place?_finite] at there
      cases there
      have nonzero : Double.significand exponent fraction ≠ 0 := fun zero =>
        some (by rw [Double.size_eq_spacing, zero, Nat.cast_zero, zero_mul, neg_zero, ite_self])
      have near := (shortest.near nonzero).close nonzero
      cases negative with
      | false => rwa [abs_signed]
      | true => rwa [abs_signed, if_pos rfl, if_pos rfl, neg_sub_neg, abs_sub_comm]

/-- A whole number that is not too large stands for itself, also as a double. -/
theorem denotes_whole (there : value.place? = some (.finite whole)) (small : |whole| < 18014398509481992) : value.Denotes whole := by
  cases value with
  | int value =>
    cases there
    rfl
  | double value =>
    cases value with
    | nan => cases there
    | infinite negative => cases negative <;> cases there
    | finite negative exponent fraction =>
      rw [place?_finite, Option.some.injEq, Extended.finite.injEq] at there
      rw [Int.abs_eq_natAbs] at small
      have value : Double.size exponent fraction = whole.natAbs := by
        rw [Nat.cast_natAbs, Int.cast_abs, ← there, abs_signed]
      have spec := Double.shortest_spec negative exponent fraction
      have same := (spec.eq_whole value (by omega)).trans value.symm
      refine ⟨_, spec, ?_⟩
      rw [same, there]

/-- A divisor that a node may have, whatever its other keywords are. -/
def IsAccepted (divisor : Number) : Prop :=
  ∃ graph fields checks part, Keyword.compileNumber graph fields = .ok checks ∧
    fields.keyword? "multipleOf" = some part ∧ (graph.shape part).number? = some divisor

variable {divisor : Number}

theorem isAccepted_iff : divisor.IsAccepted ↔ zero.lt divisor = true := by
  constructor
  · rintro ⟨graph, fields, checks, part, compiled, found, read⟩
    obtain ⟨_, again, _, positive⟩ := (Keyword.compileNumber_succeeds.mp ⟨checks, compiled⟩).multipleOf part found
    cases read.symm.trans again
    exact positive
  · intro positive
    let graph : Graph := ⟨#[.number divisor]⟩
    let fields : Entries Ref := [(.text "multipleOf", .node 0)]
    have read : (graph.shape (.node 0)).number? = some divisor := by
      cases divisor with
      | int value => rfl
      | double value =>
        cases value with
        | nan => cases positive
        | infinite | finite => rfl
    have forms : Keyword.NumberForms graph fields (graph.hasType (fields.keyword? "type") "integer" = true) :=
      ⟨Entries.declares_absent rfl, Entries.declares_absent rfl, Entries.declares_absent rfl, Entries.declares_absent rfl,
        (Entries.declares_found rfl).mpr ⟨divisor, read, nofun, positive⟩⟩
    obtain ⟨checks, compiled⟩ := Keyword.compileNumber_succeeds.mpr forms
    exact ⟨graph, fields, checks, .node 0, compiled, rfl, read⟩

theorem checkMultiple_iff (accepted : divisor.IsAccepted) :
    Keyword.checkMultiple .decimal value divisor = .ok () ↔
      ∃ size step, value.Denotes size ∧ divisor.Denotes step ∧ ∃ factor : ℤ, size = factor * step := by
  rw [← numeralDivisibility_iff value (isAccepted_iff.mp accepted)]
  unfold Keyword.checkMultiple Keyword.divisibility
  cases value.numeralDivisibility divisor with
  | multiple => exact iff_of_true rfl rfl
  | other | byZero => exact iff_of_false nofun nofun

/-- If nothing tells a number from a whole number that it equals, it stands for that number: by
the number itself it would be told. -/
theorem denotes_of_multiples (there : value.place? = some (.finite whole))
    (passes : ∀ divisor : Number, divisor.IsAccepted → Keyword.checkMultiple .decimal (int whole) divisor = .ok () →
      Keyword.checkMultiple .decimal value divisor = .ok ()) : value.Denotes whole := by
  by_cases nothing : whole = 0
  · exact denotes_whole there (by rw [nothing]; decide)
  have accepted : (int |whole|).IsAccepted := by
    have above : (0 : ℚ) < (|whole| : ℤ) := Int.cast_pos.mpr (abs_pos.mpr nothing)
    rw [isAccepted_iff]
    simpa [lt, zero, place?, Extended.lt, Extended.le] using above
  have own : Keyword.checkMultiple .decimal (int whole) (int |whole|) = .ok () :=
    (checkMultiple_iff accepted).mpr ⟨whole, (|whole| : ℤ), rfl, rfl, whole.sign, by exact_mod_cast (Int.sign_mul_abs whole).symm⟩
  obtain ⟨_, _, stands, rfl, factor, rfl⟩ := (checkMultiple_iff accepted).mp (passes _ accepted own)
  have close : |factor * |whole| - whole| < |whole| := by
    exact_mod_cast stands.close there (Int.cast_ne_zero.mpr nothing)
  have divides : |whole| ∣ factor * |whole| - whole := dvd_sub (dvd_mul_left _ _) ((abs_dvd _ _).mpr dvd_rfl)
  have same : factor * |whole| = whole := sub_eq_zero.mp (Int.eq_zero_of_abs_lt_dvd divides close)
  rwa [← Int.cast_mul, same] at stands

theorem place?_eq_of_same (same : Value.same (.number one) (.number two) = true) : one.place? = two.place? := by
  have canon : Value.canon (.number one) = Value.canon (.number two) := of_decide_eq_true same
  rw [Value.canon_number, Value.canon_number] at canon
  exact Value.placeForm_injective canon

/-- Equal numbers stand for the same if a whole one among them is what the other stands for. -/
theorem alike_of_whole (same : one.place? = two.place?) (first : ∀ whole, one = int whole → two.Denotes whole)
    (second : ∀ whole, two = int whole → one.Denotes whole) : one.Alike two := by
  cases one with
  | int whole =>
    have own : (int whole).Denotes whole := rfl
    exact alike_of_denotes own (first whole rfl)
  | double value =>
    cases two with
    | int whole =>
      have own : (int whole).Denotes whole := rfl
      exact alike_of_denotes (second whole rfl) own
    | double other => exact alike_of_doubles same

/-- Numbers that have the same divisors stand for the same. -/
theorem alike_of_multiples (same : one.place? = two.place?)
    (passes : ∀ divisor : Number, divisor.IsAccepted →
      (Keyword.checkMultiple .decimal one divisor = .ok () ↔ Keyword.checkMultiple .decimal two divisor = .ok ())) : one.Alike two := by
  refine alike_of_whole same ?_ ?_
  · rintro whole rfl
    exact denotes_of_multiples same.symm fun divisor accepted => (passes divisor accepted).mp
  · rintro whole rfl
    exact denotes_of_multiples same fun divisor accepted => (passes divisor accepted).mpr

theorem Alike.multiples (alike : one.Alike two) (accepted : divisor.IsAccepted) :
    Keyword.checkMultiple .decimal one divisor = .ok () ↔ Keyword.checkMultiple .decimal two divisor = .ok () := by
  rw [checkMultiple_iff accepted, checkMultiple_iff accepted]
  exact exists_congr fun size => exists_congr fun step => and_congr_left fun _ => alike size

def IsInt : Number → Prop
  | .int _ => True
  | .double _ => False

theorem alike_of_kind (same : one.place? = two.place?) (kind : one.IsInt ↔ two.IsInt) : one.Alike two := by
  cases one with
  | int whole =>
    cases two with
    | int other => exact alike_of_ints same
    | double => exact (kind.mp trivial).elim
  | double value =>
    cases two with
    | int => exact (kind.mpr trivial).elim
    | double other => exact alike_of_doubles same

/-- Nearer to zero than the first whole double that is not written as what it is. -/
def IsSmall (value : Number) : Prop :=
  (int (-18014398509481992)).lt value = true ∧ value.lt (int 18014398509481992) = true

theorem IsSmall.bounded (small : value.IsSmall) (there : value.place? = some (.finite whole)) : |whole| < 18014398509481992 := by
  obtain ⟨above, below⟩ := small
  rw [lt, there] at above below
  simp only [place?, Extended.lt, Extended.le, Bool.not_eq_true', decide_eq_false_iff_not, not_le, Int.cast_lt] at above below
  exact abs_lt.mpr ⟨above, below⟩

theorem alike_of_small (same : one.place? = two.place?) (small : one.IsSmall) : one.Alike two := by
  refine alike_of_whole same ?_ ?_
  · rintro whole rfl
    exact denotes_whole same.symm (small.bounded rfl)
  · rintro whole rfl
    exact denotes_whole same (small.bounded same)

end Number

/-- Equal numbers have the same divisors if and only if they stand for the same. They do if both
are whole numbers or both doubles, and if they are small. -/
theorem equal_numbers_divide_alike {one two : Number} (same : Value.same (.number one) (.number two) = true) :
    ((∀ divisor : Number, divisor.IsAccepted →
        (Keyword.checkMultiple .decimal one divisor = .ok () ↔ Keyword.checkMultiple .decimal two divisor = .ok ())) ↔
      one.Alike two) ∧
    ((one.IsInt ↔ two.IsInt) ∨ one.IsSmall → one.Alike two) := by
  have place := Number.place?_eq_of_same same
  refine ⟨⟨Number.alike_of_multiples place, fun alike _ => alike.multiples⟩, ?_⟩
  rintro (kind | small)
  · exact Number.alike_of_kind place kind
  · exact Number.alike_of_small place small

/-- The last double below the limit has the divisors of the whole number that it is. -/
theorem equal_numbers_divide_alike_last :
    Value.same (.number (.int 18014398509481988)) (.number (.double (.ofRat 18014398509481988))) = true ∧
    ∀ divisor : Number, divisor.IsAccepted →
      (Keyword.checkMultiple .decimal (.int 18014398509481988) divisor = .ok () ↔
        Keyword.checkMultiple .decimal (.double (.ofRat 18014398509481988)) divisor = .ok ()) := by
  have same : Value.same (.number (.int 18014398509481988)) (.number (.double (.ofRat 18014398509481988))) = true := by decide +kernel
  obtain ⟨alike_iff, enough⟩ := equal_numbers_divide_alike same
  exact ⟨same, alike_iff.mpr (enough (.inr ⟨by decide +kernel, by decide +kernel⟩))⟩

/-- The next double is a multiple of four, but its numeral ends in ninety. -/
theorem equal_numbers_divide_apart :
    ¬ ∀ one two divisor : Number, Value.same (.number one) (.number two) = true → divisor.IsAccepted →
      (Keyword.checkMultiple .decimal one divisor = .ok () ↔ Keyword.checkMultiple .decimal two divisor = .ok ()) := by
  intro alike
  have same : Value.same (.number (.int 18014398509481992)) (.number (.double (.ofRat 18014398509481992))) = true := by decide +kernel
  have accepted : (Number.int 4).IsAccepted := Number.isAccepted_iff.mpr (by decide +kernel)
  have passes : Keyword.checkMultiple .decimal (.int 18014398509481992) (.int 4) = .ok () := by rfl
  have fails : Keyword.divisibility .decimal (.double (.ofRat 18014398509481992)) (.int 4) = .other := by decide +kernel
  have again := (alike _ _ _ same accepted).mp passes
  unfold Keyword.checkMultiple at again
  rw [fails] at again
  cases again

end LiveSchema
