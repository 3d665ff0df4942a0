import LiveSchema.Proofs.SharedCache
import LiveSchema.Proofs.WellFormedKeywords
import LiveSchema.Proofs.ShortestNumerals

/-! Divisibility of numerals, said without a quotient: one is a whole multiple of the other.
A double stands for the shortest numeral that is read as that double. The test has a short way
for two whole numbers, which makes no difference. -/

namespace LiveSchema

def Double.neg : Double → Double
  | .nan => .nan
  | .infinite negative => .infinite !negative
  | .finite negative exponent fraction => .finite (!negative) exponent fraction

namespace Number

def neg : Number → Number
  | .int value => .int (-value)
  | .double value => .double value.neg

def IsFinite : Number → Prop
  | .int _ => True
  | .double value => value.isFinite = true

theorem numeral?_neg (value : Number) : value.neg.numeral? = value.numeral?.map fun size => -size := by
  cases value with
  | int value => exact congrArg some (Int.cast_neg value)
  | double value =>
    cases value with
    | nan | infinite => rfl
    | finite negative exponent fraction =>
      cases negative with
      | false => rfl
      | true => exact congrArg some (neg_neg _).symm

/-- The number that a value stands for: a whole number for itself, and a double for the numeral
by which it is written. -/
def Denotes (value : Number) (size : ℚ) : Prop :=
  match value with
  | .int value => size = value
  | .double (.finite negative exponent fraction) =>
    ∃ numeral, Double.Shortest negative exponent fraction numeral ∧ size = if negative then -numeral.toRat else numeral.toRat
  | .double _ => False

theorem denotes_iff {value : Number} {size : ℚ} : value.Denotes size ↔ value.numeral? = some size := by
  cases value with
  | int value => exact eq_comm.trans Option.some_inj.symm
  | double value =>
    cases value with
    | nan | infinite => exact iff_of_false id nofun
    | finite negative exponent fraction =>
      have spec := Double.shortest_spec negative exponent fraction
      constructor
      · rintro ⟨numeral, shortest, rfl⟩
        rw [shortest.unique spec]
        rfl
      · intro written
        exact ⟨_, spec, (Option.some.inj written).symm⟩

theorem ofBool_eq_multiple {isMultiple : Bool} : Divisibility.ofBool isMultiple = .multiple ↔ isMultiple = true := by
  cases isMultiple <;> decide

/-- Nothing is left if the one is a whole multiple of the other. -/
theorem remainder_eq_zero_iff {size step : Rat} (nonzero : step ≠ 0) :
    remainder size step = 0 ↔ ∃ factor : Int, size = factor * step := by
  rw [remainder, sub_eq_zero]
  constructor
  · intro nothing
    exact ⟨(size / step).floor, nothing.trans (mul_comm _ _)⟩
  · rintro ⟨factor, rfl⟩
    rw [mul_div_cancel_right₀ _ nonzero, Rat.floor_intCast, mul_comm]

/-- Whole numbers divide each other as fractions do. -/
theorem emod_eq_zero_iff {value divisor : Int} (nonzero : divisor ≠ 0) : value % divisor = 0 ↔ remainder value divisor = 0 := by
  rw [remainder_eq_zero_iff (Int.cast_ne_zero.mpr nonzero), ← Int.dvd_iff_emod_eq_zero, dvd_iff_exists_eq_mul_left]
  exact exists_congr fun factor => by norm_cast

theorem numeralDivisibility_eq_ratio (value divisor : Number) : value.numeralDivisibility divisor = value.ratioDivisibility divisor := by
  unfold numeralDivisibility
  split
  next value divisor =>
    simp only [ratioDivisibility, numeral?, Int.cast_eq_zero]
    split
    next => rfl
    next nonzero => simp only [emod_eq_zero_iff nonzero]
  next => rfl

/-- The test finds a multiple if there is a whole factor. -/
theorem numeralDivisibility_iff (value : Number) {divisor : Number} (positive : zero.lt divisor = true) :
    value.numeralDivisibility divisor = .multiple ↔
      ∃ size step, value.Denotes size ∧ divisor.Denotes step ∧ ∃ factor : ℤ, size = factor * step := by
  simp only [denotes_iff]
  rw [numeralDivisibility_eq_ratio, ratioDivisibility]
  split
  next size step written divides =>
    have nonzero := numeral?_ne_zero positive divides
    rw [if_neg nonzero, ofBool_eq_multiple, decide_eq_true_iff, remainder_eq_zero_iff nonzero]
    simp only [written, divides, Option.some.injEq, exists_and_left, exists_eq_left']
  next other =>
    refine iff_of_false nofun ?_
    rintro ⟨size, step, written, divides, _⟩
    exact other size step written divides

theorem remainder_neg_eq_zero_iff {size step : Rat} (nonzero : step ≠ 0) : remainder (-size) step = 0 ↔ remainder size step = 0 := by
  rw [remainder_eq_zero_iff nonzero, remainder_eq_zero_iff nonzero]
  refine (Equiv.neg Int).exists_congr fun factor => ?_
  rw [Equiv.neg_apply, Int.cast_neg, neg_mul, eq_neg_iff_add_eq_zero, neg_eq_iff_add_eq_zero, add_comm]

theorem numeralDivisibility_neg (value divisor : Number) :
    value.neg.numeralDivisibility divisor = value.numeralDivisibility divisor := by
  rw [numeralDivisibility_eq_ratio, numeralDivisibility_eq_ratio, ratioDivisibility, ratioDivisibility, numeral?_neg]
  cases value.numeral? with
  | none => rfl
  | some size =>
    cases divisor.numeral? with
    | none => rfl
    | some step =>
      dsimp only [Option.map_some]
      split
      next => rfl
      next nonzero => simp only [remainder_neg_eq_zero_iff nonzero]

theorem isFinite_iff {value : Number} : value.IsFinite ↔ ∃ size, value.numeral? = some size := by
  cases value with
  | int value => exact iff_of_true trivial ⟨value, rfl⟩
  | double value =>
    cases value with
    | nan | infinite => exact iff_of_false nofun nofun
    | finite negative exponent fraction => exact iff_of_true rfl ⟨_, rfl⟩

/-- Just the finite numbers stand for something, and for one thing. -/
theorem isFinite_iff_denotes {value : Number} : value.IsFinite ↔ ∃! size, value.Denotes size := by
  rw [isFinite_iff]
  constructor
  · rintro ⟨size, written⟩
    exact ⟨size, denotes_iff.mpr written, fun other stands => Option.some.inj ((denotes_iff.mp stands).symm.trans written)⟩
  · rintro ⟨size, stands, _⟩
    exact ⟨size, denotes_iff.mp stands⟩

/-- Zero stands for zero, also with a sign before it. -/
theorem denotes_zero {value : Number} (nothing : value.isTruthy = false) : value.Denotes 0 := by
  rw [denotes_iff]
  cases value with
  | int value =>
    obtain rfl : value = 0 := not_ne_iff.mp fun other => by simp [isTruthy, other] at nothing
    rfl
  | double value =>
    cases value with
    | nan | infinite => cases nothing
    | finite negative exponent fraction =>
      have zero : Double.magnitude exponent fraction = 0 := of_decide_eq_true ((Bool.not_eq_false' _).mp nothing)
      have shortest : (Double.shortest exponent fraction).toRat = 0 := by
        rw [Double.shortest, if_pos zero]
        rfl
      simp only [numeral?, shortest, neg_zero, ite_self]

/-- A positive number stands for a positive one. -/
theorem Denotes.pos {value : Number} {size : ℚ} (stands : value.Denotes size) (positive : zero.lt value = true) : 0 < size := by
  have nonzero := numeral?_ne_zero positive (denotes_iff.mp stands)
  cases value with
  | int value =>
    have above := zero_lt_int positive
    rw [show size = value from stands]
    exact Int.cast_pos.mpr above
  | double value =>
    cases value with
    | nan | infinite => exact stands.elim
    | finite negative exponent fraction =>
      obtain ⟨numeral, _, rfl⟩ := stands
      cases negative with
      | false => exact lt_of_le_of_ne numeral.toRat_nonneg nonzero.symm
      | true =>
        have least := Double.size_nonneg exponent fraction
        simp only [lt, zero, place?, Double.toRat?_eq, Option.map_some, Extended.lt, Extended.le, if_true, Int.cast_zero, Bool.not_eq_true',
          decide_eq_false_iff_not, not_le, Left.neg_pos_iff] at positive
        exact absurd positive (not_lt.mpr least)

end Number

/-- Once a divisor is accepted, the test for decimal multiples is divisibility of the numerals. -/
theorem decimal_multiples_exact {graph : Graph} {fields : Entries Ref} {checks : List Check} {part : Ref} {divisor : Number}
    (compiled : Keyword.compileNumber graph fields = .ok checks) (found : fields.keyword? "multipleOf" = some part)
    (read : (graph.shape part).number? = some divisor) (value : Number) :
    (Keyword.divisibility .decimal value divisor = .multiple ↔
      ∃ size step, value.Denotes size ∧ divisor.Denotes step ∧ ∃ factor : ℤ, size = factor * step) ∧
    (∀ number : Number, number.IsFinite ↔ ∃! size, number.Denotes size) ∧
    Keyword.divisibility .decimal value divisor = value.ratioDivisibility divisor ∧
    Keyword.divisibility .decimal value.neg divisor = Keyword.divisibility .decimal value divisor ∧
    (value.isTruthy = false → divisor.IsFinite → Keyword.divisibility .decimal value divisor = .multiple) ∧
    (∀ step, divisor.Denotes step → 0 < step) ∧
    Keyword.divisibility .decimal value divisor ≠ .byZero := by
  obtain ⟨_, again, _, positive⟩ := (Keyword.compileNumber_succeeds.mp ⟨checks, compiled⟩).multipleOf part found
  cases read.symm.trans again
  have exact := Number.numeralDivisibility_iff value positive
  refine ⟨exact, fun _ => Number.isFinite_iff_denotes, Number.numeralDivisibility_eq_ratio value divisor,
    Number.numeralDivisibility_neg value divisor, fun nothing finite => ?_, fun _ stands => stands.pos positive,
    Number.numeralDivisibility_ne_byZero value positive⟩
  obtain ⟨step, stands, _⟩ := Number.isFinite_iff_denotes.mp finite
  refine exact.mpr ⟨0, step, Number.denotes_zero nothing, stands, 0, ?_⟩
  rw [Int.cast_zero, zero_mul]

/-- Three tenths are a whole multiple of a tenth, though their quotient as doubles is not whole. -/
theorem decimal_multiples_exact_tenths :
    (∃ checks, Keyword.compileNumber Session.tenthsLibrary.graph [(.text "multipleOf", .node 1)] = .ok checks) ∧
    ∃ size step, Session.threeTenths.Denotes size ∧ Session.tenth.Denotes step ∧ ∃ factor : ℤ, size = factor * step := by
  have compiles : (Keyword.compileNumber Session.tenthsLibrary.graph [(.text "multipleOf", .node 1)]).toBool = true := by decide +kernel
  have multiple : Keyword.divisibility .decimal Session.threeTenths Session.tenth = .multiple := by decide +kernel
  cases compiled : Keyword.compileNumber Session.tenthsLibrary.graph [(.text "multipleOf", .node 1)] with
  | error failure =>
    rw [compiled] at compiles
    cases compiles
  | ok checks => exact ⟨⟨checks, rfl⟩, (decimal_multiples_exact compiled rfl rfl Session.threeTenths).1.mp multiple⟩

end LiveSchema
