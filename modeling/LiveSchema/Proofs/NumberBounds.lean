import LiveSchema.Proofs.EqualData
import LiveSchema.Proofs.FirstFailures
import LiveSchema.Proofs.NodeAcceptance
import Mathlib.Algebra.Order.Ring.Rat
import Mathlib.Order.Interval.Set.Basic
import Mathlib.Order.WithBot

/-! What the bounds of numbers mean. They cut an interval out of the number line, whose points are
exact: a whole number of any size, a double and an infinity are compared as what they are. Nothing
below a node is asked, so it makes no difference what was called before. -/

namespace LiveSchema

open Keyword
open Run (start)

/-- The points of the number line and its two ends. -/
abbrev Point := WithBot (WithTop ℚ)

def Extended.point : Extended → Point
  | .bottom => ⊥
  | .finite value => ((value : WithTop ℚ) : Point)
  | .top => ((⊤ : WithTop ℚ) : Point)

/-- Where a number is; NaN is nowhere. -/
def Number.At (number : Number) (point : Point) : Prop := number.place?.map Extended.point = some point

/-- Only whole numbers can have too many digits for a message. -/
theorem Number.isWritable_iff {number : Number} :
    number.isWritable = true ↔ ∀ value : ℤ, number = .int value → value.natAbs < 10 ^ digitLimit := by
  cases number with
  | int value =>
    rw [isWritable, decide_eq_true_iff, Nat.length_toDigits_le_iff (by decide) (by decide)]
    simp only [int.injEq, forall_eq']
  | double value => exact iff_of_true rfl nofun

theorem Extended.le_iff (left right : Extended) : left.le right = true ↔ left.point ≤ right.point := by
  cases left <;> cases right <;> simp [le, point]

theorem Extended.lt_iff (left right : Extended) : left.lt right = true ↔ left.point < right.point := by
  rw [lt, Bool.not_eq_true', ← Bool.not_eq_true, le_iff, not_le]

theorem Extended.point_injective : Function.Injective point := by
  intro left right same
  cases left <;> cases right <;> simp_all [point]

namespace Number

variable {number one two : Number} {left right : Point}

theorem At.unique (first : number.At left) (second : number.At right) : left = right :=
  Option.some.inj (first.symm.trans second)

theorem At.le_iff (first : one.At left) (second : two.At right) : one.le two = true ↔ left ≤ right := by
  obtain ⟨place, found, rfl⟩ := Option.map_eq_some_iff.mp first
  obtain ⟨other, again, rfl⟩ := Option.map_eq_some_iff.mp second
  simp only [le, found, again, Extended.le_iff]

theorem At.lt_iff (first : one.At left) (second : two.At right) : one.lt two = true ↔ left < right := by
  obtain ⟨place, found, rfl⟩ := Option.map_eq_some_iff.mp first
  obtain ⟨other, again, rfl⟩ := Option.map_eq_some_iff.mp second
  simp only [lt, found, again, Extended.lt_iff]

theorem exists_at (number : Number) : (∃ point, number.At point) ↔ number.isNaN = false := by
  rw [isNaN_eq, Option.isNone_eq_false_iff, Option.isSome_iff_exists]
  constructor
  · rintro ⟨point, found⟩
    obtain ⟨place, placed, -⟩ := Option.map_eq_some_iff.mp found
    exact ⟨place, placed⟩
  · rintro ⟨place, placed⟩
    exact ⟨place.point, by rw [At, placed, Option.map_some]⟩

theorem At.isWhole_iff (found : number.At left) :
    number.isWhole = true ↔ ∃ whole : ℤ, left = Extended.point (.finite whole) := by
  obtain ⟨place, placed, rfl⟩ := Option.map_eq_some_iff.mp found
  rw [isWhole_eq, placed, Option.any_some]
  simp only [Extended.point_injective.eq_iff]
  cases place with
  | bottom | top => simp
  | finite rational =>
    simp only [beq_iff_eq, Extended.finite.injEq]
    constructor
    · exact fun integral => ⟨rational.num, (Rat.coe_int_num_of_den_eq_one integral).symm⟩
    · rintro ⟨whole, rfl⟩
      exact Rat.den_intCast whole

end Number

/-- The keywords that bound numbers. -/
inductive Bound where
  | maximum
  | exclusiveMaximum
  | minimum
  | exclusiveMinimum
deriving DecidableEq

namespace Bound

/-- The order in which a value is held to the bounds. -/
def order : List Bound := [.maximum, .exclusiveMaximum, .minimum, .exclusiveMinimum]

def keyword : Bound → String
  | .maximum => "maximum"
  | .exclusiveMaximum => "exclusiveMaximum"
  | .minimum => "minimum"
  | .exclusiveMinimum => "exclusiveMinimum"

def violation : Bound → Number → Violation
  | .maximum => .aboveMaximum
  | .exclusiveMaximum => .atExclusiveMaximum
  | .minimum => .belowMinimum
  | .exclusiveMinimum => .atExclusiveMinimum

/-- The bound that is put in place of another one with a boolean beside it. -/
def strict? : Bound → Option Bound
  | .maximum => some .exclusiveMaximum
  | .minimum => some .exclusiveMinimum
  | .exclusiveMaximum | .exclusiveMinimum => none

/-- The part of the number line that a bound leaves at its limit. -/
def leaves (graph : Graph) (node : Ref) (limit : Point) : Bound → Set Point
  | .maximum => {point | point ≤ limit ∧ (graph.field? node "exclusiveMaximum" = some (.bool true) → point < limit)}
  | .exclusiveMaximum => Set.Iio limit
  | .minimum => {point | limit ≤ point ∧ (graph.field? node "exclusiveMinimum" = some (.bool true) → limit < point)}
  | .exclusiveMinimum => Set.Ioi limit

/-- The keyword of a bound stands for a number, which is its limit. -/
def Limits (graph : Graph) (node : Ref) (bound : Bound) (number : Number) (limit : Point) : Prop :=
  liveNumber graph (graph.field? node bound.keyword) = some number ∧ number.At limit

def Keeps (graph : Graph) (node : Ref) (point : Point) (bound : Bound) : Prop :=
  ∀ number limit, bound.Limits graph node number limit → point ∈ bound.leaves graph node limit

def Breaks (graph : Graph) (node : Ref) (point : Point) (bound : Bound) (failure : Failure) : Prop :=
  ∃ number limit, bound.Limits graph node number limit ∧ point ∉ bound.leaves graph node limit ∧
    failure = (bound.violation number).failure

/-- How a value is held to a bound. -/
def check (graph : Graph) (node : Ref) (value : Number) : Bound → Number → Except Failure Unit
  | .maximum, bound => checkMaximum value bound (graph.field? node "exclusiveMaximum")
  | .exclusiveMaximum, bound => checkBelow value bound
  | .minimum, bound => checkMinimum value bound (graph.field? node "exclusiveMinimum")
  | .exclusiveMinimum, bound => checkAbove value bound

theorem failure_violation (bound : Bound) {number : Number} (writable : number.isWritable = true) :
    (bound.violation number).failure = .violation (bound.violation number) := by
  cases bound <;> exact if_pos writable

theorem report_violation (bound : Bound) (number : Number) : (bound.violation number).report.keyword = bound.keyword := by
  cases bound <;> rfl

end Bound

namespace Graph

/-- What the bounds of a node leave of the number line. -/
def interval (graph : Graph) (node : Ref) : Set Point := {point | ∀ bound ∈ Bound.order, bound.Keeps graph node point}

/-- A value is a number, and a whole one if the type of the node asks for it. -/
def Reads (graph : Graph) (node : Ref) (value : Value) (point : Point) : Prop :=
  (∃ number, value = .number number ∧ number.At point) ∧
    (graph.hasType (graph.field? node "type") "integer" = true → ∃ whole : ℤ, point = Extended.point (.finite whole))

/-- A value is a number in the interval of a node, or it is none and need not be one. -/
def NumberAccepts (graph : Graph) (node : Ref) (value : Value) : Prop :=
  (∃ point, graph.Reads node value point ∧ point ∈ graph.interval node) ∨
    (∀ point, ¬ graph.Reads node value point) ∧
      ∀ name ∈ ["integer", "number"], ¬ graph.hasType (graph.field? node "type") name = true

/-- The failure of a number is that of the first bound it does not keep to, and any other value
fails if the type of the node is one of numbers. -/
def NumberRefuses (graph : Graph) (node : Ref) (value : Value) (failure : Failure) : Prop :=
  (∃ point, graph.Reads node value point ∧
    FirstFailure (Bound.Keeps graph node point) (Bound.Breaks graph node point) Bound.order failure) ∨
    (∀ point, ¬ graph.Reads node value point) ∧
      ∃ name ∈ ["integer", "number"], graph.hasType (graph.field? node "type") name = true ∧ failure = .violation (.notNumeric name)

/-- One node sharpens a bound with a boolean, and another has its limit as a strict bound instead. -/
structure Standalone (graph : Graph) (loose strict : Bound) (node other : Ref) : Prop where
  sharpens : graph.field? node strict.keyword = some (.bool true)
  moved : graph.field? other strict.keyword = graph.field? node loose.keyword
  bare : graph.field? other loose.keyword = none
  alike : ∀ keyword, keyword ≠ loose.keyword → keyword ≠ strict.keyword → graph.field? other keyword = graph.field? node keyword

end Graph

variable {graph : Graph} {mode : MultipleMode} {node : Ref} {fields : Entries Ref} {value : Value} {number : Number} {point : Point}

theorem Graph.Reads.unique {other : Point} (one : graph.Reads node value point) (two : graph.Reads node value other) : point = other := by
  obtain ⟨⟨number, rfl, first⟩, -⟩ := one
  obtain ⟨⟨_, same, second⟩, -⟩ := two
  cases same
  exact first.unique second

/-- What is said of the number that a value is, or else of the value, is said of that number. -/
theorem Graph.Reads.only (reads : graph.Reads node value point) (holds : Point → Prop) (rest : Prop) :
    holds point ↔ (∃ other, graph.Reads node value other ∧ holds other) ∨ (∀ other, ¬ graph.Reads node value other) ∧ rest := by
  refine ⟨fun held => .inl ⟨point, reads, held⟩, ?_⟩
  rintro (⟨other, again, held⟩ | ⟨none, -⟩)
  · exact reads.unique again ▸ held
  · exact absurd reads (none point)

/-- A number that is read off a shape is what it holds, and has a place. -/
theorem Shape.number?_at {shape : Shape α} (read : shape.number? = some number) : shape = .number number ∧ ∃ point, number.At point := by
  unfold Shape.number? at read
  split at read
  · split at read
    · cases read
    next real =>
      cases read
      exact ⟨rfl, number.exists_at.mpr (Bool.not_eq_true _ ▸ real)⟩
  · cases read

/-- What the check takes for a number is one. -/
theorem Keyword.reads_of_operand {whole : Bool} (typed : whole = graph.hasType (graph.field? node "type") "integer")
    (found : (value.shape.number?.filter fun number => !whole || number.isWhole) = some number) :
    ∃ point, number.At point ∧ graph.Reads node value point := by
  obtain ⟨read, fits⟩ := Option.filter_eq_some_iff.mp found
  cases value with
  | number other =>
    obtain ⟨same, point, placed⟩ := Shape.number?_at read
    cases same
    refine ⟨point, placed, ⟨number, rfl, placed⟩, fun integer => placed.isWhole_iff.mp ?_⟩
    simpa [typed, integer] using fits
  | null | bool | text | bytes | array | object => cases read

theorem Keyword.not_reads_of_none {whole : Bool} (typed : whole = graph.hasType (graph.field? node "type") "integer")
    (missing : (value.shape.number?.filter fun number => !whole || number.isWhole) = none) : ¬ graph.Reads node value point := by
  rintro ⟨⟨number, rfl, placed⟩, integral⟩
  have real : number.isNaN = false := number.exists_at.mp ⟨point, placed⟩
  have read : (Value.number number).shape.number? = some number := by simp [Value.shape, Shape.number?, real]
  have fits := Option.filter_eq_none_iff.mp missing number read
  cases integer : graph.hasType (graph.field? node "type") "integer" with
  | false => simp [typed, integer] at fits
  | true => simp [typed, integer, placed.isWhole_iff.mpr (integral integer)] at fits

theorem Bound.check_settles {limit : Point} {bound : Bound} {other : Number} (placed : number.At point) (limited : other.At limit) :
    Except.Settles (bound.check graph node number other) (point ∈ bound.leaves graph node limit)
      fun failure => point ∉ bound.leaves graph node limit ∧ failure = (bound.violation other).failure := by
  -- each check refuses a value just if it is not in the part of the line that is left
  have refuses : ∀ {condition : Prop} [Decidable condition], (condition ↔ point ∉ bound.leaves graph node limit) →
      Except.Settles (if condition then violate (bound.violation other) else .ok ()) (point ∈ bound.leaves graph node limit)
        fun failure => point ∉ bound.leaves graph node limit ∧ failure = (bound.violation other).failure := by
    intro condition _ same
    exact (Except.Settles.refuse _).congr same.not_left fun failure => and_congr_left fun _ => same
  cases bound with
  | maximum =>
    refine refuses ?_
    rw [limited.le_iff placed, limited.lt_iff placed, leaves, Set.mem_ofPred_eq, not_and_or, Classical.not_imp, not_le, not_lt, or_comm]
  | exclusiveMaximum =>
    refine refuses ?_
    rw [limited.le_iff placed, leaves, Set.mem_Iio, not_lt]
  | minimum =>
    refine refuses ?_
    rw [placed.le_iff limited, placed.lt_iff limited, leaves, Set.mem_ofPred_eq, not_and_or, Classical.not_imp, not_le, not_lt, or_comm]
  | exclusiveMinimum =>
    refine refuses ?_
    rw [placed.le_iff limited, leaves, Set.mem_Ioi, not_lt]

/-- A bound whose keyword is no number, or not there, is kept by all. -/
theorem Bound.settles (bound : Bound) (placed : number.At point) :
    Except.Settles (withNumber graph (graph.field? node bound.keyword) (bound.check graph node number))
      (bound.Keeps graph node point) (bound.Breaks graph node point) := by
  have runs : withNumber graph (graph.field? node bound.keyword) (bound.check graph node number) =
      (liveNumber graph (graph.field? node bound.keyword)).elim (.ok ()) (bound.check graph node number) := by
    unfold withNumber
    cases liveNumber graph (graph.field? node bound.keyword) <;> rfl
  have real : ∀ other, liveNumber graph (graph.field? node bound.keyword) = some other → ∃ limit, other.At limit := by
    intro other found
    obtain ⟨part, -, read⟩ := Option.bind_eq_some_iff.mp found
    exact (Shape.number?_at read).2
  rw [runs]
  have each : ∀ other, liveNumber graph (graph.field? node bound.keyword) = some other →
      Except.Settles (bound.check graph node number other) (∀ limit, other.At limit → point ∈ bound.leaves graph node limit)
        fun failure => ∃ limit, other.At limit ∧ point ∉ bound.leaves graph node limit ∧ failure = (bound.violation other).failure := by
    intro other found
    obtain ⟨limit, limited⟩ := real other found
    refine (check_settles placed limited).congr ⟨fun inside again other => ?_, fun all => all limit limited⟩ fun failure =>
      ⟨fun refused => ⟨limit, limited, refused⟩, fun ⟨again, other, refused⟩ => ?_⟩
    · exact limited.unique other ▸ inside
    · exact limited.unique other ▸ refused
  refine (Except.Settles.optional each).congr ?_ fun failure => ?_
  · simp only [Keeps, Limits, and_imp]
    exact forall_congr' fun other => ⟨fun all limit found => all found limit, fun all found limit => all limit found⟩
  · simp only [Breaks, Limits, and_assoc, exists_and_left]

theorem Graph.hasType_unique {ref : Option Ref} {name other : String} (one : graph.hasType ref name = true)
    (two : graph.hasType ref other = true) : name = other := by
  cases ref with
  | none => cases one
  | some part => exact Option.some.inj ((beq_iff_eq.mp one).symm.trans (beq_iff_eq.mp two))

/-- A value that is no number fails just if the type is one of numbers, and the failure tells which. -/
theorem Keyword.notNumeric_settles (type : Option Ref) :
    Except.Settles (if graph.hasType type "integer" = true then violate (.notNumeric "integer")
        else if graph.hasType type "number" = true then violate (.notNumeric "number") else .ok ())
      (∀ name ∈ ["integer", "number"], ¬ graph.hasType type name = true)
      fun failure => ∃ name ∈ ["integer", "number"], graph.hasType type name = true ∧ failure = .violation (.notNumeric name) := by
  have each : ∀ name, Except.Settles (if graph.hasType type name = true then violate (.notNumeric name) else .ok ()) _ _ :=
    fun name => .refuse (.notNumeric name)
  have both := (each "integer").seq (each "number")
  have runs : ((if graph.hasType type "integer" = true then violate (.notNumeric "integer") else .ok ()) >>= fun _ =>
      if graph.hasType type "number" = true then violate (.notNumeric "number") else .ok () : Except Failure Unit) =
      if graph.hasType type "integer" = true then violate (.notNumeric "integer")
        else if graph.hasType type "number" = true then violate (.notNumeric "number") else .ok () := by
    split <;> rfl
  rw [runs] at both
  refine both.congr (by simp) fun failure => ?_
  have exclusive : graph.hasType type "number" = true → ¬ graph.hasType type "integer" = true := fun number integer =>
    absurd (Graph.hasType_unique number integer) (by decide)
  simp only [List.mem_cons, List.not_mem_nil, or_false, exists_eq_or_imp, exists_eq_left]
  exact or_congr_right (and_iff_right_of_imp fun number => exclusive number.1)

section Node

variable (object : graph.shape node = .object fields)
include object

theorem Keyword.runBounds_settles (undivided : graph.field? node "multipleOf" = none) (placed : number.At point) :
    Except.Settles (runBounds graph mode number node) (point ∈ graph.interval node)
      (FirstFailure (Bound.Keeps graph node point) (Bound.Breaks graph node point) Bound.order) := by
  have runs : runBounds graph mode number node =
      Bound.order.forM fun bound => withNumber graph (graph.field? node bound.keyword) (bound.check graph node number) := by
    simp only [runBounds, live_optional object, undivided]
    rfl
  rw [runs]
  exact Except.Settles.forM fun bound _ => bound.settles placed

theorem Keyword.runNumber_settles (undivided : graph.field? node "multipleOf" = none) {whole : Bool}
    (typed : whole = graph.hasType (graph.field? node "type") "integer") :
    Except.Settles (runNumber graph mode whole value node) (graph.NumberAccepts node value) (graph.NumberRefuses node value) := by
  unfold runNumber
  split
  next number found =>
    obtain ⟨point, placed, reads⟩ := reads_of_operand typed found
    exact (runBounds_settles object undivided placed).congr (reads.only (· ∈ graph.interval node) _) fun failure =>
      reads.only (fun point => FirstFailure (Bound.Keeps graph node point) (Bound.Breaks graph node point) Bound.order failure) _
  next missing =>
    have none : ∀ point, ¬ graph.Reads node value point := fun point => not_reads_of_none typed missing
    have outside : ∀ {holds : Point → Prop}, ¬ ∃ point, graph.Reads node value point ∧ holds point :=
      fun ⟨point, reads, _⟩ => none point reads
    simp only [live_optional object]
    refine (notNumeric_settles (graph.field? node "type")).congr ?_ fun failure => ?_
    · rw [Graph.NumberAccepts, or_iff_right outside, and_iff_right none]
    · rw [Graph.NumberRefuses, or_iff_right outside, and_iff_right none]

/-- Without a number among its bounds a node only has the check of its type, which does the same. -/
theorem Keyword.runNumber_unbounded (unbounded : (outline graph fields).bounded = false) (whole : Bool) :
    runNumber graph mode whole value node =
      if (graph.hasType (graph.field? node "type") "integer" || graph.hasType (graph.field? node "type") "number") = true then
        runIsNumber graph whole value node
      else .ok () := by
  unfold runNumber runIsNumber
  rw [isOperand_eq]
  cases found : value.shape.number?.filter fun number => !whole || number.isWhole with
  | some number =>
    simp only [runBounds_unbounded object unbounded, Option.isSome_some, if_true]
    exact (ite_self _).symm
  | none =>
    simp only [live_optional object, Option.isSome_none, Bool.false_eq_true, if_false]
    cases present : graph.field? node "type" with
    | none => rfl
    | some part =>
      simp only [live_require present]
      have told : ∀ {name}, graph.hasType (some part) name = true → written (graph.value part) = .ok name := by
        intro name typed
        rw [Graph.value_text (Graph.text?_eq_some (eq_of_beq typed))]
        rfl
      by_cases integer : graph.hasType (some part) "integer" = true
      · simp only [integer, if_true, Bool.true_or]
        rw [told integer]
        rfl
      · by_cases number : graph.hasType (some part) "number" = true
        · simp only [integer, number, if_true, Bool.or_true]
          rw [told number]
          rfl
        · simp only [integer, number, Bool.or_self]
          rfl

theorem Keyword.numberChecks_eq {checks : List Check} (compiled : compileNumber graph fields = .ok checks) :
    Check.runAll graph mode value node checks =
      .ofExcept (runNumber graph mode (graph.hasType (graph.field? node "type") "integer") value node) := by
  have single : ∀ outcome : Except Failure Unit, (Program.ofExcept outcome >>= fun _ => pure ()) = Program.ofExcept outcome := by
    rintro (failure | ⟨⟩) <;> rfl
  have type : ∀ name, ((outline graph fields).type == some name) = graph.hasType (graph.field? node "type") name := fun name => by
    rw [Graph.field?_eq object, hasType_eq_type]
  rw [compileNumber_ok compiled, Outline.numberChecks, type, type]
  cases bounded : (outline graph fields).bounded with
  | true => exact single _
  | false =>
    rw [if_neg Bool.false_ne_true, runNumber_unbounded object bounded]
    split
    · exact single _
    · rfl

/-- The checks of the numeric keywords, run on any workspace. -/
theorem Keyword.numberChecks_settle {checks : List Check} (compiled : compileNumber graph fields = .ok checks)
    (undivided : graph.field? node "multipleOf" = none) (identity origin : Nat) (mode : MultipleMode) (space : Workspace) (value : Value) :
    Except.Settles (start (Run.enforce graph ⟨identity, origin, mode, checks⟩ value node) space).1
      (graph.NumberAccepts node value) (graph.NumberRefuses node value) := by
  rw [Run.enforce, judgeNode_object object, numberChecks_eq object compiled, Program.start_ofExcept]
  exact runNumber_settles object undivided rfl

end Node

/-- The numeric keywords are compiled for numbers, and where no single type is named. -/
theorem Family.number_selected (typed : ∀ part, fields.keyword? "type" = some part →
    (graph.shape part).isArray = true ∨ graph.shape part = .text "number" ∨ graph.shape part = .text "integer") :
    .number ∈ Family.selected graph fields := by
  unfold Family.selected
  cases found : fields.keyword? "type" with
  | none => exact List.mem_of_elem_eq_true rfl
  | some part =>
    rw [Option.bind_some]
    rcases typed part found with several | number | integer
    · have untold : (graph.shape part).text? = none := by
        cases shaped : graph.shape part <;> simp_all [Shape.text?, Shape.isArray]
      rw [untold]
      decide
    · rw [number]
      decide
    · rw [integer]
      decide

namespace Bound

variable {loose strict : Bound} {limit : Point}

theorem mem_order (bound : Bound) : bound ∈ order := by
  cases bound <;> simp [order]

/-- A boolean whose bound is missing has no effect. -/
theorem keeps_idle (flag : Bool) (modifies : graph.field? node strict.keyword = some (.bool flag))
    (absent : graph.field? node loose.keyword = none) (point : Point) :
    loose.Keeps graph node point ∧ strict.Keeps graph node point := by
  refine ⟨fun number limit limits => ?_, fun number limit limits => ?_⟩
  · cases (absent ▸ limits.1 : liveNumber graph none = some number)
  · cases (modifies ▸ limits.1 : liveNumber graph (some (.bool flag)) = some number)

/-- A sharpened bound leaves what the strict bound leaves at the same limit. -/
theorem leaves_sharpened (pair : loose.strict? = some strict) (sharpens : graph.field? node strict.keyword = some (.bool true))
    (other : Ref) : loose.leaves graph node limit = strict.leaves graph other limit := by
  ext point
  cases loose with
  | maximum =>
    cases pair
    exact ⟨fun inside => inside.2 sharpens, fun inside => ⟨le_of_lt inside, fun _ => inside⟩⟩
  | minimum =>
    cases pair
    exact ⟨fun inside => inside.2 sharpens, fun inside => ⟨le_of_lt inside, fun _ => inside⟩⟩
  | exclusiveMaximum | exclusiveMinimum => cases pair

end Bound

namespace Graph.Standalone

variable {loose strict : Bound} {other : Ref}

/-- The bounds of the other side of the line are the same. -/
theorem keeps_iff (standalone : graph.Standalone loose strict node other) (pair : loose.strict? = some strict) {bound : Bound}
    (unlike : bound ≠ loose) (strange : bound ≠ strict) : bound.Keeps graph node point ↔ bound.Keeps graph other point := by
  have alike := standalone.alike
  cases loose with
  | maximum =>
    cases pair
    cases bound <;> simp_all [Bound.Keeps, Bound.Limits, Bound.leaves, Bound.keyword]
  | minimum =>
    cases pair
    cases bound <;> simp_all [Bound.Keeps, Bound.Limits, Bound.leaves, Bound.keyword]
  | exclusiveMaximum | exclusiveMinimum => cases pair

theorem interval_eq (standalone : graph.Standalone loose strict node other) (pair : loose.strict? = some strict) :
    graph.interval node = graph.interval other := by
  ext point
  have sharpened : loose.Keeps graph node point ↔ strict.Keeps graph other point := by
    unfold Bound.Keeps Bound.Limits
    rw [standalone.moved]
    simp only [Bound.leaves_sharpened pair standalone.sharpens other]
  have flagged : strict.Keeps graph node point := by
    intro number limit limits
    cases (standalone.sharpens ▸ limits.1 : liveNumber graph (some (.bool true)) = some number)
  have free : loose.Keeps graph other point := by
    intro number limit limits
    cases (standalone.bare ▸ limits.1 : liveNumber graph none = some number)
  constructor
  · intro all bound member
    by_cases first : bound = loose
    · exact first ▸ free
    · by_cases second : bound = strict
      · exact second ▸ sharpened.mp (all loose loose.mem_order)
      · exact (standalone.keeps_iff pair first second).mp (all bound member)
  · intro all bound member
    by_cases first : bound = loose
    · exact first ▸ sharpened.mpr (all strict strict.mem_order)
    · by_cases second : bound = strict
      · exact second ▸ flagged
      · exact (standalone.keeps_iff pair first second).mpr (all bound member)

theorem accepts_iff (standalone : graph.Standalone loose strict node other) (pair : loose.strict? = some strict) :
    graph.NumberAccepts node value ↔ graph.NumberAccepts other value := by
  have untouched : ∀ keyword ∈ ["type", "multipleOf"], keyword ≠ loose.keyword ∧ keyword ≠ strict.keyword := by
    cases loose <;> cases pair <;> decide
  have type := standalone.alike "type" (untouched "type" (by decide)).1 (untouched "type" (by decide)).2
  simp only [NumberAccepts, Reads, standalone.interval_eq pair, type]

end Graph.Standalone

/-- Among the checks of a node without `multipleOf`, whose type is left open or is one of numbers, are
those of its bounds. On any workspace they pass just the numbers in the interval that the bounds cut
out, and the values that are no number where none is asked for. Any other value fails for the first
bound it breaks, or for the type, and the failure is a violation that names the bound unless this has
too many digits. A boolean without its bound has no effect, and a bound that one sharpens accepts what
the strict bound does, where both compile. -/
theorem number_bounds_settle {graph : Graph} {node : Ref} {fields : Entries Ref} {all : List Check}
    (object : graph.shape node = .object fields) (compiled : compileNode graph node = .ok all)
    (typed : ∀ part, graph.field? node "type" = some part →
      (graph.shape part).isArray = true ∨ graph.shape part = .text "number" ∨ graph.shape part = .text "integer")
    (undivided : graph.field? node "multipleOf" = none) :
    ∃ before checks after, all = before ++ checks ++ after ∧ compileNumber graph fields = .ok checks ∧
      (∀ identity origin mode space value,
        Except.Settles (start (Run.enforce graph ⟨identity, origin, mode, checks⟩ value node) space).1
          (graph.NumberAccepts node value) (graph.NumberRefuses node value)) ∧
      (∀ bound number, (Bound.violation bound number).report.keyword = bound.keyword ∧
        ((∀ value : ℤ, number = .int value → value.natAbs < 10 ^ Number.digitLimit) →
          (bound.violation number).failure = .violation (bound.violation number))) ∧
      (∀ loose strict flag, Bound.strict? loose = some strict → graph.field? node strict.keyword = some (.bool flag) →
        graph.field? node loose.keyword = none → ∀ point, loose.Keeps graph node point ∧ strict.Keeps graph node point) ∧
      ∀ loose strict other others twins, Bound.strict? loose = some strict → graph.Standalone loose strict node other →
        graph.shape other = .object others → compileNumber graph others = .ok twins →
        ∀ identity origin mode space value,
          (start (Run.enforce graph ⟨identity, origin, mode, checks⟩ value node) space).1 = .ok () ↔
            (start (Run.enforce graph ⟨identity, origin, mode, twins⟩ value other) space).1 = .ok () := by
  rw [compileNode, object] at compiled
  rw [Graph.field?_eq object] at typed
  obtain ⟨before, checks, after, split, made⟩ := Family.compileAll_split compiled
    (List.mem_append_left _ (List.mem_cons_of_mem _ (Family.number_selected typed)))
  refine ⟨before, checks, after, split, made, numberChecks_settle object made undivided,
    fun bound number => ⟨bound.report_violation number, fun short => bound.failure_violation (Number.isWritable_iff.mpr short)⟩, fun _ _ flag _ => Bound.keeps_idle flag, ?_⟩
  intro loose strict other others twins pair standalone shaped twinned identity origin mode space value
  have untouched : "multipleOf" ≠ loose.keyword ∧ "multipleOf" ≠ strict.keyword := by
    cases loose <;> cases pair <;> decide
  have whole := (standalone.alike "multipleOf" untouched.1 untouched.2).trans undivided
  rw [(numberChecks_settle object made undivided identity origin mode space value).ok_iff,
    (numberChecks_settle shaped twinned whole identity origin mode space value).ok_iff]
  exact standalone.accepts_iff pair

/-- A node for whole numbers below two, once with a boolean and once with a strict bound. -/
def boundedGraph : Graph :=
  ⟨#[.object [(.text "type", .node 1), (.text "maximum", .int 2), (.text "exclusiveMaximum", .bool true)], .text "integer",
    .object [(.text "type", .node 1), (.text "exclusiveMaximum", .int 2)]]⟩

theorem boundedGraph_standalone : boundedGraph.Standalone .maximum .exclusiveMaximum (.node 0) (.node 2) where
  sharpens := rfl
  moved := rfl
  bare := rfl
  alike keyword loose strict := by
    have maximum : Key.text "maximum" ≠ .text keyword := fun same => loose (Key.text.inj same).symm
    have exclusive : Key.text "exclusiveMaximum" ≠ .text keyword := fun same => strict (Key.text.inj same).symm
    simp [Graph.field?, Graph.shape, boundedGraph, Shape.entries?, Table.get?, maximum, exclusive]

/-- Two is not below two, for either node. -/
theorem number_bounds_settle_strict :
    (∃ fields, boundedGraph.shape (.node 0) = .object fields ∧ compileNumber boundedGraph fields = .ok [.number true]) ∧
    (start (Run.enforce boundedGraph ⟨0, 0, .float, [.number true]⟩ (.number (.int 2)) (.node 0)) .empty).1 =
      .error (.violation (.aboveMaximum (.int 2))) ∧
    (start (Run.enforce boundedGraph ⟨0, 0, .float, [.number true]⟩ (.number (.int 2)) (.node 2)) .empty).1 ≠ .ok () := by
  have object : boundedGraph.shape (.node 0) =
    .object [(.text "type", .node 1), (.text "maximum", .int 2), (.text "exclusiveMaximum", .bool true)] := rfl
  have typed : ∀ part, boundedGraph.field? (.node 0) "type" = some part → (boundedGraph.shape part).isArray = true ∨
      boundedGraph.shape part = .text "number" ∨ boundedGraph.shape part = .text "integer" := by
    rintro _ ⟨⟩
    exact .inr (.inr rfl)
  have compiled : compileNode boundedGraph (.node 0) = .ok [.number true] := rfl
  obtain ⟨before, checks, after, _, made, settles, _, _, alike⟩ := number_bounds_settle object compiled typed rfl
  obtain rfl : checks = [.number true] := Except.ok.inj (made.symm.trans rfl)
  have failed : (start (Run.enforce boundedGraph ⟨0, 0, .float, [.number true]⟩ (.number (.int 2)) (.node 0)) .empty).1 =
      .error (.violation (.aboveMaximum (.int 2))) := by
    refine ((settles 0 0 .float .empty _).error_iff _).mpr (.inl ⟨Extended.point (.finite 2), ⟨⟨.int 2, rfl, rfl⟩, fun _ => ⟨2, rfl⟩⟩, ?_⟩)
    refine ⟨[], .maximum, [.exclusiveMaximum, .minimum, .exclusiveMinimum], rfl, List.forall_mem_nil _, .int 2, _, ⟨rfl, rfl⟩, ?_, rfl⟩
    exact fun inside => lt_irrefl _ (inside.2 rfl)
  refine ⟨⟨_, object, made⟩, failed, fun passed => ?_⟩
  rw [← alike .maximum .exclusiveMaximum (.node 2) _ [.number true] rfl boundedGraph_standalone rfl rfl, failed] at passed
  cases passed

/-- Two and a half bounds whole numbers, once with a boolean and once strictly. -/
def halfGraph : Graph :=
  ⟨#[.object [(.text "type", .node 2), (.text "maximum", .node 3), (.text "exclusiveMaximum", .bool true)],
    .object [(.text "type", .node 2), (.text "exclusiveMaximum", .node 3)], .text "integer",
    .number (.double (.finite false ⟨1024, by decide⟩ ⟨2 ^ 50, by decide⟩))]⟩

/-- Whole numbers from a bound on that has more digits than a message can quote. -/
def longMinimum : Graph := ⟨#[.object [(.text "minimum", .int (10 ^ 5000))]]⟩

/-- A bound that a boolean sharpens has to be whole where the type is, and a strict bound need not be.
A bound that is broken may be too long to be named. -/
theorem number_bounds_unsettled :
    halfGraph.Standalone .maximum .exclusiveMaximum (.node 0) (.node 1) ∧
    (compileNode halfGraph (.node 0) matches .error (.defect (.boundType "maximum"))) = true ∧
    compileNode halfGraph (.node 1) = .ok [.number true] ∧
    (start (Run.enforce halfGraph ⟨0, 0, .decimal, [.number true]⟩ (.number (.int 2)) (.node 1)) .empty).1 = .ok () ∧
    compileNode longMinimum (.node 0) = .ok [.number false] ∧
    (start (Run.enforce longMinimum ⟨0, 0, .decimal, [.number false]⟩ (.number (.int 0)) (.node 0)) .empty).1 =
      .error (.fault .badValue) := by
  refine ⟨⟨rfl, rfl, rfl, fun keyword loose strict => ?_⟩, by decide +kernel, rfl, by decide +kernel, rfl, by decide +kernel⟩
  have maximum : Key.text "maximum" ≠ .text keyword := fun same => loose (Key.text.inj same).symm
  have exclusive : Key.text "exclusiveMaximum" ≠ .text keyword := fun same => strict (Key.text.inj same).symm
  simp [Graph.field?, Graph.shape, halfGraph, Shape.entries?, Table.get?, maximum, exclusive]

end LiveSchema
