import LiveSchema.Proofs.FirstFailures
import LiveSchema.Proofs.NodeAcceptance
import LiveSchema.Proofs.Termination
import LiveSchema.Proofs.TrackedCache
import LiveSchema.Proofs.WellFormedKeywords
import Mathlib.Data.Nat.Cast.Order.Basic

/-! What the keywords of objects and of arrays have in common. A threshold keyword stands for a
whole number, whatever way it is written; a type that forbids all other kinds of values is
enforced by the same check as the keywords; and a list of checks that is run with a cache ends
as it does when every nested schema is compiled anew. -/

namespace LiveSchema

open Run (start)

variable {graph : Graph} {mode : MultipleMode} {judge : Value → Ref → Except Failure Unit}
  {prepare : Ref → Except Failure Unit} {value : Value} {node : Ref} {fields : Entries Ref} {keyword : String}
  {holds : Prop} {fails : Failure → Prop}

/-- A list of checks that are there if their keyword is. -/
theorem Except.Settles.given {check : α} {step : α → Except Failure Unit}
    (present : ∀ part, fields.keyword? keyword = some part → Settles (step check) holds fails)
    (absent : fields.keyword? keyword = none → holds ∧ ∀ failure, ¬ fails failure) :
    Settles (((Keyword.outline graph fields).given keyword check).forM step) holds fails := by
  rw [Keyword.given_eq]
  cases found : fields.keyword? keyword with
  | none =>
    obtain ⟨passes, never⟩ := absent found
    exact pass.congr (iff_of_true trivial passes) fun failure => iff_of_false id (never failure)
  | some part =>
    have one := seq (present part found) pass
    refine one.congr (and_iff_left trivial) fun failure => ?_
    rw [and_false, or_false]

theorem Number.lt_iff {one two : Number} {left right : Rat} (first : one.place? = some (.finite left))
    (second : two.place? = some (.finite right)) : one.lt two = true ↔ left < right := by
  simp only [lt, first, second, Extended.lt, Extended.le, Bool.not_eq_true', decide_eq_false_iff_not, not_le]

/-- The keyword of a node stands for a whole number. -/
def Graph.Threshold (graph : Graph) (node : Ref) (keyword : String) (limit : Nat) : Prop :=
  ∃ part number, graph.field? node keyword = some part ∧ (graph.shape part).number? = some number ∧
    number.place? = some (.finite limit)

theorem Graph.Threshold.unique {limit other : Nat} (one : graph.Threshold node keyword limit)
    (two : graph.Threshold node keyword other) : limit = other := by
  obtain ⟨part, number, found, read, place⟩ := one
  obtain ⟨_, _, again, reread, same⟩ := two
  cases found.symm.trans again
  cases read.symm.trans reread
  have equal := Extended.finite.inj (Option.some.inj (place.symm.trans same))
  exact Nat.cast_injective equal

/-- What is accepted as a threshold is a whole number. -/
theorem Graph.threshold_of_declared {part : Ref} (found : graph.field? node keyword = some part) (declared : graph.IsThreshold part) :
    ∃ limit, graph.Threshold node keyword limit := by
  obtain ⟨number, read, whole, positive⟩ := declared
  have integral := whole trivial
  rw [Number.isWhole_eq, Option.any_eq_true] at integral
  obtain ⟨place, placed, integral⟩ := integral
  cases place with
  | bottom => cases integral
  | top => cases integral
  | finite rational =>
    have zero : Number.zero.place? = some (.finite 0) := rfl
    have numerator : 0 < rational.num := Rat.num_pos.mpr ((Number.lt_iff zero placed).mp positive)
    refine ⟨rational.num.toNat, part, number, found, read, ?_⟩
    rw [placed, ← Int.cast_natCast, Int.toNat_of_nonneg numerator.le, Rat.coe_int_num_of_den_eq_one (beq_iff_eq.mp integral)]

namespace SizeCheck

/-- A count keeps to the threshold of a node, if there is one. -/
def Keeps (graph : Graph) (node : Ref) (count : Nat) (check : SizeCheck) : Prop :=
  ∀ limit, graph.Threshold node check.keyword limit → match check.direction with
    | .max => count ≤ limit
    | .min => limit ≤ count

def violation (check : SizeCheck) : Violation :=
  match check.direction with
  | .max => .tooLong check.keyword
  | .min => .tooShort check.keyword

theorem settles {check : SizeCheck} {part : Ref} (found : graph.field? node check.keyword = some part) (declared : graph.IsThreshold part)
    (count : Nat) :
    Except.Settles (check.run graph node (.ok count)) (check.Keeps graph node count)
      fun failure => ¬ check.Keeps graph node count ∧ failure = .violation check.violation := by
  obtain ⟨limit, threshold⟩ := Graph.threshold_of_declared found declared
  obtain ⟨_, number, again, read, place⟩ := id threshold
  cases found.symm.trans again
  have ordered : (graph.shape part).ordered? = some number := by
    cases shaped : graph.shape part with
    | number other =>
      simp only [shaped, Shape.number?] at read
      split at read
      · cases read
      · exact read
    | null | bool | text | bytes | array | object => simp [shaped, Shape.number?] at read
  have counted : (Number.int count).place? = some (.finite count) := rfl
  obtain ⟨keyword, direction⟩ := check
  have settled : ∀ keeps : Nat → Prop, keeps limit ↔ ∀ other, graph.Threshold node keyword other → keeps other := by
    intro keeps
    exact ⟨fun holds other again => threshold.unique again ▸ holds, fun all => all limit threshold⟩
  simp only [run, live, Graph.require_eq found, ordered, Except.ok_bind]
  cases direction with
  | max =>
    have exceeds : number.lt (.int count) = true ↔ ¬ Keeps graph node count ⟨keyword, .max⟩ := by
      rw [Number.lt_iff place counted, Nat.cast_lt, ← not_le]
      exact not_congr (settled (count ≤ ·))
    refine (Except.Settles.refuse _).congr ?_ fun failure => and_congr_left fun _ => exceeds
    exact exceeds.not_left
  | min =>
    have misses : (Number.int count).lt number = true ↔ ¬ Keeps graph node count ⟨keyword, .min⟩ := by
      rw [Number.lt_iff counted place, Nat.cast_lt, ← not_le]
      exact not_congr (settled (· ≤ count))
    refine (Except.Settles.refuse _).congr ?_ fun failure => and_congr_left fun _ => misses
    exact misses.not_left

/-- Without its keyword a threshold is kept by every count. -/
theorem settles_given (object : graph.shape node = .object fields) (declares : fields.Declares keyword graph.IsThreshold)
    (direction : Direction) (count : Nat) :
    Except.Settles (((Keyword.outline graph fields).given keyword ⟨keyword, direction⟩).forM (run graph node (.ok count)))
      (Keeps graph node count ⟨keyword, direction⟩)
      fun failure => ¬ Keeps graph node count ⟨keyword, direction⟩ ∧ failure = .violation (violation ⟨keyword, direction⟩) := by
  apply Except.Settles.given
  · intro part found
    exact settles ((Graph.field?_eq object keyword).trans found) (declares part found) count
  · intro absent
    have kept : Keeps graph node count ⟨keyword, direction⟩ := by
      intro limit threshold
      obtain ⟨part, number, found, _⟩ := threshold
      cases ((Graph.field?_eq object keyword).trans absent).symm.trans found
    exact ⟨kept, fun failure broken => broken.1 kept⟩

end SizeCheck

/-- Values of another kind are refused just if the type asks for this kind. -/
theorem Keyword.guard_settles (object : graph.shape node = .object fields) (name : String) (violation : Violation) :
    Except.Settles ((Program.live (graph.optional node "type") >>= fun type =>
        if graph.hasType type name = true then Program.violate violation else pure ()).evaluate judge prepare)
      (¬ graph.hasType (graph.field? node "type") name = true)
      fun failure => graph.hasType (graph.field? node "type") name = true ∧ failure = .violation violation := by
  rw [Program.live_optional object]
  by_cases typed : graph.hasType (graph.field? node "type") name = true
  · rw [if_pos typed]
    exact (Except.Settles.stop _).congr (iff_of_false id (not_not_intro typed)) fun failure => (and_iff_right typed).symm
  · rw [if_neg typed]
    exact Except.Settles.pass.congr (iff_of_true trivial typed) fun failure => iff_of_false id fun refused => typed refused.1

theorem Check.runAll_alike {checks others : List Check} (alike : List.Forall₂ Alike checks others)
    (plain : ∀ check ∈ others, check.isEnum = false) :
    runAll graph mode value node checks = runAll graph mode value node others := by
  induction alike with
  | nil => rfl
  | cons first _ ih =>
    rw [runAll, runAll, ih fun check later => plain check (List.mem_cons_of_mem _ later)]
    cases first with
    | run _ same => rw [same]
    | enum _ other => cases plain _ List.mem_cons_self

/-- A family that settled nothing else is run as the check of its type, or not at all. -/
theorem Check.evaluate_chosen {settled typed : Bool} {own type : Check}
    (loose : settled = false → (own.run graph mode value node).evaluate judge prepare =
      if typed = true then (type.run graph mode value node).evaluate judge prepare else .ok ()) :
    (runAll graph mode value node (if settled = true then [own] else if typed = true then [type] else [])).evaluate judge prepare =
      (own.run graph mode value node).evaluate judge prepare := by
  have single : ∀ check : Check, (runAll graph mode value node [check]).evaluate judge prepare =
      (check.run graph mode value node).evaluate judge prepare := by
    intro check
    rw [runAll, Program.evaluate_bind]
    cases (check.run graph mode value node).evaluate judge prepare <;> rfl
  cases settled with
  | true => exact single own
  | false =>
    rw [loose rfl]
    cases typed with
    | true => exact single type
    | false => rfl

/-- More fuel than the budget makes no difference, not even for a verdict that never comes. -/
theorem evaluateAt_of_budget {fuel : Nat} (enough : graph.budget value ≤ fuel) :
    evaluateAt graph mode fuel value node = graph.evaluate mode value node := by
  by_cases ends : graph.evaluate mode value node = .error .endless
  · by_contra other
    rw [ends] at other
    exact other ((evaluate_eq_of_ends other).symm.trans ends)
  · exact evaluateAt_mono enough ends

/-- A value is evaluated at a node by its checks, which evaluate it at other nodes. -/
theorem evaluate_unfold (graph : Graph) (mode : MultipleMode) (value : Value) (node : Ref) :
    graph.evaluate mode value node = evaluateAt graph mode (graph.budget value + 1) value node :=
  (evaluateAt_of_budget (Nat.le_succ _)).symm

theorem Graph.budget_mono (graph : Graph) {part whole : Value} (inside : part.depth ≤ whole.depth) :
    graph.budget part ≤ graph.budget whole :=
  Nat.mul_le_mul_left _ (Nat.add_le_add_right inside 2)

namespace Validator

variable {validator : Validator} {compiled : Compiled}

/-- Whatever was called before on the same schema, checks that remember nothing end as they do
when every nested schema is compiled anew. -/
theorem enforce_work (object : graph.shape node = .object fields) (same : compiled.mode = validator.mode)
    (fits : ∀ check ∈ compiled.checks, check.Fits graph node) (plain : ∀ check ∈ compiled.checks, check.isEnum = false)
    (nested : ∀ schema ∈ graph.subschemas node, graph.Compiles schema) (tasks : List Task) (value : Value) :
    (start (Run.enforce graph compiled value node) (validator.work graph tasks .empty)).1 =
      (Check.runAll graph validator.mode value node compiled.checks).evaluate (graph.evaluate validator.mode) (prepareNode graph) := by
  let region : Ref → Prop := fun inner => ∃ schema ∈ graph.subschemas node, graph.Reaches schema inner
  let kept : Workspace → Prop := Workspace.Sound validator.mode (fun _ => False)
    (fun node compiled => compileNode graph node = .ok compiled.checks) (fun _ => False) region
  have upkeep := Workspace.upkeep_synced graph validator.mode
  have answers := Workspace.answers_synced graph validator.mode region
  have serves : ∀ inner, region inner → graph.Serves validator.mode kept inner := by
    intro inner inside
    have compiles : ∃ checks, compileNode graph inner = .ok checks := by
      obtain ⟨schema, member, reached⟩ := inside
      exact nested schema member inner reached
    exact Graph.serves_of_sound upkeep answers inside compiles
  have closed : ∀ outer, region outer → ∀ inner ∈ graph.subschemas outer, region inner := by
    intro outer inside inner member
    obtain ⟨schema, listed, reached⟩ := inside
    exact ⟨schema, listed, reached.tail member⟩
  have sound : kept (validator.work graph tasks .empty) :=
    Workspace.Sound.moves upkeep (work_moves validator graph tasks .empty)
      ⟨Workspace.tracked_empty validator.mode _ _, fun _ _ _ _ impossible => impossible⟩
  rw [Run.enforce, judgeNode_object object, same]
  refine (Check.runAll_ends (List.forall₂_same.mpr fun check member => Check.agrees_of_run object (fits check member)
    (plain check member) fun _ => rfl) (fun part schema asks => ?_) (fun schema member => ?_) _ sound).1
  · have within : part.depth ≤ value.depth := asks.2.elim (fun deeper => deeper.le) fun handed => handed.1 ▸ Nat.le_refl _
    rw [← evaluateAt_of_budget (graph.budget_mono within)]
    exact validateAt_ends region closed serves _ part ⟨schema, asks.1, .refl⟩
  · exact (serves schema ⟨schema, member, .refl⟩).prepare_ends

end Validator
end LiveSchema
