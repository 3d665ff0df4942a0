import LiveSchema.Graph.Edit
import LiveSchema.Trial
import LiveSchema.Proofs.Termination
import LiveSchema.Proofs.TrackedCache

/-! Eager compilation is complete. It reaches every schema that a validation can
ask for, so later validations find all lists and change nothing; and what it
accepted has everything the checks read, so they fail on account of the value
alone, as long as their messages can be written. -/

namespace LiveSchema

open Relation (ReflTransGen)
open Run (start)
open Workspace (Moves Synced upkeep_synced)

variable {graph : Graph} {mode : MultipleMode} {node : Ref} {value : Value} {fields : Entries Ref}

section Failures

variable {judge : Value → Ref → Except Failure Unit} {prepare : Ref → Except Failure Unit} {fails : Failure → Prop}
  (refuses : ∀ failure, graph.Refuses node failure → fails failure) (ends : fails .endless ∨ graph.ReadsConstant node)
  (object : graph.shape node = .object fields)
  (judges : ∀ part schema, graph.Asks node value part schema → Except.FailsAs fails (judge part schema))
  (prepares : ∀ schema ∈ graph.subschemas node, Except.FailsAs fails (prepare schema))
include refuses ends object judges prepares

theorem Check.evaluate_fails {check : Check} (fits : check.Fits graph node) :
    Except.FailsAs fails ((check.run graph mode value node).evaluate judge prepare) := by
  cases kind : check.isEnum with
  | false => exact Program.evaluate_fails judges prepares (check.run_scoped refuses object fits kind ends value)
  | true =>
    cases check with
    | enum memo =>
      simp only [run, Keyword.evaluate_runEnum fits, Keyword.membership]
      split
      · exact .ok ()
      · exact .error (refuses _ trivial)
    | null | types | const | object | isObject | number | isNumber | text | isText | array | isArray | isBoolean
    | allOf | anyOf | oneOf | not => cases kind

theorem Check.evaluate_runAll_fails {checks : List Check} (fits : ∀ check ∈ checks, check.Fits graph node) :
    Except.FailsAs fails ((runAll graph mode value node checks).evaluate judge prepare) := by
  induction checks with
  | nil => exact .ok ()
  | cons check rest ih =>
    simp only [runAll, Program.evaluate_bind]
    apply Except.FailsAs.bind (check.evaluate_fails refuses ends object judges prepares (fits check (by simp)))
    intro _ _
    exact ih fun other later => fits other (List.mem_cons_of_mem _ later)

end Failures

theorem Graph.Compiles.nested {inner : Ref} (compiles : graph.Compiles node) (nested : inner ∈ graph.subschemas node) :
    graph.Compiles inner :=
  fun other reached => compiles other (.head nested reached)

/-- A node fails as the verdicts do that it may ask for, or refuses the value itself. -/
theorem evaluateAt_fails_of_asked {fails : Failure → Prop} {fuel : Nat} (refuses : ∀ failure, graph.Refuses node failure → fails failure)
    (ends : fails .endless ∨ graph.ReadsConstant node) (compiles : graph.Compiles node)
    (asked : ∀ part schema, graph.Asks node value part schema → Except.FailsAs fails (evaluateAt graph mode fuel part schema)) :
    Except.FailsAs fails (evaluateAt graph mode (fuel + 1) value node) := by
  obtain ⟨checks, compiled⟩ := compiles node .refl
  simp only [evaluateAt, compiled, Except.ok_bind, judgeNode]
  split
  · exact .error (refuses _ trivial)
  · rcases compileNode_object compiled with rfl | ⟨fields, object⟩
    · exact .ok ()
    · refine Check.evaluate_runAll_fails refuses ends object asked (fun schema nested => ?_) (compileNode_fits compiled)
      obtain ⟨others, prepared⟩ := compiles.nested nested schema .refl
      simp only [prepareNode, prepared]
      exact .ok ()

/-- How a schema refuses a value, itself or by a schema that it reaches. -/
def Graph.Rejects (graph : Graph) (root : Ref) (failure : Failure) : Prop :=
  ∃ node, graph.Reaches root node ∧ graph.Refuses node failure

theorem Graph.Rejects.of_nested {schema : Ref} {failure : Failure} (nested : schema ∈ graph.subschemas node)
    (rejects : graph.Rejects schema failure) : graph.Rejects node failure := by
  obtain ⟨inner, reached, refuses⟩ := rejects
  exact ⟨inner, .head nested reached, refuses⟩

theorem evaluateAt_fails (compiles : graph.Compiles node) (mode : MultipleMode) (fuel : Nat) (value : Value) :
    Except.FailsAs (fun failure => failure = .endless ∨ graph.Rejects node failure) (evaluateAt graph mode fuel value node) := by
  induction fuel generalizing node value with
  | zero => exact .error (.inl rfl)
  | succ fuel ih =>
    refine evaluateAt_fails_of_asked (fun _ refuses => .inr ⟨node, .refl, refuses⟩) (.inl (.inl rfl)) compiles fun part _ asks => ?_
    exact fun failure failed => (ih (compiles.nested asks.1) part failure failed).imp_right (.of_nested asks.1)

theorem Graph.Compiles.evaluate_fails (compiles : graph.Compiles node) (ends : graph.evaluate mode value node ≠ .error .endless) :
    Except.FailsAs (graph.Rejects node) (graph.evaluate mode value node) := by
  intro failure failed
  refine (evaluateAt_fails compiles mode (graph.budget value) value failure failed).resolve_left ?_
  rintro rfl
  exact ends failed

/-- A rejection is a violation, unless the schema has something that no message can quote. -/
theorem Except.verdict_or_unquotable {root : Ref} {outcome : Except Failure Unit} (fails : FailsAs (graph.Rejects root) outcome) :
    outcome = .ok () ∨ (∃ violation, outcome = .error (.violation violation)) ∨
      outcome = .error (.fault .badValue) ∧ ∃ node, graph.Reaches root node ∧ ¬ graph.Quotable node := by
  rcases outcome with failure | ⟨⟩
  · obtain ⟨node, reached, refuses⟩ := fails _ rfl
    cases failure with
    | violation violation => exact .inr (.inl ⟨violation, rfl⟩)
    | fault cause =>
      obtain ⟨rfl, unquotable⟩ := refuses
      exact .inr (.inr ⟨rfl, node, reached, unquotable⟩)
    | defect | setting | lookup | endless => exact refuses.elim
  · exact .inl rfl

/-- A workspace that has a current list for a node serves it without a change. -/
theorem Graph.serves_of_cached {stale : Nat → Prop} {space : Workspace} {compiled : Compiled}
    (synced : Synced graph mode stale space) (cached : space.cache.get? node = some compiled)
    (unmarked : ¬ stale compiled.identity) : graph.Serves mode (· = space) node where
  keeps := by
    rintro _ rfl
    rw [Run.start_checksFor_hit cached]
  fails := by
    rintro _ rfl failure fails
    cases fails.symm.trans (synced.lists node compiled cached unmarked)
  finds := by
    rintro _ rfl checks compiles
    have same := (synced.lists node compiled cached unmarked).symm.trans compiles
    cases same
    rw [Run.start_checksFor_hit cached]
    refine ⟨compiled, rfl, synced.modes node compiled cached, Check.agrees_fresh compiles ?_⟩
    rintro _ rfl
    rw [(synced.origins node compiled cached).1]
    exact synced.clean unmarked

namespace Validator

variable {validator : Validator} {space : Workspace} {list : Compiled}

theorem synced_of_compile {before : Workspace} (synced : Synced graph validator.mode (fun _ => False) before)
    (compiled : start (validator.compile graph) before = (.ok list, space)) :
    Synced graph validator.mode (fun _ => False) space := by
  have moves : ReflTransGen (Moves graph validator.mode) before (start (validator.compile graph) before).2 :=
    compile_moves before
  rw [compiled] at moves
  exact synced.moves (upkeep_synced graph validator.mode) moves

/-- After an eager compilation no validation changes anything. -/
theorem validate_kept {before : Workspace} (synced : Synced graph validator.mode (fun _ => False) before)
    (eager : validator.settings.isEager = true)
    (compiled : start (validator.compile graph) before = (.ok list, space)) (value : Value) :
    start (validator.validate graph value) space = (graph.evaluate validator.mode value validator.schema, space) := by
  obtain ⟨marked, caches⟩ := compile_ok compiled eager
  have kept := synced_of_compile synced compiled
  have serves : ∀ node, graph.Reaches validator.schema node → graph.Serves validator.mode (· = space) node := by
    intro node reached
    obtain ⟨found, cached⟩ := caches node (Graph.mem_preorder_iff.mpr reached)
    exact Graph.serves_of_cached kept cached id
  have ends := validateAt_ends (graph.Reaches validator.schema) (fun _ reached _ nested => reached.tail nested) serves
    (graph.budget value) value .refl space rfl
  rw [start_validate_compiled marked]
  exact Prod.ext ends.1 ends.2

theorem compiles_of_compile {before : Workspace} (synced : Synced graph validator.mode (fun _ => False) before)
    (eager : validator.settings.isEager = true)
    (compiled : start (validator.compile graph) before = (.ok list, space)) : graph.Compiles validator.schema := by
  intro node reached
  obtain ⟨_, caches⟩ := compile_ok compiled eager
  obtain ⟨found, cached⟩ := caches node (Graph.mem_preorder_iff.mpr reached)
  exact ⟨found.checks, (synced_of_compile synced compiled).lists node found cached id⟩

/-- A schema with a constant, and what is left of it without. -/
def constantNull : Graph := ⟨#[.object [(.text "const", .null)]]⟩

def bareGraph : Graph := ⟨#[.object []]⟩

/-- A bound with more digits than a message can quote. -/
def longBound : Graph := ⟨#[.object [(.text "minimum", .int (10 ^ 5000))]]⟩

def plainChecker : Validator := ⟨.node 0, .standard⟩

end Validator
end LiveSchema
