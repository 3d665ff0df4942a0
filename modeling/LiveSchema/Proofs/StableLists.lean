import LiveSchema.Proofs.FailedCompilation
import LiveSchema.Proofs.SessionCaches

/-! Lists of checks are stable. Unless it is told to drop an entry a call only adds some, for
nodes that had none, and if it takes back any after a failure they are those it has added
itself. So a list that was cached once is the one that all later calls work with. -/

namespace LiveSchema

open Relation (ReflTransGen)
open Run (start Keeps)

/-- A cached list stays as it is. -/
def Workspace.Holds (node : Ref) (list : Compiled) (space : Workspace) : Prop := space.cache.get? node = some list

namespace Validator

variable {validator : Validator} {graph : Graph} {space : Workspace} {before : Cache} {added : Table Ref Compiled}
  {nodes : List Ref} {node : Ref} {list : Compiled}

theorem compileFrom_keeps (root : Ref) : Keeps (Workspace.Holds node list) (validator.compileFrom graph root) := by
  intro space holds
  have ended : start (validator.compileFrom graph root) space = ((start (validator.compileFrom graph root) space).1,
      (start (validator.compileFrom graph root) space).2) := rfl
  obtain ⟨more, adds, _⟩ := compileFrom_adds ended
  exact (adds.get?_eq node).trans (by rw [show space.cache.get? node = some list from holds, Option.some_or])

theorem checksFor_keeps (asked : Ref) : Keeps (Workspace.Holds node list) (validator.checksFor graph asked) :=
  fun _ => Workspace.keeps_of_grows (Run.checksFor_grows (.inl rfl) asked)

theorem compile_keeps : Keeps (Workspace.Holds node list) (validator.compile graph) :=
  .bind (compileFrom_keeps _) fun _ => .bind (fun _ holds => holds) fun _ => checksFor_keeps _

theorem validate_keeps (value : Value) : Keeps (Workspace.Holds node list) (validator.validate graph value) := by
  have whole : Keeps (Workspace.Holds node list)
      (Run.validateAt graph (graph.budget value) validator.mode value validator.schema) :=
    fun _ => Workspace.keeps_of_grows (Run.validateAt_grows _ (.inl rfl) value _)
  refine Keeps.bind .get fun space => ?_
  split
  · exact whole
  · exact .bind (.discard compile_keeps) fun _ => whole

theorem check_keeps (value : Value) : Keeps (Workspace.Holds node list) (validator.check graph value) := by
  intro space holds
  rw [check, Run.start_verdict]
  exact validate_keeps value space holds

end Validator

/-- A task that is not told to drop anything. -/
def Task.Retains : Task → Prop
  | .compile | .checksFor _ | .validate _ | .check _ | .isValid _ => True
  | .recompile _ | .recompileAll | .invalidate _ | .clear => False

theorem Validator.perform_keeps (validator : Validator) (graph : Graph) {node : Ref} {list : Compiled} {task : Task}
    (retains : task.Retains) : Keeps (Workspace.Holds node list) (validator.perform graph task) := by
  cases task with
  | compile => exact .discard compile_keeps
  | checksFor asked => exact .discard (checksFor_keeps asked)
  | validate value => exact validate_keeps value
  | check value => exact .discard (check_keeps value)
  | isValid value => exact .discard ((check_keeps value).map _)
  | recompile | recompileAll | invalidate | clear => exact retains.elim

/-- A call hands out a list for a node. -/
inductive Validator.Hands (validator : Validator) (graph : Graph) (space : Workspace) : Ref → Compiled → Workspace → Prop
  | checksFor {node : Ref} {list : Compiled} {after : Workspace}
      (ended : start (validator.checksFor graph node) space = (.ok list, after)) : Hands validator graph space node list after
  | compile {list : Compiled} {after : Workspace} (ended : start (validator.compile graph) space = (.ok list, after)) :
      Hands validator graph space validator.schema list after

namespace Validator

variable {validator : Validator} {graph : Graph} {space after : Workspace} {node : Ref} {list handed : Compiled}

/-- A compilation that succeeds hands out the list that is cached for the schema by then. -/
theorem compile_hands (ended : start (validator.compile graph) space = (.ok handed, after)) :
    (start (validator.compileFrom graph validator.schema) space).2.Holds validator.schema handed ∧
      after.Holds validator.schema handed := by
  cases first : start (validator.compileFrom graph validator.schema) space with | mk outcome middle =>
  cases outcome with
  | error failure =>
    rw [compile, Run.start_bind_error first] at ended
    cases ended
  | ok =>
    obtain ⟨list, cached⟩ := compileFrom_caches first
    have flagged : ({ middle with compiled := true } : Workspace).cache.get? validator.schema = some list := cached
    rw [compile, Run.start_bind_ok first, Run.start_bind_ok (Run.start_setCompiled true), checksFor,
      Run.start_checksFor_hit flagged] at ended
    cases ended
    exact ⟨cached, cached⟩

theorem Hands.holds (hands : validator.Hands graph space node handed after) : after.Holds node handed := by
  cases hands with
  | checksFor ended =>
    unfold Validator.checksFor at ended
    have cached := Run.checksFor_cached (congrArg Prod.fst ended)
    rwa [ended] at cached
  | compile ended => exact (compile_hands ended).2

theorem Hands.unique (hands : validator.Hands graph space node handed after) (holds : space.Holds node list) :
    handed = list := by
  cases hands with
  | checksFor ended =>
    unfold Validator.checksFor at ended
    rw [Run.start_checksFor_hit holds] at ended
    cases ended
    rfl
  | compile ended =>
    have kept : (start (validator.compileFrom graph validator.schema) space).2.Holds validator.schema list :=
      compileFrom_keeps validator.schema space holds
    exact Option.some.inj ((compile_hands ended).1.symm.trans kept)

end Validator

namespace Session

/-- What may come after a call: a step whose tasks drop nothing, and an edit of any kind. -/
inductive Passes : Session → Session → Prop
  | call {session : Session} (step : Step) (performs : step.Performs Task.Retains) : Passes session (session.take step).session
  | edit {session : Session} (library : Library) : Passes session { session with library }

variable {session after : Session} {cache : Nat} {node : Ref} {list : Compiled}

theorem Passes.holds (passes : Passes session after) (cached : (session.cacheAt cache).get? node = some list) :
    (after.cacheAt cache).get? node = some list := by
  cases passes with
  | edit => exact cached
  | call step performs =>
    have holds : session.Caches fun index entries => index = cache → entries.get? node = some list := by
      rintro _ rfl
      exact cached
    refine holds.take (fun validator index task retains => ?_) performs cache rfl
    intro space kept here
    exact validator.perform_keeps session.graph retains space (kept here)

theorem holds_of_passes (passes : ReflTransGen Passes session after) (cached : (session.cacheAt cache).get? node = some list) :
    (after.cacheAt cache).get? node = some list := by
  induction passes with
  | refl => exact cached
  | tail _ last ih => exact last.holds ih

/-- A list that is cached for a node stays cached, whichever validators work on the cache,
however their calls end and whatever becomes of the schema. A later call hands out the same
list for the node or none, and any list that is handed out is cached from then on. -/
theorem lists_are_stable (passes : ReflTransGen Passes session after)
    (cached : (session.cacheAt cache).get? node = some list) :
    (after.cacheAt cache).get? node = some list ∧
      ∀ name tenant, after.tenants.get? name = some tenant → tenant.cache = cache → ∀ other handed last,
        tenant.validator.Hands after.graph (after.workspace cache tenant.compiled) other handed last →
          last.cache.get? other = some handed ∧ (other = node → handed = list) := by
  have kept := holds_of_passes passes cached
  refine ⟨kept, ?_⟩
  rintro name tenant _ rfl other handed last hands
  refine ⟨hands.holds, ?_⟩
  rintro rfl
  exact hands.unique kept

/-- Two properties, the second of which is of this type. -/
def spelling (type : String) : Library :=
  ⟨⟨#[.object [(.text "properties", .node 1)], .object [(.text "left", .node 2), (.text "right", .node 3)],
    .object [(.text "items", .node 4)], .object [(.text "type", .node 5)], .object [], .text type]⟩, [("pair", .node 0)]⟩

/-- A lazy validator was asked for the checks of the root. An eager one works on the same cache. -/
def lookedAt : Session :=
  (idle (spelling "string")).run
    [.newCache "shared", .newValidator "eager" [.text "pair"] none (some "shared"),
      .newValidator "lazy" [.text "pair"] (some (.object [(.text "eager_compile", .bool false)])) (some "shared"),
      .checksFor "lazy" [.text "pair"]]

/-- The type is misspelt by now. The eager validator fails at it, and so does a validation
that comes upon the property. -/
def lookedAgain : Session :=
  ({ lookedAt with library := spelling "strnig" } : Session).run
    [.compile "eager", .validate "lazy" (.object [(.text "left", .null), (.text "right", .null)])]

theorem lookedAgain_passes : ReflTransGen Passes lookedAt lookedAgain :=
  .tail (.tail (.single (.edit (spelling "strnig"))) (.call (.compile "eager") trivial))
    (.call (.validate "lazy" (.object [(.text "left", .null), (.text "right", .null)])) trivial)

/-- The list of the root is the one that was handed out at first, and is handed out again. -/
theorem lists_are_stable_misspelt :
    ∃ list, (lookedAt.cacheAt 0).get? (.node 0) = some list ∧ (lookedAgain.cacheAt 0).get? (.node 0) = some list ∧
      lookedAgain.tenants.get? "lazy" = some ⟨⟨.node 0, ⟨.decimal, .bool false⟩⟩, 0, true⟩ ∧
      ∀ handed last, Validator.Hands ⟨.node 0, ⟨.decimal, .bool false⟩⟩ lookedAgain.graph (lookedAgain.workspace 0 true)
        (.node 0) handed last → handed = list := by
  have cached : ∃ list, (lookedAt.cacheAt 0).get? (.node 0) = some list := by
    rw [← Cache.contains_iff]
    rfl
  have present : lookedAgain.tenants.get? "lazy" = some ⟨⟨.node 0, ⟨.decimal, .bool false⟩⟩, 0, true⟩ := rfl
  obtain ⟨list, cached⟩ := cached
  obtain ⟨kept, hands⟩ := lists_are_stable lookedAgain_passes cached
  exact ⟨list, cached, kept, present, fun handed last again => (hands "lazy" _ present rfl _ handed last again).2 rfl⟩

end Session
end LiveSchema
