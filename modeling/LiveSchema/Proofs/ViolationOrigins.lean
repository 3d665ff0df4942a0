import LiveSchema.Proofs.EagerOrder
import LiveSchema.Proofs.OwnViolations
import LiveSchema.Proofs.SessionCaches

/-! Where a reported violation stems from. A program that fails with a violation found it
itself or was told it by a schema that surfaces, and was told so on a workspace like its own.
Followed down through a validation this leads to the node whose violation it is. -/

namespace LiveSchema

open LiveSchema.Except (FailsAs)
open Relation (ReflTransGen)
open Run (start Keeps MovesBy)

/-- Every list is what its node compiles to. -/
def Cache.Faithful (graph : Graph) (cache : Cache) : Prop :=
  ∀ entry ∈ cache.entries, compileNode graph entry.1 = .ok entry.2.checks

theorem Except.FailsAs.map {fails : Failure → Prop} {outcome : Except Failure α} (failsAs : FailsAs fails outcome)
    (change : α → β) : FailsAs fails (outcome.map change) := by
  cases outcome with
  | ok result => exact .ok _
  | error failure => exact .error (failsAs failure rfl)

theorem Except.map_error {outcome : Except ε α} {change : α → β} {error : ε} (failed : outcome.map change = .error error) :
    outcome = .error error := by
  cases outcome with
  | ok result => cases failed
  | error other =>
    cases failed
    rfl

section Caches

variable {graph : Graph} {mode : MultipleMode} {space after : Workspace} {node : Ref} {compiled : Compiled}

theorem Cache.faithful_empty (graph : Graph) : Cache.empty.Faithful graph := List.forall_mem_nil _

theorem Cache.Faithful.compiles {cache : Cache} (faithful : cache.Faithful graph) (cached : cache.get? node = some compiled) :
    compileNode graph node = .ok compiled.checks :=
  faithful (node, compiled) (Cache.mem_entries_of_get? cached)

theorem Workspace.Moves.faithful (moves : Moves graph mode space after) (faithful : space.cache.Faithful graph) :
    after.cache.Faithful graph := by
  cases moves with
  | drop node =>
    intro entry member
    rw [Cache.entries_erase] at member
    exact faithful entry (Table.mem_of_erase member)
  | clear => exact Cache.faithful_empty graph
  | grow grows =>
    cases grows with
    | file _ missing compiles =>
      intro entry member
      rw [Workspace.filed, Cache.entries_set_absent missing] at member
      rcases List.mem_append.mp member with old | new
      · exact faithful entry old
      · cases List.mem_singleton.mp new
        exact compiles
    | reread => exact faithful
    | note => exact faithful

theorem Run.MovesBy.faithful {step : Run α} (moves : MovesBy graph mode step) :
    Keeps (fun space => space.cache.Faithful graph) step :=
  fun space => Workspace.kept_of_moves (fun _ _ => Workspace.Moves.faithful) (moves space)

theorem Run.discard_fails {fails : Failure → Prop} {step : Run α} (failsAs : FailsAs fails (start step space).1) :
    FailsAs fails (start (discard step) space).1 := by
  rw [start_discard]
  exact failsAs.map _

theorem Run.checksFor_fails : FailsAs Failure.OfSchema (start (checksFor graph mode node) space).1 := by
  cases cached : space.cache.get? node with
  | some compiled =>
    rw [start_checksFor_hit cached]
    exact .ok compiled
  | none =>
    cases compiles : compileNode graph node with
    | ok checks =>
      rw [start_checksFor_miss cached compiles]
      exact .ok _
    | error failure =>
      rw [start_checksFor_fail cached compiles]
      exact .error (compileNode_fails graph node failure compiles)

theorem Validator.compileNodes_fails {validator : Validator} {nodes written : List Ref} :
    FailsAs Failure.OfSchema (start (validator.compileNodes graph written nodes) space).1 := by
  induction nodes generalizing written space with
  | nil => exact .ok ()
  | cons node rest ih =>
    cases cached : space.cache.get? node with
    | some compiled =>
      rw [start_compileNodes_hit cached]
      exact ih
    | none =>
      cases compiles : compileNode graph node with
      | ok checks =>
        rw [start_compileNodes_miss cached compiles]
        exact ih
      | error failure =>
        rw [start_compileNodes_fail cached compiles]
        exact .error (compileNode_fails graph node failure compiles)

/-- A compilation fails on account of the schema. -/
theorem Validator.compile_fails {validator : Validator} : FailsAs Failure.OfSchema (start (validator.compile graph) space).1 := by
  have nodes : FailsAs Failure.OfSchema (start (validator.compileFrom graph validator.schema) space).1 := compileNodes_fails
  rw [compile, Run.start_bind]
  generalize start (validator.compileFrom graph validator.schema) space = ended at nodes
  obtain ⟨failure | ⟨⟩, middle⟩ := ended
  · exact .error (nodes failure rfl)
  · exact Run.checksFor_fails

end Caches

namespace Program

variable {owns : Violation → Prop} {surfaces : Ref → Prop} {origin : Nat} {judge : Value → Ref → Run Unit}
  {prepare : Ref → Run Unit} {kept : Cache → Prop} {space : Workspace} {violation : Violation}

theorem Accounts.weaken {weaker : Violation → Prop} {program : Program α} (accounts : program.Accounts owns surfaces)
    (weakens : ∀ violation, owns violation → weaker violation) : program.Accounts weaker surfaces := by
  induction program with
  | done result => trivial
  | fail failure =>
    cases failure with
    | violation found => exact weakens found accounts
    | defect | fault | setting | lookup | endless => trivial
  | judge value node next ih =>
    refine ⟨ih none accounts.1, accounts.2.imp_right ?_⟩
    exact fun ⟨blind, others⟩ => ⟨blind, fun nested => ih _ (others nested)⟩
  | prepare node next ih => exact ih accounts
  | recollect next ih => exact fun memo => ih memo (accounts memo)
  | remember memo next ih => exact ih accounts

/-- A violation that a program ends with is its own, or one that a nested schema has just reported. -/
theorem Accounts.traced {program : Program Unit} (accounts : program.Accounts owns surfaces)
    (judges : ∀ value node, Keeps (fun space => kept space.cache) (judge value node))
    (prepares : ∀ node, Keeps (fun space => kept space.cache) (prepare node))
    (silent : ∀ node space, FailsAs Failure.OfSchema (start (prepare node) space).1) (holds : kept space.cache)
    (failed : (start (program.perform origin judge prepare) space).1 = .error (.violation violation)) :
    (owns violation ∧ program.Raises violation) ∨ ∃ value node before, surfaces node ∧ kept before.cache ∧
      (start (judge value node) before).1 = .error (.violation violation) := by
  induction program generalizing space with
  | done result => cases failed
  | fail failure =>
    cases failed
    exact .inl ⟨accounts, .here⟩
  | judge value node next ih =>
    rw [start_judge] at failed
    have still := judges value node space holds
    cases answered : (start (judge value node) space).1 with
    | ok =>
      rw [answered] at failed
      exact (ih none accounts.1 still failed).imp_left (And.imp_right .accepted)
    | error failure =>
      rw [answered] at failed
      cases failure with
      | violation nested =>
        rcases accounts.2 with ⟨surfaced, handed⟩ | ⟨blind, others⟩
        · -- the nested violation is the one that surfaces
          simp only [settle, handed nested] at failed
          cases failed
          exact .inr ⟨value, node, space, surfaced, holds, answered⟩
        · exact (ih (some nested) (others nested) still failed).imp_left (And.imp_right (.refused blind))
      | defect | fault | setting | lookup | endless => cases failed
  | prepare node next ih =>
    rw [start_prepare] at failed
    have still := prepares node space holds
    have quiet := silent node space
    generalize start (prepare node) space = ended at failed still quiet
    obtain ⟨failure | ⟨⟩, after⟩ := ended
    · cases failed
      exact (quiet _ rfl).elim
    · exact (ih accounts still failed).imp_left (And.imp_right .prepare)
  | recollect next ih =>
    rw [start_recollect] at failed
    exact (ih _ (accounts _) holds failed).imp_left (And.imp_right (.recollect _))
  | remember memo next ih =>
    rw [start_remember] at failed
    have still : kept { space with memos := space.memos.set origin memo }.cache := holds
    exact (ih accounts still failed).imp_left (And.imp_right .remember)

end Program

namespace Graph

/-- The schema `false` answers for refusing, and any other node for what it has keys of. -/
def AnswersFor (graph : Graph) (node : Ref) (violation : Violation) : Prop :=
  node = .bool false ∧ violation.report.keyword = "schema" ∨ graph.Explains node violation

/-- A violation stems from a node: it names the node, and the checks of the node itself find
it, whatever violations are found by schemas nested in the node. -/
structure Stems (graph : Graph) (violation : Violation) (node : Ref) : Prop where
  answers : graph.AnswersFor node violation
  raised : ∃ mode value checks, compileNode graph node = .ok checks ∧ (judgeNode graph mode checks value node).Raises violation

end Graph

variable {graph : Graph} {mode : MultipleMode} {space : Workspace} {node : Ref} {value : Value} {violation : Violation}

theorem judgeNode_accounts {checks : List Check} (compiles : compileNode graph node = .ok checks) (mode : MultipleMode)
    (value : Value) : (judgeNode graph mode checks value node).Accounts (graph.AnswersFor node) (graph.Surfaces node) := by
  unfold judgeNode
  split
  next refuses => exact .inl ⟨refuses, rfl⟩
  next => exact (Check.runAll_accounts (compileNode_fits compiles) (compileNode_grounded compiles) value).weaken fun _ => .inr

/-- A violation that a validation ends with stems from a node that surfaces all the way up. -/
theorem Run.validateAt_traced {fuel : Nat} (faithful : space.cache.Faithful graph)
    (failed : (start (validateAt graph fuel mode value node) space).1 = .error (.violation violation)) :
    ∃ origin, ReflTransGen graph.Surfaces node origin ∧ graph.Stems violation origin := by
  induction fuel generalizing space mode value node with
  | zero => cases failed
  | succ fuel ih =>
    rw [validateAt, start_bind] at failed
    have quiet : FailsAs Failure.OfSchema (start (checksFor graph mode node) space).1 := checksFor_fails
    have still : (start (checksFor graph mode node) space).2.cache.Faithful graph :=
      (MovesBy.checksFor node).faithful space faithful
    have caches : ∀ compiled, (start (checksFor graph mode node) space).1 = .ok compiled →
        (start (checksFor graph mode node) space).2.cache.get? node = some compiled := fun _ => checksFor_cached
    generalize start (checksFor graph mode node) space = ended at failed quiet still caches
    obtain ⟨failure | compiled, after⟩ := ended
    · cases failed
      exact (quiet _ rfl).elim
    · have compiles := still.compiles (caches compiled rfl)
      rcases (judgeNode_accounts compiles compiled.mode value).traced (fun _ _ => (MovesBy.validateAt _ _ _).faithful)
        (fun inner => (MovesBy.checksFor inner).discard.faithful) (fun _ _ => discard_fails checksFor_fails) still failed
        with ⟨answers, raises⟩ | ⟨part, inner, before, surfaces, kept, found⟩
      · exact ⟨node, .refl, answers, compiled.mode, value, compiled.checks, compiles, raises⟩
      · obtain ⟨origin, path, stems⟩ := ih kept found
        exact ⟨origin, .head surfaces path, stems⟩

theorem Validator.validate_traced {validator : Validator} (faithful : space.cache.Faithful graph)
    (failed : (start (validator.validate graph value) space).1 = .error (.violation violation)) :
    ∃ origin, ReflTransGen graph.Surfaces validator.schema origin ∧ graph.Stems violation origin := by
  rw [validate, Run.start_bind_ok Run.start_get] at failed
  split at failed
  · exact Run.validateAt_traced faithful failed
  · rw [Run.start_bind] at failed
    have quiet : FailsAs Failure.OfSchema (start (discard (validator.compile graph)) space).1 := Run.discard_fails compile_fails
    have still : (start (discard (validator.compile graph)) space).2.cache.Faithful graph :=
      compile_moves.discard.faithful space faithful
    generalize start (discard (validator.compile graph)) space = ended at failed quiet still
    obtain ⟨failure | ⟨⟩, after⟩ := ended
    · cases failed
      exact (quiet _ rfl).elim
    · exact Run.validateAt_traced still failed

namespace Session

/-- However validators and caches are used, their lists are those of the schema. -/
theorem run_faithful {session : Session} {steps : List Step} (performs : ∀ step ∈ steps, step.Performs fun _ => True)
    (faithful : session.Caches fun _ cache => cache.Faithful session.graph) :
    (session.run steps).graph = session.graph ∧ (session.run steps).Caches fun _ cache => cache.Faithful session.graph := by
  induction steps generalizing session with
  | nil => exact ⟨rfl, faithful⟩
  | cons step rest ih =>
    rw [List.forall_mem_cons] at performs
    have same : (session.take step).session.graph = session.graph := congrArg Library.graph (take_library performs.1)
    have still : (session.take step).session.Caches fun _ cache => cache.Faithful session.graph :=
      faithful.take (fun validator _ task _ => (validator.perform_moves session.graph task).faithful) performs.1
    rw [← same] at still ⊢
    exact ih performs.2 still

/-- The violation that a validation reports names a keyword of some node, or is that of the
schema `false`. It has surfaced from this node through properties, dependencies, property names,
items and `allOf` alone, and it is the checks of this very node that found it: no violation of
a member of `anyOf`, `oneOf`, `not` or `contains` is ever reported in the place of one. -/
theorem reported_violation_stems (library : Library) {steps : List Step}
    (performs : ∀ step ∈ steps, step.Performs fun _ => True) {name : String} {value : Value} {violation : Violation}
    (reported : (((idle library).run steps).take (.validate name value)).answer = .error (.violation violation)) :
    ∃ tenant node, ((idle library).run steps).tenants.get? name = some tenant ∧
      ReflTransGen library.graph.Surfaces tenant.validator.schema node ∧ library.graph.Stems violation node := by
  have empty : (idle library).Caches fun _ cache => cache.Faithful library.graph := fun _ => Cache.faithful_empty library.graph
  obtain ⟨same, faithful⟩ := run_faithful performs empty
  cases present : ((idle library).run steps).tenants.get? name with
  | none =>
    simp only [take, runAnswer, runAs, present] at reported
    cases reported
  | some tenant =>
    rw [answer_validate present, same] at reported
    obtain ⟨node, path, stems⟩ := Validator.validate_traced (faithful tenant.cache) (Except.map_error reported)
    exact ⟨tenant, node, rfl, path, stems⟩

/-- A size is a text or not too small, and a number that is too small is neither. -/
def sizes : Library :=
  ⟨⟨#[.object [(.text "properties", .node 1)], .object [(.text "size", .node 2)], .object [(.text "allOf", .node 3)],
    .array false [.node 4], .object [(.text "anyOf", .node 5)], .array false [.node 6, .node 7],
    .object [(.text "type", .node 8)], .object [(.text "minimum", .int 3)], .text "string"]⟩, [("sizes", .node 0)]⟩

def sizeCalls : List Step :=
  [.newValidator "sizes" [.text "sizes"] none none, .check "sizes" .null, .invalidate (.validator "sizes") [.text "sizes"]]

theorem sizes_choice {node : Ref} (here : sizes.graph.HasKey node "anyOf") : node = .node 4 := by
  have only : ∀ index < 9, (sizes.graph.field? (.node index) "anyOf").isSome = true → index = 4 := by decide
  obtain ⟨part, found⟩ := here
  cases node with
  | null | bool | int => cases found
  | node index =>
    by_cases inside : index < 9
    · exact congrArg Ref.node (only index inside (by rw [found]; rfl))
    · simp [Graph.field?, Graph.shape, sizes, inside, Shape.entries?] at found

/-- The members of `anyOf` fail with violations of `type` and `minimum`. What is reported is
that of the node with `anyOf`, two steps below the root. -/
theorem reported_violation_stems_from_choice :
    (((idle sizes).run sizeCalls).take (.validate "sizes" (.object [(.text "size", .number (.int 1))]))).answer =
        .error (.violation .noAlternative) ∧
      ReflTransGen sizes.graph.Surfaces (.node 0) (.node 4) ∧ sizes.graph.Stems .noAlternative (.node 4) := by
  have present : ((idle sizes).run sizeCalls).tenants.get? "sizes" = some ⟨⟨.node 0, .standard⟩, 0, true⟩ := rfl
  have small : (Run.start (Validator.validate ⟨.node 0, .standard⟩ sizes.graph (.object [(.text "size", .number (.int 1))]))
    (((idle sizes).run sizeCalls).workspace 0 true)).1 = .error (.violation .noAlternative) := rfl
  have reported : (((idle sizes).run sizeCalls).take (.validate "sizes" (.object [(.text "size", .number (.int 1))]))).answer =
      .error (.violation .noAlternative) := by
    rw [answer_validate present]
    exact congrArg _ small
  have performs : ∀ step ∈ sizeCalls, step.Performs fun _ => True := by
    simp [sizeCalls, Step.Performs]
  obtain ⟨tenant, node, found, path, stems⟩ := reported_violation_stems sizes performs reported
  cases present.symm.trans found
  have choice : node = .node 4 := by
    rcases stems.answers with ⟨_, other⟩ | here
    · exact absurd other (by decide)
    · exact sizes_choice here
  rw [choice] at path stems
  exact ⟨reported, path, stems⟩

end Session
end LiveSchema
