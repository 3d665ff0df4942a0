import LiveSchema.Proofs.EnumMemo
import LiveSchema.Proofs.Runs

/-! What the operations do to a workspace, as moves. A validation only adds: it
files lists for nodes that had none, and its `enum` checks take note of arrays.
Other operations drop entries as well. An invariant is kept by every operation
once it is kept by every move. -/

namespace LiveSchema

open Relation (ReflTransGen)

namespace Workspace

/-- Nested schemas are compiled in the mode of the list that asks for them. -/
def Uses (space : Workspace) (mode asked : MultipleMode) : Prop :=
  asked = mode ∨ ∃ node compiled, space.cache.get? node = some compiled ∧ compiled.mode = asked

inductive Grows (graph : Graph) (mode : MultipleMode) : Workspace → Workspace → Prop
  | file {space : Workspace} {asked : MultipleMode} {node : Ref} {checks : List Check}
      (uses : space.Uses mode asked) (missing : space.cache.get? node = none)
      (compiles : compileNode graph node = .ok checks) :
      Grows graph mode space (space.filed graph asked node checks)
  | reread {space : Workspace} {node current : Ref} {compiled : Compiled} {memo : Memo}
      (cached : space.cache.get? node = some compiled) (checked : .enum memo ∈ compiled.checks)
      (found : graph.field? node "enum" = some current)
      (other : ((space.memos.get? compiled.origin).getD memo).source ≠ current) :
      Grows graph mode space
        (space.noting compiled.origin (Keyword.noted graph ((space.memos.get? compiled.origin).getD memo) current))
  | note {space : Workspace} (compiled : Bool) (log : List LogEntry) :
      Grows graph mode space { space with compiled, log }

inductive Moves (graph : Graph) (mode : MultipleMode) : Workspace → Workspace → Prop
  | grow {space after : Workspace} (grows : Grows graph mode space after) : Moves graph mode space after
  | drop {space : Workspace} (node : Ref) :
      Moves graph mode space { space with cache := space.cache.erase node }
  | clear {space : Workspace} : Moves graph mode space { space with cache := .empty }

variable {graph : Graph} {mode asked : MultipleMode} {space after : Workspace} {node : Ref} {compiled : Compiled}

/-- A validation keeps every entry. -/
theorem Grows.keeps (grows : Grows graph mode space after) (cached : space.cache.get? node = some compiled) :
    after.cache.get? node = some compiled := by
  cases grows with
  | file _ missing _ =>
    rw [Workspace.get?_filed, if_neg]
    · exact cached
    · rintro rfl
      cases missing.symm.trans cached
  | reread => exact cached
  | note => exact cached

theorem keeps_of_grows (grows : ReflTransGen (Grows graph mode) space after)
    (cached : space.cache.get? node = some compiled) : after.cache.get? node = some compiled := by
  induction grows with
  | refl => exact cached
  | tail _ last ih => exact last.keeps ih

theorem moves_of_grows (grows : ReflTransGen (Grows graph mode) space after) :
    ReflTransGen (Moves graph mode) space after :=
  ReflTransGen.mono (fun _ _ step => Moves.grow step) _ _ grows

theorem kept_of_moves {kept : Workspace → Prop}
    (step : ∀ space after, Moves graph mode space after → kept space → kept after)
    (moves : ReflTransGen (Moves graph mode) space after) (holds : kept space) : kept after := by
  induction moves with
  | refl => exact holds
  | tail _ last ih => exact step _ _ last ih

end Workspace

open Workspace (Grows Moves)

variable {graph : Graph} {mode asked : MultipleMode} {space : Workspace} {node : Ref} {compiled : Compiled}

namespace Run

theorem checksFor_grows (uses : space.Uses mode asked) (node : Ref) :
    ReflTransGen (Grows graph mode) space (start (checksFor graph asked node) space).2 := by
  cases found : space.cache.get? node with
  | some compiled => rw [start_checksFor_hit found]
  | none =>
    cases compiles : compileNode graph node with
    | error failure => rw [start_checksFor_fail found compiles]
    | ok checks =>
      rw [start_checksFor_miss found compiles]
      exact .single (.file uses found compiles)

theorem checksFor_cached (handed : (start (checksFor graph asked node) space).1 = .ok compiled) :
    (start (checksFor graph asked node) space).2.cache.get? node = some compiled := by
  cases found : space.cache.get? node with
  | some other =>
    rw [start_checksFor_hit found] at handed ⊢
    cases handed
    exact found
  | none =>
    cases compiles : compileNode graph node with
    | error failure =>
      rw [start_checksFor_fail found compiles] at handed
      cases handed
    | ok checks =>
      rw [start_checksFor_miss found compiles] at handed ⊢
      cases handed
      rw [Workspace.get?_filed, if_pos rfl]

theorem checksFor_compiled (graph : Graph) (mode : MultipleMode) (node : Ref) (space : Workspace) :
    (start (checksFor graph mode node) space).2.compiled = space.compiled := by
  cases found : space.cache.get? node with
  | some compiled => rw [start_checksFor_hit found]
  | none =>
    cases compiles : compileNode graph node with
    | error failure => rw [start_checksFor_fail found compiles]
    | ok checks =>
      rw [start_checksFor_miss found compiles]
      rfl

end Run

section Perform

variable {origin : Nat} {judge : Value → Ref → Run Unit} {prepare : Ref → Run Unit}

/-- Programs that remember nothing grow the workspace as far as the runs they ask for do. -/
theorem Program.perform_grows
    (judges : ∀ value inner space, space.cache.get? node = some compiled →
      ReflTransGen (Grows graph mode) space (Run.start (judge value inner) space).2)
    (prepares : ∀ inner space, space.cache.get? node = some compiled →
      ReflTransGen (Grows graph mode) space (Run.start (prepare inner) space).2)
    {program : Program α} (plain : program.Within .free) (cached : space.cache.get? node = some compiled) :
    ReflTransGen (Grows graph mode) space (Run.start (program.perform origin judge prepare) space).2 := by
  induction program generalizing space with
  | done result => exact .refl
  | fail failure => exact .refl
  | judge value inner next ih =>
    have first := judges value inner space cached
    rw [start_judge]
    cases settle (Run.start (judge value inner) space).1 with
    | error failure => exact first
    | ok answer => exact first.trans (ih answer (plain.2 answer) (Workspace.keeps_of_grows first cached))
  | prepare inner next ih =>
    have first := prepares inner space cached
    rw [start_prepare]
    generalize Run.start (prepare inner) space = ended at first
    obtain ⟨failure | ⟨⟩, after⟩ := ended
    · exact first
    · exact first.trans (ih plain.2 (Workspace.keeps_of_grows first cached))
  | recollect next => exact plain.elim
  | remember memo next => exact plain.elim

theorem Check.perform_grows (asked : MultipleMode) (value : Value)
    (judges : ∀ value inner space, space.cache.get? node = some compiled →
      ReflTransGen (Grows graph mode) space (Run.start (judge value inner) space).2)
    (prepares : ∀ inner space, space.cache.get? node = some compiled →
      ReflTransGen (Grows graph mode) space (Run.start (prepare inner) space).2)
    {check : Check} (member : check ∈ compiled.checks) (cached : space.cache.get? node = some compiled) :
    ReflTransGen (Grows graph mode) space
      (Run.start ((check.run graph asked value node).perform compiled.origin judge prepare) space).2 := by
  cases kind : check.isEnum with
  | false => exact Program.perform_grows judges prepares (Check.run_plain kind value) cached
  | true =>
    cases check with
    | enum memo =>
      simp only [run]
      cases found : graph.field? node "enum" with
      | none => rw [Keyword.start_runEnum_absent found]
      | some current =>
        by_cases same : ((space.memos.get? compiled.origin).getD memo).source = current
        · rw [Keyword.start_runEnum_same found same]
        · rw [Keyword.start_runEnum_other found same]
          exact .single (.reread cached member found same)
    | null | types | const | object | isObject | number | isNumber | text | isText | array | isArray | isBoolean
    | allOf | anyOf | oneOf | not => cases kind

theorem Check.performAll_grows (asked : MultipleMode) (value : Value)
    (judges : ∀ value inner space, space.cache.get? node = some compiled →
      ReflTransGen (Grows graph mode) space (Run.start (judge value inner) space).2)
    (prepares : ∀ inner space, space.cache.get? node = some compiled →
      ReflTransGen (Grows graph mode) space (Run.start (prepare inner) space).2)
    {checks : List Check} (members : ∀ check ∈ checks, check ∈ compiled.checks)
    (cached : space.cache.get? node = some compiled) :
    ReflTransGen (Grows graph mode) space
      (Run.start ((runAll graph asked value node checks).perform compiled.origin judge prepare) space).2 := by
  induction checks generalizing space with
  | nil => exact .refl
  | cons check rest ih =>
    simp only [runAll]
    rw [Program.start_perform_bind]
    have first := check.perform_grows asked value judges prepares (members check (by simp)) cached
    generalize Run.start ((check.run graph asked value node).perform compiled.origin judge prepare) space = ended at first
    obtain ⟨failure | ⟨⟩, after⟩ := ended
    · exact first
    · refine first.trans (ih (fun other later => members other (List.mem_cons_of_mem _ later)) ?_)
      exact Workspace.keeps_of_grows first cached

end Perform

/-- A validation only grows the workspace, whatever has become of the schema. -/
theorem Run.validateAt_grows (fuel : Nat) (uses : space.Uses mode asked) (value : Value) (node : Ref) :
    ReflTransGen (Grows graph mode) space (start (validateAt graph fuel asked value node) space).2 := by
  induction fuel generalizing space asked value node with
  | zero => exact .refl
  | succ fuel ih =>
    simp only [validateAt]
    rw [start_bind]
    have first : ReflTransGen (Grows graph mode) space (start (checksFor graph asked node) space).2 :=
      checksFor_grows uses node
    have caches : ∀ compiled, (start (checksFor graph asked node) space).1 = .ok compiled →
        (start (checksFor graph asked node) space).2.cache.get? node = some compiled :=
      fun compiled => checksFor_cached
    generalize start (checksFor graph asked node) space = ended at first caches
    obtain ⟨failure | compiled, after⟩ := ended
    · exact first
    · apply first.trans
      simp only [judgeNode]
      split
      · exact .refl
      · refine Check.performAll_grows compiled.mode value (fun part inner space held => ?_) (fun inner space held => ?_)
          (fun _ member => member) (caches compiled rfl)
        · exact ih (.inr ⟨node, compiled, held, rfl⟩) part inner
        · rw [start_discard]
          exact checksFor_grows (.inr ⟨node, compiled, held, rfl⟩) inner

def Run.MovesBy (graph : Graph) (mode : MultipleMode) (step : Run α) : Prop :=
  ∀ space, ReflTransGen (Moves graph mode) space (start step space).2

namespace Run.MovesBy

theorem pure (result : α) : MovesBy graph mode (Pure.pure result : Run α) := fun _ => .refl

theorem throw (failure : Failure) : MovesBy graph mode (MonadExcept.throw failure : Run α) := fun _ => .refl

theorem get : MovesBy graph mode (MonadState.get : Run Workspace) := fun _ => .refl

theorem bind {step : Run α} {rest : α → Run β} (first : MovesBy graph mode step)
    (continues : ∀ result, MovesBy graph mode (rest result)) : MovesBy graph mode (step >>= rest) := by
  intro space
  have moved := first space
  rw [start_bind]
  generalize start step space = ended at moved
  obtain ⟨failure | result, after⟩ := ended
  · exact moved
  · exact moved.trans (continues result after)

theorem verdict {step : Run Unit} (moves : MovesBy graph mode step) : MovesBy graph mode (Run.verdict step) := by
  intro space
  rw [start_verdict]
  exact moves space

theorem discard {step : Run α} (moves : MovesBy graph mode step) : MovesBy graph mode (Functor.discard step) := by
  intro space
  rw [start_discard]
  exact moves space

theorem setCompiled (compiled : Bool) : MovesBy graph mode (Run.setCompiled compiled) :=
  fun space => .single (.grow (.note compiled space.log))

theorem clear : MovesBy graph mode Run.clear := fun _ => .single .clear

theorem invalidate (node : Ref) : MovesBy graph mode (Run.invalidate node) := by
  intro space
  rw [start_invalidate]
  split
  · exact .tail (.single (.drop node)) (.grow (.note space.compiled (space.log ++ [.invalidated])))
  · exact .refl

theorem checksFor (node : Ref) : MovesBy graph mode (Run.checksFor graph mode node) :=
  fun _ => Workspace.moves_of_grows (checksFor_grows (.inl rfl) node)

theorem validateAt (fuel : Nat) (value : Value) (node : Ref) :
    MovesBy graph mode (Run.validateAt graph fuel mode value node) :=
  fun _ => Workspace.moves_of_grows (validateAt_grows fuel (.inl rfl) value node)

end Run.MovesBy

namespace Validator

open Run (start MovesBy)

variable {validator : Validator} {written rest : List Ref} {checks : List Check} {failure : Failure}

theorem start_compileNodes_hit (cached : space.cache.get? node = some compiled) :
    start (validator.compileNodes graph written (node :: rest)) space =
      start (validator.compileNodes graph written rest) space := by
  simp [compileNodes, cached]

theorem start_compileNodes_miss (missing : space.cache.get? node = none)
    (compiles : compileNode graph node = .ok checks) :
    start (validator.compileNodes graph written (node :: rest)) space =
      start (validator.compileNodes graph (written ++ [node]) rest) (space.filed graph validator.mode node checks) := by
  simp [compileNodes, missing, Run.start_compileFresh_ok compiles]
  rfl

theorem start_undo (written : List Ref) (space : Workspace) : (start (undo written) space).1 = .ok () := by
  induction written generalizing space with
  | nil => rfl
  | cons node rest ih =>
    rw [start_undo_cons]
    exact ih _

theorem start_compileNodes_fail (missing : space.cache.get? node = none)
    (fails : compileNode graph node = .error failure) :
    start (validator.compileNodes graph written (node :: rest)) space =
      (.error failure, if failure.isDefect then (start (undo written) space).2 else space) := by
  have undone : start (undo written) space = (.ok (), (start (undo written) space).2) := Prod.ext (start_undo written space) rfl
  by_cases defect : failure.isDefect = true
  · simp [compileNodes, missing, Run.start_compileFresh_error fails, defect, Run.start_bind_ok undone]
  · simp [compileNodes, missing, Run.start_compileFresh_error fails, defect]

theorem undo_moves (written : List Ref) : MovesBy graph mode (undo written) := by
  induction written with
  | nil => exact .pure ()
  | cons node rest ih => exact .bind (.discard (.invalidate node)) fun _ => ih

theorem compileNodes_moves (nodes written : List Ref) :
    MovesBy graph validator.mode (validator.compileNodes graph written nodes) := by
  induction nodes generalizing written with
  | nil => exact .pure ()
  | cons node rest ih =>
    intro space
    cases found : space.cache.get? node with
    | some compiled =>
      rw [start_compileNodes_hit found]
      exact ih written space
    | none =>
      cases compiles : compileNode graph node with
      | ok checks =>
        rw [start_compileNodes_miss found compiles]
        exact .head (.grow (.file (.inl rfl) found compiles)) (ih _ _)
      | error failure =>
        rw [start_compileNodes_fail found compiles]
        simp only []
        split
        · exact undo_moves written space
        · exact .refl

theorem compile_moves : MovesBy graph validator.mode (validator.compile graph) :=
  .bind (compileNodes_moves _ _) fun _ => .bind (.setCompiled true) fun _ => .checksFor _

theorem recompileAll_moves : MovesBy graph validator.mode (validator.recompileAll graph) :=
  .bind .clear fun _ => .bind (.setCompiled false) fun _ => compile_moves

theorem recompile_moves (node : Ref) : MovesBy graph validator.mode (validator.recompile graph node) :=
  .bind (.discard (.invalidate node)) fun _ => .bind (compileNodes_moves _ _) fun _ => .checksFor node

theorem validate_moves (value : Value) : MovesBy graph validator.mode (validator.validate graph value) := by
  apply Run.MovesBy.bind .get
  intro space
  have whole : MovesBy graph validator.mode
      (Run.validateAt graph (graph.budget value) validator.mode value validator.schema) := .validateAt _ _ _
  split
  · exact whole
  · exact .bind (.discard compile_moves) fun _ => whole

theorem check_moves (value : Value) : MovesBy graph validator.mode (validator.check graph value) := .verdict (validate_moves value)

theorem isValid_moves (value : Value) : MovesBy graph validator.mode (validator.isValid graph value) :=
  .bind (check_moves value) fun _ => .pure _

/-- A compilation that succeeds only adds, and leaves every node cached. -/
theorem compileNodes_ok {nodes written : List Ref}
    (ended : (start (validator.compileNodes graph written nodes) space).1 = .ok ()) :
    ReflTransGen (Grows graph validator.mode) space (start (validator.compileNodes graph written nodes) space).2 ∧
      ∀ node ∈ nodes, ∃ compiled,
        (start (validator.compileNodes graph written nodes) space).2.cache.get? node = some compiled := by
  induction nodes generalizing written space with
  | nil => exact ⟨.refl, by simp⟩
  | cons node rest ih =>
    cases found : space.cache.get? node with
    | some compiled =>
      rw [start_compileNodes_hit found] at ended ⊢
      obtain ⟨grows, caches⟩ := ih ended
      refine ⟨grows, ?_⟩
      intro other member
      rcases List.mem_cons.mp member with rfl | later
      · exact ⟨compiled, Workspace.keeps_of_grows grows found⟩
      · exact caches other later
    | none =>
      cases compiles : compileNode graph node with
      | error failure =>
        rw [start_compileNodes_fail found compiles] at ended
        cases ended
      | ok checks =>
        rw [start_compileNodes_miss found compiles] at ended ⊢
        obtain ⟨grows, caches⟩ := ih ended
        refine ⟨.head (.file (.inl rfl) found compiles) grows, ?_⟩
        intro other member
        rcases List.mem_cons.mp member with rfl | later
        · exact ⟨_, Workspace.keeps_of_grows grows ((Workspace.get?_filed checks other).trans (if_pos rfl))⟩
        · exact caches other later

/-- After an eager compilation every schema that can be reached is cached. -/
theorem compile_ok {list : Compiled} {after : Workspace} (ended : start (validator.compile graph) space = (.ok list, after))
    (eager : validator.settings.isEager = true) :
    after.compiled = true ∧ ∀ node ∈ graph.preorder validator.schema, ∃ compiled, after.cache.get? node = some compiled := by
  have caches : (start (validator.compileFrom graph validator.schema) space).1 = .ok () →
      ∀ node ∈ graph.preorder validator.schema, ∃ compiled,
        (start (validator.compileFrom graph validator.schema) space).2.cache.get? node = some compiled := by
    intro ended
    simp only [compileFrom, if_pos eager] at ended ⊢
    exact (compileNodes_ok ended).2
  rw [compile, Run.start_bind] at ended
  generalize start (validator.compileFrom graph validator.schema) space = first at ended caches
  obtain ⟨failure | ⟨⟩, middle⟩ := first
  · cases ended
  simp only [] at ended
  rw [Run.start_bind_ok (Run.start_setCompiled true)] at ended
  have grows : ReflTransGen (Grows graph validator.mode) { middle with compiled := true }
      (start (validator.checksFor graph validator.schema) { middle with compiled := true }).2 :=
    Run.checksFor_grows (.inl rfl) validator.schema
  rw [ended] at grows
  refine ⟨?_, fun node member => ?_⟩
  · have same := Run.checksFor_compiled graph validator.mode validator.schema { middle with compiled := true }
    exact (congrArg (fun ended => ended.2.compiled) ended).symm.trans same
  · obtain ⟨compiled, cached⟩ := caches rfl node member
    exact ⟨compiled, Workspace.keeps_of_grows grows cached⟩

end Validator

inductive Task where
  | compile
  | checksFor (node : Ref)
  | recompile (node : Ref)
  | recompileAll
  | validate (value : Value)
  | check (value : Value)
  | isValid (value : Value)
  | invalidate (node : Ref)
  | clear

namespace Validator

open Run (start MovesBy)

def perform (validator : Validator) (graph : Graph) : Task → Run Unit
  | .compile => discard (validator.compile graph)
  | .checksFor node => discard (validator.checksFor graph node)
  | .recompile node => discard (validator.recompile graph node)
  | .recompileAll => discard (validator.recompileAll graph)
  | .validate value => validator.validate graph value
  | .check value => discard (validator.check graph value)
  | .isValid value => discard (validator.isValid graph value)
  | .invalidate node => discard (Run.invalidate node)
  | .clear => Run.clear

/-- The workspace after some tasks, however they ended. -/
def work (validator : Validator) (graph : Graph) (tasks : List Task) (space : Workspace) : Workspace :=
  tasks.foldl (fun space task => (start (validator.perform graph task) space).2) space

theorem perform_moves (validator : Validator) (graph : Graph) (task : Task) :
    MovesBy graph validator.mode (validator.perform graph task) := by
  cases task with
  | compile => exact .discard compile_moves
  | checksFor node => exact .discard (.checksFor node)
  | recompile node => exact .discard (recompile_moves node)
  | recompileAll => exact .discard recompileAll_moves
  | validate value => exact validate_moves value
  | check value => exact .discard (check_moves value)
  | isValid value => exact .discard (isValid_moves value)
  | invalidate node => exact .discard (.invalidate node)
  | clear => exact .clear

theorem work_moves (validator : Validator) (graph : Graph) (tasks : List Task) (space : Workspace) :
    ReflTransGen (Moves graph validator.mode) space (validator.work graph tasks space) := by
  induction tasks generalizing space with
  | nil => exact .refl
  | cons task rest ih => exact (perform_moves validator graph task space).trans (ih _)

end Validator
end LiveSchema
