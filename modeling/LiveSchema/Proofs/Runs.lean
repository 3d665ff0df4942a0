import LiveSchema.Evaluation
import LiveSchema.Validator
import LiveSchema.Proofs.CacheLaws

/-! How runs end and what they leave behind. Every operation of a workspace has
one equation here, so later proofs never look inside the monad of runs. -/

namespace LiveSchema.Run

variable {α β : Type} {space : Workspace}

@[simp]
theorem start_bind (step : Run α) (rest : α → Run β) :
    start (step >>= rest) space =
      match start step space with
      | (.ok result, after) => start (rest result) after
      | (.error failure, after) => (.error failure, after) := by
  change (ExceptT.bindCont rest (start step space).1).run (start step space).2 = _
  rcases start step space with ⟨result | result, after⟩ <;> rfl

theorem start_bind_ok {step : Run α} {rest : α → Run β} {result : α} {after : Workspace}
    (first : start step space = (.ok result, after)) :
    start (step >>= rest) space = start (rest result) after := by
  rw [start_bind, first]

theorem start_bind_error {step : Run α} {rest : α → Run β} {failure : Failure} {after : Workspace}
    (first : start step space = (.error failure, after)) :
    start (step >>= rest) space = (.error failure, after) := by
  rw [start_bind, first]

@[simp]
theorem start_pure (result : α) : start (pure result) space = (.ok result, space) := rfl

@[simp]
theorem start_throw (failure : Failure) : start (throw failure : Run α) space = (.error failure, space) := rfl

@[simp]
theorem start_get : start get space = (.ok space, space) := rfl

@[simp]
theorem start_modify (change : Workspace → Workspace) :
    start (modify change) space = (.ok (), change space) := rfl

@[simp]
theorem start_attempt (step : Run α) :
    start (attempt step) space = (.ok (start step space).1, (start step space).2) := rfl

@[simp]
theorem start_discard (step : Run α) :
    start (discard step) space = ((start step space).1.map fun _ => (), (start step space).2) := by
  change start (step >>= fun _ => pure ()) space = _
  rw [start_bind]
  rcases start step space with ⟨result | result, after⟩ <;> rfl

@[simp]
theorem start_cached? (node : Ref) : start (cached? node) space = (.ok (space.cache.get? node), space) := rfl

@[simp]
theorem start_store (node : Ref) (compiled : Compiled) :
    start (store node compiled) space = (.ok (), { space with cache := space.cache.set node compiled }) := rfl

@[simp]
theorem start_clear : start clear space = (.ok (), { space with cache := .empty }) := rfl

@[simp]
theorem start_setCompiled (compiled : Bool) :
    start (setCompiled compiled) space = (.ok (), { space with compiled }) := rfl

theorem start_invalidate (node : Ref) :
    start (invalidate node) space =
      if space.cache.contains node then
        (.ok true, { space with cache := space.cache.erase node, log := space.log ++ [.invalidated] })
      else (.ok false, space) := by
  simp only [invalidate, start_bind, start_get]
  split <;> rfl

end LiveSchema.Run

namespace LiveSchema

open Run

def Graph.compileLog (graph : Graph) (node : Ref) (checks : List Check) : List LogEntry :=
  if (graph.shape node).isObject then [.compiled checks.length (typeToldOf graph node)] else []

def Workspace.numbered (space : Workspace) (log : List LogEntry) : Workspace :=
  { space with fresh := space.fresh + 1, log := space.log ++ log }

def Workspace.filed (space : Workspace) (graph : Graph) (mode : MultipleMode) (node : Ref)
    (checks : List Check) : Workspace :=
  { space.numbered (graph.compileLog node checks) with
    cache := space.cache.set node ⟨space.fresh, space.fresh, mode, checks⟩ }

/-- A workspace in which the array an `enum` check looked at was just noted. -/
def Workspace.noting (space : Workspace) (origin : Nat) (memo : Memo) : Workspace :=
  { space with memos := space.memos.set origin memo }

/-- A workspace that has forgotten a node. Only an entry that was there is logged. -/
def Workspace.dropping (space : Workspace) (node : Ref) : Workspace :=
  if space.cache.contains node then
    { space with cache := space.cache.erase node, log := space.log ++ [.invalidated] }
  else space

variable {graph : Graph} {mode : MultipleMode} {node : Ref} {space : Workspace}

theorem Run.start_drop (node : Ref) : start (discard (invalidate node)) space = (.ok (), space.dropping node) := by
  rw [start_discard, start_invalidate, Workspace.dropping]
  split <;> rfl

theorem Validator.start_undo_cons (node : Ref) (rest : List Ref) :
    start (undo (node :: rest)) space = start (undo rest) (space.dropping node) := by
  rw [undo, start_bind_ok (start_drop node)]

theorem Validator.start_validate_compiled {validator : Validator} (flag : space.compiled = true) (value : Value) :
    start (validator.validate graph value) space =
      start (Run.validateAt graph (graph.budget value) validator.mode value validator.schema) space := by
  simp [validate, flag]

theorem Workspace.get?_filed (checks : List Check) (other : Ref) :
    (space.filed graph mode node checks).cache.get? other =
      if node = other then some ⟨space.fresh, space.fresh, mode, checks⟩ else space.cache.get? other :=
  Cache.get?_set _ _ _ _

theorem Run.start_compileFresh_ok {checks : List Check} (compiles : compileNode graph node = .ok checks) :
    start (compileFresh graph mode node) space =
      (.ok ⟨space.fresh, space.fresh, mode, checks⟩, space.numbered (graph.compileLog node checks)) := by
  simp only [compileFresh, compiles, Workspace.numbered, Graph.compileLog]
  split
  · rfl
  · simp only [List.append_nil]
    rfl

theorem Run.start_compileFresh_error {failure : Failure} (fails : compileNode graph node = .error failure) :
    start (compileFresh graph mode node) space = (.error failure, space) := by
  simp [compileFresh, fails]

theorem Run.start_checksFor_hit {compiled : Compiled} (hit : space.cache.get? node = some compiled) :
    start (checksFor graph mode node) space = (.ok compiled, space) := by
  simp [checksFor, hit]

theorem Run.start_checksFor_miss {checks : List Check} (missing : space.cache.get? node = none)
    (compiles : compileNode graph node = .ok checks) :
    start (checksFor graph mode node) space =
      (.ok ⟨space.fresh, space.fresh, mode, checks⟩, space.filed graph mode node checks) := by
  simp [checksFor, missing, start_compileFresh_ok compiles, Workspace.filed]
  rfl

theorem Run.start_checksFor_fail {failure : Failure} (missing : space.cache.get? node = none)
    (fails : compileNode graph node = .error failure) :
    start (checksFor graph mode node) space = (.error failure, space) := by
  simp [checksFor, missing, start_compileFresh_error fails]

end LiveSchema
