import LiveSchema.Proofs.LibraryEdits
import LiveSchema.Proofs.TrackedCache

/-! Recompiling resynchronises. A list goes out of step only when the own contents
of its node are edited. Compiling a node anew drops the list it had, and lists
that are missing are made from what is there, so once all nodes with stale lists
were compiled anew the cache is as good as an empty one. -/

namespace LiveSchema

open Relation (ReflTransGen)
open Run (start)
open Workspace (Moves Synced upkeep_synced)

variable {graph before after : Graph} {validator : Validator} {stale : Nat → Prop} {space : Workspace}

/-- What an edit does to a list: it touches something its node owns. -/
def Workspace.Struck (space : Workspace) (before after : Graph) (identity : Nat) : Prop :=
  ∃ node compiled, space.cache.get? node = some compiled ∧ compiled.identity = identity ∧
    ∃ ref, before.Owns node ref ∧ after.shape ref ≠ before.shape ref

namespace Validator

/-- A validator with a cache of its own, worked with while its schema is edited.
`stale` marks the lists whose nodes were edited since they were compiled. -/
inductive History (validator : Validator) : Graph → Workspace → (stale : Nat → Prop) → Prop
  | start {graph : Graph} (closed : graph.Closed) : History validator graph .empty fun _ => False
  | work {graph : Graph} {space : Workspace} {stale : Nat → Prop} (earlier : History validator graph space stale)
      (tasks : List Task) : History validator graph (validator.work graph tasks space) stale
  | edit {before after : Graph} {space : Workspace} {stale : Nat → Prop} (earlier : History validator before space stale)
      (edited : before.Edited after) :
      History validator after space fun identity => stale identity ∨ space.Struck before after identity

/-- An edit makes stale what it strikes; all else stays in step. -/
theorem synced_of_edit (closed : before.Closed) (edited : before.Edited after)
    (synced : Synced before validator.mode stale space) :
    Synced after validator.mode (fun identity => stale identity ∨ space.Struck before after identity) space := by
  refine ⟨synced.distinct, ?_, synced.modes, synced.origins, ?_, ?_⟩
  · intro identity marked
    rcases marked with old | ⟨node, compiled, cached, rfl, _⟩
    · exact synced.bounded identity old
    · exact (synced.origins node compiled cached).2
  · intro node compiled cached unmarked
    have compiles := synced.lists node compiled cached fun old => unmarked (.inl old)
    refine compileNode_kept ⟨edited, closed, fun ref owned => ?_⟩ compiles
    by_cases same : after.shape ref = before.shape ref
    · exact same
    · exact absurd (.inr ⟨node, compiled, cached, rfl, ref, owned, same⟩) unmarked
  · exact fun identity memo unmarked => synced.memos identity memo fun old => unmarked (.inl old)

theorem History.synced (history : History validator graph space stale) :
    graph.Closed ∧ Synced graph validator.mode stale space := by
  induction history with
  | start closed => exact ⟨closed, Workspace.tracked_empty _ _ _⟩
  | work _ tasks ih =>
    exact ⟨ih.1, ih.2.moves (upkeep_synced _ _) (work_moves validator _ tasks _)⟩
  | edit _ edited ih => exact ⟨edited.closed, synced_of_edit ih.1 edited ih.2⟩

/-- Whatever list a node has after it was compiled anew, it is a new one. -/
theorem current_of_recompile (synced : Synced graph validator.mode stale space) (node : Ref) :
    ∀ compiled, (start (validator.recompile graph node) space).2.cache.get? node = some compiled →
      ¬ stale compiled.identity := by
  have dropped : ∃ middle, start (discard (Run.invalidate node)) space = (.ok (), middle) ∧
      middle.cache.get? node = none := by
    rw [Run.start_drop, Workspace.dropping]
    cases found : space.cache.get? node with
    | none =>
      rw [if_neg (by simp [Cache.contains_iff, found])]
      exact ⟨space, rfl, found⟩
    | some compiled =>
      rw [if_pos ((Cache.contains_iff _ _).mpr ⟨compiled, found⟩)]
      exact ⟨_, rfl, (Cache.get?_erase synced.distinct node node).trans (if_pos rfl)⟩
  obtain ⟨middle, ended, missing⟩ := dropped
  have first : ReflTransGen (Moves graph validator.mode) space (start (discard (Run.invalidate node)) space).2 :=
    Run.MovesBy.discard (.invalidate node) space
  have rest : Run.MovesBy graph validator.mode (do
      validator.compileFrom graph node
      validator.checksFor graph node) :=
    .bind (compileNodes_moves _ _) fun _ => .checksFor node
  rw [ended] at first
  rw [recompile, Run.start_bind_ok ended]
  apply Workspace.current_moves (upkeep_synced graph validator.mode) (rest middle) (synced.moves (upkeep_synced _ _) first)
  intro compiled cached
  cases missing.symm.trans cached

theorem current_of_recompileAll (synced : Synced graph validator.mode stale space) (node : Ref) :
    ∀ compiled, (start (validator.recompileAll graph) space).2.cache.get? node = some compiled →
      ¬ stale compiled.identity := by
  have rest : Run.MovesBy graph validator.mode (do
      Run.setCompiled false
      validator.compile graph) :=
    .bind (.setCompiled false) fun _ => compile_moves
  rw [recompileAll, Run.start_bind_ok Run.start_clear]
  apply Workspace.current_moves (upkeep_synced graph validator.mode) (rest _)
    (synced.moves (upkeep_synced _ _) (.single .clear))
  intro compiled cached
  cases cached

/-- The tasks compile a node anew, by itself or with everything else. -/
def Renews (tasks : List Task) (node : Ref) : Prop := .recompileAll ∈ tasks ∨ .recompile node ∈ tasks

theorem current_of_work {tasks : List Task} (synced : Synced graph validator.mode stale space)
    (renewed : ∀ node compiled, space.cache.get? node = some compiled → stale compiled.identity → Renews tasks node)
    (node : Ref) : ∀ compiled, (validator.work graph tasks space).cache.get? node = some compiled →
      ¬ stale compiled.identity := by
  induction tasks generalizing space with
  | nil =>
    intro compiled cached marked
    rcases renewed node compiled cached marked with impossible | impossible <;> cases impossible
  | cons task rest ih =>
    have moves := perform_moves validator graph task space
    apply ih (synced.moves (upkeep_synced _ _) moves)
    intro other compiled cached marked
    by_cases left : ∃ old, space.cache.get? other = some old ∧ stale old.identity
    · obtain ⟨old, found, marked_old⟩ := left
      rcases renewed other old found marked_old with all | one
      · rcases List.mem_cons.mp all with rfl | later
        · simp only [perform, Run.start_discard] at cached
          exact absurd marked (current_of_recompileAll synced other compiled cached)
        · exact .inl later
      · rcases List.mem_cons.mp one with rfl | later
        · simp only [perform, Run.start_discard] at cached
          exact absurd marked (current_of_recompile synced other compiled cached)
        · exact .inr later
    · refine absurd marked (Workspace.current_moves (upkeep_synced _ _) moves synced ?_ compiled cached)
      intro old found marked_old
      exact left ⟨old, found, marked_old⟩

/-- After any history, once every node whose list is stale was compiled anew, one
by one in any order or all at once, a validation ends as on a new validator. -/
theorem recompile_resynchronizes (history : validator.History graph space stale)
    (compiles : graph.Compiles validator.schema) (nodes : List Ref)
    (covers : ∀ node compiled, space.cache.get? node = some compiled → stale compiled.identity → node ∈ nodes)
    (tasks : List Task) (renews : ∀ node ∈ nodes, Renews tasks node) (value : Value) :
    (start (validator.validate graph value) (validator.work graph tasks space)).1 =
      (start (validator.validate graph value) .empty).1 := by
  obtain ⟨_, synced⟩ := history.synced
  have kept := synced.moves (upkeep_synced graph validator.mode) (work_moves validator graph tasks space)
  have current := current_of_work synced fun node compiled cached marked =>
    renews node (covers node compiled cached marked)
  have outcome := validate_ends (upkeep_synced graph validator.mode) (Workspace.answers_synced _ _ _) compiles value _
    ⟨kept, fun node _ => current node⟩
  rw [outcome.1, validate_empty graph compiles value]

/-- The objects of the chain have become arrays. -/
def arrayChain : Graph :=
  ⟨#[.object [(.text "type", .node 3), (.text "properties", .node 2)], .text "object",
    .object [(.text "next", .node 0)], .text "array"]⟩

/-- A validation before its type is set; then the node is compiled anew. -/
theorem recompile_resynchronizes_chain :
    Library.set ⟨chainGraph, [("chain", .node 0)]⟩ [.text "chain", .text "type"] (.text "array") =
      .ok ⟨arrayChain, [("chain", .node 0)]⟩ ∧
    (start (Validator.validate ⟨.node 0, .standard⟩ arrayChain brokenChain)
      (Validator.work ⟨.node 0, .standard⟩ arrayChain [.recompile (.node 0)]
        (Validator.work ⟨.node 0, .standard⟩ chainGraph [.validate brokenChain] .empty))).1 =
      .error (.violation .notArray) := by
  have renamed : Library.set ⟨chainGraph, [("chain", .node 0)]⟩ [.text "chain", .text "type"] (.text "array") =
      .ok ⟨arrayChain, [("chain", .node 0)]⟩ := rfl
  have closed : chainGraph.Closed := Graph.closed_of_nodes (by decide)
  have edits := Library.set_edits ⟨closed, by decide⟩ renamed
  have started : History ⟨.node 0, .standard⟩ chainGraph .empty fun _ => False := .start closed
  have history := (started.work [.validate brokenChain]).edit edits.edited
  have compiles : arrayChain.Compiles (.node 0) := by
    rw [Graph.compiles_iff, show arrayChain.preorder (.node 0) = [.node 0] from by decide, List.forall_mem_singleton]
    exact ⟨_, rfl⟩
  refine ⟨renamed, ?_⟩
  rw [recompile_resynchronizes history compiles [.node 0] ?_ [.recompile (.node 0)] ?_ brokenChain]
  · rfl
  · intro node compiled cached _
    have nodes : (Validator.work ⟨.node 0, .standard⟩ chainGraph [.validate brokenChain] .empty).cache.nodes =
        [.node 0] := rfl
    rw [← nodes]
    exact Cache.mem_nodes_of_get? cached
  · intro node member
    exact .inr (by simpa using List.mem_singleton.mp member)

end Validator
end LiveSchema
