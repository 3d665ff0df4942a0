import LiveSchema.Proofs.Reachability
import LiveSchema.Proofs.Simulation
import LiveSchema.Proofs.WorkspaceMoves

/-! The invariant of a cache. Some lists may be stale, for whatever reason; every
other one is right for its node, and what was remembered under its identity is
known to hold. Every operation keeps the invariant if new lists are right and
`enum` checks take note of nothing that is not known. -/

namespace LiveSchema

open Relation (ReflTransGen)
open Run (start)

namespace Workspace

structure Tracked (mode : MultipleMode) (stale : Nat → Prop) (right : Ref → Compiled → Prop) (known : Memo → Prop)
    (space : Workspace) : Prop where
  distinct : space.cache.Distinct
  bounded : ∀ identity, stale identity → identity < space.fresh
  modes : ∀ node compiled, space.cache.get? node = some compiled → compiled.mode = mode
  origins : ∀ node compiled, space.cache.get? node = some compiled →
    compiled.origin = compiled.identity ∧ compiled.identity < space.fresh
  lists : ∀ node compiled, space.cache.get? node = some compiled → ¬ stale compiled.identity → right node compiled
  memos : ∀ identity memo, ¬ stale identity → space.memos.get? identity = some memo → known memo

/-- New lists are right, and right lists only take note of what is known. -/
structure Upkeep (graph : Graph) (mode : MultipleMode) (right : Ref → Compiled → Prop) (known : Memo → Prop) : Prop where
  files : ∀ node checks identity, compileNode graph node = .ok checks → right node ⟨identity, identity, mode, checks⟩
  notes : ∀ node compiled memo remembered current, right node compiled → .enum memo ∈ compiled.checks →
    remembered = memo ∨ known remembered → graph.field? node "enum" = some current → remembered.source ≠ current →
    known (Keyword.noted graph remembered current)

/-- As long as nothing but what is known is in memory, right lists of a region answer like new ones. -/
def Answers (graph : Graph) (mode : MultipleMode) (right : Ref → Compiled → Prop) (known : Memo → Prop)
    (region : Ref → Prop) : Prop :=
  ∀ node compiled checks, region node → right node compiled → compileNode graph node = .ok checks →
    ∀ kept : Workspace → Prop,
      (∀ space memo, kept space → space.memos.get? compiled.origin = some memo → known memo) →
      (∀ space memo, kept space → known memo → kept (space.noting compiled.origin memo)) →
      List.Forall₂ (Check.Agrees kept graph mode node compiled.origin) compiled.checks checks

/-- None of the nodes in a region has a stale list. -/
structure Sound (mode : MultipleMode) (stale : Nat → Prop) (right : Ref → Compiled → Prop) (known : Memo → Prop)
    (region : Ref → Prop) (space : Workspace) : Prop where
  tracked : Tracked mode stale right known space
  current : ∀ node, region node → ∀ compiled, space.cache.get? node = some compiled → ¬ stale compiled.identity

variable {graph : Graph} {mode : MultipleMode} {stale : Nat → Prop} {right : Ref → Compiled → Prop}
  {known : Memo → Prop} {region : Ref → Prop} {space after : Workspace} {node : Ref} {compiled : Compiled}

theorem tracked_empty (mode : MultipleMode) (right : Ref → Compiled → Prop) (known : Memo → Prop) :
    Tracked mode (fun _ => False) right known empty where
  distinct := Cache.distinct_empty
  bounded := fun _ impossible => impossible.elim
  modes := fun _ _ cached => nomatch cached
  origins := fun _ _ cached => nomatch cached
  lists := fun _ _ cached => nomatch cached
  memos := fun _ _ _ found => nomatch found

/-- Caches that were numbered in one row can be exchanged. -/
theorem Tracked.exchange {other : Workspace} (tracked : Tracked mode stale right known space)
    (others : Tracked mode stale right known other) (later : other.fresh ≤ space.fresh) :
    Tracked mode stale right known { space with cache := other.cache } where
  distinct := others.distinct
  bounded := tracked.bounded
  modes := others.modes
  origins := by
    intro node compiled cached
    obtain ⟨origin, below⟩ := others.origins node compiled cached
    exact ⟨origin, Nat.lt_of_lt_of_le below later⟩
  lists := others.lists
  memos := tracked.memos

theorem cached_of_filed {asked : MultipleMode} {checks : List Check} {other : Ref}
    (cached : (space.filed graph asked node checks).cache.get? other = some compiled) :
    (node = other ∧ compiled = ⟨space.fresh, space.fresh, asked, checks⟩) ∨ space.cache.get? other = some compiled := by
  rw [get?_filed] at cached
  split at cached
  next equal => exact .inl ⟨equal, (Option.some.inj cached).symm⟩
  next => exact .inr cached

private theorem Tracked.file {asked : MultipleMode} {checks : List Check} (upkeep : Upkeep graph mode right known)
    (tracked : Tracked mode stale right known space) (uses : space.Uses mode asked)
    (compiles : compileNode graph node = .ok checks) :
    Tracked mode stale right known (space.filed graph asked node checks) := by
  have same : asked = mode := by
    rcases uses with same | ⟨other, list, cached, used⟩
    · exact same
    · exact used.symm.trans (tracked.modes other list cached)
  subst asked
  refine ⟨tracked.distinct.set node _, fun identity marked => ?_, ?_, ?_, ?_, tracked.memos⟩
  · exact Nat.lt_succ_of_lt (tracked.bounded identity marked)
  · intro other list cached
    rcases cached_of_filed cached with ⟨_, rfl⟩ | old
    · rfl
    · exact tracked.modes other list old
  · intro other list cached
    rcases cached_of_filed cached with ⟨_, rfl⟩ | old
    · exact ⟨rfl, Nat.lt_succ_self _⟩
    · obtain ⟨origin, below⟩ := tracked.origins other list old
      exact ⟨origin, Nat.lt_succ_of_lt below⟩
  · intro other list cached unmarked
    rcases cached_of_filed cached with ⟨rfl, rfl⟩ | old
    · exact upkeep.files node checks space.fresh compiles
    · exact tracked.lists other list old unmarked

private theorem Tracked.fewer {cache : Cache} (tracked : Tracked mode stale right known space) (distinct : cache.Distinct)
    (fewer : ∀ node compiled, cache.get? node = some compiled → space.cache.get? node = some compiled) :
    Tracked mode stale right known { space with cache } where
  distinct := distinct
  bounded := tracked.bounded
  modes := fun node compiled cached => tracked.modes node compiled (fewer node compiled cached)
  origins := fun node compiled cached => tracked.origins node compiled (fewer node compiled cached)
  lists := fun node compiled cached => tracked.lists node compiled (fewer node compiled cached)
  memos := tracked.memos

theorem Tracked.noting (tracked : Tracked mode stale right known space) (origin : Nat) {memo : Memo} (holds : known memo) :
    Tracked mode stale right known (space.noting origin memo) := by
  refine ⟨tracked.distinct, tracked.bounded, tracked.modes, tracked.origins, tracked.lists, ?_⟩
  intro identity other unmarked found
  rcases Table.get?_set_eq_some.mp found with ⟨-, rfl⟩ | ⟨-, found⟩
  · exact holds
  · exact tracked.memos identity other unmarked found

private theorem Tracked.note {current : Ref} {memo : Memo} (upkeep : Upkeep graph mode right known)
    (tracked : Tracked mode stale right known space) (cached : space.cache.get? node = some compiled)
    (checked : .enum memo ∈ compiled.checks) (found : graph.field? node "enum" = some current)
    (other : ((space.memos.get? compiled.origin).getD memo).source ≠ current) :
    Tracked mode stale right known
      (space.noting compiled.origin (Keyword.noted graph ((space.memos.get? compiled.origin).getD memo) current)) := by
  refine ⟨tracked.distinct, tracked.bounded, tracked.modes, tracked.origins, tracked.lists, ?_⟩
  intro identity noted unmarked found_memo
  rcases Table.get?_set_eq_some.mp found_memo with ⟨same, rfl⟩ | ⟨-, found_memo⟩
  · have unmarked : ¬ stale compiled.identity := by rwa [← (tracked.origins node compiled cached).1, same]
    apply upkeep.notes node compiled memo _ current (tracked.lists node compiled cached unmarked) checked _ found other
    cases remembered : space.memos.get? compiled.origin with
    | none => exact .inl rfl
    | some memo =>
      rw [(tracked.origins node compiled cached).1] at remembered
      exact .inr (tracked.memos _ memo unmarked remembered)
  · exact tracked.memos identity noted unmarked found_memo

theorem Tracked.move (upkeep : Upkeep graph mode right known) (moves : Moves graph mode space after)
    (tracked : Tracked mode stale right known space) : Tracked mode stale right known after := by
  cases moves with
  | drop node => exact tracked.fewer (tracked.distinct.erase node) fun _ _ => Cache.get?_of_erase tracked.distinct
  | clear => exact tracked.fewer Cache.distinct_empty fun _ _ cached => nomatch cached
  | grow grows =>
    cases grows with
    | file uses _ compiles => exact tracked.file upkeep uses compiles
    | note compiled log =>
      exact ⟨tracked.distinct, tracked.bounded, tracked.modes, tracked.origins, tracked.lists, tracked.memos⟩
    | reread cached checked found other => exact tracked.note upkeep cached checked found other

theorem Tracked.moves (upkeep : Upkeep graph mode right known) (moves : ReflTransGen (Moves graph mode) space after)
    (tracked : Tracked mode stale right known space) : Tracked mode stale right known after :=
  kept_of_moves (fun _ _ => Tracked.move upkeep) moves tracked

theorem fresh_le_of_moves (moves : ReflTransGen (Moves graph mode) space after) : space.fresh ≤ after.fresh := by
  induction moves with
  | refl => exact Nat.le_refl _
  | tail _ last ih =>
    cases last with
    | drop | clear => exact ih
    | grow grows =>
      cases grows with
      | file => exact Nat.le_succ_of_le ih
      | reread => exact ih
      | note => exact ih

/-- New lists are not stale, so a node whose list is not stale stays so. -/
theorem current_move (moves : Moves graph mode space after)
    (tracked : Tracked mode stale right known space)
    (current : ∀ compiled, space.cache.get? node = some compiled → ¬ stale compiled.identity) :
    ∀ compiled, after.cache.get? node = some compiled → ¬ stale compiled.identity := by
  cases moves with
  | drop other => exact fun compiled cached => current compiled (Cache.get?_of_erase tracked.distinct cached)
  | clear => exact fun compiled cached => nomatch cached
  | grow grows =>
    cases grows with
    | reread => exact current
    | note => exact current
    | file =>
      intro compiled cached
      rcases cached_of_filed cached with ⟨_, rfl⟩ | old
      · exact fun marked => Nat.lt_irrefl _ (tracked.bounded _ marked)
      · exact current compiled old

theorem current_moves (upkeep : Upkeep graph mode right known) (moves : ReflTransGen (Moves graph mode) space after)
    (tracked : Tracked mode stale right known space)
    (current : ∀ compiled, space.cache.get? node = some compiled → ¬ stale compiled.identity) :
    ∀ compiled, after.cache.get? node = some compiled → ¬ stale compiled.identity := by
  induction moves with
  | refl => exact current
  | tail earlier last ih => exact current_move last (tracked.moves upkeep earlier) ih

theorem Sound.moves (upkeep : Upkeep graph mode right known) (moves : ReflTransGen (Moves graph mode) space after)
    (sound : Sound mode stale right known region space) : Sound mode stale right known region after :=
  ⟨sound.tracked.moves upkeep moves, fun node inside => current_moves upkeep moves sound.tracked (sound.current node inside)⟩

/-- Nothing was remembered, and every list that is not stale is what its node compiles to. -/
abbrev Synced (graph : Graph) (mode : MultipleMode) (stale : Nat → Prop) : Workspace → Prop :=
  Tracked mode stale (fun node compiled => compileNode graph node = .ok compiled.checks) fun _ => False

theorem Synced.clean (synced : Synced graph mode stale space) {identity : Nat} (unmarked : ¬ stale identity) :
    space.memos.get? identity = none := by
  cases found : space.memos.get? identity with
  | none => rfl
  | some memo => exact (synced.memos identity memo unmarked found).elim

/-- A list that was compiled from what is there knows the array that is in place, so it never notes another. -/
theorem upkeep_synced (graph : Graph) (mode : MultipleMode) :
    Upkeep graph mode (fun node compiled => compileNode graph node = .ok compiled.checks) fun _ => False where
  files := fun _ _ _ compiles => compiles
  notes := by
    intro node compiled memo remembered current compiles checked origin found other
    have fits := compileNode_fits compiles _ checked
    rw [origin.resolve_right id] at other
    exact other (Option.some.inj (fits.1.symm.trans found))

theorem answers_synced (graph : Graph) (mode : MultipleMode) (region : Ref → Prop) :
    Answers graph mode (fun node compiled => compileNode graph node = .ok compiled.checks) (fun _ => False) region := by
  intro node compiled checks _ compiles again kept known _
  cases compiles.symm.trans again
  apply Check.agrees_fresh again
  intro space holds
  cases found : space.memos.get? compiled.origin with
  | none => rfl
  | some memo => exact (known space memo holds found).elim

end Workspace

open Workspace (Moves Sound Synced Tracked Upkeep)

variable {graph : Graph} {mode : MultipleMode} {stale : Nat → Prop} {right : Ref → Compiled → Prop}
  {known : Memo → Prop} {region : Ref → Prop} {space : Workspace} {node : Ref} {compiled : Compiled}

/-- A node that compiles is served where its list is not stale. -/
theorem Graph.serves_of_sound (upkeep : Upkeep graph mode right known)
    (answers : Workspace.Answers graph mode right known region) (inside : region node)
    (compiles : ∃ checks, compileNode graph node = .ok checks) :
    graph.Serves mode (Sound mode stale right known region) node where
  keeps := fun space sound => sound.moves upkeep (Run.MovesBy.checksFor node space)
  fails := by
    intro space sound failure fails
    obtain ⟨checks, compiles⟩ := compiles
    cases fails.symm.trans compiles
  finds := by
    intro space sound checks compiles
    have agree : ∀ compiled, right node compiled → compiled.origin = compiled.identity → ¬ stale compiled.identity →
        List.Forall₂ (Check.Agrees (Sound mode stale right known region) graph mode node compiled.origin)
          compiled.checks checks := by
      intro compiled holds origin unmarked
      apply answers node compiled checks inside holds compiles
      · intro space memo sound found
        exact sound.tracked.memos _ memo (origin ▸ unmarked) found
      · intro space memo sound holds
        exact ⟨sound.tracked.noting compiled.origin holds, sound.current⟩
    cases cached : space.cache.get? node with
    | none =>
      have unmarked : ¬ stale space.fresh := fun marked => Nat.lt_irrefl _ (sound.tracked.bounded _ marked)
      rw [Run.start_checksFor_miss cached compiles]
      exact ⟨_, rfl, rfl, agree _ (upkeep.files node checks space.fresh compiles) rfl unmarked⟩
    | some compiled =>
      have unmarked := sound.current node inside compiled cached
      rw [Run.start_checksFor_hit cached]
      refine ⟨compiled, rfl, sound.tracked.modes node compiled cached, ?_⟩
      exact agree compiled (sound.tracked.lists node compiled cached unmarked)
        (sound.tracked.origins node compiled cached).1 unmarked

def Graph.Compiles (graph : Graph) (root : Ref) : Prop :=
  ∀ node, graph.Reaches root node → ∃ checks, compileNode graph node = .ok checks

theorem Graph.compiles_iff (graph : Graph) (root : Ref) :
    graph.Compiles root ↔ ∀ node ∈ graph.preorder root, ∃ checks, compileNode graph node = .ok checks := by
  simp only [Compiles, mem_preorder_iff]

theorem Run.start_checksFor_ok {checks : List Check} (compiles : compileNode graph node = .ok checks) :
    ∃ compiled, (start (checksFor graph mode node) space).1 = .ok compiled := by
  cases cached : space.cache.get? node with
  | some compiled => exact ⟨compiled, by rw [start_checksFor_hit cached]⟩
  | none => exact ⟨_, by rw [start_checksFor_miss cached compiles]⟩

namespace Validator

variable {validator : Validator}

theorem start_compileNodes_ok {nodes : List Ref} (compile : ∀ node ∈ nodes, ∃ checks, compileNode graph node = .ok checks)
    (written : List Ref) : (start (validator.compileNodes graph written nodes) space).1 = .ok () := by
  induction nodes generalizing written space with
  | nil => rfl
  | cons node rest ih =>
    have later := fun other member => compile other (List.mem_cons_of_mem node member)
    cases cached : space.cache.get? node with
    | some compiled =>
      rw [start_compileNodes_hit cached]
      exact ih later written
    | none =>
      obtain ⟨checks, compiles⟩ := compile node (by simp)
      rw [start_compileNodes_miss cached compiles]
      exact ih later _

theorem start_compileFrom_ok (compiles : graph.Compiles node) :
    (start (validator.compileFrom graph node) space).1 = .ok () := by
  refine start_compileNodes_ok (fun other member => compiles other ?_) []
  split at member
  · exact Graph.mem_preorder_iff.mp member
  · exact List.mem_singleton.mp member ▸ .refl

theorem start_compile_ok (compiles : graph.Compiles validator.schema) :
    ∃ compiled, (start (validator.compile graph) space).1 = .ok compiled := by
  have nodes : (start (validator.compileFrom graph validator.schema) space).1 = .ok () := start_compileFrom_ok compiles
  rw [compile, Run.start_bind]
  generalize start (validator.compileFrom graph validator.schema) space = ended at nodes
  obtain ⟨_, after⟩ := ended
  cases nodes
  simp only []
  rw [Run.start_bind_ok (Run.start_setCompiled true)]
  obtain ⟨checks, compiles⟩ := compiles validator.schema .refl
  exact Run.start_checksFor_ok compiles

/-- Where no reachable list is stale and all schemas compile, a validation ends like the evaluator. -/
theorem validate_ends (upkeep : Upkeep graph validator.mode right known)
    (answers : Workspace.Answers graph validator.mode right known (graph.Reaches validator.schema)) (compiles : graph.Compiles validator.schema)
    (value : Value) :
    Run.Ends (Sound validator.mode stale right known (graph.Reaches validator.schema)) (validator.validate graph value)
      (graph.evaluate validator.mode value validator.schema) := by
  have whole : Run.Ends (Sound validator.mode stale right known (graph.Reaches validator.schema))
      (Run.validateAt graph (graph.budget value) validator.mode value validator.schema)
      (graph.evaluate validator.mode value validator.schema) :=
    validateAt_ends (graph.Reaches validator.schema) (fun _ reached _ nested => reached.tail nested)
      (fun node reached => Graph.serves_of_sound upkeep answers reached (compiles node reached)) _ value .refl
  intro space sound
  rw [validate, Run.start_bind_ok Run.start_get]
  split
  · exact whole space sound
  · have compiled : ∃ list, (start (validator.compile graph) space).1 = .ok list := start_compile_ok compiles
    obtain ⟨list, ended⟩ := compiled
    rw [Run.start_bind, Run.start_discard, ended]
    exact whole _ (sound.moves upkeep (compile_moves space))

/-- Whatever was called before on the same schema, a validation ends like the evaluator. -/
theorem validate_work (compiles : graph.Compiles validator.schema) (tasks : List Task) (value : Value) :
    (start (validator.validate graph value) (validator.work graph tasks .empty)).1 =
      graph.evaluate validator.mode value validator.schema := by
  have upkeep := Workspace.upkeep_synced graph validator.mode
  have answers := Workspace.answers_synced graph validator.mode (graph.Reaches validator.schema)
  have empty := Workspace.tracked_empty validator.mode (fun node compiled => compileNode graph node = .ok compiled.checks)
    fun _ => False
  have sound : Sound validator.mode _ _ _ (graph.Reaches validator.schema) Workspace.empty :=
    ⟨empty, fun _ _ _ _ impossible => impossible⟩
  exact (validate_ends upkeep answers compiles value _ (sound.moves upkeep (work_moves validator graph tasks .empty))).1

theorem validate_empty (graph : Graph) (compiles : graph.Compiles validator.schema) (value : Value) :
    (start (validator.validate graph value) .empty).1 = graph.evaluate validator.mode value validator.schema :=
  validate_work compiles [] value

end Validator

/-- Objects whose `next` entry, if they have one, is such an object again. -/
def chainGraph : Graph :=
  ⟨#[.object [(.text "type", .node 1), (.text "properties", .node 2)], .text "object",
    .object [(.text "next", .node 0)]]⟩

def brokenChain : Value := .object [(.text "next", .object [(.text "next", .null)])]

theorem chain_compiles : chainGraph.Compiles (.node 0) := by
  rw [Graph.compiles_iff, show chainGraph.preorder (.node 0) = [.node 0] from by decide, List.forall_mem_singleton]
  exact ⟨_, rfl⟩

end LiveSchema
