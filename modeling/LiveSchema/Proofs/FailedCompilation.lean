import LiveSchema.Proofs.EagerOrder

/-! A compilation that meets a defect leaves no trace. While it runs the cache holds what it
held at first and, behind it, one entry for each node that was written since. Undoing takes
these away again, wherever the defect was met and whatever the cache held before. -/

namespace LiveSchema

open Run (start)

/-- A cache to which some entries were added, behind those it had and for nodes that had none. -/
structure Cache.Adds (before after : Cache) (added : Table Ref Compiled) : Prop where
  entries : after.entries = before.entries ++ added
  absent : ∀ node ∈ Table.keys added, before.get? node = none

namespace Cache

variable {before after : Cache} {added rest : Table Ref Compiled} {node : Ref} {compiled : Compiled}

theorem adds_nothing (cache : Cache) : Adds cache cache [] :=
  ⟨(List.append_nil _).symm, List.forall_mem_nil _⟩

theorem Adds.unchanged (adds : Adds before after []) : after = before :=
  ext_entries (adds.entries.trans (List.append_nil _))

theorem Adds.get?_eq (adds : Adds before after added) (node : Ref) :
    after.get? node = (before.get? node).or (Table.get? added node) := by
  rw [Cache.get?_eq, Cache.get?_eq, adds.entries, Table.get?_append]

theorem Adds.set (adds : Adds before after added) (missing : after.get? node = none) (compiled : Compiled) :
    Adds before (after.set node compiled) (added ++ [(node, compiled)]) := by
  obtain ⟨absent, _⟩ := Option.or_eq_none_iff.mp ((adds.get?_eq node).symm.trans missing)
  constructor
  · rw [entries_set_absent missing, adds.entries, List.append_assoc]
  · rw [Table.keys, List.map_append, List.forall_mem_append]
    exact ⟨adds.absent, List.forall_mem_singleton.mpr absent⟩

theorem Adds.erase (adds : Adds before after ((node, compiled) :: rest)) : Adds before (after.erase node) rest := by
  constructor
  · have absent : before.entries.get? node = none := (Cache.get?_eq before node).symm.trans (adds.absent node List.mem_cons_self)
    rw [entries_erase, adds.entries, Table.erase_append absent]
  · exact fun other later => adds.absent other (List.mem_cons_of_mem _ later)

theorem Adds.contains (adds : Adds before after ((node, compiled) :: rest)) : after.contains node = true := by
  have first := adds.get?_eq node
  rw [adds.absent node List.mem_cons_self, Option.none_or, Table.get?, if_pos rfl] at first
  exact (after.contains_iff node).mpr ⟨compiled, first⟩

end Cache

namespace Validator

variable {validator : Validator} {graph : Graph} {space after : Workspace} {before : Cache} {added : Table Ref Compiled}
  {nodes : List Ref} {defect : Defect}

/-- Undoing what was written brings back the cache that was there before. -/
theorem undo_restores (adds : before.Adds space.cache added) :
    before.Adds (start (undo (Table.keys added)) space).2.cache [] ∧
      (start (undo (Table.keys added)) space).2.compiled = space.compiled := by
  induction added generalizing space with
  | nil => exact ⟨adds, rfl⟩
  | cons entry rest ih =>
    obtain ⟨node, compiled⟩ := entry
    rw [show Table.keys ((node, compiled) :: rest) = node :: Table.keys rest from rfl, start_undo_cons, Workspace.dropping,
      if_pos adds.contains]
    exact ih adds.erase

/-- However a compilation ends, the cache is what it was before and some entries more, and
after a defect there are none. -/
theorem compileNodes_adds (adds : before.Adds space.cache added) {outcome : Except Failure Unit}
    (ended : start (validator.compileNodes graph (Table.keys added) nodes) space = (outcome, after)) :
    ∃ more, before.Adds after.cache more ∧ after.compiled = space.compiled ∧
      ∀ defect, outcome = .error (.defect defect) → more = [] := by
  induction nodes generalizing space added with
  | nil =>
    cases ended
    exact ⟨added, adds, rfl, fun defect failed => by cases failed⟩
  | cons node rest ih =>
    cases cached : space.cache.get? node with
    | some list =>
      rw [start_compileNodes_hit cached] at ended
      exact ih adds ended
    | none =>
      cases compiles : compileNode graph node with
      | error failure =>
        rw [start_compileNodes_fail cached compiles] at ended
        cases ended
        split
        · obtain ⟨restored, flag⟩ := undo_restores adds
          exact ⟨[], restored, flag, fun _ _ => rfl⟩
        next other =>
          refine ⟨added, adds, rfl, ?_⟩
          rintro defect ⟨⟩
          exact absurd rfl other
      | ok checks =>
        rw [start_compileNodes_miss cached compiles] at ended
        have written : Table.keys (added ++ [(node, ⟨space.fresh, space.fresh, validator.mode, checks⟩)]) =
            Table.keys added ++ [node] := List.map_append
        rw [← written] at ended
        have filed : before.Adds (space.filed graph validator.mode node checks).cache _ := adds.set cached _
        obtain ⟨more, adds, flag, undone⟩ := ih filed ended
        exact ⟨more, adds, flag, undone⟩

theorem compileFrom_adds {root : Ref} {outcome : Except Failure Unit}
    (ended : start (validator.compileFrom graph root) space = (outcome, after)) :
    ∃ more, space.cache.Adds after.cache more ∧ after.compiled = space.compiled ∧
      ∀ defect, outcome = .error (.defect defect) → more = [] :=
  compileNodes_adds (Cache.adds_nothing space.cache) ended

theorem compileFrom_restores {root : Ref}
    (ended : start (validator.compileFrom graph root) space = (.error (.defect defect), after)) :
    after.cache = space.cache ∧ after.compiled = space.compiled := by
  obtain ⟨more, adds, flag, restores⟩ := compileFrom_adds ended
  cases restores defect rfl
  exact ⟨adds.unchanged, flag⟩

theorem compile_restores (ended : start (validator.compile graph) space = (.error (.defect defect), after)) :
    after.cache = space.cache ∧ after.compiled = space.compiled := by
  cases first : start (validator.compileFrom graph validator.schema) space with | mk outcome middle =>
  cases outcome with
  | error failure =>
    rw [compile, Run.start_bind_error first] at ended
    cases ended
    exact compileFrom_restores first
  | ok =>
    obtain ⟨_, list, handed⟩ := start_compile_made first
    cases handed.symm.trans ended

theorem checksFor_restores {node : Ref}
    (ended : start (validator.checksFor graph node) space = (.error (.defect defect), after)) :
    after.cache = space.cache ∧ after.compiled = space.compiled := by
  unfold checksFor at ended
  cases cached : space.cache.get? node with
  | some list =>
    rw [Run.start_checksFor_hit cached] at ended
    cases ended
  | none =>
    cases compiles : compileNode graph node with
    | error failure =>
      rw [Run.start_checksFor_fail cached compiles] at ended
      cases ended
      exact ⟨rfl, rfl⟩
    | ok checks =>
      rw [Run.start_checksFor_miss cached compiles] at ended
      cases ended

theorem compileFrom_caches {root : Ref} (ended : start (validator.compileFrom graph root) space = (.ok (), after)) :
    ∃ list, after.cache.get? root = some list := by
  unfold compileFrom at ended
  obtain ⟨_, caches⟩ := compileNodes_ok (congrArg Prod.fst ended)
  rw [ended] at caches
  apply caches root
  split
  · exact Graph.mem_preorder_iff.mpr .refl
  · exact List.mem_singleton.mpr rfl

theorem invalidate_erases (node : Ref) (space : Workspace) :
    ∃ dropped, start (discard (Run.invalidate node)) space = (.ok (), dropped) ∧
      dropped.cache = space.cache.erase node ∧ dropped.compiled = space.compiled := by
  rw [Run.start_drop, Workspace.dropping]
  cases cached : space.cache.contains node with
  | true =>
    rw [if_pos rfl]
    exact ⟨_, rfl, rfl, rfl⟩
  | false =>
    rw [if_neg Bool.false_ne_true]
    refine ⟨space, rfl, ?_, rfl⟩
    have absent := Option.isNone_iff_eq_none.mp (Option.isSome_eq_false_iff.mp cached)
    exact (Cache.erase_absent absent).symm

theorem recompile_restores {node : Ref}
    (ended : start (validator.recompile graph node) space = (.error (.defect defect), after)) :
    after.cache = space.cache.erase node ∧ after.compiled = space.compiled := by
  obtain ⟨dropped, drops, erased, flag⟩ := invalidate_erases node space
  rw [recompile, Run.start_bind_ok drops] at ended
  rw [← erased, ← flag]
  cases first : start (validator.compileFrom graph node) dropped with | mk outcome middle =>
  cases outcome with
  | error failure =>
    rw [Run.start_bind_error first] at ended
    cases ended
    exact compileFrom_restores first
  | ok =>
    obtain ⟨list, cached⟩ := compileFrom_caches first
    rw [Run.start_bind_ok first, checksFor, Run.start_checksFor_hit cached] at ended
    cases ended

theorem recompileAll_restores (ended : start (validator.recompileAll graph) space = (.error (.defect defect), after)) :
    after.cache = .empty ∧ after.compiled = false := by
  rw [recompileAll, Run.start_bind_ok Run.start_clear, Run.start_bind_ok (Run.start_setCompiled false)] at ended
  exact compile_restores ended

/-- A call that meets a defect leaves the cache as it found it, whatever was in it and whoever
put it there. Only what a call to compile again has dropped before it began stays away. -/
theorem defect_leaves_no_trace (validator : Validator) (graph : Graph) (space after : Workspace) (defect : Defect) :
    (start (validator.compile graph) space = (.error (.defect defect), after) →
      after.cache = space.cache ∧ after.compiled = space.compiled) ∧
    (∀ node, start (validator.checksFor graph node) space = (.error (.defect defect), after) →
      after.cache = space.cache ∧ after.compiled = space.compiled) ∧
    (∀ node, start (validator.recompile graph node) space = (.error (.defect defect), after) →
      after.cache = space.cache.erase node ∧ after.compiled = space.compiled) ∧
    (start (validator.recompileAll graph) space = (.error (.defect defect), after) →
      after.cache = .empty ∧ after.compiled = false) :=
  ⟨compile_restores, fun _ => checksFor_restores, fun _ => recompile_restores, recompileAll_restores⟩

/-- Two properties, one of them of a type that there is not. -/
def misspeltGraph : Graph :=
  ⟨#[.object [(.text "properties", .node 1)], .object [(.text "left", .node 2), (.text "right", .node 3)],
    .object [(.text "items", .node 4)], .object [(.text "type", .node 5)], .object [], .text "strnig"]⟩

def misspelt : Validator := ⟨.node 0, .standard⟩

/-- The root was compiled before, and so were the items below the left property. A compilation
writes the left property and takes it back when the right one fails. -/
theorem defect_leaves_no_trace_misspelt :
    ∃ space : Workspace, space.cache.nodes = [.node 4, .node 0] ∧
      (∃ after, start (misspelt.compile misspeltGraph) space = (.error (.defect (.unknownType "strnig")), after) ∧
        after.cache.nodes = [.node 4, .node 0]) ∧
      (∃ after, start (misspelt.checksFor misspeltGraph (.node 3)) space =
          (.error (.defect (.unknownType "strnig")), after) ∧ after.cache.nodes = [.node 4, .node 0]) ∧
      (∃ after, start (misspelt.recompile misspeltGraph (.node 0)) space =
          (.error (.defect (.unknownType "strnig")), after) ∧ after.cache.nodes = [.node 4]) ∧
      ∃ after, start (misspelt.recompileAll misspeltGraph) space = (.error (.defect (.unknownType "strnig")), after) ∧
        after.cache.nodes = [] := by
  obtain ⟨space, nodes, erased, compiles, single, again, all⟩ : ∃ space : Workspace,
      space.cache.nodes = [.node 4, .node 0] ∧ (space.cache.erase (.node 0)).nodes = [.node 4] ∧
      (start (misspelt.compile misspeltGraph) space).1 = .error (.defect (.unknownType "strnig")) ∧
      (start (misspelt.checksFor misspeltGraph (.node 3)) space).1 = .error (.defect (.unknownType "strnig")) ∧
      (start (misspelt.recompile misspeltGraph (.node 0)) space).1 = .error (.defect (.unknownType "strnig")) ∧
      (start (misspelt.recompileAll misspeltGraph) space).1 = .error (.defect (.unknownType "strnig")) := by
    refine ⟨misspelt.work misspeltGraph [.checksFor (.node 4), .checksFor (.node 0)] .empty, ?_, ?_, ?_, ?_, ?_, ?_⟩ <;> rfl
  have restores := fun after => defect_leaves_no_trace misspelt misspeltGraph space after (.unknownType "strnig")
  refine ⟨space, nodes, ⟨_, Prod.ext compiles rfl, ?_⟩, ⟨_, Prod.ext single rfl, ?_⟩, ⟨_, Prod.ext again rfl, ?_⟩,
    ⟨_, Prod.ext all rfl, ?_⟩⟩
  · rw [((restores _).1 (Prod.ext compiles rfl)).1, nodes]
  · rw [((restores _).2.1 _ (Prod.ext single rfl)).1, nodes]
  · rw [((restores _).2.2.1 _ (Prod.ext again rfl)).1, erased]
  · rw [((restores _).2.2.2 (Prod.ext all rfl)).1]
    rfl

end Validator
end LiveSchema
