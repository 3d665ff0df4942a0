import LiveSchema.Proofs.DepthFirst
import LiveSchema.Proofs.RepeatedValidation

/-! What an eager compilation writes. It takes the schemas that can be reached in the order
of a depth-first search, passes over those that are cached, and appends the others to the
cache. The first of them that does not compile ends it with its failure. -/

namespace LiveSchema

open Run (start)

namespace Cache

/-- Those of some nodes that have no entry. -/
def missing (cache : Cache) (nodes : List Ref) : List Ref := nodes.filter fun node => (cache.get? node).isNone

variable {cache : Cache} {nodes rest : List Ref} {node : Ref}

theorem mem_missing_iff : node ∈ cache.missing nodes ↔ node ∈ nodes ∧ cache.get? node = none := by
  simp only [missing, List.mem_filter, Option.isNone_iff_eq_none]

theorem missing_hit {compiled : Compiled} (hit : cache.get? node = some compiled) :
    cache.missing (node :: rest) = cache.missing rest := by
  simp [missing, hit]

theorem missing_miss (miss : cache.get? node = none) : cache.missing (node :: rest) = node :: cache.missing rest := by
  simp [missing, miss]

theorem missing_set (apart : node ∉ nodes) (compiled : Compiled) : (cache.set node compiled).missing nodes = cache.missing nodes := by
  refine List.filter_congr fun other member => ?_
  rw [get?_set, if_neg]
  rintro rfl
  exact apart member

end Cache

/-- The first of some nodes that does not compile fails so. -/
inductive Graph.FirstFails (graph : Graph) (failure : Failure) : List Ref → Prop
  | here {node : Ref} {rest : List Ref} (fails : compileNode graph node = .error failure) :
      graph.FirstFails failure (node :: rest)
  | later {node : Ref} {rest : List Ref} {checks : List Check} (compiles : compileNode graph node = .ok checks)
      (fails : graph.FirstFails failure rest) : graph.FirstFails failure (node :: rest)

/-- The entry of a node that was compiled when the next free number was this one. -/
def Graph.Files (graph : Graph) (mode : MultipleMode) (numbered : Ref × Nat) (entry : Ref × Compiled) : Prop :=
  ∃ checks, compileNode graph numbered.1 = .ok checks ∧ entry = (numbered.1, ⟨numbered.2, numbered.2, mode, checks⟩)

/-- Some nodes were compiled, each of them once and one after the other, and their entries
were put behind all earlier ones. -/
structure Workspace.Appends (graph : Graph) (mode : MultipleMode) (nodes : List Ref) (space after : Workspace)
    (added : Table Ref Compiled) : Prop where
  entries : after.cache.entries = space.cache.entries ++ added
  lists : List.Forall₂ (graph.Files mode) (nodes.zipIdx space.fresh) added
  fresh : after.fresh = space.fresh + nodes.length
  log : after.log = space.log ++ added.flatMap fun entry => graph.compileLog entry.1 entry.2.checks
  memos : after.memos = space.memos

variable {graph : Graph} {mode : MultipleMode} {node : Ref} {nodes written : List Ref} {space after : Workspace}
  {failure : Failure} {validator : Validator}

theorem Graph.firstFails_iff :
    (∃ failure, graph.FirstFails failure nodes) ↔ ∃ node ∈ nodes, ∃ failure, compileNode graph node = .error failure := by
  constructor
  · rintro ⟨failure, fails⟩
    induction fails with
    | here fails => exact ⟨_, List.mem_cons_self, failure, fails⟩
    | later _ _ ih =>
      obtain ⟨node, member, fails⟩ := ih
      exact ⟨node, List.mem_cons_of_mem _ member, fails⟩
  · rintro ⟨node, member, failure, fails⟩
    induction nodes with
    | nil => cases member
    | cons first rest ih =>
      cases compiles : compileNode graph first with
      | error early => exact ⟨early, .here compiles⟩
      | ok checks =>
        rcases List.mem_cons.mp member with rfl | later
        · cases fails.symm.trans compiles
        · obtain ⟨late, rest_fails⟩ := ih later
          exact ⟨late, .later compiles rest_fails⟩

theorem Graph.keys_of_files {numbered : List (Ref × Nat)} {added : Table Ref Compiled}
    (files : List.Forall₂ (graph.Files mode) numbered added) : Table.keys added = numbered.map Prod.fst := by
  induction files with
  | nil => rfl
  | cons first _ ih =>
    obtain ⟨checks, _, rfl⟩ := first
    exact congrArg (_ :: ·) ih

namespace Workspace

theorem Appends.nodes_eq {added : Table Ref Compiled} (appends : Appends graph mode nodes space after added) :
    after.cache.nodes = space.cache.nodes ++ nodes := by
  have keys := Graph.keys_of_files appends.lists
  rw [List.zipIdx_map_fst] at keys
  simp only [Cache.nodes, appends.entries, ← keys]
  exact List.map_append

/-- The first entry, and then the others. -/
theorem Appends.cons {checks : List Check} {added : Table Ref Compiled} (missing : space.cache.get? node = none)
    (compiles : compileNode graph node = .ok checks)
    (appends : Appends graph mode nodes (space.filed graph mode node checks) after added) :
    Appends graph mode (node :: nodes) space after ((node, ⟨space.fresh, space.fresh, mode, checks⟩) :: added) where
  entries := by
    have filed : (space.filed graph mode node checks).cache.entries = _ := Cache.entries_set_absent missing _
    rw [appends.entries, filed, List.append_assoc]
    rfl
  lists := .cons ⟨checks, compiles, rfl⟩ appends.lists
  fresh := by
    rw [appends.fresh, List.length_cons]
    change space.fresh + 1 + _ = _
    omega
  log := by
    rw [appends.log, List.flatMap_cons, ← List.append_assoc]
    rfl
  memos := appends.memos

end Workspace

namespace Validator

open Workspace (Appends)

theorem compileNodes_fails_iff (distinct : nodes.Nodup) :
    (start (validator.compileNodes graph written nodes) space).1 = .error failure ↔
      graph.FirstFails failure (space.cache.missing nodes) := by
  induction nodes generalizing space written with
  | nil =>
    constructor
    · intro ended
      cases ended
    · intro fails
      cases fails
  | cons node rest ih =>
    obtain ⟨apart, distinct⟩ := List.nodup_cons.mp distinct
    cases cached : space.cache.get? node with
    | some compiled =>
      rw [start_compileNodes_hit cached, Cache.missing_hit cached]
      exact ih distinct
    | none =>
      rw [Cache.missing_miss cached]
      cases compiles : compileNode graph node with
      | error early =>
        rw [start_compileNodes_fail cached compiles]
        constructor
        · rintro ⟨⟩
          exact .here compiles
        · rintro (fails | ⟨impossible, _⟩)
          · exact congrArg Except.error (Except.error.inj (compiles.symm.trans fails))
          · cases compiles.symm.trans impossible
      | ok checks =>
        have kept : (space.filed graph validator.mode node checks).cache.missing rest = space.cache.missing rest :=
          Cache.missing_set apart _
        rw [start_compileNodes_miss cached compiles, ih distinct, kept]
        constructor
        · exact .later compiles
        · rintro (impossible | ⟨_, fails⟩)
          · cases compiles.symm.trans impossible
          · exact fails

theorem compileNodes_appends (distinct : nodes.Nodup)
    (ended : start (validator.compileNodes graph written nodes) space = (.ok (), after)) :
    ∃ added, Appends graph validator.mode (space.cache.missing nodes) space after added := by
  induction nodes generalizing space written with
  | nil =>
    cases ended
    exact ⟨[], by simp, .nil, rfl, by simp, rfl⟩
  | cons node rest ih =>
    obtain ⟨apart, distinct⟩ := List.nodup_cons.mp distinct
    cases cached : space.cache.get? node with
    | some compiled =>
      rw [start_compileNodes_hit cached] at ended
      rw [Cache.missing_hit cached]
      exact ih distinct ended
    | none =>
      cases compiles : compileNode graph node with
      | error failure =>
        rw [start_compileNodes_fail cached compiles] at ended
        cases ended
      | ok checks =>
        rw [start_compileNodes_miss cached compiles] at ended
        obtain ⟨added, appends⟩ := ih distinct ended
        have kept : (space.filed graph validator.mode node checks).cache.missing rest = space.cache.missing rest :=
          Cache.missing_set apart _
        rw [kept] at appends
        rw [Cache.missing_miss cached]
        exact ⟨_, appends.cons cached compiles⟩

theorem compile_fails_iff :
    (start (validator.compile graph) space).1 = .error failure ↔
      (start (validator.compileFrom graph validator.schema) space).1 = .error failure := by
  cases ended : start (validator.compileFrom graph validator.schema) space with | mk outcome after =>
  cases outcome with
  | error early =>
    rw [compile, Run.start_bind_error ended]
    simp only [Except.error.injEq]
  | ok =>
    obtain ⟨_, list, handed⟩ := start_compile_made ended
    rw [handed]
    constructor
    · intro ended
      cases ended
    · intro ended
      cases ended

/-- An eager compilation goes through the schemas that can be reached in the order of a
depth-first search, whatever is cached. It fails if and only if one of those that are not
cached does not compile, and as the first of them does. Otherwise it leaves all earlier
entries as they are and puts one new entry for each of the others behind them. -/
theorem eager_compile_order (validator : Validator) (graph : Graph) (space : Workspace)
    (eager : validator.settings.isEager = true) :
    graph.DepthFirst [] [validator.schema] (graph.preorder validator.schema) ∧
    (∀ node, node ∈ graph.preorder validator.schema ↔ graph.Reaches validator.schema node) ∧
    ((∃ failure, (start (validator.compile graph) space).1 = .error failure) ↔
      ∃ node, graph.Reaches validator.schema node ∧ space.cache.get? node = none ∧
        ∃ failure, compileNode graph node = .error failure) ∧
    (∀ failure, (start (validator.compile graph) space).1 = .error failure →
      graph.FirstFails failure (space.cache.missing (graph.preorder validator.schema))) ∧
    ∀ list after, start (validator.compile graph) space = (.ok list, after) →
      ∃ added, Appends graph validator.mode (space.cache.missing (graph.preorder validator.schema)) space after added := by
  have distinct := graph.nodup_preorder validator.schema
  have fails : ∀ failure, (start (validator.compile graph) space).1 = .error failure ↔
      graph.FirstFails failure (space.cache.missing (graph.preorder validator.schema)) := by
    intro failure
    rw [compile_fails_iff, compileFrom, if_pos eager]
    exact compileNodes_fails_iff distinct
  refine ⟨graph.preorder_depthFirst validator.schema, fun _ => Graph.mem_preorder_iff, ?_, fun failure => (fails failure).mp, ?_⟩
  · simp only [fails, Graph.firstFails_iff, Cache.mem_missing_iff, Graph.mem_preorder_iff, and_assoc]
  · intro list after compiled
    cases ended : start (validator.compileFrom graph validator.schema) space with | mk outcome last =>
    cases outcome with
    | error failure =>
      have failed := compile_fails_iff.mpr (congrArg Prod.fst ended)
      rw [compiled] at failed
      cases failed
    | ok =>
      obtain ⟨_, other, handed⟩ := start_compile_made ended
      cases compiled.symm.trans handed
      simp only [compileFrom, if_pos eager] at ended
      obtain ⟨added, appends⟩ := compileNodes_appends distinct ended
      exact ⟨added, appends.entries, appends.lists, appends.fresh, appends.log, appends.memos⟩

/-- Two properties with one schema, which contains the whole again. -/
def sharedGraph : Graph :=
  ⟨#[.object [(.text "properties", .node 1)], .object [(.text "left", .node 2), (.text "right", .node 3)],
    .object [(.text "items", .node 4)], .object [(.text "not", .node 4), (.text "contains", .node 0)], .object []]⟩

/-- The schema that both share was compiled before and keeps its place in front. -/
theorem eager_compile_order_shared :
    ∃ list after,
      start (Validator.compile ⟨.node 0, .standard⟩ sharedGraph)
        (start (Validator.checksFor ⟨.node 0, .standard⟩ sharedGraph (.node 3)) .empty).2 = (.ok list, after) ∧
      after.cache.nodes = [.node 3, .node 0, .node 2, .node 4] ∧ after.fresh = 4 := by
  have cached : (start (Validator.checksFor ⟨.node 0, .standard⟩ sharedGraph (.node 3)) .empty).2.cache.nodes = [.node 3] := by
    rfl
  have numbered : (start (Validator.checksFor ⟨.node 0, .standard⟩ sharedGraph (.node 3)) .empty).2.fresh = 1 := rfl
  have missing : (start (Validator.checksFor ⟨.node 0, .standard⟩ sharedGraph (.node 3)) .empty).2.cache.missing
      (sharedGraph.preorder (.node 0)) = [.node 0, .node 2, .node 4] := rfl
  generalize (start (Validator.checksFor ⟨.node 0, .standard⟩ sharedGraph (.node 3)) .empty).2 = space at cached numbered missing
  have compiles : sharedGraph.Compiles (.node 0) := by
    rw [Graph.compiles_iff, show sharedGraph.preorder (.node 0) = [.node 0, .node 2, .node 4, .node 3] from by decide]
    simp only [List.forall_mem_cons]
    exact ⟨⟨_, rfl⟩, ⟨_, rfl⟩, ⟨_, rfl⟩, ⟨_, rfl⟩, by simp⟩
  have ended : ∃ list, (start (Validator.compile ⟨.node 0, .standard⟩ sharedGraph) space).1 = .ok list := start_compile_ok compiles
  obtain ⟨list, compiled⟩ := ended
  refine ⟨list, _, Prod.ext compiled rfl, ?_⟩
  obtain ⟨_, _, _, _, adds⟩ := eager_compile_order ⟨.node 0, .standard⟩ sharedGraph space rfl
  obtain ⟨added, appends⟩ := adds list _ (Prod.ext compiled rfl)
  rw [appends.nodes_eq, appends.fresh, cached, numbered, missing]
  exact ⟨rfl, rfl⟩

end Validator
end LiveSchema
