import LiveSchema.Graph.Edit
import LiveSchema.Proofs.Contents
import LiveSchema.Proofs.Outline
import LiveSchema.Proofs.TrackedCache

/-! Keyword values are live. A list is as good as a new one while its node keeps
the outline it was compiled with, whatever values the keywords take: the checks
read them when they run. Only the members of `enum` arrays are read ahead. They
are on record by the identity of their array, so another array is read anew, and
what is on record is right for an array that was not edited in place. -/

namespace LiveSchema

open Relation (ReflTransGen)
open Run (start)
open Workspace (Moves Tracked Upkeep Answers)

variable {graph before after : Graph} {mode : MultipleMode} {validator : Validator} {stale : Nat → Prop}
  {spoiled : Ref → Prop} {space : Workspace} {node array : Ref}

/-- The members of an array are on record: a list was compiled with them, or an
`enum` check took note of them later. -/
inductive Workspace.Records (space : Workspace) (array : Ref) : Prop
  | compiled {node : Ref} {list : Compiled} {memo : Memo} (cached : space.cache.get? node = some list)
      (checked : .enum memo ∈ list.checks) (source : memo.source = array)
  | noted {identity : Nat} {memo : Memo} (found : space.memos.get? identity = some memo) (source : memo.source = array)

def Workspace.Reshaped (space : Workspace) (before after : Graph) (identity : Nat) : Prop :=
  ∃ node list, space.cache.get? node = some list ∧ list.identity = identity ∧ after.outline node ≠ before.outline node

/-- An array that is on record was edited in place, at whatever depth. -/
def Workspace.Spoils (space : Workspace) (before after : Graph) (array : Ref) : Prop :=
  space.Records array ∧ ¬ before.SameContents after array

namespace Validator

/-- A validator with a cache of its own, worked with while its schema is edited.
`stale` marks the lists whose nodes got another outline since they were compiled,
and `spoiled` the arrays that were edited after their members went on record. -/
inductive LiveHistory (validator : Validator) : Graph → Workspace → (stale : Nat → Prop) → (spoiled : Ref → Prop) → Prop
  | start (graph : Graph) : LiveHistory validator graph .empty (fun _ => False) fun _ => False
  | work {graph : Graph} {space : Workspace} {stale : Nat → Prop} {spoiled : Ref → Prop}
      (earlier : LiveHistory validator graph space stale spoiled) (tasks : List Task) :
      LiveHistory validator graph (validator.work graph tasks space) stale spoiled
  | edit {before : Graph} {space : Workspace} {stale : Nat → Prop} {spoiled : Ref → Prop}
      (earlier : LiveHistory validator before space stale spoiled) (after : Graph) :
      LiveHistory validator after space (fun identity => stale identity ∨ space.Reshaped before after identity)
        fun array => spoiled array ∨ space.Spoils before after array

end Validator

/-- What is on record for an array is what it holds, unless the array is spoiled. -/
def Graph.Knows (graph : Graph) (spoiled : Ref → Prop) (memo : Memo) : Prop :=
  spoiled memo.source ∨ ∀ forms, Keyword.memberForms graph memo.source = .ok forms → memo.allowed = forms

/-- A list was compiled when its node had the outline it has now. -/
structure Graph.Matches (graph : Graph) (spoiled : Ref → Prop) (node : Ref) (list : Compiled) : Prop where
  made : ∃ past : Graph, past.outline node = graph.outline node ∧ compileNode past node = .ok list.checks
  knows : ∀ memo, .enum memo ∈ list.checks → graph.Knows spoiled memo

theorem Graph.knows_noted (graph : Graph) (spoiled : Ref → Prop) (memo : Memo) (current : Ref) :
    graph.Knows spoiled (Keyword.noted graph memo current) := by
  apply Or.inr
  intro forms read
  rw [Keyword.noted_source] at read
  rw [Keyword.noted_eq read]

theorem upkeep_live (graph : Graph) (mode : MultipleMode) (spoiled : Ref → Prop) :
    Upkeep graph mode (graph.Matches spoiled) (graph.Knows spoiled) where
  files := by
    intro node checks identity compiles
    refine ⟨⟨graph, rfl, compiles⟩, fun memo checked => .inr ?_⟩
    intro forms read
    have fits := compileNode_fits compiles _ checked
    cases fits.2.symm.trans read
    rfl
  notes := fun node _ _ remembered current _ _ _ _ _ => graph.knows_noted spoiled remembered current

/-- A list that matches does what a new list does, as long as the array in place is not spoiled. -/
theorem answers_live (mode : MultipleMode) {region : Ref → Prop}
    (whole : ∀ node array, region node → graph.field? node "enum" = some array → ¬ spoiled array) :
    Answers graph mode (graph.Matches spoiled) (graph.Knows spoiled) region := by
  intro node list checks inside holds compiles kept known notes
  obtain ⟨past, outlined, made⟩ := holds.made
  have alike := compileNode_alike outlined made compiles
  have fits := compileNode_fits compiles
  have knows := holds.knows
  clear made
  generalize list.checks = cached at alike knows
  rcases compileNode_object compiles with rfl | ⟨fields, object⟩
  · cases alike
    exact .nil
  clear compiles
  induction alike with
  | nil => exact .nil
  | @cons one two rest others first later ih =>
    refine .cons ?_ (ih (fun check member => fits check (List.mem_cons_of_mem _ member))
      fun memo member => knows memo (List.mem_cons_of_mem _ member))
    cases first with
    | run plain same => exact Check.agrees_of_run object (fits two (by simp)) plain fun value => same graph mode value node
    | enum memo fresh =>
      have fit := fits (.enum fresh) (by simp)
      refine Check.agrees_of_memo fit (fun space holds same => ?_) (fun space holds _ => ?_)
      · have remembered : graph.Knows spoiled ((space.memos.get? list.origin).getD memo) := by
          cases found : space.memos.get? list.origin with
          | none => exact knows memo (by simp)
          | some noted => exact known space noted holds found
        rcases remembered with edited | forms
        · rw [same] at edited
          exact absurd edited (whole node fresh.source inside fit.1)
        · exact forms fresh.allowed (same ▸ fit.2)
      · have noted := graph.knows_noted spoiled fresh fresh.source
        rw [Keyword.noted_eq fit.2] at noted
        exact notes space fresh holds noted

/-- An edit leaves what is on record right, but for the arrays that it spoils. -/
theorem Graph.Knows.edit {memo : Memo} (knows : before.Knows spoiled memo) (recorded : space.Records memo.source) :
    after.Knows (fun array => spoiled array ∨ space.Spoils before after array) memo := by
  by_cases same : before.SameContents after memo.source
  · rcases knows with old | forms
    · exact .inl (.inl old)
    · exact .inr fun members read => forms members (Graph.memberForms_kept same.symm read)
  · exact .inl (.inr ⟨recorded, same⟩)

theorem tracked_of_edit (tracked : Tracked mode stale (before.Matches spoiled) (before.Knows spoiled) space) (after : Graph) :
    Tracked mode (fun identity => stale identity ∨ space.Reshaped before after identity)
      (after.Matches fun array => spoiled array ∨ space.Spoils before after array)
      (after.Knows fun array => spoiled array ∨ space.Spoils before after array) space := by
  refine ⟨tracked.distinct, ?_, tracked.modes, tracked.origins, ?_, ?_⟩
  · intro identity marked
    rcases marked with old | ⟨node, list, cached, rfl, _⟩
    · exact tracked.bounded identity old
    · exact (tracked.origins node list cached).2
  · intro node list cached unmarked
    have holds := tracked.lists node list cached fun old => unmarked (.inl old)
    have outlined : after.outline node = before.outline node := by
      by_cases same : after.outline node = before.outline node
      · exact same
      · exact absurd (.inr ⟨node, list, cached, rfl, same⟩) unmarked
    obtain ⟨past, kept, made⟩ := holds.made
    refine ⟨⟨past, kept.trans outlined.symm, made⟩, ?_⟩
    intro memo checked
    exact (holds.knows memo checked).edit (.compiled cached checked rfl)
  · intro identity memo unmarked found
    exact (tracked.memos identity memo (fun old => unmarked (.inl old)) found).edit (.noted found rfl)

namespace Validator

theorem LiveHistory.tracked (history : validator.LiveHistory graph space stale spoiled) :
    Tracked validator.mode stale (graph.Matches spoiled) (graph.Knows spoiled) space := by
  induction history with
  | start graph => exact Workspace.tracked_empty _ _ _
  | work _ tasks ih => exact ih.moves (upkeep_live _ _ _) (work_moves validator _ tasks _)
  | edit _ after ih => exact tracked_of_edit ih after

/-- Without compiling anything anew, a validation ends as on a new validator, as
long as the cached nodes that can be reached kept their outlines and no `enum`
array that is in place was edited after it was read. -/
theorem keywords_live (history : validator.LiveHistory graph space stale spoiled)
    (compiles : graph.Compiles validator.schema)
    (outlined : ∀ node list, graph.Reaches validator.schema node → space.cache.get? node = some list →
      ¬ stale list.identity)
    (whole : ∀ node array, graph.Reaches validator.schema node → graph.field? node "enum" = some array → ¬ spoiled array)
    (value : Value) :
    (start (validator.validate graph value) space).1 = (start (validator.validate graph value) .empty).1 := by
  have upkeep := upkeep_live graph validator.mode spoiled
  have answers : Answers graph validator.mode (graph.Matches spoiled) (graph.Knows spoiled) (graph.Reaches validator.schema) :=
    answers_live validator.mode whole
  have sound : Workspace.Sound validator.mode stale (graph.Matches spoiled) (graph.Knows spoiled)
      (graph.Reaches validator.schema) space :=
    ⟨history.tracked, fun node reached list cached => outlined node list reached cached⟩
  rw [(validate_ends upkeep answers compiles value space sound).1, validate_empty graph compiles value]

def choiceGraph : Graph := ⟨#[.object [(.text "enum", .node 1)], .array false [.int 1]]⟩

/-- Another array has taken the place of the first. -/
def otherChoice : Graph := ⟨#[.object [(.text "enum", .node 2)], .array false [.int 1], .array false [.int 2]]⟩

def choice : Validator := ⟨.node 0, .standard⟩

theorem outline_choice : otherChoice.outline (.node 0) = choiceGraph.outline (.node 0) := by
  apply congrArg some
  apply Outline.ext
  · funext keyword
    simp only [Keyword.outline, Entries.keyword?, Table.get?]
    split <;> rfl
  all_goals rfl

theorem choice_cached {list : Compiled}
    (found : (choice.work choiceGraph [.compile, .validate (.number (.int 2))] .empty).cache.get? node = some list) :
    node = .node 0 ∧ list.checks = [.enum ⟨.node 1, [Value.canon (.number (.int 1))]⟩] := by
  have entries : (choice.work choiceGraph [.compile, .validate (.number (.int 2))] .empty).cache.entries =
      [(.node 0, ⟨0, 0, .decimal, [.enum ⟨.node 1, [Value.canon (.number (.int 1))]⟩]⟩)] := rfl
  have member := Cache.mem_entries_of_get? found
  rw [entries, List.mem_singleton] at member
  cases member
  exact ⟨rfl, rfl⟩

/-- A value is refused; a new array has it, and it is accepted. -/
theorem keywords_live_choice :
    Library.set ⟨choiceGraph, [("choice", .node 0)]⟩ [.text "choice", .text "enum"] (.array false [.number (.int 2)]) =
      .ok ⟨otherChoice, [("choice", .node 0)]⟩ ∧
    (start (choice.validate choiceGraph (.number (.int 2))) .empty).1 = .error (.violation .notAllowed) ∧
    (start (choice.validate otherChoice (.number (.int 2)))
      (choice.work choiceGraph [.compile, .validate (.number (.int 2))] .empty)).1 = .ok () := by
  have started : choice.LiveHistory choiceGraph .empty (fun _ => False) fun _ => False := .start choiceGraph
  have history := (started.work [.compile, .validate (.number (.int 2))]).edit otherChoice
  have alone : otherChoice.preorder choice.schema = [.node 0] := by decide
  have compiles : otherChoice.Compiles choice.schema := by
    rw [Graph.compiles_iff, alone, List.forall_mem_singleton]
    exact ⟨_, rfl⟩
  have memos : (choice.work choiceGraph [.compile, .validate (.number (.int 2))] .empty).memos = [] := rfl
  refine ⟨rfl, rfl, ?_⟩
  rw [keywords_live history compiles ?_ ?_ (.number (.int 2))]
  · rfl
  · rintro node list _ found (impossible | ⟨other, list', found', _, different⟩)
    · exact impossible
    · obtain ⟨rfl, _⟩ := choice_cached found'
      exact different outline_choice
  · rintro node array reached present (impossible | ⟨recorded, _⟩)
    · exact impossible
    · have visited := Graph.mem_preorder_iff.mpr reached
      rw [alone] at visited
      cases List.mem_singleton.mp visited
      cases present
      cases recorded with
      | compiled found checked source =>
        obtain ⟨_, checks⟩ := choice_cached found
        rw [checks, List.mem_singleton] at checked
        cases checked
        cases source
      | noted found source =>
        rw [memos] at found
        cases found

end Validator
end LiveSchema
