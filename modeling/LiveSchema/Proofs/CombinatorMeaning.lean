import LiveSchema.Proofs.Enforcement

/-! What the combinators mean. A combinator asks its members in order and no further than its answer
needs. Yet its answer tells something of all of them, if every one accepts or refuses the value: what
it did not ask makes no difference. Any other failure of a member that is asked comes out as it is. -/

namespace LiveSchema

open Keyword
open Run (start)

inductive Combinator where
  | allOf
  | anyOf
  | oneOf
  | not

/-- A value is refused by a schema, which is more than not being accepted: the verdict has come. -/
def Refusal (outcome : Except Failure Unit) : Prop := ∃ violation, outcome = .error (.violation violation)

def Decided (outcome : Except Failure Unit) : Prop := outcome = .ok () ∨ Refusal outcome

/-- How a search goes on once a member has answered. -/
inductive SearchStep where
  | next (matched : Bool)
  | stop (result : Except Failure Unit)

namespace Combinator

def keyword : Combinator → String
  | .allOf => "allOf"
  | .anyOf => "anyOf"
  | .oneOf => "oneOf"
  | .not => "not"

def check : Combinator → Check
  | .allOf => .allOf
  | .anyOf => .anyOf
  | .oneOf => .oneOf
  | .not => .not

/-- The members of a combinator, of which `not` has a single one. -/
def schemas (graph : Graph) (node : Ref) (combinator : Combinator) : List Ref :=
  match combinator, graph.field? node combinator.keyword with
  | .not, found => found.toList
  | _, found => (found.bind fun part => (graph.shape part).items?).getD []

/-- What its keyword can stand for. -/
def Forms (graph : Graph) (combinator : Combinator) (part : Ref) : Prop :=
  match combinator with
  | .not => graph.isSchema part = true
  | _ => ListsMembers graph part

/-- What the outcomes of all members have to be like. -/
def Holds : Combinator → List (Except Failure Unit) → Prop
  | .allOf, outcomes => ∀ outcome ∈ outcomes, outcome = .ok ()
  | .anyOf, outcomes => ∃ outcome ∈ outcomes, outcome = .ok ()
  | .oneOf, outcomes => outcomes.countP Except.isOk = 1
  | .not, outcomes => ∀ outcome ∈ outcomes, Refusal outcome

/-- The failure that the outcomes of all members lead to. -/
def Fails : Combinator → List (Except Failure Unit) → Failure → Prop
  | .allOf, outcomes, failure => FirstFailure (· = .ok ()) (· = .error ·) outcomes failure
  | .anyOf, outcomes, failure => (∀ outcome ∈ outcomes, Refusal outcome) ∧ failure = .violation .noAlternative
  | .oneOf, outcomes, failure => outcomes.countP Except.isOk = 0 ∧ failure = .violation .noMatch ∨
    2 ≤ outcomes.countP Except.isOk ∧ failure = .violation .manyMatches
  | .not, outcomes, failure => (∃ outcome ∈ outcomes, outcome = .ok ()) ∧ failure = .violation .disallowed

/-- What was asked so far does not decide the combinator. -/
def Undecided : Combinator → List (Except Failure Unit) → Prop
  | .allOf, before => ∀ outcome ∈ before, outcome = .ok ()
  | .anyOf, before | .not, before => ∀ outcome ∈ before, Refusal outcome
  | .oneOf, before => (∀ outcome ∈ before, Decided outcome) ∧ before.countP Except.isOk ≤ 1

/-- Whether a member has matched is of use to `oneOf` alone. -/
def step : Combinator → (matched : Bool) → Option Violation → SearchStep
  | .allOf, matched, none => .next matched
  | .allOf, _, some violation => .stop (.error (.violation violation))
  | .anyOf, _, none => .stop (.ok ())
  | .oneOf, false, none => .next true
  | .oneOf, true, none => .stop (violate .manyMatches)
  | .not, _, none => .stop (violate .disallowed)
  | _, matched, some _ => .next matched

def finish : Combinator → (matched : Bool) → Except Failure Unit
  | .anyOf, _ => violate .noAlternative
  | .oneOf, false => violate .noMatch
  | _, _ => .ok ()

/-- All combinators are the same search, but for what they make of an answer. -/
def search (combinator : Combinator) (value : Value) : (matched : Bool) → List Ref → Program Unit
  | matched, [] => .ofExcept (combinator.finish matched)
  | matched, schema :: rest => do
    match combinator.step matched (← Program.verdict value schema) with
    | .next matched => combinator.search value matched rest
    | .stop result => .ofExcept result

/-- The search through outcomes that are all known. -/
def conclude (combinator : Combinator) : (matched : Bool) → List (Except Failure Unit) → Except Failure Unit
  | matched, [] => combinator.finish matched
  | matched, outcome :: rest => do
    match combinator.step matched (← settle outcome) with
    | .next matched => combinator.conclude matched rest
    | .stop result => result

end Combinator

/-- What each schema has to say when one after another is asked, whatever the others say. -/
def Run.verdicts (judge : Ref → Run Unit) : Workspace → List Ref → List (Except Failure Unit)
  | _, [] => []
  | space, schema :: rest => (start (judge schema) space).1 :: verdicts judge (start (judge schema) space).2 rest

namespace Combinator

variable {combinator : Combinator} {matched : Bool} {outcomes before rest : List (Except Failure Unit)} {failure : Failure}

section Conclusions

/-- Answers that leave the search as it is can be passed over. -/
theorem conclude_skip (skips : ∀ outcome ∈ before, ∃ answer, settle outcome = .ok answer ∧ combinator.step matched answer = .next matched) :
    combinator.conclude matched (before ++ rest) = combinator.conclude matched rest := by
  induction before with
  | nil => rfl
  | cons outcome others ih =>
    rw [List.forall_mem_cons] at skips
    obtain ⟨⟨answer, settled, stays⟩, skips⟩ := skips
    rw [List.cons_append, conclude, settled, Except.ok_bind, stays]
    exact ih skips

theorem conclude_stuck (stuck : ¬ failure.IsViolation) : combinator.conclude matched (.error failure :: rest) = .error failure := by
  cases failure with
  | violation violation => exact absurd trivial stuck
  | defect | fault | setting | lookup | endless => rfl

theorem conclude_oneOf_append (decided : ∀ outcome ∈ before, Decided outcome)
    (few : before.countP Except.isOk + matched.toNat ≤ 1) :
    ∃ later, conclude .oneOf matched (before ++ rest) = conclude .oneOf later rest := by
  induction before generalizing matched with
  | nil => exact ⟨matched, rfl⟩
  | cons outcome others ih =>
    rw [List.forall_mem_cons] at decided
    obtain ⟨rfl | ⟨violation, rfl⟩, decided⟩ := decided
    · rw [List.countP_cons_of_pos rfl] at few
      cases matched with
      | false => exact ih decided (by simpa using few)
      | true => simp at few
    · rw [List.countP_cons_of_neg Bool.false_ne_true] at few
      obtain ⟨later, same⟩ := ih decided few
      refine ⟨later, .trans ?_ same⟩
      cases matched <;> rfl

/-- A failure that is no verdict comes out, if it is met before the combinator is decided. -/
theorem conclude_propagates (undecided : combinator.Undecided before) (stuck : ¬ failure.IsViolation) :
    combinator.conclude false (before ++ .error failure :: rest) = .error failure := by
  cases combinator with
  | allOf =>
    rw [conclude_skip, conclude_stuck stuck]
    rintro outcome member
    obtain rfl := undecided outcome member
    exact ⟨none, rfl, rfl⟩
  | anyOf | not =>
    rw [conclude_skip, conclude_stuck stuck]
    rintro outcome member
    obtain ⟨violation, rfl⟩ := undecided outcome member
    exact ⟨some violation, rfl, rfl⟩
  | oneOf =>
    have few : before.countP Except.isOk + Bool.toNat false ≤ 1 := undecided.2
    obtain ⟨later, same⟩ := conclude_oneOf_append undecided.1 few
    rw [same, conclude_stuck stuck]

theorem isOk_iff (outcome : Except Failure Unit) : outcome.isOk = true ↔ outcome = .ok () := by
  cases outcome <;> simp [Except.isOk, Except.toBool]

theorem any_isOk_iff : outcomes.any Except.isOk = true ↔ ∃ outcome ∈ outcomes, outcome = .ok () := by
  simp only [List.any_eq_true, isOk_iff]

theorem none_isOk_iff (decided : ∀ outcome ∈ outcomes, Decided outcome) :
    ¬ outcomes.any Except.isOk = true ↔ ∀ outcome ∈ outcomes, Refusal outcome := by
  rw [any_isOk_iff]
  constructor
  · exact fun absent outcome member => (decided outcome member).resolve_left fun accepted => absent ⟨outcome, member, accepted⟩
  · rintro refused ⟨outcome, member, rfl⟩
    obtain ⟨_, impossible⟩ := refused _ member
    cases impossible

theorem conclude_allOf (decided : ∀ outcome ∈ outcomes, Decided outcome) :
    conclude .allOf matched outcomes = outcomes.forM fun outcome => outcome := by
  induction outcomes with
  | nil => rfl
  | cons outcome others ih =>
    rw [List.forall_mem_cons] at decided
    obtain ⟨rfl | ⟨violation, rfl⟩, decided⟩ := decided
    · exact ih decided
    · rfl

/-- A search that ends with the first match ends there, or it finds none. -/
theorem conclude_first {hit : Except Failure Unit} (decided : ∀ outcome ∈ outcomes, Decided outcome)
    (hits : combinator.step matched none = .stop hit) (misses : ∀ violation, combinator.step matched (some violation) = .next matched) :
    combinator.conclude matched outcomes = if outcomes.any Except.isOk = true then hit else combinator.finish matched := by
  induction outcomes with
  | nil => rfl
  | cons outcome others ih =>
    rw [List.forall_mem_cons] at decided
    obtain ⟨rfl | ⟨violation, rfl⟩, decided⟩ := decided
    · rw [conclude, settle, Except.ok_bind, hits]
      rfl
    · rw [conclude, settle, Except.ok_bind, misses]
      exact ih decided

/-- What `oneOf` makes of the number of matches. -/
def tally : Nat → Except Failure Unit
  | 0 => violate .noMatch
  | 1 => .ok ()
  | _ + 2 => violate .manyMatches

theorem conclude_oneOf (decided : ∀ outcome ∈ outcomes, Decided outcome) :
    conclude .oneOf matched outcomes = tally (outcomes.countP Except.isOk + matched.toNat) := by
  induction outcomes generalizing matched with
  | nil => cases matched <;> rfl
  | cons outcome others ih =>
    rw [List.forall_mem_cons] at decided
    obtain ⟨rfl | ⟨violation, rfl⟩, decided⟩ := decided
    · rw [List.countP_cons_of_pos rfl]
      cases matched with
      | false => exact ih decided
      | true => rfl
    · rw [List.countP_cons_of_neg Bool.false_ne_true, ← ih decided]
      cases matched <;> rfl

theorem tally_settles (count : Nat) :
    Except.Settles (tally count) (count = 1) fun failure =>
      count = 0 ∧ failure = .violation .noMatch ∨ 2 ≤ count ∧ failure = .violation .manyMatches := by
  match count with
  | 0 => exact (Except.Settles.stop (.violation .noMatch)).congr (by simp) fun failure => by simp
  | 1 => exact Except.Settles.pass.congr (by simp) fun failure => by simp
  | more + 2 => exact (Except.Settles.stop (.violation .manyMatches)).congr (by simp) fun failure => by simp

/-- If every member accepts or refuses, stopping early does not change the answer. -/
theorem conclude_settles (decided : ∀ outcome ∈ outcomes, Decided outcome) :
    Except.Settles (combinator.conclude false outcomes) (combinator.Holds outcomes) (combinator.Fails outcomes) := by
  cases combinator with
  | allOf =>
    rw [conclude_allOf decided]
    exact .forM fun outcome _ => .itself outcome
  | anyOf =>
    rw [conclude_first decided rfl fun _ => rfl]
    refine (Except.Settles.accept _).congr any_isOk_iff fun failure => and_congr_left fun _ => none_isOk_iff decided
  | oneOf =>
    rw [conclude_oneOf decided]
    exact tally_settles _
  | not =>
    rw [conclude_first decided rfl fun _ => rfl]
    exact (Except.Settles.refuse _).congr (none_isOk_iff decided) fun failure => and_congr_left fun _ => any_isOk_iff

theorem conclude_decided (decided : ∀ outcome ∈ outcomes, Decided outcome) : Decided (combinator.conclude false outcomes) := by
  have settles : Except.Settles (combinator.conclude false outcomes) _ _ := conclude_settles decided
  cases concluded : combinator.conclude false outcomes with
  | ok => exact .inl rfl
  | error failure =>
    right
    have failed := (settles.error_iff failure).mp concluded
    cases combinator with
    | allOf =>
      obtain ⟨before, outcome, after, rfl, -, rfl⟩ := failed
      exact (decided _ (by simp)).resolve_left nofun
    | anyOf | not =>
      obtain ⟨-, rfl⟩ := failed
      exact ⟨_, rfl⟩
    | oneOf =>
      obtain ⟨-, rfl⟩ | ⟨-, rfl⟩ := failed <;> exact ⟨_, rfl⟩

end Conclusions

section Runs

variable {origin : Nat} {judge : Value → Ref → Run Unit} {prepare : Ref → Run Unit} {space : Workspace} {value : Value}
  {verdict : Value → Ref → Except Failure Unit} {prepared : Ref → Except Failure Unit} {schemas : List Ref}

theorem search_cons (schema : Ref) :
    combinator.search value matched (schema :: schemas) = .judge value schema fun answer =>
      match combinator.step matched answer with
      | .next matched => combinator.search value matched schemas
      | .stop result => .ofExcept result := rfl

/-- A search asks for the verdicts one by one. -/
theorem start_search :
    (start ((combinator.search value matched schemas).perform origin judge prepare) space).1 =
      combinator.conclude matched (Run.verdicts (judge value) space schemas) := by
  induction schemas generalizing matched space with
  | nil => exact congrArg Prod.fst (Program.start_ofExcept _)
  | cons schema others ih =>
    rw [search_cons, Program.start_judge, Run.verdicts, conclude]
    cases settle (start (judge value schema) space).1 with
    | error failure => rfl
    | ok answer =>
      simp only [Except.ok_bind]
      cases combinator.step matched answer with
      | next later => exact ih
      | stop result => exact congrArg Prod.fst (Program.start_ofExcept _)

theorem evaluate_search :
    (combinator.search value matched schemas).evaluate verdict prepared = combinator.conclude matched (schemas.map (verdict value)) := by
  induction schemas generalizing matched with
  | nil => exact Program.evaluate_ofExcept _
  | cons schema others ih =>
    rw [search_cons, Program.evaluate_judge, List.map_cons, conclude]
    congr 1
    funext answer
    cases combinator.step matched answer with
    | next later => exact ih
    | stop result => exact Program.evaluate_ofExcept _

theorem runAllOf_eq : runAllOf value (schemas.map .node) = search .allOf value matched schemas := by
  induction schemas with
  | nil => rfl
  | cons schema others ih =>
    rw [search_cons, List.map_cons, runAllOf, ih]
    refine congrArg (Program.judge value schema) (funext fun answer => ?_)
    cases answer <;> rfl

theorem runAnyOf_eq : runAnyOf value (schemas.map .node) = search .anyOf value matched schemas := by
  induction schemas with
  | nil => rfl
  | cons schema others ih =>
    rw [search_cons, List.map_cons, runAnyOf, ih]
    refine congrArg (Program.judge value schema) (funext fun answer => ?_)
    cases answer <;> rfl

theorem runOneOf_eq : runOneOf value matched (schemas.map .node) = search .oneOf value matched schemas := by
  induction schemas generalizing matched with
  | nil => cases matched <;> rfl
  | cons schema others ih =>
    rw [search_cons, List.map_cons, runOneOf]
    refine congrArg (Program.judge value schema) (funext fun answer => ?_)
    cases answer with
    | none =>
      cases matched with
      | false => exact ih
      | true => rfl
    | some violation => cases matched <;> exact ih

end Runs

section Nodes

variable {graph : Graph} {mode : MultipleMode} {node part : Ref} {fields : Entries Ref} {value : Value}

theorem liveMembers_run {keyword : String} {fits : Ref → Prop} (holds : graph.HoldsItems node keyword fits) :
    liveMembers graph node keyword =
      .done ((((graph.field? node keyword).bind fun part => (graph.shape part).items?).getD []).map .node) := by
  obtain ⟨part, fixed, items, found, shaped, -⟩ := holds
  rw [liveMembers, membersOf_eq found shaped, found, Option.bind_some, shaped]
  rfl

theorem check_run (fits : combinator.check.Fits graph node) :
    combinator.check.run graph mode value node = combinator.search value false (combinator.schemas graph node) := by
  cases combinator with
  | allOf =>
    simp only [check, Check.run]
    rw [liveMembers_run fits]
    exact runAllOf_eq
  | anyOf =>
    simp only [check, Check.run]
    rw [liveMembers_run fits]
    exact runAnyOf_eq
  | oneOf =>
    simp only [check, Check.run]
    rw [liveMembers_run fits]
    exact runOneOf_eq
  | not =>
    obtain ⟨schema, found, -⟩ := fits
    simp only [check, Check.run, schemas, keyword, found, Program.live_require found]
    refine congrArg (Program.judge value schema) (funext fun answer => ?_)
    cases answer <;> rfl

/-- A node has the check of a combinator just if it has the keyword. -/
theorem check_mem_iff {all : List Check} (object : graph.shape node = .object fields) (compiled : compileNode graph node = .ok all) :
    combinator.check ∈ all ↔ (graph.field? node combinator.keyword).isSome = true := by
  constructor
  · intro member
    have fits := compileNode_fits compiled _ member
    cases combinator with
    | allOf | anyOf | oneOf =>
      obtain ⟨part, _, _, found, _⟩ := fits
      exact Option.isSome_of_mem found
    | not =>
      obtain ⟨part, found, _⟩ := fits
      exact Option.isSome_of_mem found
  · intro present
    rw [compileNode, object] at compiled
    obtain ⟨before, own, after, rfl, made⟩ := Family.compileAll_split compiled
      (List.mem_append_right _ (List.mem_singleton_self Family.combinators))
    have settled : (outline graph fields).present combinator.keyword = true :=
      (congrArg Option.isSome (Graph.field?_eq object _)).symm.trans present
    rw [compileCombinators_ok made]
    refine List.mem_append_left _ (List.mem_append_right _ ?_)
    cases combinator <;> simp_all [Outline.given, keyword, check]

/-- A single check is run on any workspace like the search among its members. -/
theorem start_enforce (object : graph.shape node = .object fields) (fits : combinator.check.Fits graph node)
    (identity origin : Nat) (mode : MultipleMode) (space : Workspace) :
    (start (Run.enforce graph ⟨identity, origin, mode, [combinator.check]⟩ value node) space).1 =
      combinator.conclude false (Run.verdicts (Run.validateAt graph (graph.budget value) mode value) space (combinator.schemas graph node)) := by
  rw [Run.enforce, judgeNode_object object, Check.runAll, check_run fits, Program.start_perform_bind, ← start_search]
  split
  next ended => rw [ended]; rfl
  next ended => rw [ended]

theorem evaluate_eq (object : graph.shape node = .object fields) (compiled : compileNode graph node = .ok [combinator.check])
    (fits : combinator.check.Fits graph node) :
    graph.evaluate mode value node = combinator.conclude false ((combinator.schemas graph node).map (graph.evaluate mode value)) := by
  rw [evaluate_unfold, evaluateAt, compiled, Except.ok_bind, judgeNode_object object, Check.runAll, Program.evaluate_bind, check_run fits,
    evaluate_search]
  change (combinator.conclude false ((combinator.schemas graph node).map (graph.evaluate mode value)) >>= fun _ => .ok ()) = _
  cases combinator.conclude false ((combinator.schemas graph node).map (graph.evaluate mode value)) <;> rfl

end Nodes

end Combinator

/-- A schema is a combinator and nothing else. -/
def Graph.Only (graph : Graph) (node : Ref) (combinator : Combinator) (part : Ref) : Prop :=
  graph.shape node = .object [(.text combinator.keyword, part)]

/-- No list is stale, and nothing was remembered. -/
abbrev Workspace.Current (graph : Graph) (mode : MultipleMode) : Workspace → Prop :=
  Sound mode (fun _ => False) (fun node compiled => compileNode graph node = .ok compiled.checks) (fun _ => False) fun _ => True

/-- A cache without stale lists serves every node, whether or not it compiles. -/
theorem Graph.serves_current (graph : Graph) (mode : MultipleMode) (node : Ref) : graph.Serves mode (Workspace.Current graph mode) node := by
  have upkeep := Workspace.upkeep_synced graph mode
  cases compiled : compileNode graph node with
  | ok checks => exact serves_of_sound upkeep (Workspace.answers_synced graph mode _) trivial ⟨checks, compiled⟩
  | error failure =>
    refine ⟨fun space sound => sound.moves upkeep (Run.MovesBy.checksFor node space), fun space sound other fails => ?_,
      fun space sound checks compiles => nomatch compiled.symm.trans compiles⟩
    cases cached : space.cache.get? node with
    | none => rw [Run.start_checksFor_fail cached fails]
    | some list => cases fails.symm.trans (sound.tracked.lists node list cached (sound.current node trivial list cached))

theorem Run.verdicts_ends {kept : Workspace → Prop} {judge : Ref → Run Unit} {verdict : Ref → Except Failure Unit} {space : Workspace}
    {schemas : List Ref} (ends : ∀ schema, Run.Ends kept (judge schema) (verdict schema)) (holds : kept space) :
    verdicts judge space schemas = schemas.map verdict := by
  induction schemas generalizing space with
  | nil => rfl
  | cons schema others ih =>
    obtain ⟨same, still⟩ := ends schema space holds
    rw [verdicts, List.map_cons, same, ih still]

namespace Validator

variable {graph : Graph} {validator : Validator} {value : Value}

/-- The verdict of a schema after some tasks. -/
def verdictAfter (validator : Validator) (graph : Graph) (tasks : List Task) (value : Value) (schema : Ref) : Except Failure Unit :=
  (start (Run.validateAt graph (graph.budget value) validator.mode value schema) (validator.work graph tasks .empty)).1

theorem verdicts_work (validator : Validator) (graph : Graph) (tasks : List Task) (value : Value) (schemas : List Ref) :
    Run.verdicts (Run.validateAt graph (graph.budget value) validator.mode value) (validator.work graph tasks .empty) schemas =
      schemas.map (graph.evaluate validator.mode value) := by
  have current : Workspace.Current graph validator.mode (validator.work graph tasks .empty) :=
    Workspace.Sound.moves (Workspace.upkeep_synced graph validator.mode) (work_moves validator graph tasks .empty)
      ⟨Workspace.tracked_empty validator.mode _ _, fun _ _ _ _ impossible => impossible⟩
  refine Run.verdicts_ends (fun schema => ?_) current
  exact validateAt_ends (fun _ => True) (fun _ _ _ _ => trivial) (fun node _ => graph.serves_current validator.mode node) _ value trivial

theorem verdictAfter_eq (tasks : List Task) (schema : Ref) :
    validator.verdictAfter graph tasks value schema = graph.evaluate validator.mode value schema :=
  List.head_eq_of_cons_eq (verdicts_work validator graph tasks value [schema])

end Validator

section Laws

variable {graph : Graph} {mode : MultipleMode} {node part : Ref} {combinator : Combinator} {fields : Entries Ref} {value : Value}

theorem Decided.refusal_iff {outcome : Except Failure Unit} (decided : Decided outcome) : Refusal outcome ↔ ¬ outcome = .ok () := by
  refine ⟨?_, decided.resolve_left⟩
  rintro ⟨violation, rfl⟩ accepted
  cases accepted

/-- What gives a verdict is a schema. -/
theorem Graph.isSchema_of_decided (decided : Decided (graph.evaluate mode value node)) : graph.isSchema node = true := by
  rw [evaluate_unfold, evaluateAt, compileNode] at decided
  rw [Graph.isSchema]
  cases shaped : graph.shape node with
  | bool | object => rfl
  | null | number | text | bytes | array =>
    rw [shaped] at decided
    obtain accepted | ⟨violation, refused⟩ := decided
    · cases accepted
    · cases refused

theorem Family.compileAll_idle {families rest : List Family} (idle : ∀ family ∈ families, family.compile graph fields = .ok []) :
    compileAll graph fields (families ++ rest) = compileAll graph fields rest := by
  induction families with
  | nil => rfl
  | cons family others ih =>
    rw [List.forall_mem_cons] at idle
    rw [List.cons_append, compileAll, idle.1, Except.ok_bind, ih idle.2]
    cases compileAll graph fields rest <;> rfl

namespace Graph.Only

theorem field?_eq (only : graph.Only node combinator part) : graph.field? node combinator.keyword = some part := by
  rw [Graph.field?_eq only]
  exact if_pos rfl

/-- Only the combinators of such a node are compiled into checks. -/
theorem compileNode_eq (only : graph.Only node combinator part) :
    compileNode graph node = compileCombinators graph [(.text combinator.keyword, part)] := by
  have idle : ∀ family ∈ Family.kind :: Family.typed, family.compile graph [(.text combinator.keyword, part)] = .ok [] := by
    simp only [Family.typed, List.forall_mem_cons]
    cases combinator <;> exact ⟨rfl, rfl, rfl, rfl, rfl, rfl, nofun⟩
  have selected : Family.selected graph [(.text combinator.keyword, part)] = Family.typed := by
    cases combinator <;> rfl
  rw [compileNode, only]
  simp only []
  rw [selected, Family.compileAll_idle idle, Family.compileAll, Family.compile]
  cases compileCombinators graph [(.text combinator.keyword, part)] with
  | error failure => rfl
  | ok checks => exact congrArg Except.ok (List.append_nil checks)

theorem compiled_eq {checks : List Check} (only : graph.Only node combinator part)
    (compiled : compileNode graph node = .ok checks) : checks = [combinator.check] := by
  rw [only.compileNode_eq] at compiled
  rw [compileCombinators_ok compiled]
  cases combinator <;> rfl

theorem evaluate_eq {checks : List Check} (only : graph.Only node combinator part)
    (compiled : compileNode graph node = .ok checks) :
    graph.evaluate mode value node = combinator.conclude false ((combinator.schemas graph node).map (graph.evaluate mode value)) := by
  obtain rfl := only.compiled_eq compiled
  refine Combinator.evaluate_eq only compiled ?_
  exact compileCombinators_fits only (only.compileNode_eq ▸ compiled) _ List.mem_cons_self

/-- A value is decided by a combinator if it is decided by its members. -/
theorem settles (only : graph.Only node combinator part) (compiles : Succeeds (compileNode graph node))
    (decided : ∀ schema ∈ combinator.schemas graph node, Decided (graph.evaluate mode value schema)) :
    Except.Settles (graph.evaluate mode value node) (combinator.Holds ((combinator.schemas graph node).map (graph.evaluate mode value)))
        (combinator.Fails ((combinator.schemas graph node).map (graph.evaluate mode value))) ∧
      Decided (graph.evaluate mode value node) := by
  obtain ⟨checks, compiled⟩ := compiles
  rw [only.evaluate_eq compiled]
  have all := List.forall_mem_map.mpr decided
  exact ⟨Combinator.conclude_settles all, Combinator.conclude_decided all⟩

theorem compiles (only : graph.Only node combinator part) (forms : combinator.Forms graph part) : Succeeds (compileNode graph node) := by
  have absent : ∀ {keyword form}, keyword ≠ combinator.keyword →
      Entries.Declares [(.text combinator.keyword, part)] keyword form := by
    intro keyword form other
    refine Entries.declares_absent ?_
    simp [Entries.keyword?, Table.get?, Ne.symm other]
  have found : Entries.keyword? [(.text combinator.keyword, part)] combinator.keyword = some part := if_pos rfl
  have present : Entries.Declares _ _ (combinator.Forms graph) := (Entries.declares_found found).mpr forms
  rw [only.compileNode_eq]
  refine compileCombinators_succeeds.mpr ?_
  cases combinator with
  | allOf => exact ⟨present, absent (by decide), absent (by decide), absent (by decide)⟩
  | anyOf => exact ⟨absent (by decide), present, absent (by decide), absent (by decide)⟩
  | oneOf => exact ⟨absent (by decide), absent (by decide), present, absent (by decide)⟩
  | not => exact ⟨absent (by decide), absent (by decide), absent (by decide), present⟩

theorem isSchema (only : graph.Only node combinator part) : graph.isSchema node = true := by
  rw [Graph.isSchema, only]
  rfl

theorem schemas_not (only : graph.Only node .not part) : Combinator.schemas graph node .not = [part] := by
  simp only [Combinator.schemas, only.field?_eq, Option.toList]

theorem not_ok_iff (only : graph.Only node .not part) (decided : Decided (graph.evaluate mode value part)) :
    (graph.evaluate mode value node = .ok () ↔ ¬ graph.evaluate mode value part = .ok ()) ∧ Decided (graph.evaluate mode value node) := by
  obtain ⟨settles, decides⟩ := only.settles (only.compiles (isSchema_of_decided decided)) (by simpa [only.schemas_not] using decided)
  refine ⟨settles.ok_iff.trans ?_, decides⟩
  rw [only.schemas_not, ← decided.refusal_iff]
  exact List.forall_mem_singleton

theorem schemas_eq {schemas : List Ref} (only : graph.Only node combinator part) (several : combinator ≠ .not)
    (listed : (graph.shape part).items? = some schemas) : combinator.schemas graph node = schemas := by
  cases combinator with
  | allOf | anyOf | oneOf => simp only [Combinator.schemas, only.field?_eq, Option.bind_some, listed, Option.getD_some]
  | not => exact absurd rfl several

theorem listsMembers {schemas : List Ref} (listed : (graph.shape part).items? = some schemas) (filled : schemas ≠ [])
    (each : ∀ schema ∈ schemas, graph.isSchema schema = true) : ListsMembers graph part := by
  obtain ⟨fixed, shaped⟩ := Graph.items?_eq_some listed
  exact ⟨fixed, schemas, shaped, filled, each⟩

/-- Refusing what a schema refuses is accepting what it accepts. -/
theorem not_not_ok_iff {outer middle inner : Ref} (twice : graph.Only outer .not middle) (once : graph.Only middle .not inner)
    (decided : Decided (graph.evaluate mode value inner)) :
    graph.evaluate mode value outer = .ok () ↔ graph.evaluate mode value inner = .ok () := by
  obtain ⟨refuses, decides⟩ := once.not_ok_iff decided
  rw [(twice.not_ok_iff decides).1, refuses, not_not]

theorem forall_not_ok_iff {schemas nots : List Ref} (each : List.Forall₂ (fun negation schema => graph.Only negation .not schema) nots schemas)
    (decided : ∀ schema ∈ schemas, Decided (graph.evaluate mode value schema)) :
    (∀ negation ∈ nots, graph.isSchema negation = true ∧ Decided (graph.evaluate mode value negation)) ∧
      ((∀ negation ∈ nots, graph.evaluate mode value negation = .ok ()) ↔
        ∀ schema ∈ schemas, ¬ graph.evaluate mode value schema = .ok ()) := by
  induction each with
  | nil => exact ⟨List.forall_mem_nil _, iff_of_true (List.forall_mem_nil _) (List.forall_mem_nil _)⟩
  | cons only _ ih =>
    rw [List.forall_mem_cons] at decided
    obtain ⟨refuses, decides⟩ := only.not_ok_iff decided.1
    obtain ⟨others, same⟩ := ih decided.2
    refine ⟨List.forall_mem_cons.mpr ⟨⟨only.isSchema, decides⟩, others⟩, ?_⟩
    rw [List.forall_mem_cons, List.forall_mem_cons, refuses, same]

/-- No schema accepts just if all their negations do. -/
theorem not_anyOf_ok_iff {neither any list all negations : Ref} {schemas nots : List Ref} (refuses : graph.Only neither .not any)
    (either : graph.Only any .anyOf list) (listed : (graph.shape list).items? = some schemas) (filled : schemas ≠ [])
    (both : graph.Only all .allOf negations) (negated : (graph.shape negations).items? = some nots)
    (each : List.Forall₂ (fun negation schema => graph.Only negation .not schema) nots schemas)
    (decided : ∀ schema ∈ schemas, Decided (graph.evaluate mode value schema)) :
    graph.evaluate mode value neither = .ok () ↔ graph.evaluate mode value all = .ok () := by
  obtain ⟨negations, accepts⟩ := forall_not_ok_iff each decided
  have several : nots ≠ [] := by
    rintro rfl
    cases each
    exact filled rfl
  have members := either.schemas_eq nofun listed
  have others := both.schemas_eq nofun negated
  obtain ⟨any_settles, any_decided⟩ := either.settles
    (either.compiles (listsMembers listed filled fun schema member => isSchema_of_decided (decided schema member))) (members ▸ decided)
  obtain ⟨all_settles, _⟩ := both.settles
    (both.compiles (listsMembers negated several fun negation member => (negations negation member).1))
    (others ▸ fun negation member => (negations negation member).2)
  rw [(refuses.not_ok_iff any_decided).1, any_settles.ok_iff, all_settles.ok_iff, members, others]
  rw [Combinator.Holds, Combinator.Holds, List.forall_mem_map, accepts]
  simp only [List.mem_map, exists_exists_and_eq_and, not_exists, not_and]

end Graph.Only

end Laws

/-- What the checks of the combinators of a node make of a value, on any workspace, by what its members
say there one after another. If each of them accepts or refuses, a combinator passes or fails as it
is meant to. A failure that is no refusal comes out unchanged, if the members before it do not decide
the combinator. After any calls on the same schema a member says the same wherever it is asked; then
`not` undoes itself, and it turns `anyOf` into `allOf`. -/
theorem combinators_settle {graph : Graph} {node : Ref} {fields : Entries Ref} {all : List Check}
    (object : graph.shape node = .object fields) (compiled : compileNode graph node = .ok all) :
    (∀ combinator : Combinator, combinator.check ∈ all ↔ (graph.field? node combinator.keyword).isSome = true) ∧
    (∀ combinator : Combinator, combinator.check ∈ all → ∀ identity origin mode value space outcomes,
      Run.verdicts (Run.validateAt graph (graph.budget value) mode value) space (combinator.schemas graph node) = outcomes →
      ((∀ outcome ∈ outcomes, Decided outcome) →
        Except.Settles (start (Run.enforce graph ⟨identity, origin, mode, [combinator.check]⟩ value node) space).1
          (combinator.Holds outcomes) (combinator.Fails outcomes)) ∧
      ∀ before failure after, outcomes = before ++ .error failure :: after → ¬ failure.IsViolation → combinator.Undecided before →
        (start (Run.enforce graph ⟨identity, origin, mode, [combinator.check]⟩ value node) space).1 = .error failure) ∧
    (Violation.noMatch.report.code = "no_match" ∧ Violation.manyMatches.report.code = "multiple_matches") ∧
    ∀ (validator : Validator) (tasks : List Task) (value : Value),
      (∀ schemas, Run.verdicts (Run.validateAt graph (graph.budget value) validator.mode value) (validator.work graph tasks .empty) schemas =
        schemas.map (validator.verdictAfter graph tasks value)) ∧
      (∀ outer middle inner, graph.Only outer .not middle → graph.Only middle .not inner →
        Decided (validator.verdictAfter graph tasks value inner) →
        (validator.verdictAfter graph tasks value outer = .ok () ↔ validator.verdictAfter graph tasks value inner = .ok ())) ∧
      ∀ neither any list all negations schemas nots, graph.Only neither .not any → graph.Only any .anyOf list →
        (graph.shape list).items? = some schemas → schemas ≠ [] → graph.Only all .allOf negations →
        (graph.shape negations).items? = some nots → List.Forall₂ (fun negation schema => graph.Only negation .not schema) nots schemas →
        (∀ schema ∈ schemas, Decided (validator.verdictAfter graph tasks value schema)) →
        (validator.verdictAfter graph tasks value neither = .ok () ↔ validator.verdictAfter graph tasks value all = .ok ()) := by
  have fits := compileNode_fits compiled
  refine ⟨fun combinator => Combinator.check_mem_iff object compiled, ?_, ⟨rfl, rfl⟩, fun validator tasks value => ⟨?_, ?_, ?_⟩⟩
  · rintro combinator member identity origin mode value space outcomes rfl
    rw [Combinator.start_enforce object (fits _ member)]
    refine ⟨Combinator.conclude_settles, fun before failure after split stuck undecided => ?_⟩
    rw [split, Combinator.conclude_propagates undecided stuck]
  · intro schemas
    rw [Validator.verdicts_work]
    exact List.map_congr_left fun schema _ => (Validator.verdictAfter_eq tasks schema).symm
  · simp only [Validator.verdictAfter_eq]
    exact fun _ _ _ => Graph.Only.not_not_ok_iff
  · simp only [Validator.verdictAfter_eq]
    exact fun _ _ _ _ _ _ _ => Graph.Only.not_anyOf_ok_iff

/-- Exactly one of two schemas, of which the second is malformed and was not compiled yet. -/
def malformedGraph : Graph :=
  ⟨#[.object [(.text "oneOf", .node 1)], .array false [.bool true, .node 2], .object [(.text "type", .node 3)], .text "real"]⟩

/-- One match decides nothing, so the defect of the other member is met. -/
theorem combinators_settle_malformed :
    (∃ fields, malformedGraph.shape (.node 0) = .object fields ∧ compileNode malformedGraph (.node 0) = .ok [.oneOf]) ∧
    (start (Run.enforce malformedGraph ⟨0, 0, .decimal, [.oneOf]⟩ .null (.node 0)) .empty).1 = .error (.defect (.unknownType "real")) := by
  have object : malformedGraph.shape (.node 0) = .object [(.text "oneOf", .node 1)] := rfl
  have compiled : compileNode malformedGraph (.node 0) = .ok [.oneOf] := rfl
  obtain ⟨members, settles, -⟩ := combinators_settle object compiled
  have said : Run.verdicts (Run.validateAt malformedGraph (malformedGraph.budget .null) .decimal .null) .empty
      (Combinator.schemas malformedGraph (.node 0) .oneOf) = [.ok (), .error (.defect (.unknownType "real"))] := rfl
  have accepted : ∀ outcome ∈ [(.ok () : Except Failure Unit)], Decided outcome := List.forall_mem_singleton.mpr (.inl rfl)
  exact ⟨⟨_, object, compiled⟩, (settles .oneOf ((members .oneOf).mpr rfl) 0 0 .decimal .null .empty _ said).2 [.ok ()] _ [] rfl id
    ⟨accepted, le_of_eq rfl⟩⟩

end LiveSchema
