import LiveSchema.Proofs.EnumMemo

/-! Validation from a cache simulates evaluation without one. What a cached list
has to do is to answer, at its own node, like the list compiled anew; whatever
is kept of the workspace must be enough for that, and every run must keep it. -/

namespace LiveSchema

/-- On the same value a cached check ends like a fresh one, if the verdicts it
asks for do. -/
def Check.Agrees (kept : Workspace → Prop) (graph : Graph) (mode : MultipleMode) (node : Ref) (origin : Nat)
    (cached fresh : Check) : Prop :=
  ∀ (value : Value) (judge : Value → Ref → Run Unit) (prepare : Ref → Run Unit)
    (verdict : Value → Ref → Except Failure Unit) (prepared : Ref → Except Failure Unit),
    (∀ part schema, graph.Asks node value part schema → Run.Ends kept (judge part schema) (verdict part schema)) →
    (∀ schema ∈ graph.subschemas node, Run.Ends kept (prepare schema) (prepared schema)) →
    Run.Ends kept ((cached.run graph mode value node).perform origin judge prepare)
      ((fresh.run graph mode value node).evaluate verdict prepared)

/-- The checks that are found for a node, cached or not, do for fresh ones. -/
structure Graph.Serves (graph : Graph) (mode : MultipleMode) (kept : Workspace → Prop) (node : Ref) : Prop where
  keeps : ∀ space, kept space → kept (Run.start (Run.checksFor graph mode node) space).2
  fails : ∀ space, kept space → ∀ failure, compileNode graph node = .error failure →
    (Run.start (Run.checksFor graph mode node) space).1 = .error failure
  finds : ∀ space, kept space → ∀ checks, compileNode graph node = .ok checks →
    ∃ compiled, (Run.start (Run.checksFor graph mode node) space).1 = .ok compiled ∧ compiled.mode = mode ∧
      List.Forall₂ (Check.Agrees kept graph mode node compiled.origin) compiled.checks checks

variable {graph : Graph} {mode : MultipleMode} {kept : Workspace → Prop} {node : Ref} {origin : Nat}
  {fields : Entries Ref}

namespace Check

theorem agrees_of_run (object : graph.shape node = .object fields) {cached fresh : Check}
    (fits : fresh.Fits graph node) (plain : fresh.isEnum = false)
    (same : ∀ value, cached.run graph mode value node = fresh.run graph mode value node) :
    Agrees kept graph mode node origin cached fresh := by
  intro value judge prepare verdict prepared judges prepares
  rw [same value]
  exact Program.perform_ends judges prepares (fresh.run_within object fits plain value)

/-- An `enum` check agrees if what it remembers of the live array is what is there,
and if it may take note of that array. -/
theorem agrees_of_memo {cached fresh : Memo} (fits : (Check.enum fresh).Fits graph node)
    (sound : ∀ space, kept space → ((space.memos.get? origin).getD cached).source = fresh.source →
      ((space.memos.get? origin).getD cached).allowed = fresh.allowed)
    (notes : ∀ space, kept space → ((space.memos.get? origin).getD cached).source ≠ fresh.source →
      kept (space.noting origin fresh)) :
    Agrees kept graph mode node origin (.enum cached) (.enum fresh) := by
  intro value judge prepare verdict prepared _ _ space holds
  simp only [run, Keyword.evaluate_runEnum fits]
  by_cases same : ((space.memos.get? origin).getD cached).source = fresh.source
  · rw [Keyword.start_runEnum_same fits.1 same, sound space holds same]
    exact ⟨rfl, holds⟩
  · rw [Keyword.start_runEnum_other fits.1 same, Keyword.noted_eq fits.2, fits.2]
    exact ⟨rfl, notes space holds same⟩

theorem agrees_self (object : graph.shape node = .object fields) {check : Check} (fits : check.Fits graph node)
    (clean : ∀ space, kept space → space.memos.get? origin = none) :
    Agrees kept graph mode node origin check check := by
  cases kind : check.isEnum with
  | false => exact agrees_of_run object fits kind fun _ => rfl
  | true =>
    cases check with
    | enum memo =>
      refine agrees_of_memo fits (fun space holds _ => ?_) (fun space holds other => ?_)
      · rw [clean space holds]
        rfl
      · rw [clean space holds] at other
        exact absurd rfl other
    | null | types | const | object | isObject | number | isNumber | text | isText | array | isArray | isBoolean
    | allOf | anyOf | oneOf | not => cases kind

theorem agrees_fresh {checks : List Check} (compiled : compileNode graph node = .ok checks)
    (clean : ∀ space, kept space → space.memos.get? origin = none) :
    List.Forall₂ (Agrees kept graph mode node origin) checks checks := by
  rcases compileNode_object compiled with rfl | ⟨fields, object⟩
  · exact .nil
  · exact List.forall₂_same.mpr fun check member => agrees_self object (compileNode_fits compiled check member) clean

variable {value : Value} {judge : Value → Ref → Run Unit} {prepare : Ref → Run Unit}
  {verdict : Value → Ref → Except Failure Unit} {prepared : Ref → Except Failure Unit}

theorem runAll_ends {cached fresh : List Check}
    (agree : List.Forall₂ (Agrees kept graph mode node origin) cached fresh)
    (judges : ∀ part schema, graph.Asks node value part schema →
      Run.Ends kept (judge part schema) (verdict part schema))
    (prepares : ∀ schema ∈ graph.subschemas node, Run.Ends kept (prepare schema) (prepared schema)) :
    Run.Ends kept ((runAll graph mode value node cached).perform origin judge prepare)
      ((runAll graph mode value node fresh).evaluate verdict prepared) := by
  induction agree with
  | nil => exact fun space holds => ⟨rfl, holds⟩
  | cons first _ ih =>
    exact Program.perform_bind_ends (first value judge prepare verdict prepared judges prepares) fun _ => ih

end Check

theorem Graph.Serves.prepare_ends (serves : graph.Serves mode kept node) :
    Run.Ends kept (discard (Run.checksFor graph mode node)) (prepareNode graph node) := by
  intro space holds
  rw [Run.start_discard]
  refine ⟨?_, serves.keeps space holds⟩
  unfold prepareNode
  cases compiled : compileNode graph node with
  | error failure => rw [serves.fails space holds failure compiled]; rfl
  | ok checks =>
    obtain ⟨list, found, _⟩ := serves.finds space holds checks compiled
    rw [found]
    rfl

/-- In a region that leads nowhere else and is served, every validation ends like the evaluator. -/
theorem validateAt_ends (region : Ref → Prop)
    (closed : ∀ node, region node → ∀ inner ∈ graph.subschemas node, region inner)
    (serves : ∀ node, region node → graph.Serves mode kept node) (fuel : Nat) (value : Value)
    (inside : region node) :
    Run.Ends kept (Run.validateAt graph fuel mode value node) (evaluateAt graph mode fuel value node) := by
  induction fuel generalizing value node with
  | zero => exact fun space holds => ⟨rfl, holds⟩
  | succ fuel ih =>
    intro space holds
    have keeps := (serves node inside).keeps space holds
    simp only [Run.validateAt, evaluateAt]
    rw [Run.start_bind]
    cases compiled : compileNode graph node with
    | error failure =>
      have fails := (serves node inside).fails space holds failure compiled
      generalize Run.start (Run.checksFor graph mode node) space = ended at fails keeps
      obtain ⟨_, after⟩ := ended
      cases fails
      exact ⟨rfl, keeps⟩
    | ok checks =>
      obtain ⟨list, found, same, agree⟩ := (serves node inside).finds space holds checks compiled
      generalize Run.start (Run.checksFor graph mode node) space = ended at found keeps
      obtain ⟨_, after⟩ := ended
      cases found
      simp only [Except.ok_bind, same, judgeNode]
      split
      · exact ⟨rfl, keeps⟩
      · refine Check.runAll_ends agree (fun part schema asks => ?_) (fun schema nested => ?_) after keeps
        · exact ih part (closed node inside schema asks.1)
        · exact (serves schema (closed node inside schema nested)).prepare_ends

end LiveSchema
