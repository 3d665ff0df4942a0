import LiveSchema.Session
import LiveSchema.Proofs.Termination
import LiveSchema.Proofs.TrackedCache

/-! Caches are transparent. While the schema is not edited every cached list is
what its node compiles to, whichever validator compiled it and in whichever
cache, so no call can tell a cache from compiling anew. -/

namespace LiveSchema

open Relation (ReflTransGen)
open Run (MovesBy)
open Workspace (Moves Synced)

/-- Steps that call validators and caches and edit nothing. New validators keep to one mode. -/
def Step.Calls (mode : MultipleMode) : Step → Prop
  | .newValidator _ _ settings _ =>
    ∀ made, (Settings.ofData (settings.getD .null)).2 = .ok made → made.mode = mode
  | .put .. | .set .. | .link .. | .append .. | .delete .. => False
  | _ => True

namespace Session

def run (session : Session) (steps : List Step) : Session :=
  steps.foldl (fun session step => (session.take step).session) session

/-- No cache of the session holds a list that its node would not compile to. -/
structure Settled (graph : Graph) (mode : MultipleMode) (session : Session) : Prop where
  unedited : session.graph = graph
  synced : ∀ index compiled, Synced graph mode (fun _ => False) (session.workspace index compiled)
  modes : ∀ name tenant, session.tenants.get? name = some tenant → tenant.validator.mode = mode

variable {graph : Graph} {mode : MultipleMode} {session : Session}

theorem settled_idle (library : Library) : Settled library.graph mode (idle library) where
  unedited := rfl
  synced := by
    intro index compiled
    have tracked := Workspace.tracked_empty mode (fun node list => compileNode library.graph node = .ok list.checks)
      fun _ => False
    exact ⟨tracked.distinct, tracked.bounded, tracked.modes, tracked.origins, tracked.lists, tracked.memos⟩
  modes := fun _ _ found => nomatch found

theorem Settled.absorb (settled : Settled graph mode session) {index : Nat} {compiled : Bool} {after : Workspace}
    (moves : ReflTransGen (Moves graph mode) (session.workspace index compiled) after) (other : Nat) (flag : Bool) :
    Synced graph mode (fun _ => False) ((session.absorb index after).workspace other flag) := by
  have before := settled.synced other flag
  have tracked := (settled.synced index compiled).moves (Workspace.upkeep_synced graph mode) moves
  have later := Workspace.fresh_le_of_moves moves
  have placed : (session.absorb index after).cacheAt other = after.cache ∨
      (session.absorb index after).cacheAt other = session.cacheAt other := by
    simp only [cacheAt, Session.absorb, List.getElem?_set]
    split
    next same =>
      split
      · exact .inl rfl
      next outside => exact .inr (by rw [← same, List.getElem?_eq_none (by omega)])
    next => exact .inr rfl
  have exchanged : ∀ cache, Synced graph mode (fun _ => False) { after with cache } →
      (session.absorb index after).cacheAt other = cache →
      Synced graph mode (fun _ => False) ((session.absorb index after).workspace other flag) := by
    rintro cache synced rfl
    exact ⟨synced.distinct, synced.bounded, synced.modes, synced.origins, synced.lists, synced.memos⟩
  rcases placed with same | same
  · exact exchanged _ tracked same
  · exact exchanged _ (tracked.exchange before later) same

theorem Settled.runAs (settled : Settled graph mode session) (name : String) {step : Tenant → Run α}
    (moves : ∀ tenant, tenant.validator.mode = mode → MovesBy graph mode (step tenant)) :
    Settled graph mode (session.runAs name step).2.2 := by
  unfold Session.runAs
  split
  · exact settled
  next tenant found =>
    have inMode := settled.modes name tenant found
    refine ⟨settled.unedited, settled.absorb (moves tenant inMode _), ?_⟩
    intro other now found
    rcases Table.get?_set_eq_some.mp found with ⟨-, rfl⟩ | ⟨-, found⟩
    · exact inMode
    · exact settled.modes other now found

theorem Settled.of_runAs (settled : Settled graph mode session) {name : String} {step : Tenant → Run α}
    {result : Except Failure α} {log : List LogEntry} {after : Session}
    (ended : session.runAs name step = (result, log, after))
    (moves : ∀ tenant, tenant.validator.mode = mode → MovesBy graph mode (step tenant)) : Settled graph mode after := by
  have ran := settled.runAs name moves
  rw [ended] at ran
  exact ran

theorem Settled.runListed (settled : Settled graph mode session) (name : String)
    {step : Tenant → Run (Ref × Compiled)}
    (moves : ∀ tenant, tenant.validator.mode = mode → MovesBy graph mode (step tenant)) :
    Settled graph mode (session.runListed name step).session := by
  unfold Session.runListed
  split
  next result log after ended =>
    have ran : Settled graph mode after := by
      refine settled.of_runAs ended ?_
      intro tenant inMode
      exact .bind (moves tenant inMode) fun _ => .pure _
    cases result with
    | error failure => exact ran
    | ok handed => exact ⟨ran.unedited, ran.synced, ran.modes⟩

theorem Settled.runAnswer (settled : Settled graph mode session) (name : String) {step : Tenant → Run Answer}
    (moves : ∀ tenant, tenant.validator.mode = mode → MovesBy graph mode (step tenant)) :
    Settled graph mode (session.runAnswer name step).session :=
  settled.runAs name moves

theorem Settled.runOn (settled : Settled graph mode session) (holder : Holder) {step : Run Answer}
    (moves : MovesBy graph mode step) : Settled graph mode (session.runOn holder step).session := by
  unfold Session.runOn
  split
  · exact settled
  · exact ⟨settled.unedited, settled.absorb (moves _), settled.modes⟩

theorem locate_moves (path : List Key) : MovesBy graph mode (session.locate path) := by
  unfold locate
  split
  · exact .pure _
  · exact .throw _

theorem recompile_moves {tenant : Tenant} (path : Option (List Key)) :
    MovesBy session.graph tenant.validator.mode (session.recompile tenant path) := by
  have chosen : ∀ node : Ref, MovesBy session.graph tenant.validator.mode (if node = .null then do
      return (tenant.validator.schema, ← tenant.validator.recompileAll session.graph)
    else do return (node, ← tenant.validator.recompile session.graph node)) := by
    intro node
    split
    · exact .bind Validator.recompileAll_moves fun _ => .pure _
    · exact .bind (Validator.recompile_moves node) fun _ => .pure _
  cases path with
  | none => exact .bind (.pure _) chosen
  | some path => exact .bind (locate_moves path) chosen

/-- A new cache is as empty as a missing one. -/
theorem Settled.addCache (settled : Settled graph mode session) : Settled graph mode session.addCache.2 := by
  have same : ∀ index, session.addCache.2.cacheAt index = session.cacheAt index := by
    intro index
    simp only [Session.addCache, cacheAt, List.getElem?_append]
    split
    · rfl
    next outside =>
      rw [List.getElem?_eq_none (Nat.le_of_not_lt outside)]
      cases position : index - session.caches.length <;> rfl
  refine ⟨settled.unedited, fun index compiled => ?_, settled.modes⟩
  unfold workspace
  rw [same]
  exact settled.synced index compiled

theorem Settled.chooseCache (settled : Settled graph mode session) {cache : Option String} {chosen : Nat × Session}
    (chooses : session.chooseCache cache = .ok chosen) : Settled graph mode chosen.2 := by
  unfold Session.chooseCache at chooses
  split at chooses
  · cases chooses
    exact settled.addCache
  · split at chooses
    · cases chooses
      exact settled
    · cases chooses

theorem Settled.newValidator (settled : Settled graph mode session) (name : String) (path : List Key)
    {settings : Option Value} (cache : Option String)
    (inMode : ∀ made, (Settings.ofData (settings.getD .null)).2 = .ok made → made.mode = mode) :
    Settled graph mode (session.newValidator name path settings cache).session := by
  unfold Session.newValidator
  simp only []
  split
  · exact settled
  next tenant after made =>
    obtain ⟨root, _, made⟩ := Except.bind_ok made
    obtain ⟨read, reads, made⟩ := Except.bind_ok made
    obtain ⟨validator, makes, made⟩ := Except.bind_ok made
    obtain ⟨chosen, chooses, made⟩ := Except.bind_ok made
    have chosen_settled := settled.chooseCache chooses
    obtain ⟨index, others⟩ := chosen
    cases made
    refine ⟨chosen_settled.unedited, chosen_settled.synced, ?_⟩
    intro other now found
    rcases Table.get?_set_eq_some.mp found with ⟨-, rfl⟩ | ⟨-, found⟩
    · unfold Validator.make at makes
      split at makes
      · cases makes
        exact inMode read reads
      · cases makes
    · exact chosen_settled.modes other now found

/-- Every call keeps all caches in order. -/
theorem Settled.take {step : Step} (settled : Settled graph mode session) (calls : step.Calls mode) :
    Settled graph mode (session.take step).session := by
  have same := settled.unedited
  cases step with
  | newCache name => exact ⟨settled.addCache.unedited, settled.addCache.synced, settled.addCache.modes⟩
  | newValidator name path settings cache => exact settled.newValidator name path cache calls
  | compile name =>
    refine settled.runListed name fun tenant inMode => .bind ?_ fun _ => .pure _
    rw [same, ← inMode]
    exact Validator.compile_moves
  | checksFor name path =>
    refine settled.runListed name fun tenant inMode => .bind (locate_moves path) fun node => .bind ?_ fun _ => .pure _
    rw [same, ← inMode]
    exact .checksFor node
  | recompile name path =>
    apply settled.runListed name
    intro tenant inMode
    rw [← same, ← inMode]
    exact recompile_moves path
  | validate name value =>
    refine settled.runAnswer name fun tenant inMode => .bind ?_ fun _ => .pure _
    rw [same, ← inMode]
    exact Validator.validate_moves value
  | check name value =>
    refine settled.runAnswer name fun tenant inMode => .bind ?_ fun _ => .pure _
    rw [same, ← inMode]
    exact Validator.check_moves value
  | isValid name value =>
    refine settled.runAnswer name fun tenant inMode => .bind ?_ fun _ => .pure _
    rw [same, ← inMode]
    exact Validator.isValid_moves value
  | has holder path => exact settled.runOn holder (.bind (locate_moves path) fun _ => .bind .get fun _ => .pure _)
  | get holder path => exact settled.runOn holder (.bind (locate_moves path) fun _ => .bind .get fun _ => .pure _)
  | invalidate holder path =>
    exact settled.runOn holder (.bind (locate_moves path) fun node => .bind (.invalidate node) fun _ => .pure _)
  | clear holder => exact settled.runOn holder (.bind .clear fun _ => .pure _)
  | size holder => exact settled.runOn holder (.bind .get fun _ => .pure _)
  | nodes holder => exact settled.runOn holder (.bind .get fun _ => .pure _)
  | «show» path =>
    simp only [Session.take]
    split <;> exact settled
  | put | set | link | append | delete => exact calls.elim

theorem Settled.run {steps : List Step} (settled : Settled graph mode session)
    (calls : ∀ step ∈ steps, step.Calls mode) : Settled graph mode (session.run steps) := by
  induction steps generalizing session with
  | nil => exact settled
  | cons step rest ih =>
    exact ih (settled.take (calls step (by simp))) fun other later => calls other (List.mem_cons_of_mem _ later)

theorem answer_validate {name : String} {tenant : Tenant} (present : session.tenants.get? name = some tenant)
    (value : Value) :
    (session.take (.validate name value)).answer =
      (Run.start (tenant.validator.validate session.graph value)
        (session.workspace tenant.cache tenant.compiled)).1.map fun _ => .passed := by
  simp only [take, runAnswer, runAs, present, Run.start_bind]
  generalize Run.start (tenant.validator.validate session.graph value) _ = ended
  obtain ⟨failure | ⟨⟩, after⟩ := ended <;> rfl

/-- Whatever calls came before, every validation that ends at all ends as it does
without a cache. The calls may come from any number of validators of one mode,
eager or not, with caches of their own or shared ones. -/
theorem cache_transparent (library : Library) (mode : MultipleMode) {steps : List Step}
    (calls : ∀ step ∈ steps, step.Calls mode) {name : String} {tenant : Tenant}
    (present : ((idle library).run steps).tenants.get? name = some tenant)
    (compiles : library.graph.Compiles tenant.validator.schema) {value : Value} {fuel : Nat}
    (ends : evaluateAt library.graph mode fuel value tenant.validator.schema ≠ .error .endless) :
    (((idle library).run steps).take (.validate name value)).answer =
      (evaluateAt library.graph mode fuel value tenant.validator.schema).map fun _ => .passed := by
  have settled : Settled library.graph mode ((idle library).run steps) := (settled_idle library).run calls
  have same := settled.unedited
  have inMode := settled.modes name tenant present
  have synced := settled.synced tenant.cache tenant.compiled
  subst inMode
  have outcome := Validator.validate_ends (Workspace.upkeep_synced library.graph tenant.validator.mode)
    (Workspace.answers_synced _ _ _) compiles value _ ⟨synced, fun _ _ _ _ impossible => impossible⟩
  rw [answer_validate present value, same, outcome.1, evaluate_eq_of_ends ends]

def chainLibrary : Library := ⟨chainGraph, [("chain", .node 0)]⟩

/-- An eager and a lazy validator work on one cache. -/
def sharedCalls : List Step :=
  [.newCache "shared", .newValidator "eager" [.text "chain"] none (some "shared"),
    .newValidator "lazy" [.text "chain"] (some (.object [(.text "eager_compile", .bool false)])) (some "shared"),
    .validate "lazy" brokenChain, .recompile "eager" (some [.text "chain"]), .clear (.cache "shared"),
    .check "eager" brokenChain, .invalidate (.validator "lazy") [.text "chain"]]

theorem sharedCalls_calls : ∀ step ∈ sharedCalls, step.Calls .decimal := by
  simp only [sharedCalls, List.forall_mem_cons, Step.Calls]
  refine ⟨trivial, ?_, ?_, trivial, trivial, trivial, trivial, trivial, by simp⟩
  · intro made read
    cases read
    rfl
  · intro made read
    cases read
    rfl

/-- The lazy validator finds the broken link after all of this. -/
theorem cache_transparent_chain :
    ((idle chainLibrary).run sharedCalls).tenants.get? "lazy" =
      some ⟨⟨.node 0, ⟨.decimal, .bool false⟩⟩, 0, true⟩ ∧
    (((idle chainLibrary).run sharedCalls).take (.validate "lazy" brokenChain)).answer =
      .error (.violation .notObject) := by
  have present : ((idle chainLibrary).run sharedCalls).tenants.get? "lazy" =
      some ⟨⟨.node 0, ⟨.decimal, .bool false⟩⟩, 0, true⟩ := rfl
  have verdict : evaluateAt chainLibrary.graph .decimal 3 brokenChain (.node 0) =
      .error (.violation .notObject) := rfl
  refine ⟨present, ?_⟩
  have ends : evaluateAt chainLibrary.graph .decimal 3 brokenChain (.node 0) ≠ .error .endless := by
    rw [verdict]
    simp
  rw [cache_transparent chainLibrary .decimal sharedCalls_calls present chain_compiles ends, verdict]
  rfl

end Session
end LiveSchema
