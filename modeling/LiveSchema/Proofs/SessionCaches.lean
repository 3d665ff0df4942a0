import LiveSchema.Proofs.ConstantBooleans
import LiveSchema.Proofs.SharedCache

/-! What becomes of the caches of a session. A step works on one of them at most, and on it
it performs some tasks. What these tasks keep holds of all caches after the step. -/

namespace LiveSchema

open Run (start)

namespace Run.Keeps

variable {kept : Workspace → Prop} {α β : Type}

theorem pure (result : α) : Keeps kept (Pure.pure result : Run α) := fun _ holds => holds

theorem throw (failure : Failure) : Keeps kept (MonadExcept.throw failure : Run α) := fun _ holds => holds

theorem get : Keeps kept (MonadState.get : Run Workspace) := fun _ holds => holds

theorem bind {step : Run α} {rest : α → Run β} (first : Keeps kept step) (continues : ∀ result, Keeps kept (rest result)) :
    Keeps kept (step >>= rest) := by
  intro space holds
  have still := first space holds
  rw [start_bind]
  generalize start step space = ended at still
  obtain ⟨failure | result, after⟩ := ended
  · exact still
  · exact continues result after still

theorem discard {step : Run α} (keeps : Keeps kept step) : Keeps kept (Functor.discard step) := by
  intro space holds
  rw [start_discard]
  exact keeps space holds

theorem of_discard {step : Run α} (keeps : Keeps kept (Functor.discard step)) : Keeps kept step := by
  intro space holds
  have still := keeps space holds
  rwa [start_discard] at still

end Run.Keeps

open Run (Keeps)

/-- The tasks that a step performs are of some kind. Lists that are put into a cache from
outside, and edits, are no tasks. -/
def Step.Performs (kind : Task → Prop) : Step → Prop
  | .compile _ => kind .compile
  | .checksFor .. => ∀ node, kind (.checksFor node)
  | .recompile .. => kind .recompileAll ∧ ∀ node, kind (.recompile node)
  | .validate _ value => kind (.validate value)
  | .check _ value => kind (.check value)
  | .isValid _ value => kind (.isValid value)
  | .invalidate .. => ∀ node, kind (.invalidate node)
  | .clear _ => kind .clear
  | .put .. | .set .. | .link .. | .append .. | .delete .. => False
  | _ => True

namespace Session

/-- Something holds of every cache. -/
def Caches (kept : Nat → Cache → Prop) (session : Session) : Prop := ∀ index, kept index (session.cacheAt index)

variable {kept : Nat → Cache → Prop} {session : Session}

theorem cacheAt_absorb (session : Session) (index : Nat) (space : Workspace) (other : Nat) :
    index = other ∧ (session.absorb index space).cacheAt other = space.cache ∨
      (session.absorb index space).cacheAt other = session.cacheAt other := by
  simp only [cacheAt, absorb, List.getElem?_set]
  split
  next same =>
    split
    · exact .inl ⟨same, rfl⟩
    next outside => exact .inr (by rw [← same, List.getElem?_eq_none (by omega)])
  next => exact .inr rfl

/-- A new cache is as empty as a missing one. -/
theorem cacheAt_addCache (session : Session) (index : Nat) : session.addCache.2.cacheAt index = session.cacheAt index := by
  simp only [addCache, cacheAt, List.getElem?_append]
  split
  · rfl
  next outside =>
    rw [List.getElem?_eq_none (Nat.le_of_not_lt outside)]
    cases position : index - session.caches.length <;> rfl

theorem Caches.absorb (holds : session.Caches kept) {index : Nat} {space : Workspace} (after : kept index space.cache) :
    (session.absorb index space).Caches kept := by
  intro other
  rcases session.cacheAt_absorb index space other with ⟨rfl, worked⟩ | same
  · rw [worked]
    exact after
  · rw [same]
    exact holds other

theorem Caches.runAs (holds : session.Caches kept) (name : String) {work : Tenant → Run α}
    (keeps : ∀ tenant, Keeps (fun space => kept tenant.cache space.cache) (work tenant)) :
    (session.runAs name work).2.2.Caches kept := by
  unfold Session.runAs
  split
  · exact holds
  next tenant _ => exact holds.absorb (keeps tenant _ (holds tenant.cache))

theorem Caches.runListed (holds : session.Caches kept) (name : String) {work : Tenant → Run (Ref × Compiled)}
    (keeps : ∀ tenant, Keeps (fun space => kept tenant.cache space.cache) (work tenant)) :
    (session.runListed name work).session.Caches kept := by
  unfold Session.runListed
  generalize ran : session.runAs name _ = outcome
  have after : outcome.2.2.Caches kept := ran ▸ holds.runAs name fun tenant => (keeps tenant).map _
  obtain ⟨_ | ⟨cache, node, compiled⟩, log, after⟩ := outcome <;> exact after

theorem Caches.runOn (holds : session.Caches kept) (holder : Holder) {work : Run Answer}
    (keeps : ∀ cache, Keeps (fun space => kept cache space.cache) work) :
    (session.runOn holder work).session.Caches kept := by
  unfold Session.runOn
  split
  · exact holds
  next cache _ => exact holds.absorb (keeps cache _ (holds cache))

theorem Caches.chooseCache (holds : session.Caches kept) {cache : Option String} {chosen : Nat × Session}
    (chooses : session.chooseCache cache = .ok chosen) : chosen.2.Caches kept := by
  unfold Session.chooseCache at chooses
  split at chooses
  · cases chooses
    exact fun index => session.cacheAt_addCache index ▸ holds index
  · split at chooses <;> cases chooses
    exact holds

theorem Caches.newValidator (holds : session.Caches kept) (name : String) (path : List Key) (settings : Option Value)
    (cache : Option String) : (session.newValidator name path settings cache).session.Caches kept := by
  unfold Session.newValidator
  dsimp only
  split
  · exact holds
  next tenant after made =>
    obtain ⟨root, _, made⟩ := Except.bind_ok made
    obtain ⟨read, _, made⟩ := Except.bind_ok made
    obtain ⟨validator, _, made⟩ := Except.bind_ok made
    obtain ⟨chosen, chooses, made⟩ := Except.bind_ok made
    cases made
    exact holds.chooseCache chooses

theorem locate_keeps {kept : Workspace → Prop} (path : List Key) : Keeps kept (session.locate path) := by
  unfold locate
  split
  · exact .pure _
  · exact .throw _

/-- A step leaves every cache as the tasks that it performs do. -/
theorem Caches.take {kind : Task → Prop} (holds : session.Caches kept)
    (keeps : ∀ validator cache task, kind task →
      Keeps (fun space => kept cache space.cache) (Validator.perform validator session.graph task))
    {step : Step} (performs : step.Performs kind) : (session.take step).session.Caches kept := by
  cases step with
  | newCache => exact fun index => session.cacheAt_addCache index ▸ holds index
  | newValidator name path settings cache => exact holds.newValidator name path settings cache
  | compile name =>
    exact holds.runListed name fun tenant => (keeps tenant.validator tenant.cache .compile performs).of_discard.map _
  | checksFor name path =>
    exact holds.runListed name fun tenant => .bind (locate_keeps path) fun node =>
      (keeps tenant.validator tenant.cache (.checksFor node) (performs node)).of_discard.map _
  | recompile name path =>
    apply holds.runListed name
    intro tenant
    have chosen : ∀ node : Ref, Keeps (fun space => kept tenant.cache space.cache) (if node = .null then do
        return (tenant.validator.schema, ← tenant.validator.recompileAll session.graph)
      else do return (node, ← tenant.validator.recompile session.graph node)) := by
      intro node
      split
      · exact (keeps tenant.validator tenant.cache .recompileAll performs.1).of_discard.map _
      · exact (keeps tenant.validator tenant.cache (.recompile node) (performs.2 node)).of_discard.map _
    cases path with
    | none => exact .bind (.pure _) chosen
    | some path => exact .bind (locate_keeps path) chosen
  | validate name value =>
    exact holds.runAs name fun tenant => (keeps tenant.validator tenant.cache (.validate value) performs).map _
  | check name value =>
    exact holds.runAs name fun tenant => (keeps tenant.validator tenant.cache (.check value) performs).of_discard.map _
  | isValid name value =>
    exact holds.runAs name fun tenant => (keeps tenant.validator tenant.cache (.isValid value) performs).of_discard.map _
  | has holder path => exact holds.runOn holder fun cache => .bind (locate_keeps path) fun _ => .bind .get fun _ => .pure _
  | get holder path => exact holds.runOn holder fun cache => .bind (locate_keeps path) fun _ => .bind .get fun _ => .pure _
  | invalidate holder path =>
    exact holds.runOn holder fun cache => .bind (locate_keeps path) fun node =>
      (keeps ⟨node, .standard⟩ cache (.invalidate node) (performs node)).of_discard.map _
  | clear holder =>
    exact holds.runOn holder fun cache => .bind (keeps ⟨.null, .standard⟩ cache .clear performs) fun _ => .pure _
  | size holder => exact holds.runOn holder fun cache => .bind .get fun _ => .pure _
  | nodes holder => exact holds.runOn holder fun cache => .bind .get fun _ => .pure _
  | «show» path =>
    simp only [Session.take]
    split <;> exact holds
  | put | set | link | append | delete => exact performs.elim

/-- Only an edit makes another library. -/
theorem take_library {kind : Task → Prop} {step : Step} (performs : step.Performs kind) :
    (session.take step).session.library = session.library := by
  cases step with
  | newCache => rfl
  | newValidator => exact newValidator_library ..
  | compile | checksFor | recompile => exact runListed_library ..
  | validate | check | isValid => exact runAnswer_library ..
  | has | get | invalidate | clear | size | nodes => exact runOn_library ..
  | «show» path =>
    simp only [Session.take]
    split <;> rfl
  | put | set | link | append | delete => exact performs.elim

end Session
end LiveSchema
