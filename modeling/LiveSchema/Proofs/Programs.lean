import LiveSchema.Proofs.Runs

/-! Limits of a program: how it may fail and what it may ask for. A program that
stays within them ends, on any workspace that answers its questions like an
evaluator, as that evaluator says. -/

namespace LiveSchema

structure Limits where
  fails : Failure → Prop
  asks : Value → Ref → Prop
  prepares : Ref → Prop

def Limits.free : Limits := ⟨fun _ => True, fun _ _ => True, fun _ => True⟩

/-- The verdict that an outcome stands for; a failure that is no violation stands for none. -/
def settle : Except Failure Unit → Except Failure (Option Violation)
  | .ok () => .ok none
  | .error (.violation violation) => .ok (some violation)
  | .error failure => .error failure

@[simp]
theorem Run.start_verdict (step : Run Unit) {space : Workspace} :
    start (verdict step) space = (settle (start step space).1, (start step space).2) := by
  rw [verdict, start_bind_ok (start_attempt _)]
  rcases (start step space).1 with failure | ⟨⟩
  · cases failure <;> rfl
  · rfl

def Except.FailsAs (fails : Failure → Prop) (outcome : Except Failure α) : Prop :=
  ∀ failure, outcome = .error failure → fails failure

theorem Except.FailsAs.ok {fails : Failure → Prop} (result : α) : FailsAs fails (.ok result) :=
  fun _ failed => nomatch failed

theorem Except.FailsAs.error {fails : Failure → Prop} {failure : Failure} (allowed : fails failure) :
    FailsAs fails (.error failure : Except Failure α) := by
  intro other failed
  cases failed
  exact allowed

theorem Except.FailsAs.bind {fails : Failure → Prop} {first : Except Failure α} {rest : α → Except Failure β}
    (begins : FailsAs fails first) (continues : ∀ result, first = .ok result → FailsAs fails (rest result)) :
    FailsAs fails (first >>= rest) := by
  cases first with
  | error failure => exact .error (begins failure rfl)
  | ok result => exact continues result rfl

theorem settle_fails {fails : Failure → Prop} {outcome : Except Failure Unit}
    (allowed : Except.FailsAs fails outcome) : Except.FailsAs fails (settle outcome) := by
  rcases outcome with failure | ⟨⟩
  · cases failure with
    | violation violation => exact .ok (some violation)
    | defect | fault | setting | lookup | endless => exact .error (allowed _ rfl)
  · exact .ok none

namespace Program

/-- A program within limits remembers nothing and recollects nothing. -/
def Within (limits : Limits) : Program α → Prop
  | .done _ => True
  | .fail failure => limits.fails failure
  | .judge value node next => limits.asks value node ∧ ∀ verdict, (next verdict).Within limits
  | .prepare node next => limits.prepares node ∧ next.Within limits
  | .recollect _ => False
  | .remember _ _ => False

variable {limits : Limits}

theorem bind_done (result : α) (rest : α → Program β) : (.done result >>= rest) = rest result := rfl

theorem Within.bind {program : Program α} {rest : α → Program β} (first : program.Within limits)
    (continues : ∀ result, (rest result).Within limits) : (program >>= rest).Within limits := by
  change (program.bind rest).Within limits
  induction program with
  | done result => exact continues result
  | fail failure => exact first
  | judge value node next ih => exact ⟨first.1, fun verdict => ih verdict (first.2 verdict)⟩
  | prepare node next ih => exact ⟨first.1, ih first.2⟩
  | recollect next => exact first.elim
  | remember memo next => exact first.elim

theorem Within.weaken {program : Program α} {fails : Failure → Prop} (within : program.Within limits)
    (weaker : ∀ failure, limits.fails failure → fails failure) : program.Within { limits with fails } := by
  induction program with
  | done result => trivial
  | fail failure => exact weaker failure within
  | judge value node next ih => exact ⟨within.1, fun verdict => ih verdict (within.2 verdict)⟩
  | prepare node next ih => exact ⟨within.1, ih within.2⟩
  | recollect next => exact within.elim
  | remember memo next => exact within.elim

theorem within_ofExcept {outcome : Except Failure α} (fails : Except.FailsAs limits.fails outcome) :
    (ofExcept outcome).Within limits := by
  cases outcome with
  | ok result => trivial
  | error failure => exact fails failure rfl

theorem within_live {reading : Except Fault α}
    (fails : ∀ fault, reading = .error fault → limits.fails (.fault fault)) : (live reading).Within limits := by
  cases reading with
  | ok result => trivial
  | error fault => exact fails fault rfl

theorem within_descend {value : Value} {node : Ref} (asks : limits.asks value node)
    (fails : ∀ violation, limits.fails (.violation violation)) : (descend value node).Within limits := by
  refine ⟨asks, ?_⟩
  intro verdict
  cases verdict with
  | none => trivial
  | some violation => exact fails violation

theorem within_verdict {value : Value} {node : Ref} (asks : limits.asks value node) :
    (verdict value node).Within limits :=
  ⟨asks, fun _ => trivial⟩

section Interpreters

variable {origin : Nat} {judge : Value → Ref → Run Unit} {prepare : Ref → Run Unit} {space : Workspace}
  {verdict : Value → Ref → Except Failure Unit} {prepared : Ref → Except Failure Unit}

@[simp]
theorem evaluate_judge (value : Value) (node : Ref) (next : Option Violation → Program α) :
    evaluate verdict prepared (.judge value node next) =
      settle (verdict value node) >>= fun answer => evaluate verdict prepared (next answer) := by
  simp only [evaluate]
  split <;> simp_all [settle]
  · rfl
  · rfl
  next failure _ different =>
    cases failure <;> simp_all <;> rfl

@[simp]
theorem evaluate_prepare (node : Ref) (next : Program α) :
    evaluate verdict prepared (.prepare node next) =
      prepared node >>= fun _ => evaluate verdict prepared next := by
  simp only [evaluate]
  rcases prepared node with failure | ⟨⟩ <;> rfl

@[simp]
theorem evaluate_bind (program : Program α) (rest : α → Program β) :
    evaluate verdict prepared (program >>= rest) =
      evaluate verdict prepared program >>= fun result => evaluate verdict prepared (rest result) := by
  change evaluate verdict prepared (program.bind rest) = _
  induction program with
  | done result => rfl
  | fail failure => rfl
  | judge value node next ih =>
    simp [Program.bind, ih]
  | prepare node next ih =>
    simp [Program.bind, ih]
  | recollect next ih => exact ih none
  | remember memo next ih => exact ih

@[simp]
theorem start_judge (value : Value) (node : Ref) (next : Option Violation → Program α) :
    Run.start (perform origin judge prepare (.judge value node next)) space =
      match settle (Run.start (judge value node) space).1 with
      | .ok answer =>
        Run.start (perform origin judge prepare (next answer)) (Run.start (judge value node) space).2
      | .error failure => (.error failure, (Run.start (judge value node) space).2) := by
  rw [perform, Run.start_bind, Run.start_verdict]
  cases settle (Run.start (judge value node) space).1 <;> rfl

@[simp]
theorem start_prepare (node : Ref) (next : Program α) :
    Run.start (perform origin judge prepare (.prepare node next)) space =
      match Run.start (prepare node) space with
      | (.ok (), after) => Run.start (perform origin judge prepare next) after
      | (.error failure, after) => (.error failure, after) := by
  rw [perform, Run.start_bind]
  rcases Run.start (prepare node) space with ⟨failure | ⟨⟩, after⟩ <;> rfl

@[simp]
theorem start_recollect (next : Option Memo → Program α) :
    Run.start (perform origin judge prepare (.recollect next)) space =
      Run.start (perform origin judge prepare (next (space.memos.get? origin))) space := by
  simp [perform]

@[simp]
theorem start_remember (memo : Memo) (next : Program α) :
    Run.start (perform origin judge prepare (.remember memo next)) space =
      Run.start (perform origin judge prepare next)
        { space with memos := space.memos.set origin memo } := by
  simp [perform]

@[simp]
theorem start_ofExcept (outcome : Except Failure α) :
    Run.start (perform origin judge prepare (ofExcept outcome)) space = (outcome, space) := by
  cases outcome <;> rfl

@[simp]
theorem evaluate_ofExcept (outcome : Except Failure α) : evaluate verdict prepared (ofExcept outcome) = outcome := by
  cases outcome <;> rfl

@[simp]
theorem start_perform_bind (program : Program α) (rest : α → Program β) :
    Run.start (perform origin judge prepare (program >>= rest)) space =
      match Run.start (perform origin judge prepare program) space with
      | (.ok result, after) => Run.start (perform origin judge prepare (rest result)) after
      | (.error failure, after) => (.error failure, after) := by
  change Run.start (perform origin judge prepare (program.bind rest)) space = _
  induction program generalizing space with
  | done result => rfl
  | fail failure => rfl
  | judge value node next ih =>
    simp only [Program.bind, start_judge]
    rcases settle (Run.start (judge value node) space).1 with failure | answer
    · rfl
    · exact ih answer
  | prepare node next ih =>
    simp only [Program.bind, start_prepare]
    rcases Run.start (prepare node) space with ⟨failure | ⟨⟩, after⟩
    · rfl
    · exact ih
  | recollect next ih =>
    simp only [Program.bind, start_recollect]
    exact ih _
  | remember memo next ih =>
    simp only [Program.bind, start_remember]
    exact ih

end Interpreters
end Program

/-- On every workspace with a property a run ends in the same way and keeps the property. -/
def Run.Ends (kept : Workspace → Prop) (step : Run α) (outcome : Except Failure α) : Prop :=
  ∀ space, kept space → (Run.start step space).1 = outcome ∧ kept (Run.start step space).2

namespace Program

variable {limits : Limits} {kept : Workspace → Prop} {origin : Nat}
  {judge : Value → Ref → Run Unit} {prepare : Ref → Run Unit}
  {verdict : Value → Ref → Except Failure Unit} {prepared : Ref → Except Failure Unit}

/-- A program ends as the evaluator says if the runs it asks for do. -/
theorem perform_ends (judges : ∀ value node, limits.asks value node →
      Run.Ends kept (judge value node) (verdict value node))
    (prepares : ∀ node, limits.prepares node → Run.Ends kept (prepare node) (prepared node))
    {program : Program α} (within : program.Within limits) :
    Run.Ends kept (program.perform origin judge prepare) (program.evaluate verdict prepared) := by
  induction program with
  | done result => exact fun space holds => ⟨rfl, holds⟩
  | fail failure => exact fun space holds => ⟨rfl, holds⟩
  | judge value node next ih =>
    intro space holds
    obtain ⟨same, still⟩ := judges value node within.1 space holds
    rw [start_judge, evaluate_judge, same]
    rcases settle (verdict value node) with failure | answer
    · exact ⟨rfl, still⟩
    · exact ih answer (within.2 answer) _ still
  | prepare node next ih =>
    intro space holds
    obtain ⟨same, still⟩ := prepares node within.1 space holds
    rw [start_prepare, evaluate_prepare, ← same]
    generalize Run.start (prepare node) space = ended at still
    obtain ⟨failure | ⟨⟩, after⟩ := ended
    · exact ⟨rfl, still⟩
    · exact ih within.2 after still
  | recollect next => exact within.elim
  | remember memo next => exact within.elim

theorem perform_bind_ends {program other : Program α} {rest others : α → Program β}
    (first : Run.Ends kept (program.perform origin judge prepare) (other.evaluate verdict prepared))
    (continues : ∀ result, Run.Ends kept ((rest result).perform origin judge prepare)
      ((others result).evaluate verdict prepared)) :
    Run.Ends kept ((program >>= rest).perform origin judge prepare)
      ((other >>= others).evaluate verdict prepared) := by
  intro space holds
  obtain ⟨same, still⟩ := first space holds
  rw [start_perform_bind, evaluate_bind, ← same]
  generalize Run.start (program.perform origin judge prepare) space = ended at still
  obtain ⟨failure | result, after⟩ := ended
  · exact ⟨rfl, still⟩
  · exact continues result after still

/-- A program within limits fails as they allow, if the verdicts it asks for do. -/
theorem evaluate_fails (judges : ∀ value node, limits.asks value node →
      Except.FailsAs limits.fails (verdict value node))
    (prepares : ∀ node, limits.prepares node → Except.FailsAs limits.fails (prepared node))
    {program : Program α} (within : program.Within limits) :
    Except.FailsAs limits.fails (program.evaluate verdict prepared) := by
  induction program with
  | done result => exact .ok result
  | fail failure => exact .error within
  | judge value node next ih =>
    rw [evaluate_judge]
    refine .bind ?_ fun answer _ => ih answer (within.2 answer)
    exact settle_fails (judges value node within.1)
  | prepare node next ih =>
    rw [evaluate_prepare]
    exact .bind (prepares node within.1) fun _ _ => ih within.2
  | recollect next => exact within.elim
  | remember memo next => exact within.elim

end Program
end LiveSchema
