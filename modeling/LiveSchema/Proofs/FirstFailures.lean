import LiveSchema.Proofs.PassedChecks

/-! Which failure is the first. Steps that are taken in order end with the failure of the first
one that fails. So the outcome of a whole is known if it is known of every part when it passes
and how it fails; there is a rule for each way in which the parts are put together. -/

namespace LiveSchema

/-- Something is true of one of a list, and all before it pass. -/
def First (passes here : α → Prop) (items : List α) : Prop :=
  ∃ before item after, items = before ++ item :: after ∧ (∀ earlier ∈ before, passes earlier) ∧ here item

/-- One of a list fails, and all before it hold. -/
def FirstFailure (holds : α → Prop) (fails : α → Failure → Prop) (items : List α) (failure : Failure) : Prop :=
  First holds (fails · failure) items

/-- When an outcome is a success, and which failure it is otherwise. -/
structure Except.Settles (outcome : Except Failure Unit) (holds : Prop) (fails : Failure → Prop) : Prop where
  ok_iff : outcome = .ok () ↔ holds
  error_iff : ∀ failure, outcome = .error failure ↔ fails failure

def Failure.IsViolation : Failure → Prop
  | .violation _ => True
  | _ => False

variable {passes here : α → Prop} {holds : α → Prop} {fails : α → Failure → Prop} {items : List α} {failure : Failure}

theorem first_nil : ¬ First passes here [] := by
  rintro ⟨before, _, _, split, _⟩
  cases before <;> cases split

theorem first_cons {item : α} : First passes here (item :: items) ↔ here item ∨ passes item ∧ First passes here items := by
  constructor
  · rintro ⟨before, first, after, split, pass, found⟩
    cases before with
    | nil =>
      cases split
      exact .inl found
    | cons head rest =>
      cases split
      rw [List.forall_mem_cons] at pass
      exact .inr ⟨pass.1, rest, first, after, rfl, pass.2, found⟩
  · rintro (found | ⟨passed, before, first, after, rfl, pass, found⟩)
    · exact ⟨[], item, items, rfl, List.forall_mem_nil _, found⟩
    · exact ⟨item :: before, first, after, rfl, List.forall_mem_cons.mpr ⟨passed, pass⟩, found⟩

/-- If it is decided for every item, there is a first one once there is any. -/
theorem first_iff_exists (decided : ∀ item ∈ items, passes item ∨ here item) :
    First passes here items ↔ ∃ item ∈ items, here item := by
  induction items with
  | nil => exact iff_of_false first_nil fun ⟨_, member, _⟩ => nomatch member
  | cons item rest ih =>
    obtain ⟨own, later⟩ := List.forall_mem_cons.mp decided
    rw [first_cons, ih later, List.exists_mem_cons_iff]
    exact ⟨fun either => either.imp_right And.right, fun either => or_iff_not_imp_left.mpr fun absent =>
      ⟨own.resolve_right absent, either.resolve_left absent⟩⟩

theorem firstFailure_nil : ¬ FirstFailure holds fails [] failure := first_nil

theorem firstFailure_cons {item : α} :
    FirstFailure holds fails (item :: items) failure ↔ fails item failure ∨ holds item ∧ FirstFailure holds fails items failure :=
  first_cons

namespace Except.Settles

variable {first rest : Except Failure Unit} {begins continues : Prop} {stops ends : Failure → Prop}

theorem itself (outcome : Except Failure Unit) : Settles outcome (outcome = .ok ()) (outcome = .error ·) :=
  ⟨Iff.rfl, fun _ => Iff.rfl⟩

theorem pass : Settles (.ok ()) True fun _ => False :=
  ⟨iff_of_true rfl trivial, fun _ => ⟨nofun, False.elim⟩⟩

theorem stop (failure : Failure) : Settles (.error failure) False fun other => other = failure := by
  refine ⟨⟨fun impossible => ?_, False.elim⟩, fun other => ⟨fun same => (Except.error.inj same).symm, fun same => same ▸ rfl⟩⟩
  cases impossible

theorem congr (settles : Settles first begins stops) (same : begins ↔ continues) (again : ∀ failure, stops failure ↔ ends failure) :
    Settles first continues ends :=
  ⟨settles.ok_iff.trans same, fun failure => (settles.error_iff failure).trans (again failure)⟩

theorem seq (one : Settles first begins stops) (two : Settles rest continues ends) :
    Settles (first >>= fun _ => rest) (begins ∧ continues) fun failure => stops failure ∨ begins ∧ ends failure := by
  rcases first with failure | ⟨⟩
  · have held : ¬ begins := fun holds => nomatch one.ok_iff.mpr holds
    refine ⟨iff_of_false nofun fun both => held both.1, fun other => ?_⟩
    exact (one.error_iff other).trans (or_iff_left fun both => held both.1).symm
  · have held : begins := one.ok_iff.mp rfl
    refine ⟨two.ok_iff.trans (and_iff_right held).symm, fun failure => (two.error_iff failure).trans ?_⟩
    rw [and_iff_right held, or_iff_right]
    exact fun stopped => nomatch (one.error_iff failure).mpr stopped

theorem accept {condition : Prop} [Decidable condition] (violation : Violation) :
    Settles (if condition then .ok () else violate violation) condition
      fun failure => ¬ condition ∧ failure = violation.failure := by
  by_cases holds : condition
  · rw [if_pos holds]
    exact ⟨iff_of_true rfl holds, fun _ => ⟨nofun, fun refused => absurd holds refused.1⟩⟩
  · rw [if_neg holds]
    refine ⟨iff_of_false nofun holds, fun failure => ?_⟩
    rw [and_iff_right holds, violate, Except.error.injEq, eq_comm]

theorem refuse {condition : Prop} [Decidable condition] (violation : Violation) :
    Settles (if condition then violate violation else .ok ()) (¬ condition)
      fun failure => condition ∧ failure = violation.failure := by
  have accepts : Settles (if ¬ condition then .ok () else violate violation) _ _ := accept violation
  rw [ite_not] at accepts
  exact accepts.congr Iff.rfl fun failure => and_congr_left fun _ => not_not

/-- What is done only on a condition passes without it. -/
theorem when (settles : Settles first begins stops) (condition : Prop) [Decidable condition] :
    Settles (if condition then first else .ok ()) (condition → begins) fun failure => condition ∧ stops failure := by
  by_cases holds : condition
  · rw [if_pos holds]
    exact settles.congr ⟨fun begun _ => begun, fun all => all holds⟩ fun failure => (and_iff_right holds).symm
  · rw [if_neg holds]
    exact pass.congr (iff_of_true trivial fun impossible => absurd impossible holds) fun failure =>
      iff_of_false id fun both => holds both.1

/-- Steps end with the failure of the first one that fails. -/
theorem forM {step : α → Except Failure Unit} (each : ∀ item ∈ items, Settles (step item) (holds item) (fails item)) :
    Settles (items.forM step) (∀ item ∈ items, holds item) (FirstFailure holds fails items) := by
  induction items with
  | nil => exact pass.congr (iff_of_true trivial (List.forall_mem_nil _)) fun _ => ⟨False.elim, firstFailure_nil⟩
  | cons item rest ih =>
    rw [List.forall_mem_cons] at each
    have both := seq each.1 (ih each.2)
    exact both.congr List.forall_mem_cons.symm fun failure => firstFailure_cons.symm

/-- What is done with a part passes without the part. -/
theorem optional {found : Option α} {step : α → Except Failure Unit}
    (each : ∀ part, found = some part → Settles (step part) (holds part) (fails part)) :
    Settles (found.elim (.ok ()) step) (∀ part, found = some part → holds part)
      fun failure => ∃ part, found = some part ∧ fails part failure := by
  cases found with
  | none => exact pass.congr (iff_of_true trivial nofun) fun failure => iff_of_false id fun ⟨_, impossible, _⟩ => nomatch impossible
  | some part =>
    refine (each part rfl).congr ?_ fun failure => ?_
    · simp only [Option.some.injEq, forall_eq']
    · simp only [Option.some.injEq, exists_eq_left']

end Except.Settles

theorem Except.forM_filter {selects : α → Bool} {step : α → Except Failure Unit} :
    (items.forM fun item => if selects item = true then step item else .ok ()) = (items.filter selects).forM step := by
  induction items with
  | nil => rfl
  | cons item rest ih =>
    rw [List.filter_cons]
    change ((if selects item = true then step item else .ok ()) >>= fun _ => rest.forM _) = _
    rw [ih]
    split <;> rfl

end LiveSchema
