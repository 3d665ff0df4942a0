import LiveSchema.Proofs.CheckLimits
import LiveSchema.Proofs.EqualData

/-! Outcomes that agree. Entries of equal objects come in any order, so which of two
violations is found first may differ, but not whether one is found. One of them may have no
message, though, and then a validation that comes upon it first is stopped by a fault. Every
way in which a program goes on has a rule here. -/

namespace LiveSchema

/-- The failures of a validation that comes to a verdict or is stopped as it tells one. -/
def Failure.OfVerdict : Failure → Prop
  | .violation _ => True
  | .fault cause => cause = .badValue
  | _ => False

def Except.Stopped (outcome : Except Failure α) : Prop := outcome = .error (.fault .badValue)

/-- Both succeed with the same result, or each finds a violation, as far as neither is stopped. -/
inductive Except.Agree : Except Failure α → Except Failure α → Prop
  | ok (result : α) : Agree (.ok result) (.ok result)
  | violation (one two : Violation) : Agree (.error (.violation one)) (.error (.violation two))
  | stopped {other : Except Failure α} (others : FailsAs Failure.OfVerdict other) : Agree (.error (.fault .badValue)) other
  | stops {one : Except Failure α} (fails : FailsAs Failure.OfVerdict one) : Agree one (.error (.fault .badValue))

namespace Except.Agree

theorem symm {one two : Except Failure α} (agree : Agree one two) : Agree two one := by
  cases agree with
  | ok result => exact .ok result
  | violation one two => exact .violation two one
  | stopped others => exact .stops others
  | stops fails => exact .stopped fails

theorem fails {one two : Except Failure α} (agree : Agree one two) : FailsAs Failure.OfVerdict one := by
  cases agree with
  | ok result => exact .ok result
  | violation one two => exact .error trivial
  | stopped others => exact .error rfl
  | stops fails => exact fails

theorem bind {first second : Except Failure α} {rest rests : α → Except Failure β} (begins : Agree first second)
    (continues : ∀ result, Agree (rest result) (rests result)) : Agree (first >>= rest) (second >>= rests) := by
  cases begins with
  | ok result => exact continues result
  | violation one two => exact .violation one two
  | stopped others => exact .stopped (others.bind fun result _ => (continues result).symm.fails)
  | stops fails => exact .stops (fails.bind fun result _ => (continues result).fails)

theorem violate (one two : Violation) : Agree (LiveSchema.violate one : Except Failure α) (LiveSchema.violate two) := by
  have verdict : ∀ violation : Violation, violation.failure = .violation violation ∨ violation.failure = .fault .badValue :=
    fun violation => ite_eq_or_eq ..
  rw [LiveSchema.violate, LiveSchema.violate]
  rcases verdict one with told | short <;> rcases verdict two with again | cut
  · rw [told, again]
    exact .violation one two
  · rw [told, cut]
    exact .stops (.error trivial)
  · rw [short, again]
    exact .stopped (.error trivial)
  · rw [short, cut]
    exact .stopped (.error rfl)

theorem accept {condition same : Prop} [Decidable condition] [Decidable same] (iff : condition ↔ same) (one two : Violation) :
    Agree (if condition then .ok () else LiveSchema.violate one) (if same then .ok () else LiveSchema.violate two) := by
  simp only [iff]
  split
  · exact .ok ()
  · exact .violate one two

theorem refuse {condition same : Prop} [Decidable condition] [Decidable same] (iff : condition ↔ same) (one two : Violation) :
    Agree (if condition then LiveSchema.violate one else .ok ()) (if same then LiveSchema.violate two else .ok ()) := by
  simp only [iff]
  split
  · exact .violate one two
  · exact .ok ()

theorem ok_or_stopped {one two : Except Failure α} {result : α} (agree : Agree one two) (succeeds : one = .ok result) :
    two = .ok result ∨ Stopped two := by
  cases agree with
  | ok result => exact .inl succeeds
  | violation | stopped => cases succeeds
  | stops => exact .inr rfl

theorem of_ok {one two : Except Failure Unit} (fails : FailsAs Failure.OfVerdict one) (others : FailsAs Failure.OfVerdict two)
    (forth : one = .ok () → two = .ok () ∨ Stopped two) (back : two = .ok () → one = .ok () ∨ Stopped one) : Agree one two := by
  rcases one with failure | ⟨⟩
  · cases failure with
    | violation violation =>
      rcases two with failure | ⟨⟩
      · cases failure with
        | violation other => exact .violation violation other
        | fault cause =>
          cases others _ rfl
          exact .stops fails
        | defect | setting | lookup | endless => exact (others _ rfl).elim
      · rcases back rfl with same | same <;> cases same
    | fault cause =>
      cases fails _ rfl
      exact .stopped others
    | defect | setting | lookup | endless => exact (fails _ rfl).elim
  · rcases forth rfl with same | same
    · exact same ▸ .ok ()
    · exact same ▸ .stops fails

theorem forM_ok_iff {items : List α} {step : α → Except Failure Unit} :
    items.forM step = .ok () ↔ ∀ item ∈ items, step item = .ok () := by
  induction items with
  | nil => simp [pure, Except.pure]
  | cons item rest ih =>
    rw [List.forall_mem_cons, ← ih, List.forM_eq_forM, List.forM_cons]
    rcases step item with failure | ⟨⟩
    · exact ⟨fun ended => (nomatch ended), fun ended => nomatch ended.1⟩
    · exact ⟨fun ended => ⟨rfl, ended⟩, And.right⟩

theorem forM_ok_or_stopped {items : List α} {step : α → Except Failure Unit}
    (each : ∀ item ∈ items, step item = .ok () ∨ Stopped (step item)) : items.forM step = .ok () ∨ Stopped (items.forM step) := by
  induction items with
  | nil => exact .inl rfl
  | cons item rest ih =>
    rw [List.forall_mem_cons] at each
    rw [List.forM_eq_forM, List.forM_cons]
    rcases each.1 with passed | stopped
    · rw [passed]
      exact ih each.2
    · rw [stopped]
      exact .inr rfl

theorem forM_same {items : List α} {step steps : α → Except Failure Unit} (each : ∀ item ∈ items, Agree (step item) (steps item)) :
    Agree (items.forM step) (items.forM steps) := by
  refine of_ok (.forM fun item member => (each item member).fails) (.forM fun item member => (each item member).symm.fails) ?_ ?_
  · intro passed
    exact forM_ok_or_stopped fun item member => (each item member).ok_or_stopped (forM_ok_iff.mp passed item member)
  · intro passed
    exact forM_ok_or_stopped fun item member => (each item member).symm.ok_or_stopped (forM_ok_iff.mp passed item member)

/-- Entries may be gone through in any order. -/
theorem forM_twin {κ : Type} [DecidableEq κ] {relates : α → β → Prop} {entries : Table κ α} {others : Table κ β}
    {step : κ × α → Except Failure Unit} {steps : κ × β → Except Failure Unit} (twin : Table.Twin relates entries others)
    (each : ∀ key item other, (key, item) ∈ entries → relates item other → Agree (step (key, item)) (steps (key, other))) :
    Agree (entries.forM step) (others.forM steps) := by
  have forth : ∀ entry ∈ entries, ∃ other ∈ others, Agree (step entry) (steps other) := by
    rintro ⟨key, item⟩ member
    obtain ⟨other, present, related⟩ := twin.symm.exists_of_mem member
    exact ⟨(key, other), present, each key item other member related⟩
  have back : ∀ other ∈ others, ∃ entry ∈ entries, Agree (step entry) (steps other) := by
    rintro ⟨key, other⟩ member
    obtain ⟨item, present, related⟩ := twin.exists_of_mem member
    exact ⟨(key, item), present, each key item other present related⟩
  refine of_ok (.forM fun entry member => ?_) (.forM fun other member => ?_) ?_ ?_
  · obtain ⟨other, _, agree⟩ := forth entry member
    exact agree.fails
  · obtain ⟨entry, _, agree⟩ := back other member
    exact agree.symm.fails
  · intro passed
    refine forM_ok_or_stopped fun other member => ?_
    obtain ⟨entry, present, agree⟩ := back other member
    exact agree.ok_or_stopped (forM_ok_iff.mp passed entry present)
  · intro passed
    refine forM_ok_or_stopped fun entry member => ?_
    obtain ⟨other, present, agree⟩ := forth entry member
    exact agree.symm.ok_or_stopped (forM_ok_iff.mp passed other present)

end Except.Agree

namespace Program

variable {judge judges : Value → Ref → Except Failure Unit} {prepare prepares : Ref → Except Failure Unit}

theorem evaluate_descend (value : Value) (node : Ref) : (descend value node).evaluate judge prepare = judge value node := by
  rw [descend, evaluate_judge]
  rcases judge value node with failure | ⟨⟩
  · cases failure <;> rfl
  · rfl

theorem agree_bind {program other : Program α} {rest others : α → Program β}
    (begins : Except.Agree (program.evaluate judge prepare) (other.evaluate judges prepares))
    (continues : ∀ result, Except.Agree ((rest result).evaluate judge prepare) ((others result).evaluate judges prepares)) :
    Except.Agree ((program >>= rest).evaluate judge prepare) ((other >>= others).evaluate judges prepares) := by
  rw [evaluate_bind, evaluate_bind]
  exact begins.bind continues

/-- Programs that ask for a verdict go on alike, whatever the violations are. -/
theorem agree_verdict {value copy : Value} {node other : Ref} {rest others : Option Violation → Program α}
    (asked : Except.Agree (judge value node) (judges copy other))
    (accepted : Except.Agree ((rest none).evaluate judge prepare) ((others none).evaluate judges prepares))
    (refused : ∀ one two, Except.Agree ((rest (some one)).evaluate judge prepare) ((others (some two)).evaluate judges prepares)) :
    Except.Agree ((verdict value node >>= rest).evaluate judge prepare)
      ((verdict copy other >>= others).evaluate judges prepares) := by
  change Except.Agree ((Program.judge value node rest).evaluate judge prepare)
    ((Program.judge copy other others).evaluate judges prepares)
  rw [evaluate_judge, evaluate_judge]
  generalize judge value node = outcome at asked
  generalize judges copy other = again at asked
  cases asked with
  | ok result => exact accepted
  | violation one two => exact refused one two
  | stopped others =>
    refine .stopped ((settle_fails others).bind fun answer _ => ?_)
    cases answer with
    | none => exact accepted.symm.fails
    | some violation => exact (refused violation violation).symm.fails
  | stops fails =>
    refine .stops ((settle_fails fails).bind fun answer _ => ?_)
    cases answer with
    | none => exact accepted.fails
    | some violation => exact (refused violation violation).fails

end Program

/-- Entries are checked one by one. -/
theorem Keyword.evaluate_runEntries {judge : Value → Ref → Except Failure Unit} {prepare : Ref → Except Failure Unit}
    (graph : Graph) (checks : List KeyCheck) (container entries : Entries Value) (node : Ref) :
    (runEntries graph checks container node entries).evaluate judge prepare =
      entries.forM fun entry => (runKeyChecks graph ⟨container, entry.1, entry.2⟩ node false checks).evaluate judge prepare := by
  induction entries with
  | nil => rfl
  | cons entry rest ih =>
    rw [List.forM_eq_forM, List.forM_cons, ← List.forM_eq_forM, ← ih, runEntries, Program.evaluate_bind]

end LiveSchema
