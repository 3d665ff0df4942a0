import LiveSchema.Proofs.Agreement
import LiveSchema.Proofs.EnumMemo
import LiveSchema.Proofs.Outline

/-! When a value passes a check. A program ends well if all its steps do, so a list of checks is
passed check by check. A check of one kind of values lets all others pass, unless the live type
of its node is of that kind. -/

namespace LiveSchema

variable {graph : Graph} {mode : MultipleMode} {judge : Value → Ref → Except Failure Unit}
  {prepare : Ref → Except Failure Unit} {value : Value} {node : Ref} {fields : Entries Ref}

theorem Except.bind_ok_iff {first : Except ε α} {rest : α → Except ε β} {result : β} :
    first >>= rest = .ok result ↔ ∃ middle, first = .ok middle ∧ rest middle = .ok result := by
  refine ⟨bind_ok, ?_⟩
  rintro ⟨middle, rfl, ended⟩
  exact ended

theorem Except.seq_ok_iff {first : Except ε Unit} {rest : Unit → Except ε β} {result : β} :
    first >>= rest = .ok result ↔ first = .ok () ∧ rest () = .ok result := by
  rw [bind_ok_iff]
  exact ⟨fun ⟨_, passed, ended⟩ => ⟨passed, ended⟩, fun ⟨passed, ended⟩ => ⟨(), passed, ended⟩⟩

theorem Except.refuse_ok_iff {condition : Prop} [Decidable condition] (violation : Violation) :
    (if condition then violate violation else .ok () : Except Failure Unit) = .ok () ↔ ¬ condition := by
  split <;> simp_all [violate]

theorem Except.accept_ok_iff {condition : Prop} [Decidable condition] (violation : Violation) :
    (if condition then .ok () else violate violation : Except Failure Unit) = .ok () ↔ condition := by
  split <;> simp_all [violate]

namespace Program

theorem evaluate_bind_ok_iff {program : Program α} {rest : α → Program β} {result : β} :
    (program >>= rest).evaluate judge prepare = .ok result ↔
      ∃ middle, program.evaluate judge prepare = .ok middle ∧ (rest middle).evaluate judge prepare = .ok result := by
  rw [evaluate_bind, Except.bind_ok_iff]

theorem evaluate_seq_ok_iff {first : Program Unit} {rest : Unit → Program α} {result : α} :
    (first >>= rest).evaluate judge prepare = .ok result ↔
      first.evaluate judge prepare = .ok () ∧ (rest ()).evaluate judge prepare = .ok result := by
  rw [evaluate_bind, Except.seq_ok_iff]

theorem evaluate_accept_ok_iff {condition : Prop} [Decidable condition] (violation : Violation) :
    (ofExcept (if condition then .ok () else LiveSchema.violate violation)).evaluate judge prepare = .ok () ↔ condition := by
  rw [evaluate_ofExcept, Except.accept_ok_iff]

theorem evaluate_refuse_ok_iff {condition : Prop} [Decidable condition] (violation : Violation) :
    (if condition then Program.violate violation else pure () : Program Unit).evaluate judge prepare = .ok () ↔ ¬ condition := by
  split
  next holds => exact ⟨fun ended => (nomatch ended), fun fails => absurd holds fails⟩
  next fails => exact ⟨fun _ => fails, fun _ => rfl⟩

end Program

open Keyword

namespace Check

/-- A value passes a check of a node. -/
def Passes (graph : Graph) (mode : MultipleMode) (judge : Value → Ref → Except Failure Unit)
    (prepare : Ref → Except Failure Unit) (value : Value) (node : Ref) (check : Check) : Prop :=
  (check.run graph mode value node).evaluate judge prepare = .ok ()

theorem runAll_ok_iff {checks : List Check} :
    (runAll graph mode value node checks).evaluate judge prepare = .ok () ↔
      ∀ check ∈ checks, check.Passes graph mode judge prepare value node := by
  induction checks with
  | nil => exact ⟨fun _ => nofun, fun _ => rfl⟩
  | cons check rest ih => rw [runAll, Program.evaluate_seq_ok_iff, ih, List.forall_mem_cons, Passes]

theorem passes_of_alike {checks others : List Check} (alike : List.Forall₂ Alike checks others)
    (plain : ∀ check ∈ others, check.isEnum = false) :
    (∀ check ∈ checks, check.Passes graph mode judge prepare value node) ↔
      ∀ check ∈ others, check.Passes graph mode judge prepare value node := by
  induction alike with
  | nil => exact Iff.rfl
  | cons first _ ih =>
    rw [List.forall_mem_cons, List.forall_mem_cons, ih fun check later => plain check (List.mem_cons_of_mem _ later)]
    cases first with
    | run _ same => simp only [Passes, same]
    | enum _ other => cases plain _ List.mem_cons_self

theorem passes_isNumber_iff {whole : Bool} :
    (Check.isNumber whole).Passes graph mode judge prepare value node ↔ isOperand whole value.shape = true := by
  change (Program.ofExcept (runIsNumber graph whole value node)).evaluate judge prepare = .ok () ↔ _
  rw [Program.evaluate_ofExcept]
  unfold runIsNumber
  split
  next operand => exact ⟨fun _ => operand, fun _ => rfl⟩
  next outside =>
    refine ⟨fun passed => ?_, fun operand => absurd operand outside⟩
    obtain ⟨_, _, told⟩ := Except.bind_ok passed
    obtain ⟨_, _, refused⟩ := Except.bind_ok told
    cases refused

theorem passes_enum_iff {memo : Memo} (fits : (Check.enum memo).Fits graph node) :
    (Check.enum memo).Passes graph mode judge prepare value node ↔ value.canon ∈ memo.allowed := by
  change (runEnum graph value node memo).evaluate judge prepare = .ok () ↔ _
  rw [evaluate_runEnum fits]
  exact Except.accept_ok_iff _

end Check

theorem Keyword.isOperand_eq (whole : Bool) (shape : Shape α) :
    isOperand whole shape = (shape.number?.filter fun number => !whole || number.isWhole).isSome := by
  unfold isOperand Shape.isInteger Shape.isNumber
  cases shape.number? with
  | none => cases whole <;> rfl
  | some number => cases whole <;> simp [Option.isSome_filter]

theorem Keyword.withNumber_ok_iff {keyword : Option Ref} {test : Number → Except Failure Unit} :
    withNumber graph keyword test = .ok () ↔ ∀ bound, liveNumber graph keyword = some bound → test bound = .ok () := by
  unfold withNumber
  cases liveNumber graph keyword with
  | none => exact ⟨fun _ => nofun, fun _ => rfl⟩
  | some bound => simp only [Option.some.injEq, forall_eq']

theorem Keyword.runArrayChecks_ok_iff {items : List Value} {all : List ArrayCheck} :
    (runArrayChecks graph items node all).evaluate judge prepare = .ok () ↔
      ∀ check ∈ all, (runArrayCheck graph items node check).evaluate judge prepare = .ok () := by
  induction all with
  | nil => exact ⟨fun _ => nofun, fun _ => rfl⟩
  | cons check rest ih => rw [runArrayChecks, Program.evaluate_seq_ok_iff, ih, List.forall_mem_cons]

section Kinds

variable (object : graph.shape node = .object fields)
include object

theorem Keyword.runBounds_ok_iff {number : Number} :
    runBounds graph mode number node = .ok () ↔
      (∀ bound, liveNumber graph (graph.field? node "maximum") = some bound →
        checkMaximum number bound (graph.field? node "exclusiveMaximum") = .ok ()) ∧
      (∀ bound, liveNumber graph (graph.field? node "exclusiveMaximum") = some bound → checkBelow number bound = .ok ()) ∧
      (∀ bound, liveNumber graph (graph.field? node "minimum") = some bound →
        checkMinimum number bound (graph.field? node "exclusiveMinimum") = .ok ()) ∧
      (∀ bound, liveNumber graph (graph.field? node "exclusiveMinimum") = some bound → checkAbove number bound = .ok ()) ∧
      ∀ divisor, liveNumber graph (graph.field? node "multipleOf") = some divisor → checkMultiple mode number divisor = .ok () := by
  simp only [runBounds, live_optional object, Except.seq_ok_iff, withNumber_ok_iff]

/-- A value of another kind passes the checks of a family unless the type forbids it. -/
private theorem evaluate_guard_ok_iff (name : String) (violation : Violation) :
    (Program.live (graph.optional node "type") >>= fun type =>
      if graph.hasType type name = true then Program.violate violation else pure ()).evaluate judge prepare = .ok () ↔
      ¬ graph.hasType (fields.keyword? "type") name = true := by
  rw [Program.live_optional object, Program.evaluate_refuse_ok_iff, Graph.field?_eq object]

theorem Check.passes_object_iff {entries : List KeyCheck} {required : List String} {tally : List TallyCheck} :
    (Check.object entries required tally).Passes graph mode judge prepare value node ↔
      (graph.hasType (fields.keyword? "type") "object" = true → value.shape.isObject = true) ∧
      ∀ parts, value = .object parts →
        (∀ entry ∈ parts, (runKeyChecks graph ⟨parts, entry.1, entry.2⟩ node false entries).evaluate judge prepare = .ok ()) ∧
        ∀ check ∈ tally, runTallyCheck graph parts.length (countRequired required parts) node check = .ok () := by
  change (runObject graph entries required tally value node).evaluate judge prepare = .ok () ↔ _
  unfold runObject
  split
  next parts =>
    rw [Program.evaluate_seq_ok_iff, evaluate_runEntries, Program.evaluate_ofExcept, Except.Agree.forM_ok_iff,
      Except.Agree.forM_ok_iff]
    constructor
    · rintro passed
      refine ⟨fun _ => rfl, ?_⟩
      rintro _ ⟨⟩
      exact passed
    · exact fun passed => passed.2 parts rfl
  next other =>
    have kind : value.shape.isObject = false := by
      cases value with
      | object parts => exact absurd rfl (other parts)
      | null | bool | number | text | bytes | array => rfl
    rw [evaluate_guard_ok_iff object, kind]
    simp only [Bool.false_eq_true, imp_false]
    exact (and_iff_left fun parts same => absurd same (other parts)).symm

theorem Check.passes_array_iff {items : Option ItemCheck} {all : List ArrayCheck} :
    (Check.array items all).Passes graph mode judge prepare value node ↔
      (graph.hasType (fields.keyword? "type") "array" = true → value.shape.isArray = true) ∧
      ∀ fixed parts, value = .array fixed parts →
        (∀ check ∈ items, (runItems graph check node 0 parts).evaluate judge prepare = .ok ()) ∧
        ∀ check ∈ all, (runArrayCheck graph parts node check).evaluate judge prepare = .ok () := by
  change (runArray graph items all value node).evaluate judge prepare = .ok () ↔ _
  unfold runArray
  split
  next flag parts =>
    have passes : (runArray graph items all (.array flag parts) node).evaluate judge prepare = .ok () ↔
        (∀ check ∈ items, (runItems graph check node 0 parts).evaluate judge prepare = .ok ()) ∧
        ∀ check ∈ all, (runArrayCheck graph parts node check).evaluate judge prepare = .ok () := by
      rw [← runArrayChecks_ok_iff]
      cases items with
      | none => exact ⟨fun passed => ⟨nofun, passed⟩, And.right⟩
      | some check =>
        simp only [Option.mem_some_iff, forall_eq']
        exact Program.evaluate_seq_ok_iff
    refine passes.trans ?_
    constructor
    · rintro passed
      refine ⟨fun _ => rfl, ?_⟩
      rintro _ _ ⟨⟩
      exact passed
    · exact fun passed => passed.2 flag parts rfl
  next other =>
    have kind : value.shape.isArray = false := by
      cases value with
      | array fixed parts => exact absurd rfl (other fixed parts)
      | null | bool | number | text | bytes | object => rfl
    rw [evaluate_guard_ok_iff object, kind]
    simp only [Bool.false_eq_true, imp_false]
    exact (and_iff_left fun fixed parts same => absurd same (other fixed parts)).symm

theorem Check.passes_text_iff {tests : List TextCheck} :
    (Check.text tests).Passes graph mode judge prepare value node ↔
      (graph.hasType (fields.keyword? "type") "string" = true → value.shape.isText = true) ∧
      ∀ text, value = .text text → ∀ check ∈ tests, runTextCheck graph text node check = .ok () := by
  change (Program.ofExcept (runText graph tests value node)).evaluate judge prepare = .ok () ↔ _
  rw [Program.evaluate_ofExcept]
  unfold runText
  split
  next text =>
    rw [Except.Agree.forM_ok_iff]
    constructor
    · rintro passed
      refine ⟨fun _ => rfl, ?_⟩
      rintro _ ⟨⟩
      exact passed
    · exact fun passed => passed.2 text rfl
  next other =>
    have kind : value.shape.isText = false := by
      cases value with
      | text text => exact absurd rfl (other text)
      | null | bool | number | bytes | array | object => rfl
    simp only [live_optional object, Graph.field?_eq object, kind, Bool.false_eq_true, imp_false]
    exact (Except.refuse_ok_iff _).trans (and_iff_left fun text same => absurd same (other text)).symm

theorem Check.passes_number_iff {whole : Bool} :
    (Check.number whole).Passes graph mode judge prepare value node ↔
      (graph.hasType (fields.keyword? "type") "integer" = true ∨ graph.hasType (fields.keyword? "type") "number" = true →
        isOperand whole value.shape = true) ∧
      ∀ number, value.shape.number? = some number → isOperand whole value.shape = true →
        runBounds graph mode number node = .ok () := by
  change (Program.ofExcept (runNumber graph mode whole value node)).evaluate judge prepare = .ok () ↔ _
  rw [Program.evaluate_ofExcept, isOperand_eq]
  unfold runNumber
  split
  next number found =>
    rw [found]
    constructor
    · intro passed
      refine ⟨fun _ => rfl, fun other present _ => ?_⟩
      cases (Option.filter_eq_some_iff.mp found).1.symm.trans present
      exact passed
    · exact fun passed => passed.2 number (Option.filter_eq_some_iff.mp found).1 rfl
  next none =>
    rw [none]
    simp only [live_optional object, Graph.field?_eq object]
    constructor
    · intro passed
      refine ⟨fun typed => ?_, fun _ _ impossible => absurd impossible Bool.false_ne_true⟩
      rcases typed with integer | number
      · rw [if_pos integer] at passed
        cases passed
      · rw [if_pos number] at passed
        split at passed <;> cases passed
    · intro passed
      rw [if_neg fun typed => Bool.false_ne_true (passed.1 (.inl typed)), if_neg fun typed => Bool.false_ne_true (passed.1 (.inr typed))]
      rfl

end Kinds

end LiveSchema
