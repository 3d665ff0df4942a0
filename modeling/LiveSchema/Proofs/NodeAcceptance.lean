import LiveSchema.Evaluation
import LiveSchema.Proofs.TypeKeyword

/-! What a compiled node accepts. Its type, if it has one, has to allow the value, and what
its other keywords say about values of that kind has to hold. Which checks it was compiled
to, and whether the type is checked by them or beside them, makes no difference. -/

namespace LiveSchema

open Keyword

variable {graph : Graph} {mode : MultipleMode} {judge : Value → Ref → Except Failure Unit}
  {prepare : Ref → Except Failure Unit} {value : Value} {node : Ref} {fields : Entries Ref}

namespace Outline

variable (outline : Outline)

def entryChecks : List KeyCheck :=
  outline.given "properties" .properties ++ outline.given "patternProperties" (.patternProperties []) ++
    outline.additionalChecks ++ outline.given "dependencies" .dependencies ++ outline.given "propertyNames" .propertyNames

def tallyChecks : List TallyCheck :=
  outline.requiredChecks.2 ++ (outline.sizes "maxProperties" "minProperties").map TallyCheck.size

def textTests : List TextCheck :=
  (outline.sizes "maxLength" "minLength").map TextCheck.size ++ outline.given "pattern" (.pattern default)

def wholeChecks : List ArrayCheck :=
  outline.given "contains" .contains ++ outline.uniqueChecks ++ (outline.sizes "maxItems" "minItems").map ArrayCheck.size

def combinators : List Check :=
  outline.given "allOf" .allOf ++ outline.given "anyOf" .anyOf ++ outline.given "oneOf" .oneOf ++ outline.given "not" .not

theorem objectChecks_eq : outline.objectChecks [] =
    if (!outline.entryChecks.isEmpty || !outline.tallyChecks.isEmpty) = true then
      [.object outline.entryChecks outline.requiredChecks.1 outline.tallyChecks]
    else if (outline.type == some "object") = true then [.isObject] else [] := rfl

theorem textChecks_eq : outline.textChecks default =
    if (!outline.textTests.isEmpty) = true then [.text outline.textTests]
    else if (outline.type == some "string") = true then [.isText] else [] := rfl

theorem arrayChecks_eq : outline.arrayChecks =
    if (outline.itemCheck.isSome || !outline.wholeChecks.isEmpty) = true then [.array outline.itemCheck outline.wholeChecks]
    else if (outline.type == some "array") = true then [.isArray] else [] := rfl

theorem mem_given {keyword : String} {check given : α} :
    check ∈ outline.given keyword given ↔ outline.present keyword = true ∧ check = given := by
  unfold Outline.given
  cases outline.present keyword <;> simp

theorem forall_given_iff {keyword : String} {check : α} {holds : α → Prop} :
    (∀ other ∈ outline.given keyword check, holds other) ↔ (outline.present keyword = true → holds check) := by
  simp only [mem_given]
  refine ⟨fun all present => all check ⟨present, rfl⟩, fun passes other member => ?_⟩
  rw [member.2]
  exact passes member.1

end Outline

/-- What the keywords of a family say about a value besides its type, on the strength of the
verdicts that they ask for. Those of one kind of values are silent about all others. -/
def Family.Says (graph : Graph) (mode : MultipleMode) (judge : Value → Ref → Except Failure Unit)
    (prepare : Ref → Except Failure Unit) (fields : Entries Ref) (value : Value) (node : Ref) : Family → Prop
  | .kind =>
    (∀ part forms, graph.field? node "enum" = some part → memberForms graph part = .ok forms → value.canon ∈ forms) ∧
    ∀ part, graph.field? node "const" = some part → runConst graph value node = .ok ()
  | .object => ∀ entries, value = .object entries →
    (∀ entry ∈ entries, (runKeyChecks graph ⟨entries, entry.1, entry.2⟩ node false
      (outline graph fields).entryChecks).evaluate judge prepare = .ok ()) ∧
    ∀ check ∈ (outline graph fields).tallyChecks, runTallyCheck graph entries.length
      (countRequired (outline graph fields).requiredChecks.1 entries) node check = .ok ()
  | .number => ∀ number, value.shape.number? = some number → runBounds graph mode number node = .ok ()
  | .text => ∀ text, value = .text text →
    ∀ check ∈ (outline graph fields).textTests, runTextCheck graph text node check = .ok ()
  | .array => ∀ fixed items, value = .array fixed items →
    (∀ check ∈ (outline graph fields).itemCheck, (runItems graph check node 0 items).evaluate judge prepare = .ok ()) ∧
    ∀ check ∈ (outline graph fields).wholeChecks, (runArrayCheck graph items node check).evaluate judge prepare = .ok ()
  | .boolean => True
  | .combinators => ∀ check ∈ (outline graph fields).combinators, check.Passes graph mode judge prepare value node

/-- A family that settled nothing else is left with its type, as its own check would be. -/
private theorem chosen_passes_iff {settled typed : Bool} {own type : Check}
    (loose : settled = false → (own.Passes graph mode judge prepare value node ↔
      (typed = true → type.Passes graph mode judge prepare value node))) :
    (∀ check ∈ if settled = true then [own] else if typed = true then [type] else [],
      check.Passes graph mode judge prepare value node) ↔ own.Passes graph mode judge prepare value node := by
  cases settled with
  | true => rw [if_pos rfl, List.forall_mem_singleton]
  | false =>
    rw [if_neg Bool.false_ne_true, loose rfl]
    cases typed with
    | true => simp
    | false => simp

theorem chosen_plain {settled typed : Bool} {own type : Check} (own_plain : own.isEnum = false)
    (type_plain : type.isEnum = false) :
    ∀ check ∈ if settled = true then [own] else if typed = true then [type] else [], check.isEnum = false := by
  intro check member
  split at member
  · exact List.mem_singleton.mp member ▸ own_plain
  · split at member
    · exact List.mem_singleton.mp member ▸ type_plain
    · cases member

private theorem Family.guards_iff {family : Family} (own : TypeName) (only : ∀ type, family ∈ ofType type ↔ type = own) :
    family.Guards graph fields value ↔
      (((outline graph fields).type == some own.name) = true → own.accepts value.shape = true) := by
  rw [beq_iff_eq]
  constructor
  · exact fun guards named => guards own named ((only own).mpr rfl)
  · intro guards type named member
    obtain rfl := (only type).mp member
    exact guards named

private theorem Family.number_guards_iff :
    Family.number.Guards graph fields value ↔
      (((outline graph fields).type == some "integer") = true ∨ ((outline graph fields).type == some "number") = true →
        isOperand ((outline graph fields).type == some "integer") value.shape = true) := by
  rw [beq_iff_eq, beq_iff_eq]
  constructor
  · rintro guards (named | named)
    · rw [named]
      exact guards .integer named (by decide)
    · rw [named]
      exact guards .number named (by decide)
  · intro guards type named member
    cases type with
    | integer =>
      have operand := guards (.inl named)
      rwa [named] at operand
    | number =>
      have operand := guards (.inr named)
      rwa [named] at operand
    | array | boolean | null | object | string => simp [ofType] at member

theorem Family.combinators_pass_iff {checks : List Check} (compiled : compileCombinators graph fields = .ok checks) :
    (∀ check ∈ checks, check.Passes graph mode judge prepare value node) ↔
      Family.combinators.Says graph mode judge prepare fields value node := by
  rw [compileCombinators_ok compiled]
  exact Iff.rfl

/-- A family says nothing about values of a type it is not compiled for. -/
theorem Family.says_of_other {family : Family} {type : TypeName} (typed : family ∈ Family.typed)
    (other : family ∉ ofType type) (accepted : type.accepts value.shape = true) :
    family.Says graph mode judge prepare fields value node := by
  cases family with
  | kind | combinators => simp [Family.typed] at typed
  | boolean => trivial
  | object =>
    rintro entries rfl
    cases type with
    | object => exact absurd List.mem_cons_self other
    | array | boolean | integer | null | number | string => cases accepted
  | text =>
    rintro text rfl
    cases type with
    | string => exact absurd List.mem_cons_self other
    | array | boolean | integer | null | number | object => cases accepted
  | array =>
    rintro fixed items rfl
    cases type with
    | array => exact absurd List.mem_cons_self other
    | boolean | integer | null | number | object | string => cases accepted
  | number =>
    intro number present
    cases type with
    | integer | number => exact absurd List.mem_cons_self other
    | array | boolean | null | object | string =>
      cases value with
      | number => cases accepted
      | null | bool | text | bytes | array | object => cases present

/-- The checks of a node are those of its families, one after another. -/
theorem Family.compileAll_split {families : List Family} {family : Family} {checks : List Check}
    (compiled : compileAll graph fields families = .ok checks) (member : family ∈ families) :
    ∃ before own after, checks = before ++ own ++ after ∧ family.compile graph fields = .ok own := by
  induction families generalizing checks with
  | nil => cases member
  | cons first rest ih =>
    obtain ⟨own, made, compiled⟩ := Except.bind_ok compiled
    obtain ⟨others, rests, compiled⟩ := Except.bind_ok compiled
    cases compiled
    rcases List.mem_cons.mp member with rfl | later
    · exact ⟨[], own, others, rfl, made⟩
    · obtain ⟨before, checks, after, rfl, found⟩ := ih rests later
      exact ⟨own ++ before, checks, after, by simp only [List.append_assoc], found⟩

theorem Family.compileAll_each {families : List Family} {checks : List Check}
    (compiled : compileAll graph fields families = .ok checks) :
    ∀ family ∈ families, ∃ own, family.compile graph fields = .ok own := by
  intro family member
  obtain ⟨_, own, _, _, made⟩ := compileAll_split compiled member
  exact ⟨own, made⟩

theorem Family.compileAll_pass_iff {families : List Family} {checks : List Check}
    (compiled : compileAll graph fields families = .ok checks) :
    (∀ check ∈ checks, check.Passes graph mode judge prepare value node) ↔
      ∀ family ∈ families, ∀ own, family.compile graph fields = .ok own →
        ∀ check ∈ own, check.Passes graph mode judge prepare value node := by
  induction families generalizing checks with
  | nil =>
    cases compiled
    exact ⟨fun _ => nofun, fun _ => nofun⟩
  | cons family rest ih =>
    obtain ⟨own, made, compiled⟩ := Except.bind_ok compiled
    obtain ⟨others, rests, compiled⟩ := Except.bind_ok compiled
    cases compiled
    rw [List.forall_mem_append, List.forall_mem_cons, ih rests, made]
    simp only [Except.ok.injEq, forall_eq']

theorem Family.selected_typed {family : Family} (member : family ∈ Family.selected graph fields) : family ∈ Family.typed := by
  unfold selected at member
  split at member
  next name _ =>
    cases known : TypeName.ofName? name with
    | none => simp [known] at member
    | some type =>
      simp only [known, Option.map_some, Option.getD_some] at member
      revert member
      cases type <;> cases family <;> decide
  next => exact member

section Families

variable (object : graph.shape node = .object fields)
include object

theorem Family.passes_object_iff {checks : List Check} (compiled : compileObject graph fields = .ok checks) :
    (∀ check ∈ checks, check.Passes graph mode judge prepare value node) ↔
      (Check.object (outline graph fields).entryChecks (outline graph fields).requiredChecks.1
        (outline graph fields).tallyChecks).Passes graph mode judge prepare value node := by
  obtain ⟨known, rfl⟩ := compileObject_ok compiled
  rw [Check.passes_of_alike (Outline.objectChecks_alike _ known []), Outline.objectChecks_eq]
  · refine chosen_passes_iff fun empty => ?_
    obtain ⟨entries, tally⟩ := Bool.or_eq_false_iff.mp empty
    rw [Bool.not_eq_false', List.isEmpty_iff] at entries tally
    rw [Check.passes_object_iff object, entries, tally, hasType_eq_type]
    refine and_iff_left_of_imp (fun _ parts _ => ⟨fun _ _ => rfl, nofun⟩) |>.trans ?_
    exact imp_congr_right fun _ => (Program.evaluate_accept_ok_iff _).symm
  · exact chosen_plain rfl rfl

/-- Without a number among its bounds a node says nothing about numbers. -/
theorem Keyword.runBounds_unbounded {number : Number} (unbounded : (outline graph fields).bounded = false) :
    runBounds graph mode number node = .ok () := by
  simp only [Outline.bounded, Bool.or_eq_false_iff] at unbounded
  obtain ⟨⟨⟨⟨maximum, below⟩, minimum⟩, above⟩, multiple⟩ := unbounded
  rw [runBounds_ok_iff object]
  simp only [Graph.field?_eq object]
  have absent : ∀ {keyword bound}, (outline graph fields).present keyword = false →
      liveNumber graph (fields.keyword? keyword) = some bound → False := by
    intro keyword bound missing found
    obtain ⟨part, present, _⟩ := Option.bind_eq_some_iff.mp found
    change (fields.keyword? keyword).isSome = false at missing
    rw [present] at missing
    cases missing
  have modifier : ∀ {keyword bound}, (fields.keyword? keyword).any (fun part => (graph.shape part).isNumber) = false →
      liveNumber graph (fields.keyword? keyword) = some bound → False := by
    intro keyword bound missing found
    obtain ⟨part, present, number⟩ := Option.bind_eq_some_iff.mp found
    simp [present, Shape.isNumber, number] at missing
  exact ⟨fun _ found => (absent maximum found).elim, fun _ found => (modifier below found).elim,
    fun _ found => (absent minimum found).elim, fun _ found => (modifier above found).elim,
    fun _ found => (absent multiple found).elim⟩

theorem Family.passes_number_iff {checks : List Check} (compiled : compileNumber graph fields = .ok checks) :
    (∀ check ∈ checks, check.Passes graph mode judge prepare value node) ↔
      (Check.number ((outline graph fields).type == some "integer")).Passes graph mode judge prepare value node := by
  rw [compileNumber_ok compiled]
  refine chosen_passes_iff fun unbounded => ?_
  rw [Check.passes_number_iff object, hasType_eq_type, hasType_eq_type, ← Bool.or_eq_true_iff]
  refine and_iff_left_of_imp (fun _ number _ _ => runBounds_unbounded object unbounded) |>.trans ?_
  exact imp_congr_right fun _ => Check.passes_isNumber_iff.symm

theorem Family.passes_text_iff {checks : List Check} (compiled : compileText graph fields = .ok checks) :
    (∀ check ∈ checks, check.Passes graph mode judge prepare value node) ↔
      (Check.text (outline graph fields).textTests).Passes graph mode judge prepare value node := by
  obtain ⟨known, rfl⟩ := compileText_ok compiled
  rw [Check.passes_of_alike (Outline.textChecks_alike _ known default), Outline.textChecks_eq]
  · refine chosen_passes_iff fun empty => ?_
    rw [Bool.not_eq_false', List.isEmpty_iff] at empty
    rw [Check.passes_text_iff object, empty, hasType_eq_type]
    refine and_iff_left_of_imp (fun _ text _ => nofun) |>.trans ?_
    exact imp_congr_right fun _ => (Program.evaluate_accept_ok_iff _).symm
  · exact chosen_plain rfl rfl

theorem Family.passes_array_iff {checks : List Check} (compiled : compileArray graph fields = .ok checks) :
    (∀ check ∈ checks, check.Passes graph mode judge prepare value node) ↔
      (Check.array (outline graph fields).itemCheck (outline graph fields).wholeChecks).Passes graph mode judge prepare value node := by
  rw [compileArray_ok compiled, Outline.arrayChecks_eq]
  refine chosen_passes_iff fun empty => ?_
  obtain ⟨items, whole⟩ := Bool.or_eq_false_iff.mp empty
  rw [Bool.not_eq_false', List.isEmpty_iff] at whole
  rw [Check.passes_array_iff object, Option.isSome_eq_false_iff.mp items |> Option.isNone_iff_eq_none.mp, whole, hasType_eq_type]
  refine and_iff_left_of_imp (fun _ fixed parts _ => ⟨nofun, nofun⟩) |>.trans ?_
  exact imp_congr_right fun _ => (Program.evaluate_accept_ok_iff _).symm

/-- The checks of a family ask for its type and for what it says. -/
theorem Family.passes_iff {family : Family} {checks : List Check} (typed : family ∈ Family.typed)
    (compiled : family.compile graph fields = .ok checks) :
    (∀ check ∈ checks, check.Passes graph mode judge prepare value node) ↔
      family.Guards graph fields value ∧ family.Says graph mode judge prepare fields value node := by
  cases family with
  | kind | combinators => simp [Family.typed] at typed
  | object =>
    rw [Family.passes_object_iff object compiled, Check.passes_object_iff object, hasType_eq_type]
    exact and_congr_left fun _ => (guards_iff .object fun type => by cases type <;> decide).symm
  | number =>
    rw [Family.passes_number_iff object compiled, Check.passes_number_iff object, hasType_eq_type, hasType_eq_type,
      number_guards_iff]
    refine and_congr_right fun guards => ⟨fun bounds number present => bounds number present ?_,
      fun bounds number present _ => bounds number present⟩
    cases whole : (outline graph fields).type == some "integer" with
    | true => exact whole ▸ guards (.inl whole)
    | false => simp [isOperand, Shape.isNumber, present]
  | text =>
    rw [Family.passes_text_iff object compiled, Check.passes_text_iff object, hasType_eq_type]
    exact and_congr_left fun _ => (guards_iff .string fun type => by cases type <;> decide).symm
  | array =>
    rw [Family.passes_array_iff object compiled, Check.passes_array_iff object, hasType_eq_type]
    exact and_congr_left fun _ => (guards_iff .array fun type => by cases type <;> decide).symm
  | boolean =>
    simp only [Family.compile, hasType_eq_type, Except.ok.injEq] at compiled
    subst compiled
    rw [guards_iff .boolean fun type => by cases type <;> decide]
    refine Iff.trans ?_ (and_iff_left trivial).symm
    split
    next named =>
      rw [List.forall_mem_singleton]
      exact (Program.evaluate_accept_ok_iff _).trans ⟨fun kind _ => kind, fun guards => guards named⟩
    next other => exact ⟨fun _ named => absurd named other, fun _ => List.forall_mem_nil _⟩

theorem Family.kind_passes_iff {checks : List Check} (compiled : compileKind graph fields = .ok checks) :
    (∀ check ∈ checks, check.Passes graph mode judge prepare value node) ↔
      (∀ check ∈ (outline graph fields).typeChecks, check.Passes graph mode judge prepare value node) ∧
      Family.kind.Says graph mode judge prepare fields value node := by
  have fits := compileKind_fits object compiled
  obtain ⟨memo, rfl⟩ := compileKind_ok compiled
  simp only [List.forall_mem_append, Outline.forall_given_iff] at fits ⊢
  obtain ⟨⟨_, memo_fits⟩, _⟩ := fits
  have present : ∀ keyword, (outline graph fields).present keyword = true ↔ ∃ part, graph.field? node keyword = some part := by
    intro keyword
    rw [Graph.field?_eq object]
    exact Option.isSome_iff_exists
  rw [present] at memo_fits
  rw [and_assoc, present, present]
  refine and_congr_right fun _ => and_congr ?_ ?_
  · constructor
    · intro passes part forms found read
      have fits := memo_fits ⟨part, found⟩
      cases fits.1.symm.trans found
      cases fits.2.symm.trans read
      exact (Check.passes_enum_iff fits).mp (passes ⟨_, found⟩)
    · intro allows listed
      have fits := memo_fits listed
      exact (Check.passes_enum_iff fits).mpr (allows _ _ fits.1 fits.2)
  · rw [forall_exists_index]
    refine forall₂_congr fun _ _ => ?_
    change (Program.ofExcept (runConst graph value node)).evaluate judge prepare = .ok () ↔ _
    rw [Program.evaluate_ofExcept]

/-- A family that is not compiled has nothing to say about the values that the type allows. -/
theorem Family.says_unselected {family : Family} {checks : List Check} (compiled : compileKind graph fields = .ok checks)
    (typed : family ∈ Family.typed) (unselected : family ∉ Family.selected graph fields) (allows : graph.TypeAllows node value) :
    family.Says graph mode judge prepare fields value node := by
  have settled := outline_type object
  rcases type_settled object compiled with absent | ⟨part, type, found, shaped⟩ | ⟨part, fixed, items, found, shaped, named⟩
  · rw [absent, Option.bind_none] at settled
    exact absurd (selected_all settled ▸ typed) unselected
  · rw [found, Option.bind_some, shaped] at settled
    exact says_of_other typed (selected_single settled ▸ unselected) ((Graph.typeAllows_single found shaped).mp allows)
  · rw [found, Option.bind_some, shaped] at settled
    exact absurd (selected_all settled ▸ typed) unselected

/-- A node that is an object is judged by its checks alone. -/
theorem judgeNode_object (checks : List Check) : judgeNode graph mode checks value node = Check.runAll graph mode value node checks := by
  have schema : node ≠ .bool false := by
    rintro rfl
    cases object
  rw [judgeNode, if_neg schema]

/-- A compiled node accepts a value if and only if its type allows the value and no family
speaks against it, whether or not that family was compiled. -/
theorem judgeNode_ok_iff {checks : List Check} (compiled : compileNode graph node = .ok checks) :
    (judgeNode graph mode checks value node).evaluate judge prepare = .ok () ↔
      graph.TypeAllows node value ∧ ∀ family : Family, family.Says graph mode judge prepare fields value node := by
  simp only [compileNode, object] at compiled
  have made := Family.compileAll_each compiled
  rw [List.cons_append, List.forall_mem_cons, List.forall_mem_append, List.forall_mem_singleton] at made
  rw [judgeNode_object object, Check.runAll_ok_iff, Family.compileAll_pass_iff compiled, List.cons_append,
    List.forall_mem_cons, List.forall_mem_append, List.forall_mem_singleton]
  obtain ⟨⟨kinds, kind_made⟩, own_made, combined, combined_made⟩ := made
  have own_iff : ∀ family ∈ Family.selected graph fields,
      (∀ own, family.compile graph fields = .ok own → ∀ check ∈ own, check.Passes graph mode judge prepare value node) ↔
        family.Guards graph fields value ∧ family.Says graph mode judge prepare fields value node := by
    intro family member
    obtain ⟨own, compiled⟩ := own_made family member
    rw [compiled, ← Family.passes_iff object (Family.selected_typed member) compiled]
    simp only [Except.ok.injEq, forall_eq']
  rw [kind_made, combined_made]
  simp only [Except.ok.injEq, forall_eq', Family.kind_passes_iff object kind_made, Family.combinators_pass_iff combined_made]
  constructor
  · rintro ⟨⟨types, kind⟩, own, combinators⟩
    have passed := fun family member => (own_iff family member).mp (own family member)
    have allows := (Keyword.type_allows_iff object kind_made).mp ⟨types, fun family member => (passed family member).1⟩
    refine ⟨allows, fun family => ?_⟩
    by_cases typed : family ∈ Family.typed
    · by_cases member : family ∈ Family.selected graph fields
      · exact (passed family member).2
      · exact Family.says_unselected object kind_made typed member allows
    · cases family with
      | kind => exact kind
      | combinators => exact combinators
      | object | number | text | array | boolean => exact absurd (by decide) typed
  · rintro ⟨allows, silent⟩
    obtain ⟨types, guards⟩ := (Keyword.type_allows_iff object kind_made).mpr allows
    refine ⟨⟨types, silent .kind⟩, fun family member => ?_, silent .combinators⟩
    exact (own_iff family member).mpr ⟨guards family member, silent family⟩

/-- What a compiled node accepts, when its nested schemas are judged with what is left of the budget. -/
theorem Graph.evaluate_ok_iff {checks : List Check} (compiled : compileNode graph node = .ok checks) :
    graph.evaluate mode value node = .ok () ↔ graph.TypeAllows node value ∧ ∀ family : Family,
      family.Says graph mode (evaluateAt graph mode (graph.budget value - 1)) (prepareNode graph) fields value node := by
  obtain ⟨fuel, budget⟩ : ∃ fuel, graph.budget value = fuel + 1 :=
    Nat.exists_eq_succ_of_ne_zero (Nat.mul_ne_zero (Nat.succ_ne_zero _) (Nat.succ_ne_zero _))
  rw [Graph.evaluate, budget, evaluateAt, compiled, Except.ok_bind, Nat.add_sub_cancel]
  exact judgeNode_ok_iff object compiled

end Families

end LiveSchema
