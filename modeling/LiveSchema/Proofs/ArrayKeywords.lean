import LiveSchema.Proofs.EagerCompilation
import LiveSchema.Proofs.Enforcement
import LiveSchema.Proofs.StructuralEquality

/-! What the keywords of arrays mean, said without the passes over the items that the checks
make. Every index has at most one schema of its own, and past an array of schemas the items
fall to `additionalItems`. The array as a whole is looked at when all items have passed. -/

namespace LiveSchema

open Keyword
open Run (start)

namespace Graph

/-- The schema of an index: the only one, or the one in its place. -/
def itemSchema (graph : Graph) (node : Ref) (index : Nat) : Option Ref :=
  (graph.field? node "items").bind fun items =>
    match (graph.shape items).items? with
    | some schemas => schemas[index]?
    | none => some items

/-- An index past the end of an array of schemas. -/
def PastItems (graph : Graph) (node : Ref) (index : Nat) : Prop :=
  ∃ items schemas, graph.field? node "items" = some items ∧ (graph.shape items).items? = some schemas ∧ schemas.length ≤ index

/-- The item at an index meets `items` and `additionalItems`. -/
def ItemHolds (graph : Graph) (judge : Value → Ref → Except Failure Unit) (node : Ref) (entry : Value × Nat) : Prop :=
  (∀ schema, graph.itemSchema node entry.2 = some schema → judge entry.1 schema = .ok ()) ∧
    (graph.PastItems node entry.2 → ∀ additional, graph.field? node "additionalItems" = some additional →
      additional ≠ .bool false ∧ ((graph.shape additional).isObject = true → judge entry.1 additional = .ok ()))

/-- The failure of an item that does not. -/
def ItemFails (graph : Graph) (judge : Value → Ref → Except Failure Unit) (node : Ref) (entry : Value × Nat) (failure : Failure) : Prop :=
  (∃ schema, graph.itemSchema node entry.2 = some schema ∧ judge entry.1 schema = .error failure) ∨
    graph.PastItems node entry.2 ∧ ∃ additional, graph.field? node "additionalItems" = some additional ∧
      (additional = .bool false ∧ failure = .violation (.additionalItem entry.2) ∨
        (graph.shape additional).isObject = true ∧ judge entry.1 additional = .error failure)

end Graph

/-- An item equals an earlier one, and those before it are all different. -/
def FirstRepeat (items : List Value) (index : Nat) : Prop :=
  ∃ before item after, items = before ++ item :: after ∧ before.length = index ∧
    before.Pairwise (fun one two => ¬ one.Equal two) ∧ ∃ earlier ∈ before, earlier.Equal item

/-- The keywords that an array as a whole is held to. -/
inductive ArrayKeyword where
  | contains
  | uniqueItems
  | maxItems
  | minItems

namespace ArrayKeyword

def order : List ArrayKeyword := [.contains, .uniqueItems, .maxItems, .minItems]

/-- An item is refused by a schema, which is more than not being accepted: the verdict has come. -/
def Refuses (judge : Value → Ref → Except Failure Unit) (schema : Ref) (item : Value) : Prop :=
  ∃ violation, judge item schema = .error (.violation violation)

/-- An array meets a keyword of a node. -/
def Holds (graph : Graph) (judge : Value → Ref → Except Failure Unit) (node : Ref) (items : List Value) : ArrayKeyword → Prop
  | .contains => ∀ schema, graph.field? node "contains" = some schema →
    First (Refuses judge schema) (fun item => judge item schema = .ok ()) items
  | .uniqueItems => graph.field? node "uniqueItems" = some (.bool true) → items.Pairwise fun one two => ¬ one.Equal two
  | .maxItems => ∀ limit, graph.Threshold node "maxItems" limit → items.length ≤ limit
  | .minItems => ∀ limit, graph.Threshold node "minItems" limit → limit ≤ items.length

/-- The failure of an array that does not meet a keyword. -/
def Fails (graph : Graph) (judge : Value → Ref → Except Failure Unit) (node : Ref) (items : List Value) : ArrayKeyword → Failure → Prop
  | .contains, failure => ∃ schema, graph.field? node "contains" = some schema ∧
    ((∀ item ∈ items, Refuses judge schema item) ∧ failure = .violation .nothingContained ∨
      ¬ failure.IsViolation ∧ FirstFailure (Refuses judge schema) (fun item failure => judge item schema = .error failure) items failure)
  | .uniqueItems, failure => graph.field? node "uniqueItems" = some (.bool true) ∧
    ∃ index, FirstRepeat items index ∧ failure = .violation (.duplicateItem index)
  | .maxItems, failure => ¬ Holds graph judge node items .maxItems ∧ failure = .violation (.tooLong "maxItems")
  | .minItems, failure => ¬ Holds graph judge node items .minItems ∧ failure = .violation (.tooShort "minItems")

end ArrayKeyword

namespace Graph

/-- Every item meets the keywords of a node, and so does the array. -/
def ArrayMeets (graph : Graph) (judge : Value → Ref → Except Failure Unit) (node : Ref) (items : List Value) : Prop :=
  (∀ entry ∈ items.zipIdx, graph.ItemHolds judge node entry) ∧ ∀ keyword ∈ ArrayKeyword.order, keyword.Holds graph judge node items

/-- The first failure of an array: that of its first item that fails, or after all items that of
the first keyword for the array. -/
def ArrayFails (graph : Graph) (judge : Value → Ref → Except Failure Unit) (node : Ref) (items : List Value) (failure : Failure) : Prop :=
  FirstFailure (graph.ItemHolds judge node) (graph.ItemFails judge node) items.zipIdx failure ∨
    (∀ entry ∈ items.zipIdx, graph.ItemHolds judge node entry) ∧
      FirstFailure (ArrayKeyword.Holds graph judge node items) (ArrayKeyword.Fails graph judge node items) ArrayKeyword.order failure

/-- A value is no array and need not be one, or it is an array that meets all keywords. -/
def ArrayAccepts (graph : Graph) (judge : Value → Ref → Except Failure Unit) (node : Ref) (value : Value) : Prop :=
  value.shape.isArray = false ∧ ¬ graph.hasType (graph.field? node "type") "array" = true ∨
    ∃ fixed items, value = .array fixed items ∧ graph.ArrayMeets judge node items

/-- The failure of a value that is no array but has to be one, or the first of an array. -/
def ArrayRefuses (graph : Graph) (judge : Value → Ref → Except Failure Unit) (node : Ref) (value : Value) (failure : Failure) : Prop :=
  value.shape.isArray = false ∧ graph.hasType (graph.field? node "type") "array" = true ∧ failure = .violation .notArray ∨
    ∃ fixed items, value = .array fixed items ∧ graph.ArrayFails judge node items failure

end Graph

section Repeats

/-- A form was seen before or comes again, and those before it are all different and new. The forms
that were seen before are kept apart from those that are still to come. -/
def RepeatsAt (seen : List Canon) (start : Nat) (forms : List Canon) (index : Nat) : Prop :=
  ∃ before form after, forms = before ++ form :: after ∧ start + before.length = index ∧ before.Nodup ∧
    (∀ other ∈ before, other ∉ seen) ∧ (form ∈ seen ∨ form ∈ before)

variable {seen rest : List Canon} {first : Canon} {start index : Nat}

theorem repeatsAt_nil : ¬ RepeatsAt seen start [] index := by
  rintro ⟨before, _, _, split, _⟩
  cases before <;> cases split

theorem repeatsAt_known (known : first ∈ seen) : RepeatsAt seen start (first :: rest) index ↔ start = index := by
  constructor
  · rintro ⟨before, form, after, split, counted, _, fresh, _⟩
    cases before with
    | nil => exact counted
    | cons head tail =>
      cases split
      exact absurd known (fresh _ List.mem_cons_self)
  · rintro rfl
    exact ⟨[], first, rest, rfl, rfl, List.nodup_nil, List.forall_mem_nil _, .inl known⟩

theorem repeatsAt_new (new : first ∉ seen) :
    RepeatsAt seen start (first :: rest) index ↔ RepeatsAt (first :: seen) (start + 1) rest index := by
  constructor
  · rintro ⟨before, form, after, split, counted, unlike, fresh, again⟩
    cases before with
    | nil =>
      cases split
      exact absurd (again.resolve_right List.not_mem_nil) new
    | cons head tail =>
      cases split
      obtain ⟨apart, unlike⟩ := List.nodup_cons.mp unlike
      rw [List.length_cons] at counted
      refine ⟨tail, form, after, rfl, by omega, unlike, fun other member inside => ?_, ?_⟩
      · rcases List.mem_cons.mp inside with rfl | before
        · exact apart member
        · exact fresh other (List.mem_cons_of_mem _ member) before
      · rw [List.mem_cons] at again ⊢
        rw [or_assoc, or_left_comm]
        exact again
  · rintro ⟨before, form, after, rfl, counted, unlike, fresh, again⟩
    have apart : first ∉ before := fun member => fresh first member List.mem_cons_self
    refine ⟨first :: before, form, after, rfl, ?_, List.nodup_cons.mpr ⟨apart, unlike⟩, ?_, ?_⟩
    · rw [List.length_cons]
      omega
    · exact List.forall_mem_cons.mpr ⟨new, fun other member inside => fresh other member (List.mem_cons_of_mem _ inside)⟩
    · rw [List.mem_cons] at again ⊢
      rw [or_left_comm, ← or_assoc]
      exact again

theorem firstRepeat?_go {forms : List Canon} : firstRepeat?.go seen start forms = some index ↔ RepeatsAt seen start forms index := by
  induction forms generalizing seen start with
  | nil => exact iff_of_false nofun repeatsAt_nil
  | cons first rest ih =>
    rw [firstRepeat?.go]
    by_cases known : first ∈ seen
    · rw [if_pos known, repeatsAt_known known, Option.some_inj]
    · rw [if_neg known, repeatsAt_new known]
      exact ih

theorem firstRepeat?_go_none {forms : List Canon} : firstRepeat?.go seen start forms = none ↔
    forms.Nodup ∧ ∀ form ∈ forms, form ∉ seen := by
  induction forms generalizing seen start with
  | nil => exact iff_of_true rfl ⟨List.nodup_nil, List.forall_mem_nil _⟩
  | cons first rest ih =>
    rw [firstRepeat?.go, List.forall_mem_cons, List.nodup_cons]
    by_cases known : first ∈ seen
    · rw [if_pos known]
      exact iff_of_false nofun fun both => both.2.1 known
    · rw [if_neg known, ih]
      simp only [List.mem_cons, not_or]
      constructor
      · rintro ⟨unlike, fresh⟩
        exact ⟨⟨fun again => (fresh first again).1 rfl, unlike⟩, known, fun form member => (fresh form member).2⟩
      · rintro ⟨⟨single, unlike⟩, _, fresh⟩
        exact ⟨unlike, fun form member => ⟨fun same => single (same ▸ member), fresh form member⟩⟩

theorem firstRepeat?_eq_none {items : List Value} :
    firstRepeat? (items.map Value.canon) = none ↔ items.Pairwise fun one two => ¬ one.Equal two := by
  rw [firstRepeat?, firstRepeat?_go_none, and_iff_left fun _ _ => List.not_mem_nil, Value.nodup_canon_iff]

theorem firstRepeat?_eq_some {items : List Value} :
    firstRepeat? (items.map Value.canon) = some index ↔ FirstRepeat items index := by
  have known : ∀ {item : Value} {before : List Value},
      item.canon ∈ before.map Value.canon ↔ ∃ earlier ∈ before, earlier.Equal item := by
    intro item before
    rw [Value.canon_mem_iff]
    exact exists_congr fun earlier => and_congr_right fun _ => ⟨Value.equal_equivalence.symm, Value.equal_equivalence.symm⟩
  rw [firstRepeat?, firstRepeat?_go]
  constructor
  · rintro ⟨before, form, after, split, rfl, unlike, _, again⟩
    obtain ⟨ones, rest, rfl, rfl, ended⟩ := List.map_eq_append_iff.mp split
    obtain ⟨item, others, rfl, rfl, rfl⟩ := List.map_eq_cons_iff.mp ended
    refine ⟨ones, item, others, rfl, ?_, Value.nodup_canon_iff.mp unlike, known.mp (again.resolve_left List.not_mem_nil)⟩
    rw [List.length_map, Nat.zero_add]
  · rintro ⟨before, item, after, rfl, rfl, unlike, again⟩
    refine ⟨before.map Value.canon, item.canon, after.map Value.canon, ?_, ?_, Value.nodup_canon_iff.mpr unlike,
      fun _ _ => List.not_mem_nil, .inr (known.mpr again)⟩
    · rw [List.map_append, List.map_cons]
    · rw [List.length_map, Nat.zero_add]

/-- What is made of items that may repeat. -/
def Keyword.distinctOutcome (items : List Value) : Except Failure Unit :=
  match firstRepeat? (items.map Value.canon) with
  | some index => violate (.duplicateItem index)
  | none => .ok ()

theorem Keyword.distinctOutcome_settles (items : List Value) :
    Except.Settles (distinctOutcome items) (items.Pairwise fun one two => ¬ one.Equal two)
      fun failure => ∃ index, FirstRepeat items index ∧ failure = .violation (.duplicateItem index) := by
  unfold distinctOutcome
  cases repeated : firstRepeat? (items.map Value.canon) with
  | none =>
    refine Except.Settles.pass.congr (iff_of_true trivial (firstRepeat?_eq_none.mp repeated)) fun failure => iff_of_false id ?_
    rintro ⟨index, first, _⟩
    cases repeated.symm.trans (firstRepeat?_eq_some.mpr first)
  | some index =>
    refine (Except.Settles.stop _).congr (iff_of_false id fun unlike => ?_) fun failure => ⟨?_, ?_⟩
    · cases repeated.symm.trans (firstRepeat?_eq_none.mpr unlike)
    · exact fun same => ⟨index, firstRepeat?_eq_some.mp repeated, same⟩
    · rintro ⟨other, first, same⟩
      cases repeated.symm.trans (firstRepeat?_eq_some.mpr first)
      exact same

end Repeats

section Items

variable {graph : Graph} {judge : Value → Ref → Except Failure Unit} {prepare : Ref → Except Failure Unit} {node : Ref}
  {fields : Entries Ref} {items : List Value}

/-- Items are checked one by one, each with its index. -/
theorem Keyword.evaluate_runItems (check : ItemCheck) (index : Nat) :
    (runItems graph check node index items).evaluate judge prepare =
      (items.zipIdx index).forM fun entry => (runItem graph entry.2 entry.1 node check).evaluate judge prepare := by
  induction items generalizing index with
  | nil => rfl
  | cons item rest ih =>
    rw [runItems, Program.evaluate_bind, ih, List.zipIdx_cons]
    rfl

theorem Keyword.evaluate_runArrayChecks (checks : List ArrayCheck) :
    (runArrayChecks graph items node checks).evaluate judge prepare =
      checks.forM fun check => (runArrayCheck graph items node check).evaluate judge prepare := by
  induction checks with
  | nil => rfl
  | cons check rest ih =>
    rw [runArrayChecks, Program.evaluate_bind, ih]
    rfl

/-- All items come first, and then the array as a whole. -/
theorem Keyword.evaluate_runArray (perItem : Option ItemCheck) (all : List ArrayCheck) (fixed : Bool) :
    (runArray graph perItem all (.array fixed items) node).evaluate judge prepare =
      (perItem.elim (.ok ()) fun check => (runItems graph check node 0 items).evaluate judge prepare) >>= fun _ =>
        (runArrayChecks graph items node all).evaluate judge prepare := by
  cases perItem with
  | none => rfl
  | some check => exact Program.evaluate_bind _ _

/-- A schema accepts, or refuses, or there is no verdict. -/
theorem verdict_cases (outcome : Except Failure Unit) : outcome = .ok () ∨ (∃ violation, outcome = .error (.violation violation)) ∨
    ∃ failure, outcome = .error failure ∧ settle outcome = .error failure ∧ ¬ failure.IsViolation := by
  rcases outcome with failure | ⟨⟩
  · cases failure with
    | violation violation => exact .inr (.inl ⟨violation, rfl⟩)
    | defect | fault | setting | lookup | endless => exact .inr (.inr ⟨_, rfl, rfl, id⟩)
  · exact .inl rfl

/-- Where no verdict comes the search for an item ends. -/
theorem Keyword.evaluate_runContains_cons (schema : Ref) (item : Value) :
    (runContains schema (item :: items)).evaluate judge prepare = settle (judge item schema) >>= fun verdict =>
      verdict.elim (.ok ()) fun _ => (runContains schema items).evaluate judge prepare := by
  have verdict : ((Program.verdict item schema).evaluate judge prepare) = settle (judge item schema) := by
    rw [Program.verdict, Program.evaluate_judge]
    cases settle (judge item schema) <;> rfl
  rw [runContains, Program.evaluate_bind, verdict]
  refine congrArg (settle (judge item schema) >>= ·) (funext fun found => ?_)
  cases found <;> rfl

/-- A search ends with what is accepted, or where no verdict comes, and goes on after a refusal. -/
theorem Except.Settles.search (outcome : Except Failure Unit) {rest : Except Failure Unit} {continues : Prop} {ends : Failure → Prop}
    (later : Settles rest continues ends) :
    Settles (settle outcome >>= fun verdict => verdict.elim (.ok ()) fun _ => rest)
      (outcome = .ok () ∨ (∃ violation, outcome = .error (.violation violation)) ∧ continues)
      fun failure => ¬ failure.IsViolation ∧ outcome = .error failure ∨
        (∃ violation, outcome = .error (.violation violation)) ∧ ends failure := by
  rcases verdict_cases outcome with rfl | ⟨violation, rfl⟩ | ⟨failure, rfl, settled, plain⟩
  · exact pass.congr (iff_of_true trivial (.inl rfl)) fun failure => iff_of_false id (by simp)
  · have refused : ∃ other, (.error (.violation violation) : Except Failure Unit) = .error (.violation other) := ⟨violation, rfl⟩
    refine later.congr ?_ fun failure => ?_
    · rw [and_iff_right refused, or_iff_right (by rintro ⟨⟩)]
    · rw [and_iff_right refused, or_iff_right]
      rintro ⟨plain, ⟨⟩⟩
      exact plain trivial
  · have kept : ¬ ∃ violation, (.error failure : Except Failure Unit) = .error (.violation violation) := by
      rintro ⟨violation, ⟨⟩⟩
      exact plain trivial
    rw [settled]
    refine (stop failure).congr (iff_of_false id ?_) fun other => ?_
    · rw [not_or]
      exact ⟨by rintro ⟨⟩, fun both => kept both.1⟩
    · rw [Except.error.injEq, or_iff_left fun both => kept both.1, eq_comm]
      exact ⟨fun same => ⟨same ▸ plain, same⟩, And.right⟩

/-- The search for an item goes on as long as verdicts come and refuse. -/
theorem Keyword.runContains_settles (schema : Ref) :
    Except.Settles ((runContains schema items).evaluate judge prepare)
      (First (ArrayKeyword.Refuses judge schema) (fun item => judge item schema = .ok ()) items)
      fun failure => (∀ item ∈ items, ArrayKeyword.Refuses judge schema item) ∧ failure = .violation .nothingContained ∨
        ¬ failure.IsViolation ∧
          FirstFailure (ArrayKeyword.Refuses judge schema) (fun item failure => judge item schema = .error failure) items failure := by
  induction items with
  | nil =>
    refine (Except.Settles.stop _).congr (iff_of_false id first_nil) fun failure => ?_
    rw [and_iff_right (List.forall_mem_nil _), or_iff_left fun both => firstFailure_nil both.2]
  | cons item rest ih =>
    rw [evaluate_runContains_cons]
    refine (Except.Settles.search (judge item schema) ih).congr ?_ fun failure => ?_
    · rw [first_cons]
      rfl
    · rw [firstFailure_cons, List.forall_mem_cons, ArrayKeyword.Refuses]
      tauto

/-- What `additionalItems` makes of an item. -/
def Keyword.additionalItemOutcome (graph : Graph) (judge : Value → Ref → Except Failure Unit) (index : Nat) (item : Value)
    (additional : Ref) : Except Failure Unit :=
  if additional = .bool false then violate (.additionalItem index)
  else if (graph.shape additional).isObject = true then judge item additional
  else .ok ()

theorem Keyword.additionalItemOutcome_settles (index : Nat) (item : Value) (additional : Ref) :
    Except.Settles (additionalItemOutcome graph judge index item additional)
      (additional ≠ .bool false ∧ ((graph.shape additional).isObject = true → judge item additional = .ok ()))
      fun failure => additional = .bool false ∧ failure = .violation (.additionalItem index) ∨
        (graph.shape additional).isObject = true ∧ judge item additional = .error failure := by
  unfold additionalItemOutcome
  by_cases forbidden : additional = .bool false
  · subst forbidden
    have flat : (graph.shape (.bool false)).isObject = false := rfl
    simp only [if_true, flat, Bool.false_eq_true, false_and, or_false, true_and]
    exact (Except.Settles.stop _).congr (iff_of_false id fun both => both.1 rfl) fun failure => Iff.rfl
  · simp only [forbidden, if_false, false_and, false_or, ne_eq, not_false_eq_true, true_and]
    exact (Except.Settles.itself (judge item additional)).when ((graph.shape additional).isObject = true)

variable (object : graph.shape node = .object fields)
include object

/-- Which keyword an additional item is checked by depends on its kind. -/
theorem Keyword.evaluate_runAdditionalItem (index : Nat) (item : Value) :
    (runAdditionalItem graph index item node).evaluate judge prepare =
      (graph.field? node "additionalItems").elim (.ok ()) (additionalItemOutcome graph judge index item) := by
  rw [runAdditionalItem, Program.live_optional object]
  split
  next found => rw [found]; rfl
  next additional allowed found =>
    rw [found, Option.elim_some, additionalItemOutcome, if_neg allowed]
    split
    · exact Program.evaluate_descend _ _
    · rfl
  next absent => rw [absent]; rfl

theorem Keyword.additionalItem_settles (index : Nat) (item : Value) :
    Except.Settles ((runAdditionalItem graph index item node).evaluate judge prepare)
      (∀ additional, graph.field? node "additionalItems" = some additional →
        additional ≠ .bool false ∧ ((graph.shape additional).isObject = true → judge item additional = .ok ()))
      fun failure => ∃ additional, graph.field? node "additionalItems" = some additional ∧
        (additional = .bool false ∧ failure = .violation (.additionalItem index) ∨
          (graph.shape additional).isObject = true ∧ judge item additional = .error failure) := by
  rw [evaluate_runAdditionalItem object]
  exact .optional fun additional _ => additionalItemOutcome_settles index item additional

omit object in
/-- One schema is for every item. -/
theorem Keyword.runItem_every {part : Ref} (found : graph.field? node "items" = some part) (single : graph.isSchema part = true)
    (entry : Value × Nat) :
    Except.Settles ((runItem graph entry.2 entry.1 node .every).evaluate judge prepare)
      (graph.ItemHolds judge node entry) (graph.ItemFails judge node entry) := by
  have unlisted : (graph.shape part).items? = none := by
    cases shaped : graph.shape part with
    | array fixed schemas => simp [Graph.isSchema, shaped, Shape.isSchema, Shape.isObject, Shape.isBool] at single
    | null | bool | number | text | bytes | object => rfl
  have own : graph.itemSchema node entry.2 = some part := by simp only [Graph.itemSchema, found, Option.bind_some, unlisted]
  have inside : ¬ graph.PastItems node entry.2 := by
    rintro ⟨_, schemas, again, listed, _⟩
    cases found.symm.trans again
    cases unlisted.symm.trans listed
  rw [runItem, Program.live_require found, Program.evaluate_descend]
  refine (Except.Settles.itself _).congr ?_ fun failure => ?_
  · simp only [Graph.ItemHolds, own, Option.some.injEq, forall_eq', inside, false_implies, and_true]
  · simp only [Graph.ItemFails, own, Option.some.injEq, exists_eq_left', inside, false_and, or_false]

/-- Of a list of schemas each is for the item in its place. -/
theorem Keyword.runItem_positional {part : Ref} (found : graph.field? node "items" = some part) {fixed : Bool} {schemas : List Ref}
    (shaped : graph.shape part = .array fixed schemas) (entry : Value × Nat) :
    Except.Settles ((runItem graph entry.2 entry.1 node .positional).evaluate judge prepare)
      (graph.ItemHolds judge node entry) (graph.ItemFails judge node entry) := by
  have own : graph.itemSchema node entry.2 = schemas[entry.2]? := by
    simp only [Graph.itemSchema, found, Option.bind_some, shaped, Shape.items?]
  have past_iff : graph.PastItems node entry.2 ↔ schemas[entry.2]? = none := by
    simp only [Graph.PastItems, found, Option.some.injEq, exists_and_left, exists_eq_left', shaped, Shape.items?, List.getElem?_eq_none_iff]
  rw [runItem, Program.live_require found, positionalSchema_eq shaped]
  cases placed : schemas[entry.2]? with
  | some schema =>
    change Except.Settles ((Program.descend entry.1 schema).evaluate judge prepare) _ _
    rw [Program.evaluate_descend]
    refine (Except.Settles.itself _).congr ?_ fun failure => ?_
    · simp only [Graph.ItemHolds, own, placed, Option.some.injEq, forall_eq', past_iff, reduceCtorEq, false_implies, and_true]
    · simp only [Graph.ItemFails, own, placed, Option.some.injEq, exists_eq_left', past_iff, reduceCtorEq, false_and, or_false]
  | none =>
    change Except.Settles ((runAdditionalItem graph entry.2 entry.1 node).evaluate judge prepare) _ _
    refine (additionalItem_settles object entry.2 entry.1).congr ?_ fun failure => ?_
    · simp only [Graph.ItemHolds, own, placed, reduceCtorEq, false_implies, implies_true, past_iff, true_implies, true_and]
    · simp only [Graph.ItemFails, own, placed, reduceCtorEq, false_and, exists_false, past_iff, true_and, false_or]

theorem Keyword.runItem_settles {part : Ref} (found : graph.field? node "items" = some part)
    (form : graph.isSchema part = true ∨ graph.ListsSchemas part) (entry : Value × Nat) :
    Except.Settles ((runItem graph entry.2 entry.1 node (if graph.isSchema part = true then .every else .positional)).evaluate judge prepare)
      (graph.ItemHolds judge node entry) (graph.ItemFails judge node entry) := by
  rcases form with single | ⟨fixed, schemas, shaped, _⟩
  · rw [if_pos single]
    exact runItem_every found single entry
  · have several : ¬ graph.isSchema part = true := by simp [Graph.isSchema, shaped, Shape.isSchema, Shape.isObject, Shape.isBool]
    rw [if_neg several]
    exact runItem_positional object found shaped entry

theorem Keyword.unique_settles (declares : fields.Declares "uniqueItems" fun part => ∃ flag, graph.shape part = .bool flag) :
    Except.Settles ((outline graph fields).uniqueChecks.forM fun check => (runArrayCheck graph items node check).evaluate judge prepare)
      (ArrayKeyword.uniqueItems.Holds graph judge node items) (ArrayKeyword.uniqueItems.Fails graph judge node items) := by
  have read := Graph.field?_eq object "uniqueItems"
  have settled : (outline graph fields).unique = (fields.keyword? "uniqueItems").bind fun part => (graph.shape part).bool? := rfl
  have asked : Except.Settles (if graph.field? node "uniqueItems" = some (.bool true) then distinctOutcome items else .ok ())
      (ArrayKeyword.uniqueItems.Holds graph judge node items) (ArrayKeyword.uniqueItems.Fails graph judge node items) :=
    (distinctOutcome_settles items).when (graph.field? node "uniqueItems" = some (.bool true))
  have unasked : ¬ graph.field? node "uniqueItems" = some (.bool true) →
      Except.Settles (.ok ()) (ArrayKeyword.uniqueItems.Holds graph judge node items)
        (ArrayKeyword.uniqueItems.Fails graph judge node items) := by
    intro absent
    rwa [if_neg absent] at asked
  rw [Outline.uniqueChecks, settled]
  cases found : fields.keyword? "uniqueItems" with
  | none =>
    rw [found] at read
    apply unasked
    intro present
    cases read.symm.trans present
  | some part =>
    rw [found] at read
    obtain ⟨flag, shaped⟩ := declares part found
    rw [Option.bind_some, shaped]
    cases flag with
    | false =>
      apply unasked
      intro present
      cases read.symm.trans present
      cases shaped
    | true =>
      have runs : (runArrayCheck graph items node .unique).evaluate judge prepare =
          if graph.field? node "uniqueItems" = some (.bool true) then distinctOutcome items else .ok () := by
        rw [runArrayCheck, Program.evaluate_ofExcept, runUnique, Graph.optional_eq object]
        rfl
      rw [← runs] at asked
      refine (asked.seq .pass).congr (and_iff_left trivial) fun failure => ?_
      rw [and_false, or_false]

theorem Keyword.contains_settles (prepared : ∀ schema, graph.field? node "contains" = some schema → prepare schema = .ok ()) :
    Except.Settles (((outline graph fields).given "contains" .contains).forM fun check =>
        (runArrayCheck graph items node check).evaluate judge prepare)
      (ArrayKeyword.contains.Holds graph judge node items) (ArrayKeyword.contains.Fails graph judge node items) := by
  apply Except.Settles.given
  · intro schema found
    have present := (Graph.field?_eq object "contains").trans found
    rw [runArrayCheck, Program.live_require present, Program.evaluate_prepare, prepared schema present, Except.ok_bind]
    refine (runContains_settles schema).congr ?_ fun failure => ?_
    · simp only [ArrayKeyword.Holds, present, Option.some.injEq, forall_eq']
    · simp only [ArrayKeyword.Fails, present, Option.some.injEq, exists_eq_left']
  · intro absent
    have missing := (Graph.field?_eq object "contains").trans absent
    refine ⟨fun schema present => ?_, fun failure failed => ?_⟩
    · cases missing.symm.trans present
    · obtain ⟨schema, present, _⟩ := failed
      cases missing.symm.trans present

variable (forms : ArrayForms graph fields)
include forms

/-- The checks of the items settle them in their order. -/
theorem Keyword.itemCheck_settles :
    Except.Settles ((outline graph fields).itemCheck.elim (.ok ()) fun check => (runItems graph check node 0 items).evaluate judge prepare)
      (∀ entry ∈ items.zipIdx, graph.ItemHolds judge node entry)
      (FirstFailure (graph.ItemHolds judge node) (graph.ItemFails judge node) items.zipIdx) := by
  have settled : (outline graph fields).single = (fields.keyword? "items").any graph.isSchema := rfl
  have listed : (outline graph fields).present "items" = (fields.keyword? "items").isSome := rfl
  rw [Outline.itemCheck, listed, settled]
  cases found : fields.keyword? "items" with
  | none =>
    have absent := (Graph.field?_eq object "items").trans found
    have free : ∀ index, graph.itemSchema node index = none := fun index => by rw [Graph.itemSchema, absent]; rfl
    have inside : ∀ index, ¬ graph.PastItems node index := by
      rintro index ⟨part, _, present, _⟩
      cases absent.symm.trans present
    refine Except.Settles.pass.congr (iff_of_true trivial fun entry _ => ?_) fun failure => iff_of_false id ?_
    · refine ⟨fun schema own => ?_, fun past => absurd past (inside entry.2)⟩
      cases (free entry.2).symm.trans own
    · intro first
      obtain ⟨_, entry, _, _, _, ⟨schema, own, _⟩ | ⟨past, _⟩⟩ := first
      · cases (free entry.2).symm.trans own
      · exact inside entry.2 past
  | some part =>
    have present := (Graph.field?_eq object "items").trans found
    rw [Option.isSome_some, if_pos rfl, Option.elim_some, Option.any_some, evaluate_runItems]
    exact .forM fun entry _ => runItem_settles object present (forms.items part found) entry

/-- The checks of an array as a whole settle its keywords in their order. -/
theorem Keyword.wholeChecks_settle (prepared : ∀ schema, graph.field? node "contains" = some schema → prepare schema = .ok ()) :
    Except.Settles ((runArrayChecks graph items node (outline graph fields).wholeChecks).evaluate judge prepare)
      (∀ keyword ∈ ArrayKeyword.order, keyword.Holds graph judge node items)
      (FirstFailure (ArrayKeyword.Holds graph judge node items) (ArrayKeyword.Fails graph judge node items) ArrayKeyword.order) := by
  have contains : Except.Settles _ (ArrayKeyword.contains.Holds graph judge node items) _ := contains_settles object prepared
  have unique : Except.Settles ((outline graph fields).uniqueChecks.forM fun check =>
      (runArrayCheck graph items node check).evaluate judge prepare) _ _ := unique_settles object forms.uniqueItems
  have all := contains.seq (unique.seq ((SizeCheck.settles_given object forms.maxItems .max items.length).seq
    (SizeCheck.settles_given object forms.minItems .min items.length)))
  rw [evaluate_runArrayChecks]
  simp only [Outline.wholeChecks, Outline.sizes, List.forM_eq_forM, List.map_append, List.forM_append, List.forM_map, List.append_assoc,
    runArrayCheck, Program.evaluate_ofExcept] at all ⊢
  refine all.congr ?_ fun failure => ?_
  · simp only [ArrayKeyword.order, List.forall_mem_cons, List.not_mem_nil, false_implies, implies_true, and_true]
    rfl
  · simp only [ArrayKeyword.order, firstFailure_cons, firstFailure_nil, and_false, or_false]
    rfl

theorem Keyword.runArray_settles {value : Value}
    (prepared : ∀ schema, graph.field? node "contains" = some schema → prepare schema = .ok ()) :
    Except.Settles ((runArray graph (outline graph fields).itemCheck (outline graph fields).wholeChecks value node).evaluate judge prepare)
      (graph.ArrayAccepts judge node value) (graph.ArrayRefuses judge node value) := by
  cases value with
  | array fixed items =>
    have same : ∀ {holds : List Value → Prop}, holds items ↔
        ∃ kind parts, Value.array fixed items = .array kind parts ∧ holds parts := by
      intro holds
      simp only [Value.array.injEq, and_assoc, exists_and_left, exists_eq_left']
    have other : (Value.array fixed items).shape.isArray ≠ false := Bool.noConfusion
    rw [evaluate_runArray]
    refine ((itemCheck_settles object forms).seq (wholeChecks_settle object forms prepared)).congr ?_ fun failure => ?_
    · rw [Graph.ArrayAccepts, ← same]
      exact (or_iff_right fun both => other both.1).symm
    · rw [Graph.ArrayRefuses, ← same]
      exact (or_iff_right fun both => other both.1).symm
  | null | bool | number | text | bytes | object =>
    refine (guard_settles object "array" .notArray).congr ?_ fun failure => ?_
    · simp [Graph.ArrayAccepts, Value.shape, Shape.isArray]
    · simp [Graph.ArrayRefuses, Value.shape, Shape.isArray]

omit object forms in
theorem Keyword.arrayChecks_plain {checks : List Check} (compiled : compileArray graph fields = .ok checks) :
    ∀ check ∈ checks, check.isEnum = false := by
  rw [compileArray_ok compiled]
  exact chosen_plain rfl rfl

omit forms in
/-- A compiled list runs like the checks of all keywords, also when some are left out. -/
theorem Keyword.evaluate_arrayChecks {checks : List Check} (compiled : compileArray graph fields = .ok checks) {mode : MultipleMode}
    {value : Value} :
    (Check.runAll graph mode value node checks).evaluate judge prepare =
      (runArray graph (outline graph fields).itemCheck (outline graph fields).wholeChecks value node).evaluate judge prepare := by
  rw [compileArray_ok compiled, Outline.arrayChecks_eq]
  refine Check.evaluate_chosen fun empty => ?_
  obtain ⟨items, whole⟩ := Bool.or_eq_false_iff.mp empty
  rw [Bool.not_eq_false', List.isEmpty_iff] at whole
  rw [Option.isSome_eq_false_iff.mp items |> Option.isNone_iff_eq_none.mp, whole, ← hasType_eq_type]
  simp only [Check.run, runArray]
  split
  next parts =>
    split <;> rfl
  next other =>
    have kind : runIsArray value = violate .notArray := by
      cases value with
      | array fixed items => exact absurd rfl (other fixed items)
      | null | bool | number | text | bytes | object => rfl
    rw [Program.live_optional object, Graph.field?_eq object, kind]
    split <;> rfl

end Items

/-- Where all verdicts come and can be told, an array contains what a schema asks for if the schema
accepts any item. -/
theorem ArrayKeyword.holds_contains_iff {graph : Graph} {mode : MultipleMode} {node schema : Ref} {items : List Value}
    (found : graph.field? node "contains" = some schema) (compiles : graph.Compiles schema)
    (ends : ∀ item ∈ items, graph.Terminates mode item schema)
    (told : ∀ item ∈ items, graph.evaluate mode item schema ≠ .error (.fault .badValue)) :
    contains.Holds graph (graph.evaluate mode) node items ↔ ∃ item ∈ items, graph.evaluate mode item schema = .ok () := by
  have decided : ∀ item ∈ items, Refuses (graph.evaluate mode) schema item ∨ graph.evaluate mode item schema = .ok () := by
    intro item member
    have fails := compiles.evaluate_fails (evaluate_ends_iff.mpr (ends item member))
    rcases Except.verdict_or_unquotable fails with accepted | refused | ⟨stopped, _⟩
    · exact .inr accepted
    · exact .inl refused
    · exact absurd stopped (told item member)
  rw [Holds, found]
  simp only [Option.some.injEq, forall_eq']
  exact first_iff_exists decided

/-- Arrays of different items, with a schema for the first and one for any of them. -/
def uniqueGraph : Graph :=
  ⟨#[.object [(.text "items", .node 1), (.text "contains", .bool true), (.text "uniqueItems", .bool true)], .array false [.bool true]]⟩

def uniqueChecker : Validator := ⟨.node 0, .standard⟩

def uniqueChecks : Compiled := ⟨0, 0, uniqueChecker.mode, [.array (some .positional) [.contains, .unique]]⟩

end LiveSchema
