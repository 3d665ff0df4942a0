import LiveSchema.Proofs.PassedChecks

/-! The `type` keyword. It names one type or lists some; the list is looked through by a check,
a single name is left to the family of its type, but for `null`. Either way the node asks that the
type allows the value. -/

namespace LiveSchema

open Keyword

variable {graph : Graph} {mode : MultipleMode} {judge : Value → Ref → Except Failure Unit}
  {prepare : Ref → Except Failure Unit} {value : Value} {node : Ref} {fields : Entries Ref}

theorem TypeName.name_of_ofName? {name : String} {type : TypeName} (found : TypeName.ofName? name = some type) :
    type.name = name := by
  have same := List.find?_some found
  exact beq_iff_eq.mp same

theorem TypeName.name_injective {one two : TypeName} (same : one.name = two.name) : one = two := by
  revert same
  cases one <;> cases two <;> decide

theorem TypeName.ofName?_name (type : TypeName) : TypeName.ofName? type.name = some type := by
  cases type <;> decide

theorem Keyword.isAnyType_iff (value : Value) {names : List Value}
    (known : ∀ name ∈ names, ∃ text type, name = .text text ∧ TypeName.ofName? text = some type) :
    isAnyType value names = .ok true ↔ ∃ type : TypeName, type.accepts value.shape = true ∧ .text type.name ∈ names := by
  induction names with
  | nil => simp [isAnyType]
  | cons name rest ih =>
    obtain ⟨_, type, rfl, found⟩ := known name List.mem_cons_self
    obtain rfl := TypeName.name_of_ofName? found
    have first : namedType (.text type.name) = .ok type := by simp only [namedType, found]
    simp only [isAnyType, first, Except.ok_bind]
    split
    next accepted => exact ⟨fun _ => ⟨type, accepted, List.mem_cons_self⟩, fun _ => rfl⟩
    next refused =>
      rw [ih fun other later => known other (List.mem_cons_of_mem _ later)]
      constructor
      · rintro ⟨other, accepted, member⟩
        exact ⟨other, accepted, List.mem_cons_of_mem _ member⟩
      · rintro ⟨other, accepted, member⟩
        rcases List.mem_cons.mp member with same | later
        · obtain rfl := TypeName.name_injective (Value.text.inj same)
          exact absurd accepted refused
        · exact ⟨other, accepted, later⟩

namespace Graph

/-- The `type` keyword of a node, if it has one, is or lists a type of the value. -/
def TypeAllows (graph : Graph) (node : Ref) (value : Value) : Prop :=
  ∀ part, graph.field? node "type" = some part → ∃ type : TypeName, type.accepts value.shape = true ∧
    (graph.shape part = .text type.name ∨
      ∃ fixed items, graph.shape part = .array fixed items ∧ ∃ item ∈ items, graph.shape item = .text type.name)

theorem typeAllows_single {part : Ref} {type : TypeName} (found : graph.field? node "type" = some part)
    (shaped : graph.shape part = .text type.name) : graph.TypeAllows node value ↔ type.accepts value.shape = true := by
  constructor
  · intro allows
    obtain ⟨other, accepted, same | ⟨_, _, array, _⟩⟩ := allows part found
    · obtain rfl := TypeName.name_injective (Shape.text.inj (shaped.symm.trans same))
      exact accepted
    · cases shaped.symm.trans array
  · intro accepted other present
    cases found.symm.trans present
    exact ⟨type, accepted, .inl shaped⟩

theorem typeAllows_listed {part : Ref} {fixed : Bool} {items : List Ref} (found : graph.field? node "type" = some part)
    (shaped : graph.shape part = .array fixed items) : graph.TypeAllows node value ↔
      ∃ type : TypeName, type.accepts value.shape = true ∧ ∃ item ∈ items, graph.shape item = .text type.name := by
  constructor
  · intro allows
    obtain ⟨type, accepted, text | ⟨_, _, array, listed⟩⟩ := allows part found
    · cases shaped.symm.trans text
    · cases shaped.symm.trans array
      exact ⟨type, accepted, listed⟩
  · rintro ⟨type, accepted, listed⟩ other present
    cases found.symm.trans present
    exact ⟨type, accepted, .inr ⟨fixed, items, shaped, listed⟩⟩

end Graph

/-- The check of a type list asks for one of the types. -/
theorem Check.passes_types_iff {part : Ref} {fixed : Bool} {items : List Ref} (found : graph.field? node "type" = some part)
    (shaped : graph.shape part = .array fixed items) (named : ∀ item ∈ items, ∃ type : TypeName, graph.shape item = .text type.name) :
    Check.types.Passes graph mode judge prepare value node ↔ graph.TypeAllows node value := by
  have known : ∀ item ∈ items, ∃ name type, graph.shape item = .text name ∧ TypeName.ofName? name = some type := by
    intro item member
    obtain ⟨type, text⟩ := named item member
    exact ⟨_, type, text, type.ofName?_name⟩
  have listed : ∀ type : TypeName, .text type.name ∈ (items.map Member.node).map graph.memberValue ↔
      ∃ item ∈ items, graph.shape item = .text type.name := by
    intro type
    simp only [List.map_map, List.mem_map, Function.comp_apply, Graph.memberValue]
    refine exists_congr fun item => and_congr_right fun member => ?_
    obtain ⟨other, text⟩ := named item member
    rw [Graph.value_text text, text, Value.text.injEq, Shape.text.injEq]
  change (Program.ofExcept (runTypes graph value node)).evaluate judge prepare = .ok () ↔ _
  obtain ⟨result, ended⟩ := isAnyType_ok value (named_members known)
  have accepts := isAnyType_iff value (named_members known)
  simp only [listed] at accepts
  rw [Program.evaluate_ofExcept, Graph.typeAllows_listed found shaped, ← accepts, ended]
  simp only [runTypes, live, membersOf_eq found shaped, Except.ok_bind, ended, Except.ok.injEq]
  exact Except.accept_ok_iff _

theorem Keyword.typeChecks_eq {part : Ref} (found : fields.keyword? "type" = some part) :
    (outline graph fields).typeChecks =
      match (graph.shape part).text? with
      | some name => if TypeName.ofName? name = some .null then [.null] else []
      | none => [.types] := by
  have present : (outline graph fields).present "type" = true := by
    change (fields.keyword? "type").isSome = true
    rw [found]
    rfl
  have settled : (outline graph fields).type = (graph.shape part).text? := by
    change (fields.keyword? "type").bind _ = _
    rw [found]
    rfl
  rw [← settled]
  exact if_pos present

theorem Family.selected_single {type : TypeName} (single : (outline graph fields).type = some type.name) :
    Family.selected graph fields = ofType type := by
  change (match (outline graph fields).type with
    | some name => ((TypeName.ofName? name).map ofType).getD []
    | none => Family.typed) = _
  rw [single]
  simp only [type.ofName?_name, Option.map_some, Option.getD_some]

theorem Family.selected_all (several : (outline graph fields).type = none) : Family.selected graph fields = Family.typed := by
  change (match (outline graph fields).type with
    | some name => ((TypeName.ofName? name).map ofType).getD []
    | none => Family.typed) = _
  rw [several]

/-- A family that is compiled for a type leaves it to the type whether there is anything to say. -/
def Family.Guards (graph : Graph) (fields : Entries Ref) (value : Value) (family : Family) : Prop :=
  ∀ type : TypeName, (outline graph fields).type = some type.name → family ∈ ofType type → type.accepts value.shape = true

section Compiled

variable (object : graph.shape node = .object fields)
include object

/-- What the `type` keyword of a node can be that compiles. -/
theorem Keyword.type_settled {checks : List Check} (compiled : compileKind graph fields = .ok checks) :
    graph.field? node "type" = none ∨
    (∃ part, ∃ type : TypeName, graph.field? node "type" = some part ∧ graph.shape part = .text type.name) ∨
    ∃ part fixed items, graph.field? node "type" = some part ∧ graph.shape part = .array fixed items ∧
      ∀ item ∈ items, ∃ type : TypeName, graph.shape item = .text type.name := by
  obtain ⟨own, typed, _⟩ := optional_ok compiled
  cases found : graph.field? node "type" with
  | none => exact .inl rfl
  | some part =>
    rw [← Graph.field?_eq object, found] at typed
    have fits := compileType_fits found typed
    refine .inr ?_
    cases text : (graph.shape part).text? with
    | some name =>
      have shaped := Graph.text?_eq_some text
      simp only [compileType, shaped] at typed
      split at typed
      · cases typed
      next named => exact .inl ⟨part, _, rfl, shaped.trans (congrArg _ (TypeName.name_of_ofName? named).symm)⟩
      next named => exact .inl ⟨part, _, rfl, shaped.trans (congrArg _ (TypeName.name_of_ofName? named).symm)⟩
    | none =>
      rw [Graph.field?_eq object] at found
      rw [compileType_ok found typed, typeChecks_eq found, text] at fits
      obtain ⟨other, fixed, items, present, shaped, known⟩ := fits .types List.mem_cons_self
      rw [Graph.field?_eq object, found] at present
      cases present
      refine .inr ⟨part, fixed, items, rfl, shaped, fun item member => ?_⟩
      obtain ⟨name, type, named, known⟩ := known item member
      exact ⟨type, named.trans (congrArg _ (TypeName.name_of_ofName? known).symm)⟩

theorem Keyword.outline_type : (outline graph fields).type = (graph.field? node "type").bind fun part => (graph.shape part).text? := by
  rw [Graph.field?_eq object]
  rfl

/-- The type of a node is asked for once, by a check of its own or by the family that is compiled for it. -/
theorem Keyword.type_allows_iff {checks : List Check} (compiled : compileKind graph fields = .ok checks) :
    ((∀ check ∈ (outline graph fields).typeChecks, check.Passes graph mode judge prepare value node) ∧
      ∀ family ∈ Family.selected graph fields, family.Guards graph fields value) ↔ graph.TypeAllows node value := by
  have settled := outline_type object
  have unguarded : (outline graph fields).type = none → ∀ family : Family, family.Guards graph fields value := by
    intro none family type named
    cases none.symm.trans named
  rcases type_settled object compiled with absent | ⟨part, type, found, shaped⟩ | ⟨part, fixed, items, found, shaped, named⟩
  · rw [absent, Option.bind_none] at settled
    have checks : (outline graph fields).typeChecks = [] := by
      unfold Outline.typeChecks
      rw [if_neg]
      change ¬ (fields.keyword? "type").isSome = true
      rw [← Graph.field?_eq object, absent]
      exact Bool.false_ne_true
    rw [checks]
    constructor
    · intro _ part present
      cases absent.symm.trans present
    · exact fun _ => ⟨List.forall_mem_nil _, fun family _ => unguarded settled family⟩
  · have here := found
    rw [Graph.field?_eq object] at here
    rw [found, Option.bind_some, shaped] at settled
    rw [Graph.typeAllows_single found shaped, typeChecks_eq here, shaped, Family.selected_single settled]
    simp only [Shape.text?, type.ofName?_name, Option.some.injEq]
    constructor
    · rintro ⟨checks, guards⟩
      by_cases null : type = .null
      · rw [if_pos null, List.forall_mem_singleton] at checks
        rw [null]
        exact (Program.evaluate_accept_ok_iff _).mp checks
      · have member : ∃ family, family ∈ Family.ofType type := by
          cases type with
          | null => exact absurd rfl null
          | array | boolean | integer | number | object | string => exact ⟨_, List.mem_cons_self⟩
        obtain ⟨family, member⟩ := member
        exact guards family member type settled member
    · intro accepted
      refine ⟨?_, fun family _ other named _ => ?_⟩
      · split
        next null =>
          rw [null] at accepted
          rw [List.forall_mem_singleton]
          exact (Program.evaluate_accept_ok_iff _).mpr accepted
        next => exact List.forall_mem_nil _
      · obtain rfl := TypeName.name_injective (Option.some.inj (settled.symm.trans named))
        exact accepted
  · have here := found
    rw [Graph.field?_eq object] at here
    rw [found, Option.bind_some, shaped] at settled
    rw [typeChecks_eq here, shaped]
    simp only [Shape.text?, List.forall_mem_singleton, Check.passes_types_iff found shaped named]
    exact and_iff_left fun family _ => unguarded settled family

end Compiled

end LiveSchema
