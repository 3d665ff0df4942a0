import LiveSchema.Proofs.AddedKeywords

/-! A list of types. A node of several types runs the keywords of all types and asks for one
of the types beside them; a node of one type leaves out the keywords of the others, which have
nothing to say about its values. So the list accepts what one of its types accepts. -/

namespace LiveSchema

open Run (start)

variable {graph : Graph} {mode : MultipleMode} {value : Value} {list : Ref} {types : List TypeName} {single : TypeName → Ref}

/-- A node of several types, and for each of them a node of that type alone with the same other keywords. -/
structure Graph.TypeSplit (graph : Graph) (list : Ref) (types : List TypeName) (single : TypeName → Ref) : Prop where
  listed : ∃ part fixed items, graph.field? list "type" = some part ∧ graph.shape part = .array fixed items ∧
    items.map graph.shape = types.map fun type => .text type.name
  named : ∀ type ∈ types, ∃ part, graph.field? (single type) "type" = some part ∧ graph.shape part = .text type.name
  kept : ∀ type ∈ types, ∀ keyword, keyword ≠ "type" → graph.field? (single type) keyword = graph.field? list keyword

namespace Graph.TypeSplit

theorem allows_iff (split : graph.TypeSplit list types single) :
    graph.TypeAllows list value ↔ ∃ type ∈ types, graph.TypeAllows (single type) value := by
  obtain ⟨part, fixed, items, found, shaped, texts⟩ := split.listed
  have member : ∀ type, (∃ item ∈ items, graph.shape item = .text type.name) ↔ type ∈ types := by
    intro type
    rw [← List.mem_map, texts, List.mem_map]
    constructor
    · rintro ⟨other, inside, same⟩
      exact TypeName.name_injective (Shape.text.inj same) ▸ inside
    · exact fun inside => ⟨type, inside, rfl⟩
  rw [typeAllows_listed found shaped]
  simp only [member]
  constructor
  · rintro ⟨type, accepted, inside⟩
    obtain ⟨part, found, shaped⟩ := split.named type inside
    exact ⟨type, inside, (typeAllows_single found shaped).mpr accepted⟩
  · rintro ⟨type, inside, allows⟩
    obtain ⟨part, found, shaped⟩ := split.named type inside
    exact ⟨type, (typeAllows_single found shaped).mp allows, inside⟩

theorem sharpens (split : graph.TypeSplit list types single) {type : TypeName} (inside : type ∈ types) :
    graph.Sharpens list (single type) ∧ graph.Sharpens (single type) list := by
  have kept := split.kept type inside
  have properties := kept "properties" (by decide)
  have patterns := kept "patternProperties" (by decide)
  exact ⟨⟨fun other found => (kept _ other).trans found, .inr ⟨properties, patterns⟩⟩,
    ⟨fun other found => (kept _ other).symm.trans found, .inr ⟨properties.symm, patterns.symm⟩⟩⟩

theorem objects (split : graph.TypeSplit list types single) :
    (∃ fields, graph.shape list = .object fields) ∧ ∀ type ∈ types, ∃ fields, graph.shape (single type) = .object fields := by
  have object : ∀ {node part}, graph.field? node "type" = some part → ∃ fields, graph.shape node = .object fields := by
    intro node part found
    obtain ⟨fields, shaped, _⟩ := Option.bind_eq_some_iff.mp found
    exact ⟨fields, entries?_eq_some shaped⟩
  obtain ⟨_, _, _, found, _⟩ := split.listed
  refine ⟨object found, fun type inside => ?_⟩
  obtain ⟨_, found, _⟩ := split.named type inside
  exact object found

/-- The value is of one of the types, and the other keywords are the same for all of them. -/
theorem accepts_iff (split : graph.TypeSplit list types single) (compiled : ∃ checks, compileNode graph list = .ok checks)
    (each : ∀ type ∈ types, ∃ checks, compileNode graph (single type) = .ok checks) :
    graph.evaluate mode value list = .ok () ↔ ∃ type ∈ types, graph.evaluate mode value (single type) = .ok () := by
  obtain ⟨⟨fields, object⟩, owned⟩ := split.objects
  constructor
  · intro accepted
    obtain ⟨checks, compiled⟩ := compiled
    obtain ⟨type, inside, allows⟩ := split.allows_iff.mp ((evaluate_ok_iff object compiled).mp accepted).1
    obtain ⟨own, objects⟩ := owned type inside
    exact ⟨type, inside, (split.sharpens inside).2.accepts objects object (fun _ => allows) (each type inside) ⟨checks, compiled⟩ accepted⟩
  · rintro ⟨type, inside, accepted⟩
    obtain ⟨own, objects⟩ := owned type inside
    exact (split.sharpens inside).1.accepts object objects (fun allows => split.allows_iff.mpr ⟨type, inside, allows⟩) compiled
      (each type inside) accepted

end Graph.TypeSplit

namespace Validator

/-- A node of several types accepts a value just when a node of one of the types does, all other
keywords being the same, and whatever else the validators were asked before. -/
theorem type_list_is_union (validator : Validator) (split : graph.TypeSplit validator.schema types single)
    (compiles : graph.Compiles validator.schema) (each : ∀ type ∈ types, graph.Compiles (single type)) (tasks : List Task)
    (works : TypeName → List Task) (value : Value) :
    (start (validator.validate graph value) (validator.work graph tasks .empty)).1 = .ok () ↔
      ∃ type ∈ types, (start (Validator.validate ⟨single type, validator.settings⟩ graph value)
        (Validator.work ⟨single type, validator.settings⟩ graph (works type) .empty)).1 = .ok () := by
  rw [validate_work compiles, split.accepts_iff (compiles _ .refl) fun type inside => each type inside _ .refl]
  refine exists_congr fun type => and_congr_right fun inside => ?_
  rw [validate_work (each type inside)]
  rfl

/-- Whole numbers up to three, nothing, and either of them. -/
def eitherGraph : Graph :=
  ⟨#[.object [(.text "type", .node 3), (.text "maximum", .int 3)], .object [(.text "type", .node 4), (.text "maximum", .int 3)],
    .object [(.text "type", .node 5), (.text "maximum", .int 3)], .array false [.node 4, .node 5], .text "integer", .text "null"]⟩

def eitherSingle : TypeName → Ref
  | .integer => .node 1
  | _ => .node 2

/-- `null` is of one of the types, so the list accepts it. Five is of the other one and too large. -/
theorem type_list_is_union_null :
    (start (Validator.validate ⟨.node 0, .standard⟩ eitherGraph .null) .empty).1 = .ok () ∧
    (start (Validator.validate ⟨.node 0, .standard⟩ eitherGraph (.number (.int 5))) .empty).1 ≠ .ok () := by
  have compiles : ∀ index < 3, eitherGraph.Compiles (.node index) := by
    intro index below
    have nodes : ∀ index < 3, eitherGraph.preorder (.node index) = [.node index] := by decide
    rw [Graph.compiles_iff, nodes index below, List.forall_mem_singleton]
    match index, below with
    | 0, _ => exact ⟨_, rfl⟩
    | 1, _ => exact ⟨_, rfl⟩
    | 2, _ => exact ⟨_, rfl⟩
  have split : eitherGraph.TypeSplit (.node 0) [.integer, .null] eitherSingle := by
    refine ⟨⟨.node 3, false, [.node 4, .node 5], rfl, rfl, rfl⟩, ?_, ?_⟩
    · simp only [List.forall_mem_cons]
      exact ⟨⟨.node 4, rfl, rfl⟩, ⟨.node 5, rfl, rfl⟩, List.forall_mem_nil _⟩
    · simp only [List.forall_mem_cons]
      refine ⟨fun keyword other => ?_, fun keyword other => ?_, List.forall_mem_nil _⟩
      all_goals
        have skipped : Key.text "type" ≠ .text keyword := fun same => other (Key.text.inj same).symm
        exact (if_neg skipped).trans (if_neg skipped).symm
  have each : ∀ type ∈ [TypeName.integer, .null], eitherGraph.Compiles (eitherSingle type) := by
    simp only [List.forall_mem_cons]
    exact ⟨compiles 1 (by decide), compiles 2 (by decide), List.forall_mem_nil _⟩
  have union := type_list_is_union ⟨.node 0, .standard⟩ split (compiles 0 (by decide)) each [] fun _ => []
  constructor
  · refine (union .null).mpr ⟨.null, by decide, ?_⟩
    rw [validate_work (each .null (by decide))]
    rfl
  · intro passed
    obtain ⟨type, member, accepted⟩ := (union (.number (.int 5))).mp passed
    rw [validate_work (each type member)] at accepted
    have refused : ∀ type ∈ [TypeName.integer, .null], ∃ violation,
        eitherGraph.evaluate .decimal (.number (.int 5)) (eitherSingle type) = .error (.violation violation) := by
      simp only [List.forall_mem_cons]
      exact ⟨⟨_, rfl⟩, ⟨_, rfl⟩, List.forall_mem_nil _⟩
    obtain ⟨violation, ended⟩ := refused type member
    cases ended.symm.trans accepted

end Validator

end LiveSchema
