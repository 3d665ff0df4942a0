import LiveSchema.Proofs.WellFormedKeywords

/-! Which nodes compile. A node is well formed if it is a boolean, or an object whose keywords
have their forms, those of single types only as far as its own type asks for them. These are the
nodes that compile, but for an `enum` array with a value in it that contains itself. -/

namespace LiveSchema

open Keyword

/-- The keywords of a family count unless the node names one type, and that of another family. -/
def Family.Counts (graph : Graph) (fields : Entries Ref) (family : Family) : Prop :=
  ∀ part, ∀ type : TypeName, fields.keyword? "type" = some part → graph.shape part = .text type.name →
    family ∈ Family.ofType type

/-- The keywords of a family have their forms. -/
def Family.Forms (graph : Graph) (fields : Entries Ref) : Family → Prop
  | .kind => KindForms graph fields
  | .object => ObjectForms graph fields
  | .number => NumberForms graph fields (∃ part, fields.keyword? "type" = some part ∧ graph.shape part = .text "integer")
  | .text => TextForms graph fields
  | .array => ArrayForms graph fields
  | .boolean => True
  | .combinators => CombinatorForms graph fields

namespace Graph

def WellFormed (graph : Graph) (node : Ref) : Prop :=
  (∃ flag, graph.shape node = .bool flag) ∨
  ∃ fields, graph.shape node = .object fields ∧ Family.kind.Forms graph fields ∧
    (∀ family ∈ Family.typed, family.Counts graph fields → family.Forms graph fields) ∧
    Family.combinators.Forms graph fields

/-- No member of an `enum` keyword has anything in it that contains itself. -/
def EnumUnfolds (graph : Graph) (node : Ref) : Prop :=
  ∀ part, graph.field? node "enum" = some part → ∀ member ∈ (graph.shape part).parts, ¬ graph.HoldsLoop member

end Graph

variable {graph : Graph} {node : Ref} {fields : Entries Ref} {families : List Family} {family : Family}

namespace Family

theorem compileAll_succeeds : Succeeds (compileAll graph fields families) ↔
    ∀ family ∈ families, Succeeds (family.compile graph fields) := by
  induction families with
  | nil => exact iff_of_true (succeeds_ok []) (List.forall_mem_nil _)
  | cons family rest ih =>
    have all : Succeeds (compileAll graph fields (family :: rest)) ↔ _ :=
      succeeds_bind fun checks => succeeds_map fun others => checks ++ others
    rw [all, ih, List.forall_mem_cons]

theorem mem_typed_of_ofType {type : TypeName} (member : family ∈ ofType type) : family ∈ typed := by
  revert member family
  cases type <;> decide

/-- The families that are compiled are those that count. -/
theorem mem_selected_iff (named : fields.Declares "type" graph.NamesTypes) :
    family ∈ selected graph fields ↔ family ∈ typed ∧ family.Counts graph fields := by
  have settled : (outline graph fields).type = (fields.keyword? "type").bind fun part => (graph.shape part).text? := rfl
  cases found : fields.keyword? "type" with
  | none =>
    rw [found, Option.bind_none] at settled
    rw [selected_all settled]
    refine (and_iff_left fun part type present => ?_).symm
    cases found.symm.trans present
  | some part =>
    rw [found, Option.bind_some] at settled
    rcases named part found with ⟨type, text⟩ | ⟨fixed, items, types, array, _⟩
    · rw [text] at settled
      rw [selected_single settled]
      constructor
      · intro member
        refine ⟨mem_typed_of_ofType member, fun other again present same => ?_⟩
        cases found.symm.trans present
        rwa [← TypeName.name_injective (Shape.text.inj (text.symm.trans same))]
      · exact fun ⟨_, counts⟩ => counts part type found text
    · rw [array] at settled
      rw [selected_all settled]
      refine (and_iff_left fun other type present text => ?_).symm
      cases found.symm.trans present
      cases array.symm.trans text

theorem compile_succeeds (typed : family ∈ typed) : Succeeds (family.compile graph fields) ↔ family.Forms graph fields := by
  cases family with
  | kind | combinators => simp [Family.typed] at typed
  | object => exact compileObject_succeeds
  | number =>
    have whole : graph.hasType (fields.keyword? "type") "integer" = true ↔
        ∃ part, fields.keyword? "type" = some part ∧ graph.shape part = .text "integer" := by
      cases fields.keyword? "type" with
      | none => simp [Graph.hasType]
      | some part =>
        simp only [Graph.hasType, beq_iff_eq, Option.some.injEq, exists_eq_left']
        exact ⟨Graph.text?_eq_some, fun shaped => by rw [shaped]; rfl⟩
    refine compileNumber_succeeds.trans ?_
    rw [whole]
    rfl
  | text => exact compileText_succeeds
  | array => exact compileArray_succeeds
  | boolean => exact iff_of_true (succeeds_ok _) trivial

end Family

theorem Graph.wellFormed_object_iff (object : graph.shape node = .object fields) : graph.WellFormed node ↔
    Family.kind.Forms graph fields ∧ (∀ family ∈ Family.typed, family.Counts graph fields → family.Forms graph fields) ∧
      Family.combinators.Forms graph fields := by
  constructor
  · rintro (⟨flag, bool⟩ | ⟨others, again, forms⟩)
    · cases object.symm.trans bool
    · cases object.symm.trans again
      exact forms
  · exact fun forms => .inr ⟨fields, object, forms⟩

theorem Graph.enumUnfolds_object_iff (object : graph.shape node = .object fields) : graph.EnumUnfolds node ↔
    fields.Declares "enum" fun part => ∀ member ∈ (graph.shape part).parts, ¬ graph.HoldsLoop member := by
  unfold EnumUnfolds
  rw [field?_eq object]
  rfl

/-- A node compiles if and only if it is well formed and its `enum` array, if it has one, holds
no value that contains itself. -/
theorem compiles_iff_wellFormed (graph : Graph) (node : Ref) :
    (∃ checks, compileNode graph node = .ok checks) ↔ graph.WellFormed node ∧ graph.EnumUnfolds node := by
  change Succeeds (compileNode graph node) ↔ _
  unfold compileNode
  cases shaped : graph.shape node with
  | bool flag =>
    refine iff_of_true (succeeds_ok _) ⟨.inl ⟨flag, shaped⟩, fun part found => ?_⟩
    simp [Graph.field?, shaped, Shape.entries?] at found
  | null | number | text | bytes | array =>
    refine iff_of_false (not_succeeds_error _) ?_
    rintro ⟨⟨_, bool⟩ | ⟨_, object, _⟩, _⟩
    · cases shaped.symm.trans bool
    · cases shaped.symm.trans object
  | object fields =>
    rw [Graph.wellFormed_object_iff shaped, Graph.enumUnfolds_object_iff shaped]
    dsimp only
    rw [Family.compileAll_succeeds, List.cons_append, List.forall_mem_cons, List.forall_mem_append, List.forall_mem_singleton]
    constructor
    · rintro ⟨kind, families, combinators⟩
      obtain ⟨kind, unfolds⟩ := compileKind_succeeds.mp kind
      refine ⟨⟨kind, fun family typed counts => ?_, compileCombinators_succeeds.mp combinators⟩, unfolds⟩
      exact (Family.compile_succeeds typed).mp (families family ((Family.mem_selected_iff kind.type).mpr ⟨typed, counts⟩))
    · rintro ⟨⟨kind, families, combinators⟩, unfolds⟩
      refine ⟨compileKind_succeeds.mpr ⟨kind, unfolds⟩, fun family member => ?_, compileCombinators_succeeds.mpr combinators⟩
      obtain ⟨typed, counts⟩ := (Family.mem_selected_iff kind.type).mp member
      exact (Family.compile_succeeds typed).mpr (families family typed counts)

/-- An array that contains itself is the only choice. -/
def loopGraph : Graph := ⟨#[.object [(.text "enum", .node 1)], .array false [.node 1]]⟩

theorem endless_choice : loopGraph.WellFormed (.node 0) ∧ compileNode loopGraph (.node 0) = .error .endless := by
  refine ⟨.inr ⟨_, rfl, ⟨?_, ?_⟩, fun family typed _ => ?_, ?_⟩, rfl⟩
  · exact Entries.declares_absent rfl
  · exact (Entries.declares_found rfl).mpr ⟨_, _, rfl, List.cons_ne_nil _ _⟩
  · cases family with
    | kind | combinators => simp [Family.typed] at typed
    | boolean => trivial
    | object | number | text | array => constructor <;> exact Entries.declares_absent rfl
  · constructor <;> exact Entries.declares_absent rfl

end LiveSchema
