import LiveSchema.Proofs.EagerCompilation

/-! Recursive schemas. A schema may lead back to itself as long as values get less deep on
the way: along a chain of nodes that get one value none comes twice, so there are at most as
many as the graph has, and after them a part is looked at. -/

namespace LiveSchema

open Relation (ReflTransGen TransGen)
open Run (start)

namespace Graph

/-- A nested schema that gets the very value its node gets. -/
def PassesOn (graph : Graph) (outer inner : Ref) : Prop := inner ∈ graph.subschemas outer ∧ graph.HandsOn outer inner

/-- No node that is reached comes back to itself with the value it was given. -/
def Consumes (graph : Graph) (root : Ref) : Prop :=
  ∀ node, graph.Reaches root node → ¬ TransGen graph.PassesOn node node

end Graph

variable {graph : Graph} {mode : MultipleMode} {root node : Ref} {value : Value}

/-- The nodes in `seen` get the same value and lead to this one. -/
private theorem evaluateAt_consumes (compiles : graph.Compiles root)
    (readable : ∀ node, graph.Reaches root node → graph.ReadsConstant node) (consumes : graph.Consumes root)
    (reached : graph.Reaches root node) {seen : List Ref} (distinct : seen.Nodup)
    (numbered : ∀ ref ∈ seen, ∃ index, ref = .node index ∧ index < graph.size)
    (leads : ∀ ref ∈ seen, TransGen graph.PassesOn ref node) {fuel : Nat}
    (enough : graph.size - seen.length + (graph.size + 1) * value.depth < fuel) :
    Except.FailsAs (graph.Rejects root) (evaluateAt graph mode fuel value node) := by
  induction fuel generalizing value node seen with
  | zero => omega
  | succ fuel ih =>
    have compiles_here : graph.Compiles node := fun other path => compiles other (reached.trans path)
    have refuses : ∀ failure, graph.Refuses node failure → graph.Rejects root failure := fun _ refuses => ⟨node, reached, refuses⟩
    refine evaluateAt_fails_of_asked refuses (.inr (readable node reached)) compiles_here fun part schema asks => ?_
    obtain ⟨nested, lower | ⟨rfl, handed⟩⟩ := asks
    · have levels : (graph.size + 1) * (part.depth + 1) ≤ (graph.size + 1) * value.depth := Nat.mul_le_mul_left _ lower
      rw [Nat.mul_succ] at levels
      refine ih (reached.tail nested) List.nodup_nil (by simp) (by simp) ?_
      simp only [List.length_nil]
      omega
    · obtain ⟨index, rfl, small⟩ := Graph.subschemas_node (List.ne_nil_of_mem nested)
      have fresh : Ref.node index ∉ seen := fun member => consumes _ reached (leads _ member)
      have distincts : (Ref.node index :: seen).Nodup := List.nodup_cons.mpr ⟨fresh, distinct⟩
      have numbers := List.forall_mem_cons.mpr ⟨⟨index, rfl, small⟩, numbered⟩
      have room := Graph.length_le_size distincts numbers
      rw [List.length_cons] at room
      refine ih (reached.tail nested) distincts numbers ?_ ?_
      · have step : graph.PassesOn (.node index) schema := ⟨nested, handed⟩
        exact List.forall_mem_cons.mpr ⟨.single step, fun ref member => (leads ref member).tail step⟩
      · rw [List.length_cons]
        omega

theorem Graph.Consumes.evaluate_fails (consumes : graph.Consumes root) (compiles : graph.Compiles root)
    (readable : ∀ node, graph.Reaches root node → graph.ReadsConstant node) (mode : MultipleMode) (value : Value) :
    Except.FailsAs (graph.Rejects root) (graph.evaluate mode value root) := by
  have levels : graph.budget value = (graph.size + 1) * value.depth + (graph.size + 1) * 2 := Nat.mul_add _ _ _
  refine evaluateAt_consumes compiles readable consumes .refl List.nodup_nil (by simp) (by simp) ?_
  simp only [List.length_nil]
  omega

namespace Validator

/-- Where all schemas compile, no constant holds anything, at any depth, that contains itself,
and no schema comes back to itself with the value it was given, every validation comes to an
end, after whatever calls. The end is a verdict, or a message would have to quote a number that
has no text. No more schemas have to be inside one another than the budget allows. -/
theorem recursive_validation_ends (validator : Validator) (graph : Graph) (compiles : graph.Compiles validator.schema)
    (readable : ∀ node, graph.Reaches validator.schema node → graph.ReadsConstant node)
    (consumes : graph.Consumes validator.schema)
    (tasks : List Task) (value : Value) :
    ∃ outcome, (outcome = .ok () ∨ (∃ violation, outcome = .error (.violation violation)) ∨
        outcome = .error (.fault .badValue) ∧ ∃ node, graph.Reaches validator.schema node ∧ ¬ graph.Quotable node) ∧
      (start (validator.validate graph value) (validator.work graph tasks .empty)).1 = outcome ∧
      ∀ fuel, graph.budget value ≤ fuel → evaluateAt graph validator.mode fuel value validator.schema = outcome := by
  have fails := consumes.evaluate_fails compiles readable validator.mode value
  refine ⟨graph.evaluate validator.mode value validator.schema, Except.verdict_or_unquotable fails,
    validate_work compiles tasks value, fun fuel enough => ?_⟩
  refine evaluateAt_mono enough fun endless => ?_
  obtain ⟨_, _, impossible⟩ := fails _ endless
  exact impossible

/-- Lists whose rest is such a list again, given twice: as one of several demands on the
whole, and under the name of a property. -/
def listGraph : Graph :=
  ⟨#[.object [(.text "allOf", .node 1)], .array false [.node 2],
    .object [(.text "type", .node 3), (.text "properties", .node 4)], .text "object", .object [(.text "rest", .node 0)]]⟩

theorem list_order : listGraph.preorder (.node 0) = [.node 0, .node 2] := by decide

/-- What the second node contains gets a part of the value. -/
theorem list_consumes : listGraph.Consumes (.node 0) := by
  have last : ∀ inner, ¬ listGraph.PassesOn (.node 2) inner := by
    rintro inner ⟨_, ⟨keyword, known, _, _, _, found, _⟩ | found | ⟨_, _, _, found, _⟩⟩
    · simp only [Graph.listKeywords, List.mem_cons, List.not_mem_nil, or_false] at known
      rcases known with rfl | rfl | rfl <;> cases found
    · cases found
    · cases found
  intro node reached back
  rw [← Graph.mem_preorder_iff, list_order, List.mem_pair] at reached
  obtain ⟨inner, first, back⟩ := TransGen.head'_iff.mp back
  rcases reached with rfl | rfl
  · have here : inner = .node 2 := List.mem_singleton.mp first.1
    subst here
    rcases ReflTransGen.cases_head back with same | ⟨_, second, _⟩
    · cases same
    · exact last _ second
  · exact last inner first

/-- A list whose rest is no list is refused. -/
theorem recursive_validation_ends_list :
    ∃ violation, (start (Validator.validate ⟨.node 0, .standard⟩ listGraph
      (.object [(.text "rest", .object [(.text "rest", .null)])])) .empty).1 = .error (.violation violation) := by
  have compiles : listGraph.Compiles (.node 0) := by
    rw [Graph.compiles_iff, list_order]
    simp only [List.forall_mem_cons]
    exact ⟨⟨_, rfl⟩, ⟨_, rfl⟩, by simp⟩
  have readable : ∀ node, listGraph.Reaches (.node 0) node → listGraph.ReadsConstant node := by
    intro node reached part found
    rw [← Graph.mem_preorder_iff, list_order, List.mem_pair] at reached
    rcases reached with rfl | rfl <;> cases found
  obtain ⟨outcome, settled, ended, enough⟩ := recursive_validation_ends ⟨.node 0, .standard⟩ listGraph compiles readable list_consumes
    [] (.object [(.text "rest", .object [(.text "rest", .null)])])
  have refused : evaluateAt listGraph .decimal 30 (.object [(.text "rest", .object [(.text "rest", .null)])]) (.node 0) =
      .error (.violation .notObject) := rfl
  refine ⟨.notObject, ended.trans ((enough 30 (by decide)).symm.trans refused)⟩

/-- An array that holds itself, as a constant. -/
def constantGraph : Graph := ⟨#[.object [(.text "const", .node 1)], .array false [.node 1]]⟩

/-- A constant that contains itself is compared without end, though no schema is nested at all. -/
theorem endless_constant :
    constantGraph.Compiles (.node 0) ∧
    constantGraph.Consumes (.node 0) ∧
    (∀ fuel, evaluateAt constantGraph .decimal fuel (.number (.int 1)) (.node 0) = .error .endless) ∧
    (start (Validator.validate ⟨.node 0, .standard⟩ constantGraph (.number (.int 1))) .empty).1 = .error .endless := by
  have order : constantGraph.preorder (.node 0) = [.node 0] := by decide
  have compiles : constantGraph.Compiles (.node 0) := by
    rw [Graph.compiles_iff, order, List.forall_mem_singleton]
    exact ⟨_, rfl⟩
  have endless : ∀ fuel, evaluateAt constantGraph .decimal fuel (.number (.int 1)) (.node 0) = .error .endless := by
    intro fuel
    cases fuel with
    | zero => rfl
    | succ fuel => rfl
  refine ⟨compiles, ?_, endless, ?_⟩
  · intro node reached back
    rw [← Graph.mem_preorder_iff, order, List.mem_singleton] at reached
    subst reached
    obtain ⟨inner, ⟨nested, _⟩, _⟩ := TransGen.head'_iff.mp back
    cases nested
  · rw [validate_empty constantGraph compiles]
    exact endless _

end Validator
end LiveSchema
