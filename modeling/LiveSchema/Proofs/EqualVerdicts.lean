import LiveSchema.Proofs.EagerCompilation
import LiveSchema.Proofs.EqualChecks

/-! Validation respects equality of data. Schemas that are equal compile both or not at
all, and what is valid under one is valid under the other, in any spelling. Divisors are
left out: whether a number is a multiple may depend on how it is written. -/

namespace LiveSchema

open Run (start)
open LiveSchema.Graph (Twin)

variable {graph one two : Graph} {node other root schema : Ref} {mode modes : MultipleMode} {value copy : Value}

namespace Graph

/-- No schema that is reached asks for multiples. -/
def Undivided (graph : Graph) (root : Ref) : Prop := ∀ node, graph.Reaches root node → graph.field? node "multipleOf" = none

/-- A nested schema stands in its node, or in a part of it. -/
theorem parts_of_nested (nested : schema ∈ graph.subschemas node) :
    schema ∈ (graph.shape node).parts ∨ ∃ part ∈ (graph.shape node).parts, schema ∈ (graph.shape part).parts := by
  unfold subschemas at nested
  split at nested
  next fields object =>
    have present : ∀ keyword part, keyword? fields keyword = some part → part ∈ (graph.shape node).parts := by
      intro keyword part found
      rw [object]
      exact List.mem_map_of_mem (Table.mem_of_get? found)
    have mapped : ∀ keyword, schema ∈ graph.mappedSchemas fields keyword →
        ∃ part ∈ (graph.shape node).parts, schema ∈ (graph.shape part).parts := by
      intro keyword member
      unfold mappedSchemas at member
      split at member
      next entries found =>
        obtain ⟨part, present_here, shaped⟩ := Option.bind_eq_some_iff.mp found
        refine ⟨part, present keyword part present_here, ?_⟩
        rw [entries?_eq_some shaped]
        exact List.mem_of_mem_filter member
      next => cases member
    have listed : ∀ keyword, schema ∈ graph.listedSchemas fields keyword →
        ∃ part ∈ (graph.shape node).parts, schema ∈ (graph.shape part).parts := by
      intro keyword member
      unfold listedSchemas at member
      split at member
      next items found =>
        obtain ⟨part, present_here, shaped⟩ := Option.bind_eq_some_iff.mp found
        obtain ⟨fixed, shaped⟩ := items?_eq_some shaped
        refine ⟨part, present keyword part present_here, ?_⟩
        rw [shaped]
        exact List.mem_of_mem_filter member
      next => cases member
    have single : ∀ keyword, schema ∈ graph.singleSchema fields keyword → schema ∈ (graph.shape node).parts :=
      fun keyword member => present keyword schema (Option.mem_toList.mp (List.mem_of_mem_filter member))
    simp only [List.mem_append, List.mem_flatMap] at nested
    rcases nested with (((⟨keyword, _, member⟩ | ⟨keyword, _, member⟩) | member) | member) | ⟨keyword, _, member⟩
    · exact .inr (mapped keyword member)
    · exact .inl (single keyword member)
    · exact .inl (single "items" member)
    · exact .inr (listed "items" member)
    · exact .inr (listed keyword member)
  next => cases nested

theorem read?_nested {depth : Nat} (read : (graph.read? (depth + 1) node).isSome = true) (nested : schema ∈ graph.subschemas node) :
    (graph.read? depth schema).isSome = true := by
  rcases parts_of_nested nested with inside | ⟨part, outer, inside⟩
  · exact read?_isSome.mp read schema inside
  · have middle := read?_isSome.mp read part outer
    cases depth with
    | zero => cases middle
    | succ depth =>
      obtain ⟨value, found⟩ := Option.isSome_iff_exists.mp (read?_isSome.mp middle schema inside)
      exact Option.isSome_iff_exists.mpr ⟨value, read?_mono (Nat.le_succ depth) found⟩

end Graph

/-- What does not contain itself is gone through in as many levels as it takes to read it. -/
theorem evaluateAt_agree (constants : one.ConstantBooleans) (others : two.ConstantBooleans) {fuel : Nat}
    (read : (one.read? fuel node).isSome = true) (compiles : one.Compiles node) (undivided : one.Undivided node)
    (twin : Twin one two node other) (values : value.Twin copy) :
    Except.Agree (evaluateAt one mode fuel value node) (evaluateAt two modes fuel copy other) := by
  induction fuel generalizing node other value copy with
  | zero => cases read
  | succ fuel ih =>
    have inner : ∀ schema ∈ one.subschemas node, one.Compiles schema :=
      fun schema nested reached path => compiles reached (.head nested path)
    obtain ⟨checks, compiled⟩ := compiles node .refl
    obtain ⟨copies, compiled_again⟩ := compileNode_twin twin checks compiled
    simp only [evaluateAt, compiled, compiled_again, Except.ok_bind, judgeNode, twin.bool_iff constants others false]
    split
    · exact .violation _ _
    · have alike := compileNode_alike twin.outline_eq compiled compiled_again
      rcases compileNode_object compiled with rfl | ⟨fields, object⟩
      · cases alike
        exact .ok ()
      · have nested : one.JudgeAlike two node (evaluateAt one mode fuel) (evaluateAt two modes fuel) (prepareNode one)
            (prepareNode two) := by
          refine ⟨fun schema inside again part copy same values => ?_, fun schema inside again same => ?_⟩
          · have reached : ∀ deeper, one.Reaches schema deeper → one.field? deeper "multipleOf" = none :=
              fun deeper path => undivided deeper (.head inside path)
            exact ih (Graph.read?_nested read inside) (inner schema inside) reached same values
          · obtain ⟨list, prepared⟩ := inner schema inside schema .refl
            obtain ⟨list_again, prepared_again⟩ := compileNode_twin same list prepared
            simp only [prepareNode, prepared, prepared_again]
            exact .ok ()
        exact Check.runAll_agree twin object nested constants others (undivided node .refl) values alike (compileNode_fits compiled)
          (compileNode_fits compiled_again) fun part => enum_array compiled

theorem Except.Agree.ends {one two : Except Failure α} (agree : Agree one two) : one ≠ .error .endless :=
  fun endless => agree.fails _ endless

/-- Verdicts that agree are told alike, if both are told. -/
theorem Except.Agree.told {one two : Except Failure Unit} (agree : Agree one two) {valid again : Bool}
    (answer : (settle one).map Option.isNone = .ok valid) (answer_again : (settle two).map Option.isNone = .ok again) :
    valid = again := by
  cases agree with
  | ok | violation => exact Except.ok.inj (answer.symm.trans answer_again)
  | stopped => cases answer
  | stops => cases answer_again

namespace Graph

theorem Twin.evaluate_agree (twin : Twin one two node other) (constants : one.ConstantBooleans) (others : two.ConstantBooleans)
    (compiles : one.Compiles node) (undivided : one.Undivided node) (values : value.Twin copy) :
    Except.Agree (one.evaluate mode value node) (two.evaluate modes copy other) := by
  have ⟨data, _, read, _⟩ := twin
  have agree : Except.Agree (evaluateAt one mode (one.size + 1) value node) (evaluateAt two modes (one.size + 1) copy other) :=
    evaluateAt_agree constants others (Option.isSome_iff_exists.mpr ⟨data, read⟩) compiles undivided twin values
  rw [evaluate_eq_of_ends agree.ends, evaluate_eq_of_ends agree.symm.ends]
  exact agree

/-- An answer has come, or a message would have to quote a number that has no text. -/
def Answers (graph : Graph) (root : Ref) (outcome : Except Failure Bool) : Prop :=
  (∃ valid, outcome = .ok valid) ∨ outcome = .error (.fault .badValue) ∧ ∃ node, graph.Reaches root node ∧ ¬ graph.Quotable node

theorem Compiles.answers (compiles : graph.Compiles root) (ends : graph.evaluate mode value root ≠ .error .endless) :
    graph.Answers root ((settle (graph.evaluate mode value root)).map Option.isNone) := by
  rcases Except.verdict_or_unquotable (compiles.evaluate_fails ends) with accepted | ⟨violation, refused⟩ | ⟨stopped, unquotable⟩
  · exact .inl ⟨true, by rw [accepted]; rfl⟩
  · exact .inl ⟨false, by rw [refused]; rfl⟩
  · exact .inr ⟨by rw [stopped]; rfl, unquotable⟩

theorem Twin.compiles (twin : Twin one two node other) (compiles : one.Compiles node) : two.Compiles other := by
  intro inner reached
  obtain ⟨outer, reaches, same⟩ := twin.reached reached
  obtain ⟨checks, compiled⟩ := compiles outer reaches
  exact compileNode_twin same checks compiled

end Graph

namespace Validator

variable {validator : Validator} {space : Workspace}

theorem compile_ok_iff (eager : validator.settings.isEager = true) :
    (∃ list, (start (validator.compile graph) .empty).1 = .ok list) ↔ graph.Compiles validator.schema := by
  constructor
  · rintro ⟨list, compiled⟩
    exact compiles_of_compile (Workspace.tracked_empty _ _ _) eager (Prod.ext compiled rfl)
  · exact start_compile_ok

theorem start_isValid (validator : Validator) (graph : Graph) (value : Value) (space : Workspace) :
    (start (validator.isValid graph value) space).1 =
      (settle (start (validator.validate graph value) space).1).map Option.isNone := by
  rw [isValid, check, Run.start_bind, Run.start_verdict]
  cases settle (start (validator.validate graph value) space).1 <;> rfl

/-- Objects with a number `a` up to one. -/
def atMostOne : Value :=
  .object [(.text "required", .array false [.text "a"]),
    (.text "properties", .object [(.text "a", .object [(.text "maximum", .number (.int 1))])])]

/-- One, as a double. -/
def oneDouble : Number := .double (.finite false ⟨1023, by decide⟩ ⟨0, by decide⟩)

/-- The same schema with its keywords in another order, a fixed array and a double. -/
def atMostOneAgain : Value :=
  .object [(.text "properties", .object [(.text "a", .object [(.text "maximum", .number oneDouble)])]),
    (.text "required", .array true [.text "a"])]

/-- A validator for a document and the graph it is stored in. -/
def ofDocument (schema : Value) : Validator × Graph :=
  (⟨(Graph.empty.add schema).1, .standard⟩, (Graph.empty.add schema).2)

theorem ofDocument_constants (schema : Value) : (ofDocument schema).2.ConstantBooleans :=
  Graph.add_constants Graph.constants_empty schema

/-- Two schemas, of which the first comes to be what the second is. -/
def openGraph : Graph := ⟨#[.object [], .object [(.text "type", .node 2)], .text "null"]⟩

def nullGraph : Graph :=
  ⟨#[.object [(.text "type", .node 3)], .object [(.text "type", .node 2)], .text "null", .text "null"]⟩

/-- One entry has a bound that no message can quote, and another is not allowed. -/
def longEntry : Graph :=
  ⟨#[.object [(.text "properties", .node 1)], .object [(.text "a", .node 2), (.text "b", .bool false)],
    .object [(.text "minimum", .int (10 ^ 5000))]]⟩

def zeroEntries (names : List String) : Value := .object (names.map fun name => (.text name, .number (.int 0)))

end Validator
end LiveSchema
