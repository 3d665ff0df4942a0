import LiveSchema.Proofs.Contents
import LiveSchema.Proofs.EnumMemo

/-! The budget of a validation is enough. More fuel never changes an answer, so
every question that is answered at all has a least fuel that answers it. Along a
chain of questions about one value the least fuel falls, so no node comes twice,
and a question about a part is about a less deep value. -/

namespace LiveSchema

variable {graph : Graph} {mode : MultipleMode} {node : Ref} {value : Value} {fields : Entries Ref}

section Agreement

variable {judge other : Value → Ref → Except Failure Unit} {prepare : Ref → Except Failure Unit}

private theorem bind_ends {first : Except Failure α} {rest : α → Except Failure β}
    (ends : first >>= rest ≠ .error .endless) : first ≠ .error .endless := by
  rintro rfl
  exact ends rfl

theorem settle_ends {outcome : Except Failure Unit} (ends : settle outcome ≠ .error .endless) :
    outcome ≠ .error .endless := by
  rintro rfl
  exact ends rfl

/-- A program that ends does not notice when what has no end is answered after all. -/
theorem Program.evaluate_agrees (limits : Limits) (agrees : ∀ value node, limits.asks value node →
      judge value node ≠ .error .endless → other value node = judge value node)
    {program : Program α} (within : program.Within limits)
    (ends : program.evaluate judge prepare ≠ .error .endless) :
    program.evaluate other prepare = program.evaluate judge prepare := by
  induction program with
  | done result => rfl
  | fail failure => rfl
  | judge value node next ih =>
    rw [evaluate_judge] at ends ⊢
    rw [evaluate_judge, agrees value node within.1 (settle_ends (bind_ends ends))]
    cases settled : settle (judge value node) with
    | error failure => rfl
    | ok answer => exact ih answer (within.2 answer) (by rwa [settled] at ends)
  | prepare node next ih =>
    rw [evaluate_prepare] at ends ⊢
    rw [evaluate_prepare]
    cases prepared : prepare node with
    | error failure => rfl
    | ok done => exact ih within.2 (by rwa [prepared] at ends)
  | recollect next => exact within.elim
  | remember memo next => exact within.elim

theorem Check.evaluate_agrees (object : graph.shape node = .object fields) {check : Check}
    (fits : check.Fits graph node) (agrees : ∀ part schema, graph.Asks node value part schema →
      judge part schema ≠ .error .endless → other part schema = judge part schema)
    (ends : (check.run graph mode value node).evaluate judge prepare ≠ .error .endless) :
    (check.run graph mode value node).evaluate other prepare =
      (check.run graph mode value node).evaluate judge prepare := by
  cases kind : check.isEnum with
  | false =>
    exact Program.evaluate_agrees (graph.limits node value) agrees (check.run_within object fits kind value) ends
  | true =>
    cases check with
    | enum memo => exact (Keyword.evaluate_runEnum fits value).trans (Keyword.evaluate_runEnum fits value).symm
    | null | types | const | object | isObject | number | isNumber | text | isText | array | isArray | isBoolean
    | allOf | anyOf | oneOf | not => cases kind

theorem Check.evaluate_runAll_agrees (object : graph.shape node = .object fields) {checks : List Check}
    (fits : ∀ check ∈ checks, check.Fits graph node) (agrees : ∀ part schema, graph.Asks node value part schema →
      judge part schema ≠ .error .endless → other part schema = judge part schema)
    (ends : (runAll graph mode value node checks).evaluate judge prepare ≠ .error .endless) :
    (runAll graph mode value node checks).evaluate other prepare =
      (runAll graph mode value node checks).evaluate judge prepare := by
  induction checks with
  | nil => rfl
  | cons check rest ih =>
    simp only [runAll, Program.evaluate_bind] at ends ⊢
    rw [check.evaluate_agrees object (fits check (by simp)) agrees (bind_ends ends)]
    cases first : (check.run graph mode value node).evaluate judge prepare with
    | error failure => rfl
    | ok done =>
      rw [first] at ends
      exact ih (fun later member => fits later (List.mem_cons_of_mem _ member)) ends

end Agreement

/-- The answer of a node depends on the answers it asks for. -/
theorem evaluateAt_agrees {fuel other : Nat} (agrees : ∀ part schema, graph.Asks node value part schema →
      evaluateAt graph mode fuel part schema ≠ .error .endless →
      evaluateAt graph mode other part schema = evaluateAt graph mode fuel part schema)
    (ends : evaluateAt graph mode (fuel + 1) value node ≠ .error .endless) :
    evaluateAt graph mode (other + 1) value node = evaluateAt graph mode (fuel + 1) value node := by
  simp only [evaluateAt] at ends ⊢
  cases compiled : compileNode graph node with
  | error failure => rfl
  | ok checks =>
    rw [compiled] at ends
    simp only [Except.ok_bind, judgeNode] at ends ⊢
    split
    · rfl
    next accepts =>
      rw [if_neg accepts] at ends
      rcases compileNode_object compiled with rfl | ⟨fields, object⟩
      · rfl
      · exact Check.evaluate_runAll_agrees object (compileNode_fits compiled) agrees ends

theorem evaluateAt_succ {fuel : Nat} (ends : evaluateAt graph mode fuel value node ≠ .error .endless) :
    evaluateAt graph mode (fuel + 1) value node = evaluateAt graph mode fuel value node := by
  induction fuel generalizing value node with
  | zero => exact absurd rfl ends
  | succ fuel ih => exact evaluateAt_agrees (fun part schema _ => ih) ends

theorem evaluateAt_mono {fuel more : Nat} (le : fuel ≤ more)
    (ends : evaluateAt graph mode fuel value node ≠ .error .endless) :
    evaluateAt graph mode more value node = evaluateAt graph mode fuel value node := by
  induction le with
  | refl => rfl
  | step _ ih => rw [evaluateAt_succ (ih.symm ▸ ends), ih]

theorem evaluateAt_unique {fuel other : Nat} (ends : evaluateAt graph mode fuel value node ≠ .error .endless)
    (others : evaluateAt graph mode other value node ≠ .error .endless) :
    evaluateAt graph mode fuel value node = evaluateAt graph mode other value node := by
  rcases Nat.le_total fuel other with le | le
  · exact (evaluateAt_mono le ends).symm
  · exact evaluateAt_mono le others

/-- An answer needs no more fuel than there are nodes left for this value and
nodes for every lower depth. The nodes in `seen` are not answered yet. -/
private theorem evaluateAt_bounded {fuel : Nat} (seen : List Ref) (distinct : seen.Nodup)
    (numbered : ∀ ref ∈ seen, ∃ index, ref = .node index ∧ index < graph.size)
    (late : ∀ ref ∈ seen, evaluateAt graph mode fuel value ref = .error .endless)
    (ends : evaluateAt graph mode fuel value node ≠ .error .endless) :
    evaluateAt graph mode (graph.size - seen.length + (graph.size + 1) * value.depth + 1) value node ≠
      .error .endless := by
  induction fuel generalizing value node seen with
  | zero => exact absurd rfl ends
  | succ fuel ih =>
    have earlier : ∀ ref, evaluateAt graph mode (fuel + 1) value ref = .error .endless →
        evaluateAt graph mode fuel value ref = .error .endless := by
      intro ref later
      by_cases early : evaluateAt graph mode fuel value ref = .error .endless
      · exact early
      · rwa [evaluateAt_succ early] at later
    by_cases early : evaluateAt graph mode fuel value node = .error .endless
    case neg => exact ih seen distinct numbered (fun ref member => earlier ref (late ref member)) early
    have fresh : node ∉ seen := fun member => ends (late node member)
    refine fun stuck => ends (.trans (.symm (evaluateAt_agrees ?_ ends)) stuck)
    intro part schema asks answered
    obtain ⟨index, rfl, small⟩ := Graph.subschemas_node (List.ne_nil_of_mem asks.1)
    have distincts : (Ref.node index :: seen).Nodup := List.nodup_cons.mpr ⟨fresh, distinct⟩
    have numbers : ∀ ref ∈ Ref.node index :: seen, ∃ index, ref = .node index ∧ index < graph.size := by
      intro ref member
      rcases List.mem_cons.mp member with rfl | old
      · exact ⟨index, rfl, small⟩
      · exact numbered ref old
    have room := Graph.length_le_size distincts numbers
    rw [List.length_cons] at room
    refine evaluateAt_unique ?_ answered
    rcases asks.2 with lower | ⟨rfl, _⟩
    · have part_ends := ih [] List.nodup_nil (by simp) (by simp) answered
      have levels : (graph.size + 1) * (part.depth + 1) ≤ (graph.size + 1) * value.depth := Nat.mul_le_mul_left _ lower
      rw [Nat.mul_succ] at levels
      rwa [evaluateAt_mono ?_ part_ends]
      simp only [List.length_nil]
      omega
    · have lates : ∀ ref ∈ Ref.node index :: seen, evaluateAt graph mode fuel part ref = .error .endless := by
        intro ref member
        rcases List.mem_cons.mp member with rfl | old
        · exact early
        · exact earlier ref (late ref old)
      have next_ends := ih _ distincts numbers lates answered
      rwa [evaluateAt_mono ?_ next_ends]
      rw [List.length_cons]
      omega

/-- The verdict on a value is settled in finitely many steps. -/
def Graph.Terminates (graph : Graph) (mode : MultipleMode) (value : Value) (node : Ref) : Prop :=
  ∃ fuel, evaluateAt graph mode fuel value node ≠ .error .endless

/-- The budget is enough for every value whose verdict is settled at all. -/
theorem evaluate_eq_of_ends {fuel : Nat} (ends : evaluateAt graph mode fuel value node ≠ .error .endless) :
    graph.evaluate mode value node = evaluateAt graph mode fuel value node := by
  have bounded := evaluateAt_bounded [] List.nodup_nil (by simp) (by simp) ends
  refine evaluateAt_unique ?_ ends
  rwa [evaluateAt_mono ?_ bounded]
  have levels : graph.budget value = (graph.size + 1) * value.depth + (graph.size + 1) * 2 := Nat.mul_add _ _ _
  simp only [List.length_nil]
  omega

theorem evaluate_ends_iff : graph.evaluate mode value node ≠ .error .endless ↔ graph.Terminates mode value node := by
  constructor
  · exact fun ends => ⟨_, ends⟩
  · rintro ⟨fuel, ends⟩
    rwa [evaluate_eq_of_ends ends]

end LiveSchema
