import LiveSchema.Graph.Subschemas
import LiveSchema.Keyword.Size
import Mathlib.Algebra.GroupWithZero.Nat
import Mathlib.Logic.Relation

/-! The nodes that the eager walk visits are the nodes that can be reached. Its
fuel is enough because an edge makes a node pending only once: what is pending
and the edges of unseen nodes together shrink with every visit. -/

namespace LiveSchema.Graph

variable {graph : Graph}

def Reaches (graph : Graph) : Ref → Ref → Prop :=
  Relation.ReflTransGen fun outer inner => inner ∈ graph.subschemas outer

private theorem visit_sound {fuel : Nat} {seen pending : List Ref} {node : Ref}
    (visited : node ∈ graph.visit fuel seen pending) : ∃ start ∈ pending, graph.Reaches start node := by
  induction fuel generalizing seen pending with
  | zero => cases pending <;> simp [visit] at visited
  | succ fuel ih =>
    cases pending with
    | nil => simp [visit] at visited
    | cons first rest =>
      simp only [visit] at visited
      split at visited
      · obtain ⟨start, member, reached⟩ := ih visited
        exact ⟨start, List.mem_cons_of_mem _ member, reached⟩
      rcases List.mem_cons.mp visited with same | later
      · exact ⟨first, by simp, same ▸ .refl⟩
      obtain ⟨start, member, reached⟩ := ih later
      rcases List.mem_append.mp member with nested | waiting
      · exact ⟨first, by simp, .head nested reached⟩
      · exact ⟨start, List.mem_cons_of_mem _ waiting, reached⟩

/-- The edges that nodes not seen yet lead along. -/
def unseenEdges (graph : Graph) (seen : List Ref) (indices : List Nat) : Nat :=
  (indices.map fun index =>
    if Ref.node index ∈ seen then 0 else (graph.subschemas (.node index)).length).sum

private theorem unseenEdges_cons (graph : Graph) (seen : List Ref) (index : Nat) (rest : List Nat) :
    graph.unseenEdges seen (index :: rest) =
      (if Ref.node index ∈ seen then 0 else (graph.subschemas (.node index)).length) +
        graph.unseenEdges seen rest := by
  simp [unseenEdges]

private theorem unseenEdges_see_le (node : Ref) (seen : List Ref) (indices : List Nat) :
    graph.unseenEdges (node :: seen) indices ≤ graph.unseenEdges seen indices := by
  induction indices with
  | nil => simp [unseenEdges]
  | cons index rest ih =>
    rw [unseenEdges_cons, unseenEdges_cons]
    refine Nat.add_le_add ?_ ih
    by_cases member : Ref.node index ∈ seen
    · simp [member]
    · split <;> simp

private theorem unseenEdges_see {index : Nat} {seen : List Ref} {indices : List Nat}
    (member : index ∈ indices) (unseen : Ref.node index ∉ seen) :
    graph.unseenEdges (.node index :: seen) indices + (graph.subschemas (.node index)).length ≤
      graph.unseenEdges seen indices := by
  induction indices with
  | nil => cases member
  | cons other rest ih =>
    have kept := graph.unseenEdges_see_le (.node index) seen rest
    rw [unseenEdges_cons, unseenEdges_cons]
    by_cases same : other = index
    · subst same
      rw [if_pos (by simp), if_neg unseen]
      omega
    · have below := ih ((List.mem_cons.mp member).resolve_left fun equal => same equal.symm)
      by_cases found : Ref.node other ∈ seen
      · rw [if_pos (by simp [found]), if_pos found]
        omega
      · rw [if_neg (by simp [found, same]), if_neg found]
        omega

theorem subschemas_node {node : Ref} (nested : graph.subschemas node ≠ []) :
    ∃ index, node = .node index ∧ index < graph.size := by
  cases node with
  | null | bool | int => exact absurd rfl nested
  | node index =>
    refine ⟨index, rfl, ?_⟩
    rcases Nat.lt_or_ge index graph.size with inside | outside
    · exact inside
    · refine absurd ?_ nested
      have missing : graph.shape (.node index) = .null := by
        simp only [size] at outside
        simp [shape, Array.getElem?_eq_none outside]
      simp [subschemas, missing]

theorem unseenEdges_visit (graph : Graph) {node : Ref} {seen : List Ref} (unseen : node ∉ seen) :
    graph.unseenEdges (node :: seen) (List.range graph.size) + (graph.subschemas node).length ≤
      graph.unseenEdges seen (List.range graph.size) := by
  by_cases leaf : graph.subschemas node = []
  · simpa [leaf] using graph.unseenEdges_see_le node seen _
  · obtain ⟨index, rfl, inside⟩ := subschemas_node leaf
    exact unseenEdges_see (List.mem_range.mpr inside) unseen

/-- With enough fuel everything pending is visited, and everything nested in what is visited. -/
private theorem visit_complete (graph : Graph) {fuel : Nat} (seen pending : List Ref)
    (enough : pending.length + graph.unseenEdges seen (List.range graph.size) ≤ fuel) :
    (∀ node ∈ pending, node ∈ seen ∨ node ∈ graph.visit fuel seen pending) ∧
    ∀ node ∈ graph.visit fuel seen pending, ∀ inner ∈ graph.subschemas node,
      inner ∈ seen ∨ inner ∈ graph.visit fuel seen pending := by
  induction fuel generalizing seen pending with
  | zero =>
    cases pending with
    | nil => simp [visit]
    | cons => simp at enough
  | succ fuel ih =>
    cases pending with
    | nil => simp [visit]
    | cons first rest =>
      rw [List.length_cons] at enough
      simp only [visit]
      by_cases old : first ∈ seen
      · rw [if_pos old]
        obtain ⟨waiting, closed⟩ := ih seen rest (by omega)
        refine ⟨fun node member => ?_, closed⟩
        rcases List.mem_cons.mp member with rfl | later
        · exact .inl old
        · exact waiting node later
      · rw [if_neg old]
        have consumed := graph.unseenEdges_visit old
        obtain ⟨waiting, closed⟩ := ih (first :: seen) (graph.subschemas first ++ rest)
          (by rw [List.length_append]; omega)
        have moved : ∀ node, node ∈ first :: seen ∨ node ∈ graph.visit fuel (first :: seen)
            (graph.subschemas first ++ rest) → node ∈ seen ∨ node ∈ first :: graph.visit fuel
            (first :: seen) (graph.subschemas first ++ rest) := by
          intro node found
          rcases found with member | later
          · rcases List.mem_cons.mp member with rfl | old
            · exact .inr (by simp)
            · exact .inl old
          · exact .inr (List.mem_cons_of_mem _ later)
        refine ⟨fun node member => ?_, fun node visited inner nested => ?_⟩
        · rcases List.mem_cons.mp member with rfl | later
          · exact .inr (by simp)
          · exact moved node (waiting node (List.mem_append_right _ later))
        · rcases List.mem_cons.mp visited with rfl | later
          · exact moved inner (waiting inner (List.mem_append_left _ nested))
          · exact moved inner (closed node later inner nested)

theorem edgeCount_eq (graph : Graph) :
    graph.edgeCount = graph.unseenEdges [] (List.range graph.size) := by
  have total : ∀ (indices : List Nat) (count : Nat),
      indices.foldl (fun count index => count + (graph.subschemas (.node index)).length) count =
        count + graph.unseenEdges [] indices := by
    intro indices
    induction indices with
    | nil => simp [unseenEdges]
    | cons index rest ih =>
      intro count
      rw [List.foldl_cons, ih, unseenEdges_cons, if_neg List.not_mem_nil]
      omega
  simpa [edgeCount] using total (List.range graph.size) 0

/-- The eager walk visits exactly the nodes that can be reached from its root. -/
theorem mem_preorder_iff {root node : Ref} : node ∈ graph.preorder root ↔ graph.Reaches root node := by
  constructor
  · intro visited
    obtain ⟨start, member, reached⟩ := visit_sound visited
    exact List.mem_singleton.mp member ▸ reached
  · intro reached
    have enough : [root].length + graph.unseenEdges [] (List.range graph.size) ≤ graph.edgeCount + 1 := by
      rw [edgeCount_eq, List.length_singleton]
      omega
    obtain ⟨waiting, closed⟩ := graph.visit_complete [] [root] enough
    induction reached with
    | refl => exact (waiting root (by simp)).resolve_left List.not_mem_nil
    | tail _ nested ih => exact (closed _ ih _ nested).resolve_left List.not_mem_nil

theorem field?_eq {node : Ref} {fields : Entries Ref} (object : graph.shape node = .object fields)
    (keyword : String) : graph.field? node keyword = fields.keyword? keyword := by
  simp [field?, object, Shape.entries?, Entries.keyword?]

variable {node part schema : Ref} {keyword : String}

theorem mem_subschemas_of_map {entries : Entries Ref} {name : Key} (known : keyword ∈ mapKeywords)
    (found : graph.field? node keyword = some part) (object : graph.shape part = .object entries)
    (member : (name, schema) ∈ entries) (isSchema : graph.isSchema schema = true) :
    schema ∈ graph.subschemas node := by
  unfold field? at found
  cases shaped : graph.shape node <;> simp only [shaped, Shape.entries?] at found
  case object fields =>
    have mapped : schema ∈ graph.mappedSchemas fields keyword := by
      simp only [Option.bind_some] at found
      simp only [mappedSchemas, keyword?, found, Option.bind_some, object, Shape.entries?, schemasIn,
        List.mem_filter, isSchema, and_true]
      exact List.mem_map.mpr ⟨(name, schema), member, rfl⟩
    simp only [subschemas, shaped, List.mem_append, List.mem_flatMap]
    exact .inl (.inl (.inl (.inl ⟨keyword, known, mapped⟩)))
  all_goals cases found

theorem mem_subschemas_of_single (known : keyword ∈ schemaKeywords ∨ keyword = "items")
    (found : graph.field? node keyword = some schema) (isSchema : graph.isSchema schema = true) :
    schema ∈ graph.subschemas node := by
  unfold field? at found
  cases shaped : graph.shape node <;> simp only [shaped, Shape.entries?] at found
  case object fields =>
    have single : schema ∈ graph.singleSchema fields keyword := by
      simp only [Option.bind_some] at found
      simp [singleSchema, keyword?, found, schemasIn, isSchema]
    simp only [subschemas, shaped, List.mem_append, List.mem_flatMap]
    rcases known with known | rfl
    · exact .inl (.inl (.inl (.inr ⟨keyword, known, single⟩)))
    · exact .inl (.inl (.inr single))
  all_goals cases found

theorem mem_subschemas_of_list {fixed : Bool} {items : List Ref}
    (known : keyword ∈ listKeywords ∨ keyword = "items")
    (found : graph.field? node keyword = some part) (array : graph.shape part = .array fixed items)
    (member : schema ∈ items) (isSchema : graph.isSchema schema = true) :
    schema ∈ graph.subschemas node := by
  unfold field? at found
  cases shaped : graph.shape node <;> simp only [shaped, Shape.entries?] at found
  case object fields =>
    have listed : schema ∈ graph.listedSchemas fields keyword := by
      simp only [Option.bind_some] at found
      simp [listedSchemas, keyword?, found, array, Shape.items?, schemasIn, member, isSchema]
    simp only [subschemas, shaped, List.mem_append, List.mem_flatMap]
    rcases known with known | rfl
    · exact .inr ⟨keyword, known, listed⟩
    · exact .inl (.inr listed)
  all_goals cases found

end LiveSchema.Graph
