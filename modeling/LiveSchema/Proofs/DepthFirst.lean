import LiveSchema.Proofs.Reachability

/-! The order of the eager walk. It keeps what is pending on a stack, where one node may
stand several times, and marks a node when it is taken off. It finds the nodes in the
order of a search that calls itself for what is nested in a node and hands on what was
seen so far. -/

namespace LiveSchema.Graph

variable {graph : Graph} {seen others first nodes found : List Ref} {node : Ref}

/-- What a depth-first search finds from some nodes on, where others were seen before: a
new node comes first, then all that is found below it, then what is found from the rest. -/
inductive DepthFirst (graph : Graph) : (seen nodes found : List Ref) → Prop
  | done (seen : List Ref) : graph.DepthFirst seen [] []
  | skip {seen rest found : List Ref} {node : Ref} (old : node ∈ seen) (later : graph.DepthFirst seen rest found) :
      graph.DepthFirst seen (node :: rest) found
  | enter {seen rest below found : List Ref} {node : Ref} (fresh : node ∉ seen)
      (inner : graph.DepthFirst (node :: seen) (graph.subschemas node) below)
      (later : graph.DepthFirst (below ++ node :: seen) rest found) :
      graph.DepthFirst seen (node :: rest) (node :: (below ++ found))

namespace DepthFirst

/-- Only which nodes were seen counts, not in which order. -/
theorem congr (search : graph.DepthFirst seen nodes found) (same : ∀ node, node ∈ seen ↔ node ∈ others) :
    graph.DepthFirst others nodes found := by
  induction search generalizing others with
  | done seen => exact .done others
  | skip old _ ih => exact .skip ((same _).mp old) (ih same)
  | enter fresh _ _ inner later =>
    refine .enter (fun old => fresh ((same _).mpr old)) (inner fun node => ?_) (later fun node => ?_)
    · simp only [List.mem_cons, same]
    · simp only [List.mem_append, List.mem_cons, same]

/-- A search from two lists is a search from the first and then one from the second. -/
theorem split {rest : List Ref} (search : graph.DepthFirst seen (first ++ rest) found) :
    ∃ below later, found = below ++ later ∧ graph.DepthFirst seen first below ∧
      graph.DepthFirst (below ++ seen) rest later := by
  generalize whole : first ++ rest = nodes at search
  induction search generalizing first with
  | done seen =>
    obtain ⟨rfl, rfl⟩ := List.append_eq_nil_iff.mp whole
    exact ⟨[], [], rfl, .done seen, .done _⟩
  | @skip seen tail found node old later ih =>
    cases first with
    | nil =>
      cases whole
      exact ⟨[], found, rfl, .done seen, .skip old later⟩
    | cons head others =>
      cases whole
      obtain ⟨below, after, rfl, inner, search⟩ := ih rfl
      exact ⟨below, after, rfl, .skip old inner, search⟩
  | @enter seen tail inside found node fresh inner later _ ih =>
    cases first with
    | nil =>
      cases whole
      exact ⟨[], _, rfl, .done seen, .enter fresh inner later⟩
    | cons head others =>
      cases whole
      obtain ⟨below, after, rfl, search, searches⟩ := ih rfl
      refine ⟨node :: (inside ++ below), after, by simp, .enter fresh inner search, searches.congr fun other => ?_⟩
      simp only [List.mem_append, List.mem_cons, or_assoc, or_left_comm]

/-- A search finds one list only. -/
theorem unique {again : List Ref} (search : graph.DepthFirst seen nodes found) (other : graph.DepthFirst seen nodes again) :
    found = again := by
  induction search generalizing again with
  | done seen =>
    cases other
    rfl
  | skip old _ ih =>
    cases other with
    | skip _ later => exact ih later
    | enter fresh => exact absurd old fresh
  | enter fresh _ _ below rest =>
    cases other with
    | skip old => exact absurd old fresh
    | enter _ inner later =>
      obtain rfl := below inner
      rw [rest later]

/-- Nothing is found twice, and nothing that was seen before. -/
theorem nodup (search : graph.DepthFirst seen nodes found) : found.Nodup ∧ ∀ node ∈ found, node ∉ seen := by
  induction search with
  | done seen => exact ⟨List.nodup_nil, by simp⟩
  | skip _ _ ih => exact ih
  | @enter seen rest below found node fresh _ _ inner later =>
    obtain ⟨distinct, apart⟩ := inner
    obtain ⟨distincts, aparts⟩ := later
    refine ⟨List.nodup_cons.mpr ⟨?_, List.nodup_append.mpr ⟨distinct, distincts, ?_⟩⟩, ?_⟩
    · rw [List.mem_append, not_or]
      exact ⟨fun inside => apart node inside List.mem_cons_self, fun inside => aparts node inside (by simp)⟩
    · rintro other inside _ again rfl
      exact aparts other again (List.mem_append_left _ inside)
    · intro other member
      rcases List.mem_cons.mp member with rfl | member
      · exact fresh
      rcases List.mem_append.mp member with inside | inside
      · exact fun old => apart other inside (List.mem_cons_of_mem _ old)
      · exact fun old => aparts other inside (List.mem_append_right _ (List.mem_cons_of_mem _ old))

end DepthFirst

/-- The walk is a depth-first search as long as its fuel lasts. A pending node that was seen
in the meantime is dropped when its turn comes, as the search skips it. -/
theorem visit_depthFirst {fuel : Nat} {seen pending : List Ref}
    (enough : pending.length + graph.unseenEdges seen (List.range graph.size) ≤ fuel) :
    graph.DepthFirst seen pending (graph.visit fuel seen pending) := by
  induction fuel generalizing seen pending with
  | zero =>
    cases pending with
    | nil => exact .done seen
    | cons => simp at enough
  | succ fuel ih =>
    cases pending with
    | nil => exact .done seen
    | cons node rest =>
      simp only [visit]
      rw [List.length_cons] at enough
      split
      next old => exact .skip old (ih (by omega))
      next fresh =>
        have edges := graph.unseenEdges_visit fresh
        have search : graph.DepthFirst (node :: seen) (graph.subschemas node ++ rest)
            (graph.visit fuel (node :: seen) (graph.subschemas node ++ rest)) := by
          apply ih
          rw [List.length_append]
          omega
        obtain ⟨below, later, same, inner, searches⟩ := search.split
        rw [same]
        exact .enter fresh inner searches

theorem preorder_depthFirst (graph : Graph) (root : Ref) : graph.DepthFirst [] [root] (graph.preorder root) := by
  apply visit_depthFirst
  rw [edgeCount_eq, List.length_singleton]
  omega

theorem nodup_preorder (graph : Graph) (root : Ref) : (graph.preorder root).Nodup :=
  (graph.preorder_depthFirst root).nodup.1

end LiveSchema.Graph
