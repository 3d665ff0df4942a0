import LiveSchema.Graph.Edit
import LiveSchema.Proofs.Edits

/-! The edits of a library. Each adds nodes for a new value and then changes one
node that was there, or only a document, and no edit leaves a node with a part
that is missing. -/

namespace LiveSchema

namespace Graph

instance (graph : Graph) (ref : Ref) : Decidable (graph.Held ref) :=
  match ref with
  | .node index => inferInstanceAs (Decidable (index < graph.size))
  | .null | .bool _ | .int _ => .isTrue trivial

structure Extends (before after : Graph) : Prop where
  held : ∀ ref, before.Held ref → after.Held ref
  same : ∀ ref, before.Held ref → after.shape ref = before.shape ref
  closed : before.Closed → after.Closed

variable {graph middle before after : Graph} {node part : Ref} {shape : Shape Ref}

theorem Extends.refl (graph : Graph) : Extends graph graph := ⟨fun _ => id, fun _ _ => rfl, id⟩

theorem Extends.trans (first : Extends before middle) (second : Extends middle after) : Extends before after where
  held := fun ref held => second.held ref (first.held ref held)
  same := fun ref held => (second.same ref (first.held ref held)).trans (first.same ref held)
  closed := fun closed => second.closed (first.closed closed)

theorem closed_of_nodes (parts : ∀ shape ∈ graph.nodes.toList, ∀ part ∈ shape.parts, graph.Held part) : graph.Closed := by
  intro ref part inside
  obtain ⟨index, rfl, small⟩ := numbered_of_parts inside
  simp only [size] at small
  apply parts (graph.shape (.node index)) _ part inside
  simp [Graph.shape, small]

theorem shape_push (graph : Graph) (shape : Shape Ref) (index : Nat) :
    (graph.push shape).2.shape (.node index) = if index = graph.size then shape else graph.shape (.node index) := by
  simp only [push, Graph.shape, Array.getD_eq_getD_getElem?, Array.getElem?_push, size]
  split <;> rfl

theorem push_extends (parts : ∀ part ∈ shape.parts, graph.Held part) :
    Extends graph (graph.push shape).2 ∧ (graph.push shape).2.Held (graph.push shape).1 := by
  have more : (graph.push shape).2.size = graph.size + 1 := by simp [push, size]
  have held : ∀ ref, graph.Held ref → (graph.push shape).2.Held ref := by
    intro ref held
    cases ref with
    | null | bool | int => trivial
    | node index =>
      simp only [Held, more] at held ⊢
      omega
  refine ⟨⟨held, fun ref held => ?_, fun closed ref part inside => ?_⟩, ?_⟩
  · cases ref with
    | null | bool | int => rfl
    | node index =>
      simp only [Held] at held
      rw [shape_push, if_neg (by omega)]
  · cases ref with
    | null | bool | int => cases inside
    | node index =>
      rw [shape_push] at inside
      split at inside
      · exact held part (parts part inside)
      · exact held part (closed _ part inside)
  · change graph.size < (graph.push shape).2.size
    omega

mutual

/-- The value is put together from its parts, so no node is added before its parts are. -/
theorem add_extends (graph : Graph) (value : Value) :
    Extends graph (graph.add value).2 ∧ (graph.add value).2.Held (graph.add value).1 := by
  cases value with
  | null => exact ⟨.refl graph, trivial⟩
  | bool => exact ⟨.refl graph, trivial⟩
  | number number =>
    cases number with
    | int value =>
      simp only [add]
      split
      · exact ⟨.refl graph, trivial⟩
      · exact push_extends (by simp [Shape.parts])
    | _ => exact push_extends (by simp [Shape.parts])
  | text value => exact push_extends (by simp [Shape.parts])
  | bytes value => exact push_extends (by simp [Shape.parts])
  | array fixed items =>
    obtain ⟨first, held⟩ := addItems_extends graph items
    have pushed := @push_extends _ (.array fixed (graph.addItems items).1) held
    exact ⟨first.trans pushed.1, pushed.2⟩
  | object entries =>
    obtain ⟨first, held⟩ := addEntries_extends graph entries
    have pushed := @push_extends _ (.object (graph.addEntries entries).1) held
    exact ⟨first.trans pushed.1, pushed.2⟩

theorem addItems_extends (graph : Graph) (items : List Value) :
    Extends graph (graph.addItems items).2 ∧ ∀ ref ∈ (graph.addItems items).1, (graph.addItems items).2.Held ref := by
  cases items with
  | nil => exact ⟨.refl graph, by simp [addItems]⟩
  | cons item rest =>
    obtain ⟨first, held⟩ := add_extends graph item
    obtain ⟨second, others⟩ := addItems_extends (graph.add item).2 rest
    refine ⟨first.trans second, ?_⟩
    intro ref member
    rcases List.mem_cons.mp member with rfl | later
    · exact second.held _ held
    · exact others ref later

theorem addEntries_extends (graph : Graph) (entries : List (Key × Value)) :
    Extends graph (graph.addEntries entries).2 ∧
      ∀ ref ∈ (Shape.object (graph.addEntries entries).1).parts, (graph.addEntries entries).2.Held ref := by
  cases entries with
  | nil => exact ⟨.refl graph, by simp [addEntries, Shape.parts]⟩
  | cons entry rest =>
    obtain ⟨name, item⟩ := entry
    obtain ⟨first, held⟩ := add_extends graph item
    obtain ⟨second, others⟩ := addEntries_extends (graph.add item).2 rest
    refine ⟨first.trans second, ?_⟩
    intro ref member
    rcases List.mem_cons.mp member with rfl | later
    · exact second.held _ held
    · exact others ref later

end

end Graph

namespace Library

open LiveSchema.Graph (Edited Extends)

structure Closed (library : Library) : Prop where
  graph : library.graph.Closed
  documents : ∀ entry ∈ library.documents, library.graph.Held entry.2

/-- One node may have been edited in place, and new nodes may have been added. -/
structure Edits (before after : Library) : Prop where
  edited : Edited before.graph after.graph
  closed : after.Closed
  alone : ∃ target, ∀ ref, before.graph.Held ref → ref ≠ target → after.graph.shape ref = before.graph.shape ref

variable {library before after : Library} {graph : Graph} {node part : Ref} {shape result : Shape Ref} {path : List Key}
  {key : Key} {value : Value}

theorem child_part (found : child graph node key = .ok part) : part ∈ (graph.shape node).parts := by
  unfold child at found
  split at found
  next entries shaped =>
    split at found
    next entry =>
      cases found
      rw [shaped]
      exact List.mem_map.mpr ⟨_, Table.mem_of_get? entry, rfl⟩
    next => cases found
  next items index shaped =>
    split at found
    next item =>
      cases found
      obtain ⟨position, _, item⟩ := Option.bind_eq_some_iff.mp item
      rw [shaped]
      exact List.mem_of_getElem? item
    next => cases found
  next => cases found

theorem follow_held (closed : graph.Closed) (held : graph.Held node) (found : follow graph node path = .ok part) :
    graph.Held part := by
  induction path generalizing node with
  | nil =>
    cases found
    exact held
  | cons key rest ih =>
    obtain ⟨inner, stepped, found⟩ := Except.bind_ok found
    exact ih (closed node inner (child_part stepped)) found

theorem find_held (closed : library.Closed) (found : library.find path = .ok node) : library.graph.Held node := by
  cases path with
  | nil => cases found
  | cons key rest =>
    obtain ⟨root, named, found⟩ := Except.bind_ok found
    apply follow_held closed.graph _ found
    unfold document at named
    split at named
    · split at named
      next entry =>
        cases named
        exact closed.documents _ (Table.mem_of_get? entry)
      next => cases named
    · cases named

/-- An edit in place puts nothing but one new part into a node. -/
theorem assigned_kind (made : assigned shape key part = .ok result) :
    shape.SameKind result ∧ ∀ inner ∈ result.parts, inner = part ∨ inner ∈ shape.parts := by
  unfold assigned at made
  split at made
  next entries key =>
    cases made
    refine ⟨.object _ _, ?_⟩
    intro inner member
    obtain ⟨entry, placed, rfl⟩ := List.mem_map.mp member
    exact (Table.mem_set placed).imp (congrArg Prod.snd) List.mem_map_of_mem
  next items index =>
    split at made
    next position _ =>
      cases made
      exact ⟨.array _ _, fun inner member => (List.mem_or_eq_of_mem_set member).symm⟩
    next => cases made
  next => cases made

theorem without_kind (made : without shape key = .ok result) :
    shape.SameKind result ∧ ∀ inner ∈ result.parts, inner ∈ shape.parts := by
  unfold without at made
  split at made
  next entries key =>
    split at made
    next =>
      cases made
      refine ⟨.object _ _, ?_⟩
      intro inner member
      obtain ⟨entry, placed, rfl⟩ := List.mem_map.mp member
      exact List.mem_map_of_mem (Table.mem_of_erase placed)
    next => cases made
  next items index =>
    split at made
    next position _ =>
      cases made
      exact ⟨.array _ _, fun inner member => List.mem_of_mem_eraseIdx member⟩
    next => cases made
  next => cases made

theorem shape_replace (graph : Graph) (shape : Shape Ref) (index : Nat) (ref : Ref) :
    (replace graph (.node index) shape).shape ref =
      if ref = .node index ∧ index < graph.size then shape else graph.shape ref := by
  cases ref with
  | null | bool | int => rfl
  | node other =>
    simp only [replace, Graph.shape, Graph.size, Array.getD_eq_getD_getElem?, Array.getElem?_setIfInBounds, Ref.node.injEq]
    by_cases same : index = other
    · subst same
      by_cases inside : index < graph.nodes.size
      · simp [inside]
      · simp [inside]
    · rw [if_neg same, if_neg fun equal => same equal.1.symm]

theorem replace_edits (closed : library.Closed) (held : library.graph.Held node)
    (kind : (library.graph.shape node).SameKind shape) (parts : ∀ inner ∈ shape.parts, library.graph.Held inner) :
    library.Edits { library with graph := replace library.graph node shape } := by
  cases node with
  | null | bool | int => exact ⟨⟨fun _ _ => .same _, closed.graph⟩, closed, .null, fun _ _ _ => rfl⟩
  | node index =>
    have held_iff : ∀ ref, (replace library.graph (.node index) shape).Held ref ↔ library.graph.Held ref := by
      intro ref
      cases ref with
      | null | bool | int => exact Iff.rfl
      | node other => simp [Graph.Held, Graph.size, replace]
    have closed_after : (replace library.graph (.node index) shape).Closed := by
      intro ref inner inside
      rw [held_iff]
      rw [shape_replace] at inside
      split at inside
      · exact parts inner inside
      · exact closed.graph ref inner inside
    refine ⟨⟨fun ref _ => ?_, closed_after⟩, ⟨closed_after, ?_⟩, .node index, fun ref _ other => ?_⟩
    · simp only [shape_replace]
      split
      next same => exact same.1 ▸ kind
      next => exact .same _
    · exact fun entry member => (held_iff entry.2).mpr (closed.documents entry member)
    · simp [shape_replace, other]

theorem editParent_edits {parent : List Key} {edit : Shape Ref → Except Fault (Shape Ref)} (closed : library.Closed)
    (edits : ∀ shape result, edit shape = .ok result → shape.SameKind result ∧
      ∀ inner ∈ result.parts, library.graph.Held inner ∨ inner ∈ shape.parts)
    (edited : library.editParent parent edit = .ok after) : library.Edits after := by
  obtain ⟨node, found, edited⟩ := Except.bind_ok edited
  obtain ⟨shape, made, edited⟩ := Except.bind_ok edited
  cases edited
  obtain ⟨kind, parts⟩ := edits _ shape made
  apply replace_edits closed (find_held closed found) kind
  intro inner member
  rcases parts inner member with held | old
  · exact held
  · exact closed.graph node inner old

theorem assign_edits (closed : library.Closed) (held : library.graph.Held part)
    (assigned : library.assign path part = .ok after) : library.Edits after := by
  unfold assign at assigned
  split at assigned
  · cases assigned
  next name _ =>
    cases assigned
    refine ⟨⟨fun _ _ => .same _, closed.graph⟩, ⟨closed.graph, fun entry member => ?_⟩, .null, fun _ _ _ => rfl⟩
    rcases Table.mem_set member with rfl | old
    · exact held
    · exact closed.documents entry old
  · cases assigned
  next =>
    refine editParent_edits closed (fun shape result made => ?_) assigned
    obtain ⟨kind, parts⟩ := assigned_kind made
    refine ⟨kind, ?_⟩
    intro inner member
    rcases parts inner member with rfl | old
    · exact .inl held
    · exact .inr old

/-- Nodes that were added first do not count as edited. -/
theorem Edits.of_extends {middle : Library} (grown : Extends before.graph middle.graph) (edits : middle.Edits after) :
    before.Edits after where
  edited := ⟨fun ref held => grown.same ref held ▸ edits.edited.kinds ref (grown.held ref held), edits.edited.closed⟩
  closed := edits.closed
  alone := by
    obtain ⟨target, others⟩ := edits.alone
    exact ⟨target, fun ref held other => (others ref (grown.held ref held) other).trans (grown.same ref held)⟩

theorem add_closed (closed : library.Closed) (value : Value) :
    (library.add value).2.Closed ∧ Extends library.graph (library.add value).2.graph ∧
      (library.add value).2.graph.Held (library.add value).1 := by
  obtain ⟨grown, held⟩ := library.graph.add_extends value
  exact ⟨⟨grown.closed closed.graph, fun entry member => grown.held _ (closed.documents entry member)⟩, grown, held⟩

theorem set_edits (closed : library.Closed) (ended : library.set path value = .ok after) : library.Edits after := by
  obtain ⟨added, grown, held⟩ := add_closed closed value
  exact .of_extends grown (assign_edits added held ended)

theorem link_edits {source : List Key} (closed : library.Closed) (ended : library.link path source = .ok after) :
    library.Edits after := by
  obtain ⟨node, found, ended⟩ := Except.bind_ok ended
  exact assign_edits closed (find_held closed found) ended

theorem append_edits (closed : library.Closed) (ended : library.append path value = .ok after) : library.Edits after := by
  obtain ⟨node, found, ended⟩ := Except.bind_ok ended
  have held := find_held closed found
  split at ended
  next items shaped =>
    cases ended
    obtain ⟨added, grown, fresh⟩ := add_closed closed value
    have still : (library.add value).2.graph.shape node = .array false items := (grown.same node held).trans shaped
    refine .of_extends grown (replace_edits added (grown.held node held) (still ▸ .array _ _) ?_)
    intro inner member
    rcases List.mem_append.mp member with old | last
    · exact added.graph node inner (still ▸ old)
    · exact List.mem_singleton.mp last ▸ fresh
  next => cases ended

theorem delete_edits (closed : library.Closed) (ended : library.delete path = .ok after) : library.Edits after := by
  unfold delete at ended
  split at ended
  · cases ended
  next name _ =>
    split at ended
    next =>
      cases ended
      refine ⟨⟨fun _ _ => .same _, closed.graph⟩, ⟨closed.graph, fun entry member => ?_⟩, .null, fun _ _ _ => rfl⟩
      exact closed.documents entry (Table.mem_of_erase member)
    next => cases ended
  · cases ended
  next =>
    refine editParent_edits closed (fun shape result made => ?_) ended
    obtain ⟨kind, parts⟩ := without_kind made
    exact ⟨kind, fun inner member => .inr (parts inner member)⟩

theorem closed_ofDocuments (documents : List (String × Value)) : (ofDocuments documents).Closed := by
  induction documents with
  | nil => exact ⟨Graph.closed_of_nodes (fun _ member => nomatch member), fun _ member => nomatch member⟩
  | cons entry rest ih =>
    obtain ⟨name, value⟩ := entry
    obtain ⟨added, grown, held⟩ := add_closed ih value
    refine ⟨added.graph, ?_⟩
    intro entry member
    rcases List.mem_cons.mp member with rfl | later
    · exact held
    · exact added.documents entry later

end Library
end LiveSchema
