import LiveSchema.Proofs.NodeShape
import Mathlib.Data.List.Perm.Subperm

/-! What a node contains, and reading it as a value. A node that can be read at
all does not contain itself, so as many levels as there are nodes are enough;
and it reads the same in every graph that has the same contents there. -/

namespace LiveSchema

open Relation (ReflTransGen TransGen)

theorem Option.mapM_isSome {f : α → Option β} {items : List α} :
    (items.mapM f).isSome = true ↔ ∀ item ∈ items, (f item).isSome = true := by
  induction items with
  | nil => simp
  | cons item rest ih =>
    rw [List.mapM_cons, List.forall_mem_cons, ← ih]
    cases f item with
    | none => simp
    | some first => cases rest.mapM f <;> simp

theorem Option.mapM_kept {f g : α → Option β} {items : List α} {results : List β}
    (each : ∀ item ∈ items, ∀ result, f item = some result → g item = some result)
    (mapped : items.mapM f = some results) : items.mapM g = some results := by
  induction items generalizing results with
  | nil => exact mapped
  | cons item rest ih =>
    rw [List.mapM_cons] at mapped ⊢
    obtain ⟨first, made, mapped⟩ := Option.bind_eq_some_iff.mp mapped
    obtain ⟨others, rests, mapped⟩ := Option.bind_eq_some_iff.mp mapped
    cases mapped
    rw [each item (by simp) first made, ih (fun other later => each other (List.mem_cons_of_mem _ later)) rests]
    rfl

theorem Except.mapM_kept {f g : α → Except ε β} {items : List α} {results : List β}
    (each : ∀ item ∈ items, ∀ result, f item = .ok result → g item = .ok result)
    (mapped : items.mapM f = .ok results) : items.mapM g = .ok results := by
  induction items generalizing results with
  | nil => exact mapped
  | cons item rest ih =>
    rw [List.mapM_cons] at mapped ⊢
    obtain ⟨first, made, mapped⟩ := bind_ok mapped
    obtain ⟨others, rests, mapped⟩ := bind_ok mapped
    cases mapped
    rw [each item (by simp) first made, ih (fun other later => each other (List.mem_cons_of_mem _ later)) rests]
    rfl

def Shape.parts : Shape α → List α
  | .array _ items => items
  | .object entries => entries.map Prod.snd
  | _ => []

namespace Graph

/-- A node stands in another, any number of levels deep. -/
def Contains (graph : Graph) : Ref → Ref → Prop :=
  ReflTransGen fun outer inner => inner ∈ (graph.shape outer).parts

/-- Somewhere in a node there is one that contains itself. -/
def HoldsLoop (graph : Graph) (ref : Ref) : Prop :=
  ∃ inner, graph.Contains ref inner ∧ TransGen (fun outer inner => inner ∈ (graph.shape outer).parts) inner inner

/-- What a node contains is the same in both graphs. -/
def SameContents (before after : Graph) (ref : Ref) : Prop :=
  ∀ inner, before.Contains ref inner → after.shape inner = before.shape inner

variable {graph before after : Graph} {ref : Ref} {value : Value}

theorem SameContents.part (same : SameContents before after ref) {part : Ref} (inside : part ∈ (before.shape ref).parts) :
    SameContents before after part :=
  fun inner contained => same inner (.head inside contained)

theorem SameContents.symm (same : SameContents before after ref) : SameContents after before ref := by
  have contained : ∀ inner, after.Contains ref inner → before.Contains ref inner := by
    intro inner contains
    induction contains with
    | refl => exact .refl
    | tail _ inside ih =>
      rw [same _ ih] at inside
      exact ih.tail inside
  intro inner contains
  exact (same inner (contained inner contains)).symm

theorem read?_isSome {depth : Nat} : (graph.read? (depth + 1) ref).isSome = true ↔
    ∀ part ∈ (graph.shape ref).parts, (graph.read? depth part).isSome = true := by
  simp only [read?]
  cases graph.shape ref with
  | null | bool | number | text | bytes => simp [Shape.parts]
  | array fixed items => rw [Option.isSome_map, Option.mapM_isSome, Shape.parts]
  | object entries =>
    rw [Option.isSome_map, Option.mapM_isSome, Shape.parts, List.forall_mem_map]
    simp only [Option.isSome_map]

/-- The same contents read the same, to any depth that is enough. -/
theorem read?_kept {depth more : Nat} (same : SameContents before after ref) (le : depth ≤ more)
    (read : before.read? depth ref = some value) : after.read? more ref = some value := by
  induction depth generalizing ref more value with
  | zero => cases read
  | succ depth ih =>
    obtain ⟨more, rfl⟩ := Nat.exists_eq_add_of_lt (Nat.lt_of_succ_le le)
    have deeper : depth ≤ depth + more := Nat.le_add_right depth more
    simp only [read?, same ref .refl] at read ⊢
    cases shaped : before.shape ref with
    | null | bool | number | text | bytes => simpa only [shaped] using read
    | array fixed items =>
      simp only [shaped, Option.map_eq_some_iff] at read ⊢
      obtain ⟨values, mapped, rfl⟩ := read
      refine ⟨values, Option.mapM_kept (fun item member result => ?_) mapped, rfl⟩
      exact ih (same.part (by simpa only [shaped, Shape.parts] using member)) deeper
    | object entries =>
      simp only [shaped, Option.map_eq_some_iff] at read ⊢
      obtain ⟨values, mapped, rfl⟩ := read
      refine ⟨values, Option.mapM_kept (fun entry member result made => ?_) mapped, rfl⟩
      obtain ⟨item, read, rfl⟩ := Option.map_eq_some_iff.mp made
      have inside : entry.2 ∈ (before.shape ref).parts := by
        simpa only [shaped, Shape.parts] using List.mem_map_of_mem member
      rw [ih (same.part inside) deeper read]
      rfl

theorem read?_mono {depth more : Nat} (le : depth ≤ more) (read : graph.read? depth ref = some value) :
    graph.read? more ref = some value :=
  read?_kept (fun _ _ => rfl) le read

theorem length_le_size {seen : List Ref} (distinct : seen.Nodup)
    (numbered : ∀ ref ∈ seen, ∃ index, ref = .node index ∧ index < graph.size) : seen.length ≤ graph.size := by
  have inside : seen ⊆ (List.range graph.size).map .node := by
    intro ref member
    obtain ⟨index, rfl, small⟩ := numbered ref member
    exact List.mem_map.mpr ⟨index, List.mem_range.mpr small, rfl⟩
  simpa using (List.subperm_of_subset distinct inside).length_le

theorem numbered_of_parts {part : Ref} (inside : part ∈ (graph.shape ref).parts) :
    ∃ index, ref = .node index ∧ index < graph.size := by
  cases ref with
  | null | bool | int => cases inside
  | node index =>
    refine ⟨index, rfl, Nat.lt_of_not_le ?_⟩
    intro outside
    have missing : graph.shape (.node index) = .null := by
      simp only [size] at outside
      simp [shape, Array.getElem?_eq_none outside]
    rw [missing] at inside
    cases inside

/-- The nodes in `seen` cannot be read yet, so none of them stands in the node. -/
private theorem read?_bounded {depth : Nat} (seen : List Ref) (distinct : seen.Nodup)
    (numbered : ∀ ref ∈ seen, ∃ index, ref = .node index ∧ index < graph.size)
    (late : ∀ ref ∈ seen, graph.read? depth ref = none) (read : (graph.read? depth ref).isSome = true) :
    (graph.read? (graph.size - seen.length + 1) ref).isSome = true := by
  induction depth generalizing ref seen with
  | zero => cases read
  | succ depth ih =>
    have earlier : ∀ ref, graph.read? (depth + 1) ref = none → graph.read? depth ref = none := by
      intro ref later
      cases early : graph.read? depth ref with
      | none => rfl
      | some value => cases later.symm.trans (read?_mono (Nat.le_succ depth) early)
    cases early : graph.read? depth ref with
    | some value => exact ih seen distinct (numbered) (fun ref member => earlier ref (late ref member)) (by rw [early]; rfl)
    | none =>
      apply read?_isSome.mpr
      intro part inside
      have fresh : ref ∉ seen := fun member => by simp [late ref member] at read
      have distincts : (ref :: seen).Nodup := List.nodup_cons.mpr ⟨fresh, distinct⟩
      have numbers : ∀ other ∈ ref :: seen, ∃ index, other = .node index ∧ index < graph.size :=
        List.forall_mem_cons.mpr ⟨numbered_of_parts inside, numbered⟩
      have lates : ∀ other ∈ ref :: seen, graph.read? depth other = none :=
        List.forall_mem_cons.mpr ⟨early, fun other member => earlier other (late other member)⟩
      have room := length_le_size distincts numbers
      have bounded := ih (ref :: seen) distincts numbers lates (read?_isSome.mp read part inside)
      rw [List.length_cons] at room bounded
      rwa [show graph.size - seen.length = graph.size - (seen.length + 1) + 1 by omega]

theorem value?_of_read {depth : Nat} (read : graph.read? depth ref = some value) : graph.value? ref = some value := by
  have bounded := read?_bounded [] List.nodup_nil (by simp) (by simp) (Option.isSome_of_eq_some read)
  obtain ⟨other, found⟩ := Option.isSome_iff_exists.mp bounded
  have first := read?_mono (Nat.le_max_left depth (graph.size + 1)) read
  have second := read?_mono (Nat.le_max_right depth (graph.size + 1)) found
  cases first.symm.trans second
  exact found

private theorem not_loop_of_read {depth : Nat} (read : (graph.read? depth ref).isSome = true) :
    ¬ TransGen (fun outer inner => inner ∈ (graph.shape outer).parts) ref ref := by
  induction depth generalizing ref with
  | zero => cases read
  | succ depth ih =>
    intro loop
    obtain ⟨part, inside, back⟩ := TransGen.head'_iff.mp loop
    exact ih (read?_isSome.mp read part inside) (.tail' back inside)

private theorem read_of_not_loop {depth : Nat} (seen : List Ref) (loopless : ¬ graph.HoldsLoop ref) (distinct : seen.Nodup)
    (around : ∀ outer ∈ seen, TransGen (fun outer inner => inner ∈ (graph.shape outer).parts) outer ref)
    (numbered : ∀ outer ∈ seen, ∃ index, outer = .node index ∧ index < graph.size)
    (room : graph.size < depth + seen.length) : (graph.read? depth ref).isSome = true := by
  induction depth generalizing ref seen with
  | zero =>
    have small := length_le_size distinct numbered
    omega
  | succ depth ih =>
    apply read?_isSome.mpr
    intro part inside
    have fresh : ref ∉ seen := fun member => loopless ⟨ref, .refl, around ref member⟩
    refine ih (ref :: seen) ?_ (List.nodup_cons.mpr ⟨fresh, distinct⟩) ?_ ?_ ?_
    · rintro ⟨inner, contained, loop⟩
      exact loopless ⟨inner, .head inside contained, loop⟩
    · exact List.forall_mem_cons.mpr ⟨.single inside, fun outer member => (around outer member).tail inside⟩
    · exact List.forall_mem_cons.mpr ⟨numbered_of_parts inside, numbered⟩
    · rw [List.length_cons]
      omega

private theorem read_of_contains {depth : Nat} {inner : Ref} (read : (graph.read? depth ref).isSome = true)
    (contained : graph.Contains ref inner) : ∃ depth, (graph.read? depth inner).isSome = true := by
  induction contained with
  | refl => exact ⟨depth, read⟩
  | tail _ inside ih =>
    obtain ⟨depth, outer_read⟩ := ih
    cases depth with
    | zero => cases outer_read
    | succ depth => exact ⟨depth, read?_isSome.mp outer_read _ inside⟩

/-- A node can be read if and only if nothing in it contains itself. -/
theorem value?_isSome_iff : (graph.value? ref).isSome = true ↔ ¬ graph.HoldsLoop ref := by
  constructor
  · rintro read ⟨inner, contained, loop⟩
    obtain ⟨depth, inner_read⟩ := read_of_contains read contained
    exact not_loop_of_read inner_read loop
  · intro loopless
    refine read_of_not_loop [] loopless List.nodup_nil (List.forall_mem_nil _) (List.forall_mem_nil _) ?_
    rw [List.length_nil]
    omega

theorem value?_kept (same : SameContents before after ref) (read : before.value? ref = some value) :
    after.value? ref = some value :=
  value?_of_read (read?_kept same (Nat.le_refl _) read)

theorem memberForms_kept {forms : List Canon} (same : SameContents before after ref)
    (read : Keyword.memberForms before ref = .ok forms) : Keyword.memberForms after ref = .ok forms := by
  obtain ⟨members, listed, read⟩ := Except.bind_ok read
  have still : after.members ref = before.members ref := by simp only [Graph.members, same ref .refl]
  rw [Keyword.memberForms, still, listed]
  refine Except.mapM_kept (fun member inside form compared => ?_) read
  cases member with
  | loose value => exact compared
  | node part =>
    have within : part ∈ (before.shape ref).parts := by
      cases shaped : before.shape ref <;> simp only [Graph.members, shaped, live] at listed
      all_goals cases listed
      all_goals simp [Shape.parts] at inside ⊢
      all_goals exact inside
    cases found : before.value? part with
    | none => simp only [memberValue?, found, Keyword.comparedForm] at compared; cases compared
    | some value => rwa [memberValue?, value?_kept (same.part within) found, ← found]

end Graph
end LiveSchema
