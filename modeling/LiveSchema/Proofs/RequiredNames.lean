import LiveSchema.Graph.Edit
import LiveSchema.Proofs.EqualData
import LiveSchema.Proofs.Outline
import LiveSchema.Proofs.TrackedCache
import Mathlib.Data.List.Nodup

/-! The names of `required`. Which names count is settled when a node is compiled;
how many there have to be is read from the live array. A list that was compiled
before the array was edited therefore asks for the live names only if it had the
same ones, in whatever order. -/

namespace LiveSchema

open Run (start)

namespace Keyword

variable {graph before after : Graph} {node part : Ref} {fields others : Entries Ref} {names past live : List String}
  {entries : Entries Value}

def isNamed (names : List String) : Key → Bool
  | .text name => names.contains name
  | .int _ => false

theorem countRequired_eq (names : List String) (entries : Entries Value) :
    countRequired names entries = (entries.keys.filter (isNamed names)).length := by
  rw [← List.countP_eq_length_filter, Table.keys, List.countP_map]
  apply List.countP_congr
  rintro ⟨name, item⟩ _
  cases name <;> rfl

theorem countRequired_perm (same : past.Perm live) (entries : Entries Value) :
    countRequired past entries = countRequired live entries := by
  apply List.countP_congr
  rintro ⟨name, item⟩ _
  cases name with
  | int value => rfl
  | text name => simp only [List.contains_iff_mem, same.mem_iff]

theorem has_iff {key : Key} : entries.has key = true ↔ key ∈ entries.keys := Table.mem_keys_iff.symm

/-- Of distinct names as many are found as there are just when none is missing. -/
theorem countRequired_eq_length_iff (distinct : names.Nodup) (keys : entries.keys.Nodup) :
    countRequired names entries = names.length ↔ ∀ name ∈ names, entries.has (.text name) = true := by
  have texts : (names.map Key.text).Nodup := distinct.map fun _ _ => Key.text.inj
  have found : (entries.keys.filter (isNamed names)).Nodup := keys.filter _
  have inside : entries.keys.filter (isNamed names) ⊆ names.map Key.text := by
    intro key member
    obtain ⟨_, named⟩ := List.mem_filter.mp member
    cases key with
    | int value => cases named
    | text name => exact List.mem_map_of_mem (List.contains_iff_mem.mp named)
  have counted := countRequired_eq names entries
  rw [← List.length_map Key.text, counted]
  constructor
  · intro same name member
    have perm := (List.subperm_of_subset found inside).perm_of_length_le same.ge
    exact has_iff.mpr (List.mem_filter.mp (perm.mem_iff.mpr (List.mem_map_of_mem member))).1
  · intro present
    have covers : names.map Key.text ⊆ entries.keys.filter (isNamed names) := by
      intro key member
      obtain ⟨name, inside, rfl⟩ := List.mem_map.mp member
      exact List.mem_filter.mpr ⟨has_iff.mp (present name inside), List.contains_iff_mem.mpr inside⟩
    exact Nat.le_antisymm (List.subperm_of_subset found inside).length_le (List.subperm_of_subset texts covers).length_le

theorem requiredNames_ok (reads : requiredNames graph part = .ok names) :
    names.Nodup ∧ ∃ fixed items, graph.shape part = .array fixed items ∧ items.length = names.length := by
  unfold requiredNames at reads
  split at reads
  next items listed =>
    split at reads
    next texts mapped =>
      split at reads
      next distinct =>
        cases reads
        obtain ⟨fixed, shaped⟩ := Graph.items?_eq_some listed
        exact ⟨distinct, fixed, items, shaped, (Option.mapM_forall₂ mapped).length_eq⟩
      next => cases reads
    next => cases reads
  next => cases reads

theorem compileRequired_names (compiled : compileRequired graph fields = .ok (names, [.required])) :
    ∃ part, fields.keyword? "required" = some part ∧ requiredNames graph part = .ok names := by
  unfold compileRequired at compiled
  split at compiled
  · cases compiled
  next part found =>
    obtain ⟨read, reads, compiled⟩ := Except.bind_ok compiled
    cases compiled
    exact ⟨part, found, reads⟩

/-- Whatever names were counted, there have to be as many as the live array has. -/
theorem runRequired_eq (object : graph.shape node = .object fields)
    (compiled : compileRequired graph fields = .ok (names, [.required])) (seen : Nat) :
    runRequired graph seen node = if seen = names.length then .ok () else violate .missingRequired := by
  obtain ⟨part, found, reads⟩ := compileRequired_names compiled
  obtain ⟨_, fixed, items, shaped, same⟩ := requiredNames_ok reads
  have present := (Graph.field?_eq object "required").trans found
  simp only [runRequired, LiveSchema.live_require present, shaped, Shape.length?, same]
  rfl

/-- An object that has just these names. -/
def withNames (names : List String) : Entries Value := names.map fun name => (.text name, .null)

theorem keys_withNames (names : List String) : (withNames names).keys = names.map Key.text := by
  simp [withNames, Table.keys]

theorem has_withNames {name : String} : (withNames names).has (.text name) = true ↔ name ∈ names := by
  simp [has_iff, keys_withNames]

private theorem nodup_withNames (distinct : names.Nodup) : (withNames names).keys.Nodup := by
  rw [keys_withNames]
  exact distinct.map fun _ _ => Key.text.inj

private theorem accepts_iff {condition : Prop} [Decidable condition] {violation : Violation} :
    (if condition then Except.ok () else violate violation) = .ok () ↔ condition := by
  by_cases holds : condition <;> simp [holds, violate]

/-- If the objects of both rows of names get the same verdict for either row, the rows have the same names. -/
theorem perm_of_counts (distinct : past.Nodup) (others : live.Nodup)
    (same : ∀ entries : Entries Value, entries.keys.Nodup →
      (countRequired past entries = live.length ↔ countRequired live entries = live.length)) : past.Perm live := by
  have covers : live ⊆ past := by
    have counted := (same (withNames live) (nodup_withNames others)).mpr
      ((countRequired_eq_length_iff others (nodup_withNames others)).mpr fun name member => has_withNames.mpr member)
    rw [countRequired_eq, keys_withNames, List.filter_map, List.length_map] at counted
    intro name member
    exact List.contains_iff_mem.mp (List.length_filter_eq_length_iff.mp counted name member)
  have long : past.length = live.length := by
    have found := (countRequired_eq_length_iff others (nodup_withNames distinct)).mpr fun name member =>
      has_withNames.mpr (covers member)
    have counted := (same (withNames past) (nodup_withNames distinct)).mpr found
    have own := (countRequired_eq_length_iff distinct (nodup_withNames distinct)).mpr fun name member =>
      has_withNames.mpr member
    exact own.symm.trans counted
  exact ((List.subperm_of_subset others covers).perm_of_length_le long.le).symm

/-- A list compiled before `required` was edited and one compiled after it give
the same verdict on every object just when both arrays had the same names. The new
one refuses an object just when a live name is missing from it. -/
theorem required_agrees_iff_perm (compiled : compileRequired before fields = .ok (past, [.required]))
    (object : after.shape node = .object others) (edited : compileRequired after others = .ok (live, [.required])) :
    (∀ entries : Entries Value, entries.keys.Nodup → ∀ length,
      (runTallyCheck after length (countRequired live entries) node .required = .ok () ↔
        ∀ name ∈ live, entries.has (.text name) = true)) ∧
    ((∀ entries : Entries Value, entries.keys.Nodup → ∀ length,
      runTallyCheck after length (countRequired past entries) node .required =
        runTallyCheck after length (countRequired live entries) node .required) ↔ past.Perm live) := by
  obtain ⟨_, _, old⟩ := compileRequired_names compiled
  obtain ⟨_, _, new⟩ := compileRequired_names edited
  have distinct := (requiredNames_ok old).1
  have others_distinct := (requiredNames_ok new).1
  simp only [runTallyCheck, runRequired_eq object edited]
  refine ⟨fun entries keys _ => ?_, fun same => ?_, fun same entries _ _ => ?_⟩
  · rw [← countRequired_eq_length_iff others_distinct keys]
    exact accepts_iff
  · apply perm_of_counts distinct others_distinct
    intro entries keys
    exact accepts_iff.symm.trans ((congrArg (· = .ok ()) (same entries keys 0)).to_iff.trans accepts_iff)
  · rw [countRequired_perm same]

def pairGraph (first second : String) : Graph :=
  ⟨#[.object [(.text "required", .node 1)], .array false [.node 2, .node 3], .text first, .text second]⟩

/-- The two names were exchanged. An object that lacks one of them is refused as by a new list. -/
theorem required_agrees_reordered :
    compileRequired (pairGraph "a" "b") [(.text "required", .node 1)] = .ok (["a", "b"], [.required]) ∧
    runTallyCheck (pairGraph "b" "a") 1 (countRequired ["a", "b"] (withNames ["a"])) (.node 0) .required =
      .error (.violation .missingRequired) := by
  have compiled : compileRequired (pairGraph "a" "b") [(.text "required", .node 1)] = .ok (["a", "b"], [.required]) := rfl
  have edited : compileRequired (pairGraph "b" "a") [(.text "required", .node 1)] = .ok (["b", "a"], [.required]) := rfl
  have object : (pairGraph "b" "a").shape (.node 0) = .object [(.text "required", .node 1)] := rfl
  obtain ⟨_, agrees⟩ := required_agrees_iff_perm compiled object edited
  refine ⟨compiled, ?_⟩
  rw [agrees.mpr (.swap _ _ _) (withNames ["a"]) (by decide) 1]
  rfl

end Keyword

namespace Validator

/-- Objects that have an entry of one name. -/
def nameGraph : Graph := ⟨#[.object [(.text "required", .node 1)], .array false [.node 2], .text "a"]⟩

/-- Another array of another name has taken its place. -/
def otherName : Graph :=
  ⟨#[.object [(.text "required", .node 4)], .array false [.node 2], .text "a", .text "b", .array false [.node 3]]⟩

def nameChecker : Validator := ⟨.node 0, .standard⟩

/-- After the array was replaced the old name is still asked for. An object with the
new name is refused and one with the old name is not; a new validator says the opposite. -/
theorem required_names_settled :
    Library.set ⟨nameGraph, [("names", .node 0)]⟩ [.text "names", .text "required"] (.array false [.text "b"]) =
      .ok ⟨otherName, [("names", .node 0)]⟩ ∧
    (start (nameChecker.validate otherName (.object [(.text "b", .null)])) (nameChecker.work nameGraph [.compile] .empty)).1 =
      .error (.violation .missingRequired) ∧
    (start (nameChecker.validate otherName (.object [(.text "b", .null)])) .empty).1 = .ok () ∧
    (start (nameChecker.validate otherName (.object [(.text "a", .null)])) (nameChecker.work nameGraph [.compile] .empty)).1 =
      .ok () ∧
    (start (nameChecker.validate otherName (.object [(.text "a", .null)])) .empty).1 =
      .error (.violation .missingRequired) := by
  refine ⟨rfl, ?_, ?_, ?_, ?_⟩ <;> rfl

end Validator
end LiveSchema
