import LiveSchema.Proofs.EqualData
import LiveSchema.Proofs.FirstFailures
import LiveSchema.Proofs.WellFormedKeywords
import Mathlib.Data.String.Basic

/-! Equality of data without canonical forms: layer by layer, items by their index and
entries by their name. Canonical entries are sorted strictly, so what is found under the
names settles the whole table, and two values have one canonical form exactly if they are
equal in this sense. -/

namespace LiveSchema

theorem Key.before_irrefl (name : Key) : ¬ name.before name = true := by
  cases name <;> simp [before]

theorem Key.before_trans {one two three : Key} (first : one.before two = true) (second : two.before three = true) :
    one.before three = true := by
  cases one <;> cases two <;> cases three <;> simp only [before, decide_eq_true_eq, Bool.false_eq_true] at first second ⊢
  · exact lt_trans first second
  · exact lt_trans first second

theorem Key.before_total {one two : Key} (different : one ≠ two) : one.before two = true ∨ two.before one = true := by
  cases one <;> cases two <;> simp only [before, decide_eq_true_eq, or_true, true_or]
  · exact lt_or_gt_of_ne fun same => different (congrArg Key.text same)
  · exact lt_or_gt_of_ne fun same => different (congrArg Key.int same)

namespace Value

/-- Each entry comes before those after it. -/
def Sorted (entries : List (Key × Canon)) : Prop := entries.Pairwise fun one two => one.1.before two.1 = true

theorem mem_insertEntry {name : Key} {item : Canon} {entries : List (Key × Canon)} {entry : Key × Canon}
    (member : entry ∈ insertEntry name item entries) : entry = (name, item) ∨ entry ∈ entries := by
  induction entries with
  | nil => exact .inl (List.mem_singleton.mp member)
  | cons first rest ih =>
    obtain ⟨other, old⟩ := first
    simp only [insertEntry] at member
    split at member
    · exact (List.mem_cons.mp member).imp_right (List.mem_cons_of_mem _)
    · split at member
      · exact List.mem_cons.mp member
      · rcases List.mem_cons.mp member with same | later
        · exact .inr (same ▸ List.mem_cons_self)
        · exact (ih later).imp_right (List.mem_cons_of_mem _)

theorem sorted_insertEntry {name : Key} {item : Canon} {entries : List (Key × Canon)} (sorted : Sorted entries) :
    Sorted (insertEntry name item entries) := by
  induction entries with
  | nil => exact List.pairwise_singleton _ _
  | cons first rest ih =>
    obtain ⟨other, old⟩ := first
    obtain ⟨lowest, later⟩ := List.pairwise_cons.mp sorted
    simp only [insertEntry]
    split
    next same =>
      subst same
      exact List.pairwise_cons.mpr ⟨lowest, later⟩
    next different =>
      split
      next first =>
        refine List.pairwise_cons.mpr ⟨fun entry member => ?_, sorted⟩
        rcases List.mem_cons.mp member with rfl | inside
        · exact first
        · exact Key.before_trans first (lowest entry inside)
      next last =>
        refine List.pairwise_cons.mpr ⟨fun entry member => ?_, ih later⟩
        rcases mem_insertEntry member with rfl | inside
        · exact (Key.before_total different).resolve_left last
        · exact lowest entry inside

theorem sorted_canonEntries (entries : Entries Value) : Sorted (canonEntries entries) := by
  induction entries with
  | nil => exact List.Pairwise.nil
  | cons entry rest ih => exact sorted_insertEntry ih

theorem Sorted.nodup {entries : List (Key × Canon)} (sorted : Sorted entries) : (Table.keys entries).Nodup := by
  refine List.pairwise_map.mpr (sorted.imp fun {one two} first same => ?_)
  rw [same] at first
  exact Key.before_irrefl _ first

/-- Strictly sorted entries are settled by what is found under the names. -/
theorem Sorted.eq_of_get? {ones twos : Table Key Canon} (sorted : Sorted ones) (again : Sorted twos)
    (same : ∀ name, ones.get? name = twos.get? name) : ones = twos := by
  have members : ∀ entry, entry ∈ ones ↔ entry ∈ twos := by
    intro entry
    constructor
    · intro member
      exact Table.mem_of_get? ((same entry.1).symm.trans (Table.get?_of_mem sorted.nodup member))
    · intro member
      exact Table.mem_of_get? ((same entry.1).trans (Table.get?_of_mem again.nodup member))
  have permuted : ones.Perm twos :=
    (List.perm_ext_iff_of_nodup (List.Nodup.of_map _ sorted.nodup) (List.Nodup.of_map _ again.nodup)).mpr members
  refine List.Perm.eq_of_pairwise (fun one two _ _ first second => ?_) sorted again permuted
  exact absurd (Key.before_trans first second) (Key.before_irrefl _)

/-- Equality of data, layer by layer. -/
inductive Equal : Value → Value → Prop
  | null : Equal .null .null
  | bool (value : Bool) : Equal (.bool value) (.bool value)
  | number {one two : Number} {place : Extended} (first : one.place? = some place) (second : two.place? = some place) :
      Equal (.number one) (.number two)
  | notANumber {one two : Number} (first : one.isNaN = true) (second : two.isNaN = true) : Equal (.number one) (.number two)
  | text (value : String) : Equal (.text value) (.text value)
  | bytes (value : List UInt8) : Equal (.bytes value) (.bytes value)
  | array {fixed other : Bool} {ones twos : List Value} (lengths : ones.length = twos.length)
      (items : ∀ (index : Nat) one two, ones[index]? = some one → twos[index]? = some two → Equal one two) :
      Equal (.array fixed ones) (.array other twos)
  | object {ones twos : Entries Value} (names : ∀ name, ones.has name = twos.has name)
      (entries : ∀ name one two, ones.get? name = some one → twos.get? name = some two → Equal one two) :
      Equal (.object ones) (.object twos)

/-- What holds of a value if it holds of its parts holds of all values. -/
@[elab_as_elim]
theorem parts_induction {motive : Value → Prop}
    (step : ∀ value : Value, (∀ part ∈ value.shape.parts, motive part) → motive value) (value : Value) : motive value := by
  induction deep : value.depth using Nat.strong_induction_on generalizing value with
  | _ depth ih =>
    subst deep
    refine step value fun part inside => ih part.depth ?_ part rfl
    cases value with
    | null | bool | number | text | bytes => cases inside
    | array fixed items => exact depth_item inside
    | object entries =>
      obtain ⟨⟨name, item⟩, member, rfl⟩ := List.mem_map.mp inside
      exact depth_entry member

theorem canon_eq_of_equal {one two : Value} (equal : Equal one two) : one.canon = two.canon := by
  induction equal with
  | null => rfl
  | bool value => rfl
  | number first second => rw [canon_number, canon_number, first, second]
  | @notANumber one two first second =>
    rw [Number.isNaN_eq, Option.isNone_iff_eq_none] at first second
    rw [canon_number, canon_number, first, second]
  | text value => rfl
  | bytes value => rfl
  | @array fixed other ones twos lengths items ih =>
    have same : ones.map canon = twos.map canon := by
      refine List.ext_getElem (by simpa only [List.length_map] using lengths) fun index first second => ?_
      rw [List.length_map] at first second
      rw [List.getElem_map, List.getElem_map]
      exact ih index _ _ (List.getElem?_eq_getElem first) (List.getElem?_eq_getElem second)
    simp only [canon, canonItems_eq, same]
  | @object ones twos names entries ih =>
    have same : canonEntries ones = canonEntries twos := by
      refine (sorted_canonEntries ones).eq_of_get? (sorted_canonEntries twos) fun name => ?_
      rw [get?_canonEntries, get?_canonEntries]
      have known := names name
      simp only [Table.has] at known
      cases first : ones.get? name with
      | none =>
        rw [first, Option.isSome_none, eq_comm, Option.isSome_eq_false_iff, Option.isNone_iff_eq_none] at known
        rw [known]
      | some item =>
        rw [first, Option.isSome_some, eq_comm, Option.isSome_iff_exists] at known
        obtain ⟨part, second⟩ := known
        rw [second, Option.map_some, Option.map_some, ih name item part first second]
    simp only [canon, same]

private theorem equal_number {one two : Number} (place : one.place? = two.place?) : Equal (.number one) (.number two) := by
  cases found : one.place? with
  | some exact => exact .number found (place.symm.trans found)
  | none =>
    apply Equal.notANumber
    · rw [Number.isNaN_eq, found, Option.isNone_none]
    · rw [Number.isNaN_eq, ← place, found, Option.isNone_none]

private theorem equal_array {fixed other : Bool} {ones twos : List Value}
    (parts : ∀ one ∈ ones, ∀ {two : Value}, one.canon = two.canon → Equal one two) (same : ones.map canon = twos.map canon) : Equal (.array fixed ones) (.array other twos) := by
  have lengths : ones.length = twos.length := by simpa only [List.length_map] using congrArg List.length same
  refine .array lengths fun index one two first second => parts one (List.mem_of_getElem? first) ?_
  have found := congrArg (·[index]?) same
  simpa only [List.getElem?_map, first, second, Option.map_some, Option.some.injEq] using found

private theorem equal_object {ones twos : Entries Value}
    (parts : ∀ one ∈ (Value.object ones).shape.parts, ∀ {two : Value}, one.canon = two.canon → Equal one two)
    (same : canonEntries ones = canonEntries twos) : Equal (.object ones) (.object twos) := by
  have found : ∀ name, (Table.get? ones name).map canon = (Table.get? twos name).map canon := by
    intro name
    rw [← get?_canonEntries, same, get?_canonEntries]
  refine .object (fun name => ?_) fun name one two first second => ?_
  · simpa only [Table.has, Option.isSome_map] using congrArg Option.isSome (found name)
  · have inside : one ∈ (Value.object ones).shape.parts := List.mem_map_of_mem (Table.mem_of_get? first)
    refine parts one inside ?_
    simpa only [first, second, Option.map_some, Option.some.injEq] using found name

theorem equal_of_canon {one two : Value} (same : one.canon = two.canon) : Equal one two := by
  induction one using parts_induction generalizing two with
  | step value ih =>
    by_cases numeric : ∃ number, two = .number number
    · obtain ⟨number, rfl⟩ := numeric
      obtain ⟨other, rfl, place⟩ := number_of_canon same.symm
      exact equal_number place.symm
    cases value with
    | number number =>
      obtain ⟨other, rfl, _⟩ := number_of_canon same
      exact absurd ⟨other, rfl⟩ numeric
    | null =>
      cases two with
      | null => exact .null
      | number other => exact absurd ⟨other, rfl⟩ numeric
      | bool | text | bytes | array | object => simp [canon] at same
    | bool flag =>
      cases two with
      | bool other =>
        simp only [canon, Canon.atom.injEq, Atom.bool.injEq] at same
        exact same ▸ .bool flag
      | number other => exact absurd ⟨other, rfl⟩ numeric
      | null | text | bytes | array | object => simp [canon] at same
    | text text =>
      cases two with
      | text other =>
        simp only [canon, Canon.atom.injEq, Atom.text.injEq] at same
        exact same ▸ .text text
      | number other => exact absurd ⟨other, rfl⟩ numeric
      | null | bool | bytes | array | object => simp [canon] at same
    | bytes bytes =>
      cases two with
      | bytes other =>
        simp only [canon, Canon.atom.injEq, Atom.bytes.injEq] at same
        exact same ▸ .bytes bytes
      | number other => exact absurd ⟨other, rfl⟩ numeric
      | null | bool | text | array | object => simp [canon] at same
    | array fixed ones =>
      cases two with
      | array other twos =>
        simp only [canon, canonItems_eq, Canon.array.injEq] at same
        exact equal_array ih same
      | number other => exact absurd ⟨other, rfl⟩ numeric
      | null | bool | text | bytes | object => simp [canon] at same
    | object ones =>
      cases two with
      | object twos =>
        simp only [canon, Canon.object.injEq] at same
        exact equal_object ih same
      | number other => exact absurd ⟨other, rfl⟩ numeric
      | null | bool | text | bytes | array => simp [canon] at same

theorem canon_eq_iff {one two : Value} : one.canon = two.canon ↔ Equal one two := ⟨equal_of_canon, canon_eq_of_equal⟩

theorem equal_equivalence : Equivalence Equal := by
  refine ⟨fun value => ?_, fun equal => ?_, fun first second => ?_⟩
  · exact canon_eq_iff.mp rfl
  · exact canon_eq_iff.mp (canon_eq_iff.mpr equal).symm
  · exact canon_eq_iff.mp ((canon_eq_iff.mpr first).trans (canon_eq_iff.mpr second))

theorem canon_mem_iff {value : Value} {members : List Value} :
    value.canon ∈ members.map canon ↔ ∃ member ∈ members, value.Equal member := by
  rw [List.mem_map]
  refine exists_congr fun member => and_congr_right fun _ => ?_
  rw [eq_comm]
  exact canon_eq_iff

theorem nodup_canon_iff {items : List Value} : (items.map canon).Nodup ↔ items.Pairwise fun one two => ¬ one.Equal two := by
  rw [List.Nodup, List.pairwise_map]
  exact List.Pairwise.iff fun one two => not_congr canon_eq_iff

end Value

theorem countDistinct_le (forms : List Canon) : countDistinct forms ≤ forms.length := by
  induction forms with
  | nil => exact Nat.le_refl 0
  | cons form rest ih =>
    simp only [countDistinct, List.length_cons]
    split <;> omega

/-- As many forms are distinct as there are just when none is repeated. -/
theorem countDistinct_eq_length_iff {forms : List Canon} : countDistinct forms = forms.length ↔ forms.Nodup := by
  induction forms with
  | nil => exact iff_of_true rfl List.nodup_nil
  | cons form rest ih =>
    have bound := countDistinct_le rest
    rw [List.nodup_cons, ← ih, countDistinct, List.length_cons]
    by_cases repeated : form ∈ rest
    · rw [if_pos repeated]
      refine iff_of_false ?_ fun both => both.1 repeated
      omega
    · rw [if_neg repeated, and_iff_right repeated]
      omega

theorem Value.isEnum_iff {test : Value → Bool} {value : Value} :
    value.isEnum test = true ↔ ∃ fixed items, value = .array fixed items ∧ items ≠ [] ∧ (∀ item ∈ items, test item = true) ∧
      items.Pairwise fun one two => ¬ one.Equal two := by
  cases value with
  | array fixed items =>
    simp only [isEnum, isTypedArray, shape, Shape.items?, Option.any_some, Bool.and_eq_true, Bool.not_eq_true', List.isEmpty_eq_false_iff,
      List.all_eq_true, beq_iff_eq]
    rw [← List.length_map canon, countDistinct_eq_length_iff, nodup_canon_iff]
    constructor
    · intro holds
      exact ⟨fixed, items, rfl, holds.2.1, holds.1, holds.2.2⟩
    · rintro ⟨_, _, ⟨⟩, some, typed, distinct⟩
      exact ⟨typed, some, distinct⟩
  | null | bool | number | text | bytes | object =>
    refine iff_of_false Bool.false_ne_true ?_
    rintro ⟨_, _, array, _⟩
    cases array

namespace Graph

variable {graph : Graph} {node part : Ref} {checks : List Check} {mode : MultipleMode} {value : Value}
  {judge : Value → Ref → Except Failure Unit} {prepare : Ref → Except Failure Unit}

/-- An array of a schema reads as these values. -/
def ListsValues (graph : Graph) (part : Ref) (members : List Value) : Prop :=
  ∃ fixed items, graph.shape part = .array fixed items ∧
    List.Forall₂ (fun item member => graph.value? item = some member) items members

theorem ListsValues.forms {members : List Value} (lists : graph.ListsValues part members) :
    Keyword.memberForms graph part = .ok (members.map Value.canon) := by
  obtain ⟨fixed, items, shaped, reads⟩ := lists
  have listed : graph.members part = .ok (items.map .node) := by simp only [Graph.members, shaped]
  rw [Keyword.memberForms, listed]
  simp only [live, Except.ok_bind, List.mapM_map, memberValue?]
  clear shaped listed
  induction reads with
  | nil => rfl
  | cons first _ ih =>
    simp only [List.mapM_cons, ih, Function.comp_apply, first]
    rfl

/-- What an array is compared by was read from it. -/
theorem listsValues_of_forms {fixed : Bool} {items : List Ref} {forms : List Canon} (shaped : graph.shape part = .array fixed items)
    (read : Keyword.memberForms graph part = .ok forms) : ∃ members, graph.ListsValues part members := by
  have all := (Keyword.memberForms_succeeds shaped).mp ⟨forms, read⟩
  have readable : (items.mapM graph.value?).isSome = true := by
    rw [Option.mapM_isSome]
    exact fun item member => value?_isSome_iff.mpr (all item member)
  obtain ⟨members, reads⟩ := Option.isSome_iff_exists.mp readable
  exact ⟨members, fixed, items, shaped, Option.mapM_forall₂ reads⟩

/-- The checks of keywords for values of every type are among those of their node. -/
theorem kind_checks {fields : Entries Ref} (object : graph.shape node = .object fields) (compiled : compileNode graph node = .ok checks) :
    ∃ own, Keyword.compileKind graph fields = .ok own ∧ own ⊆ checks := by
  simp only [compileNode, object] at compiled
  obtain ⟨own, made, compiled⟩ := Except.bind_ok compiled
  obtain ⟨rest, _, compiled⟩ := Except.bind_ok compiled
  cases compiled
  exact ⟨own, made, List.subset_append_left own rest⟩

theorem enum_checked (compiled : compileNode graph node = .ok checks) (found : graph.field? node "enum" = some part) :
    ∃ memo, Check.enum memo ∈ checks := by
  obtain ⟨fields, object, listed⟩ := Option.bind_eq_some_iff.mp found
  obtain ⟨own, made, inside⟩ := kind_checks (entries?_eq_some object) compiled
  obtain ⟨memo, rfl⟩ := Keyword.compileKind_ok made
  refine ⟨memo, inside ?_⟩
  simp [Keyword.given_eq, Entries.keyword?, listed]

theorem const_checked (compiled : compileNode graph node = .ok checks) (found : graph.field? node "const" = some part) :
    Check.const ∈ checks := by
  obtain ⟨fields, object, listed⟩ := Option.bind_eq_some_iff.mp found
  obtain ⟨own, made, inside⟩ := kind_checks (entries?_eq_some object) compiled
  obtain ⟨memo, rfl⟩ := Keyword.compileKind_ok made
  refine inside ?_
  simp [Keyword.given_eq, Entries.keyword?, listed]

theorem enum_lists (compiled : compileNode graph node = .ok checks) (found : graph.field? node "enum" = some part) :
    ∃ members, graph.ListsValues part members := by
  obtain ⟨memo, member⟩ := enum_checked compiled found
  obtain ⟨source, read⟩ := compileNode_fits compiled _ member
  cases source.symm.trans found
  obtain ⟨fields, object, listed⟩ := Option.bind_eq_some_iff.mp found
  obtain ⟨own, made, _⟩ := kind_checks (entries?_eq_some object) compiled
  obtain ⟨⟨_, enum⟩, _⟩ := Keyword.compileKind_succeeds.mp ⟨own, made⟩
  obtain ⟨fixed, items, shaped, _⟩ := enum _ listed
  exact listsValues_of_forms shaped read

/-- An `enum` check looks for an equal member. -/
theorem enum_settles {memo : Memo} (compiled : compileNode graph node = .ok checks) (checked : Check.enum memo ∈ checks)
    (found : graph.field? node "enum" = some part) {members : List Value} (lists : graph.ListsValues part members) :
    Except.Settles (((Check.enum memo).run graph mode value node).evaluate judge prepare) (∃ member ∈ members, value.Equal member)
      fun failure => (¬ ∃ member ∈ members, value.Equal member) ∧ failure = .violation .notAllowed := by
  have fits := compileNode_fits compiled _ checked
  cases fits.1.symm.trans found
  have allowed : memo.allowed = members.map Value.canon := Except.ok.inj (fits.2.symm.trans lists.forms)
  rw [Check.run, Keyword.evaluate_runEnum fits, Keyword.membership, allowed]
  refine (Except.Settles.accept _).congr Value.canon_mem_iff fun failure => ?_
  exact and_congr_left fun _ => not_congr Value.canon_mem_iff

theorem const_settles (found : graph.field? node "const" = some part) {constant : Value} (read : graph.value? part = some constant) :
    Except.Settles ((Check.const.run graph mode value node).evaluate judge prepare) (value.Equal constant)
      fun failure => ¬ value.Equal constant ∧ failure = .violation .notConstant := by
  have compared : Keyword.runConst graph value node =
      if value.canon = constant.canon then .ok () else violate .notConstant := by
    simp only [Keyword.runConst, require_eq found, read, Keyword.comparedForm, live, Except.ok_bind]
    rfl
  rw [Check.run, Program.evaluate_ofExcept, compared]
  refine (Except.Settles.accept _).congr Value.canon_eq_iff fun failure => ?_
  exact and_congr_left fun _ => not_congr Value.canon_eq_iff

end Graph

/-- Values have one canonical form just if they are equal layer by layer, which is an
equivalence. The `enum` and `const` checks of a compiled node and the test for arrays of
different items all decide that equality. -/
theorem canonical_forms_decide_equality {graph : Graph} {node : Ref} {checks : List Check} (compiled : compileNode graph node = .ok checks)
    (mode : MultipleMode) (judge : Value → Ref → Except Failure Unit) (prepare : Ref → Except Failure Unit) :
    (∀ one two : Value, one.same two = true ↔ one.Equal two) ∧
    Equivalence Value.Equal ∧
    (∀ part, graph.field? node "enum" = some part → (∃ members, graph.ListsValues part members) ∧
      (∃ memo, Check.enum memo ∈ checks) ∧
      ∀ members memo value, graph.ListsValues part members → Check.enum memo ∈ checks →
        Except.Settles (((Check.enum memo).run graph mode value node).evaluate judge prepare)
          (∃ member ∈ members, value.Equal member)
          fun failure => (¬ ∃ member ∈ members, value.Equal member) ∧ failure = .violation .notAllowed) ∧
    (∀ part constant, graph.field? node "const" = some part → graph.value? part = some constant → Check.const ∈ checks ∧
      ∀ value, Except.Settles ((Check.const.run graph mode value node).evaluate judge prepare) (value.Equal constant)
        fun failure => ¬ value.Equal constant ∧ failure = .violation .notConstant) ∧
    ∀ (test : Value → Bool) (value : Value), value.isEnum test = true ↔
      ∃ fixed items, value = .array fixed items ∧ items ≠ [] ∧ (∀ item ∈ items, test item = true) ∧
        items.Pairwise fun one two => ¬ one.Equal two := by
  refine ⟨fun one two => ?_, Value.equal_equivalence, fun part found => ?_, fun part constant found read => ?_, fun test value => ?_⟩
  · rw [Value.same, decide_eq_true_iff]
    exact Value.canon_eq_iff
  · refine ⟨Graph.enum_lists compiled found, Graph.enum_checked compiled found, ?_⟩
    intro members memo value lists checked
    exact Graph.enum_settles compiled checked found lists
  · exact ⟨Graph.const_checked compiled found, fun value => Graph.const_settles found read⟩
  · exact Value.isEnum_iff

/-- A node that allows an object of two entries. -/
def choiceGraph : Graph :=
  ⟨#[.object [(.text "enum", .node 1), (.text "const", .node 2)], .array false [.node 2],
    .object [(.text "a", .node 3), (.text "b", .null)], .number (.double (.ofUnits false fractionCount 1022))]⟩

/-- One, as a double. -/
def choice : Value := .object [(.text "a", .number (.double (.ofUnits false fractionCount 1022))), (.text "b", .null)]

/-- The other way round, and with a whole number written without a point. -/
def sameChoice : Value := .object [(.text "b", .null), (.text "a", .number (.int 1))]

theorem canonical_forms_decide_equality_choice :
    (∃ checks, compileNode choiceGraph (.node 0) = .ok checks) ∧ sameChoice.Equal choice ∧
    (Check.const.run choiceGraph .decimal sameChoice (.node 0)).evaluate (fun _ _ => .ok ()) (fun _ => .ok ()) = .ok () := by
  have compiled : compileNode choiceGraph (.node 0) = .ok [.enum ⟨.node 1, [choice.canon]⟩, .const] := rfl
  obtain ⟨same, _, _, const, _⟩ := canonical_forms_decide_equality compiled .decimal (fun _ _ => .ok ()) fun _ => .ok ()
  have equal : sameChoice.Equal choice := (same _ _).mp (by decide +kernel)
  exact ⟨⟨_, compiled⟩, equal, ((const (.node 2) choice rfl rfl).2 sameChoice).ok_iff.mpr equal⟩

end LiveSchema
