import LiveSchema.Proofs.Agreement
import LiveSchema.Proofs.ConstantBooleans
import LiveSchema.Proofs.EqualSchemas
import LiveSchema.Proofs.RequiredNames

/-! Checks of equal schemas on equal values. A value passes a check of a node if and
only if an equal value passes it at a twin of that node, once nested schemas judge
alike. -/

namespace LiveSchema

theorem TypeName.accepts_twin {relates : α → β → Prop} {one : Shape α} {two : Shape β} (twin : Shape.Twin relates one two)
    (type : TypeName) : type.accepts one = type.accepts two := by
  cases type with
  | array => exact twin.isArray_eq
  | boolean => exact twin.isBool_eq
  | integer => exact twin.isInteger_eq
  | null => exact twin.isNull_eq
  | number => exact twin.isNumber_eq
  | object => exact twin.isObject_eq
  | string => exact twin.isText_eq

namespace Graph

variable {one two : Graph} {node other part again : Ref} {fields : Entries Ref} {keyword : String}

theorem Twin.bool_iff (twin : Twin one two part again) (constants : one.ConstantBooleans) (others : two.ConstantBooleans)
    (flag : Bool) : part = .bool flag ↔ again = .bool flag := by
  have layer := twin.shape
  constructor
  · rintro rfl
    generalize shaped : two.shape again = shape at layer
    cases layer with | bool _ => exact others again flag shaped
  · rintro rfl
    generalize shaped : one.shape part = shape at layer
    cases layer with | bool _ => exact constants part flag shaped

theorem Twin.field_bool_iff (twin : Twin one two node other) (constants : one.ConstantBooleans) (others : two.ConstantBooleans)
    (keyword : String) (flag : Bool) :
    one.field? node keyword = some (.bool flag) ↔ two.field? other keyword = some (.bool flag) := by
  rcases twin.field keyword with ⟨absent, missing⟩ | ⟨part, again, found, there, same⟩
  · simp [absent, missing]
  · simp [found, there, same.bool_iff constants others]

theorem Twin.hasType_eq (twin : Twin one two node other) (name : String) :
    one.hasType (one.field? node "type") name = two.hasType (two.field? other "type") name := by
  rcases twin.field "type" with ⟨absent, missing⟩ | ⟨part, again, found, there, same⟩
  · rw [absent, missing]
    rfl
  · simp only [hasType, found, there, same.shape.text?_eq]

theorem Twin.optionals (twin : Twin one two node other) (object : one.shape node = .object fields) :
    (∀ keyword, one.optional node keyword = .ok (one.field? node keyword)) ∧
      ∀ keyword, two.optional other keyword = .ok (two.field? other keyword) := by
  obtain ⟨others, shaped, _⟩ := twin.object object
  exact ⟨optional_eq object, optional_eq shaped⟩

end Graph

section Outcomes

open LiveSchema.Graph (Twin)

variable {one two : Graph} {node other : Ref} {fields : Entries Ref} {value copy : Value}

theorem SizeCheck.run_agree {check : SizeCheck} (twin : Twin one two node other) (fits : check.Fits one node) (length : Nat) :
    Except.Agree (check.run one node (.ok length)) (check.run two other (.ok length)) := by
  obtain ⟨threshold, limit, found, ordered⟩ := fits
  obtain ⟨again, there, same⟩ := twin.found found
  rcases Option.rel_cases same.shape.ordered? with ⟨absent, _⟩ | ⟨_, bound, present, ordered_again, place⟩
  · cases ordered.symm.trans absent
  · cases ordered.symm.trans present
    simp only [run, live_require found, live_require there, ordered, ordered_again]
    cases check.direction with
    | max => exact .refuse (by rw [Number.lt_congr place rfl]) _ _
    | min => exact .refuse (by rw [Number.lt_congr rfl place]) _ _

namespace Keyword

theorem isAnyType_twin (values : value.Twin copy) (names : List Value) : isAnyType value names = isAnyType copy names := by
  induction names with
  | nil => rfl
  | cons name rest ih => simp only [isAnyType, ih, TypeName.accepts_twin values.shape]

/-- Names that are texts are the same in both graphs. -/
theorem memberValues_twin {items others : List Ref} (twins : List.Forall₂ (Twin one two) items others)
    (texts : ∀ item ∈ items, ∃ text, one.shape item = .text text) :
    (others.map Member.node).map two.memberValue = (items.map Member.node).map one.memberValue := by
  induction twins with
  | nil => rfl
  | cons first _ ih =>
    obtain ⟨text, shaped⟩ := texts _ List.mem_cons_self
    simp only [List.map_cons, ih fun item later => texts item (List.mem_cons_of_mem _ later), Graph.memberValue,
      Graph.value_text shaped, Graph.value_text (first.text shaped)]

theorem runTypes_agree (twin : Twin one two node other) (values : value.Twin copy) (fits : Check.types.Fits one node) :
    Except.Agree (runTypes one value node) (runTypes two copy other) := by
  obtain ⟨part, fixed, items, found, shaped, known⟩ := fits
  obtain ⟨again, there, same⟩ := twin.found found
  obtain ⟨kind, others, shaped_again, twins⟩ := same.array shaped
  have texts : ∀ item ∈ items, ∃ text, one.shape item = .text text := by
    intro item member
    obtain ⟨text, _, text_shaped, _⟩ := known item member
    exact ⟨text, text_shaped⟩
  obtain ⟨result, ended⟩ := isAnyType_ok value (named_members known)
  have ended_again := (isAnyType_twin values _).symm.trans ended
  simp only [runTypes, live, membersOf_eq found shaped, membersOf_eq there shaped_again, memberValues_twin twins texts,
    Except.ok_bind, ended, ended_again]
  exact .accept Iff.rfl _ _

theorem runConst_agree (twin : Twin one two node other) (values : value.Twin copy) (fits : Check.const.Fits one node) :
    Except.Agree (runConst one value node) (runConst two copy other) := by
  obtain ⟨part, found⟩ := fits
  obtain ⟨again, there, same⟩ := twin.found found
  obtain ⟨form, compared, compared_again⟩ := same.form
  simp only [runConst, live_require found, live_require there, compared, compared_again]
  exact .accept (by rw [values.same]) _ _

theorem liveNumber_twin (twin : Twin one two node other) (keyword : String) :
    Option.Rel (fun number other => number.place? = other.place?) (liveNumber one (one.field? node keyword))
      (liveNumber two (two.field? other keyword)) := by
  unfold liveNumber
  rcases twin.field keyword with ⟨absent, missing⟩ | ⟨part, again, found, there, same⟩
  · rw [absent, missing]
    exact .none
  · rw [found, there]
    exact same.shape.number?

theorem withNumber_agree (twin : Twin one two node other) (keyword : String) {test tests : Number → Except Failure Unit}
    (each : ∀ number again, number.place? = again.place? → Except.Agree (test number) (tests again)) :
    Except.Agree (withNumber one (one.field? node keyword) test) (withNumber two (two.field? other keyword) tests) := by
  unfold withNumber
  rcases Option.rel_cases (liveNumber_twin twin keyword) with ⟨absent, missing⟩ | ⟨_, _, found, there, place⟩
  · rw [absent, missing]
    exact .ok ()
  · rw [found, there]
    exact each _ _ place

variable {mode modes : MultipleMode} (twin : Twin one two node other) (object : one.shape node = .object fields)
include twin object

theorem runBounds_agree (constants : one.ConstantBooleans) (others : two.ConstantBooleans)
    (free : one.field? node "multipleOf" = none) {number again : Number} (place : number.place? = again.place?) :
    Except.Agree (runBounds one mode number node) (runBounds two modes again other) := by
  obtain ⟨optional, optional_again⟩ := twin.optionals object
  have free_again : two.field? other "multipleOf" = none := by
    rcases twin.field "multipleOf" with ⟨_, missing⟩ | ⟨_, _, found, _⟩
    · exact missing
    · cases free.symm.trans found
  simp only [runBounds, live, optional, optional_again, Except.ok_bind, free, free_again]
  refine .bind (withNumber_agree twin "maximum" fun bound limit same => ?_) fun _ => .bind ?_ fun _ => .bind ?_ fun _ =>
    .bind ?_ fun _ => .ok ()
  · exact .refuse (by rw [twin.field_bool_iff constants others, Number.le_congr same place, Number.lt_congr same place]) _ _
  · exact withNumber_agree twin "exclusiveMaximum" fun bound limit same => .refuse (by rw [Number.le_congr same place]) _ _
  · refine withNumber_agree twin "minimum" fun bound limit same => ?_
    exact .refuse (by rw [twin.field_bool_iff constants others, Number.le_congr place same, Number.lt_congr place same]) _ _
  · exact withNumber_agree twin "exclusiveMinimum" fun bound limit same => .refuse (by rw [Number.le_congr place same]) _ _

theorem runNumber_agree (values : value.Twin copy) (constants : one.ConstantBooleans) (others : two.ConstantBooleans)
    (free : one.field? node "multipleOf" = none) (whole : Bool) :
    Except.Agree (runNumber one mode whole value node) (runNumber two modes whole copy other) := by
  obtain ⟨optional, optional_again⟩ := twin.optionals object
  have numbers : Option.Rel (fun number again => number.place? = again.place?)
      (value.shape.number?.filter fun number => !whole || number.isWhole)
      (copy.shape.number?.filter fun number => !whole || number.isWhole) := by
    rcases Option.rel_cases values.shape.number? with ⟨absent, missing⟩ | ⟨_, _, found, there, place⟩
    · rw [absent, missing]
      exact .none
    · simp only [found, there, Option.filter_some, Number.isWhole_congr place]
      split
      · exact .some place
      · exact .none
  simp only [runNumber, live, optional, optional_again, Except.ok_bind, twin.hasType_eq]
  rcases Option.rel_cases numbers with ⟨absent, missing⟩ | ⟨_, _, found, there, place⟩
  · rw [absent, missing]
    dsimp only
    split
    · exact .violation _ _
    · exact .refuse Iff.rfl _ _
  · rw [found, there]
    exact runBounds_agree twin object constants others free place

omit object in
theorem runIsNumber_agree (values : value.Twin copy) {whole : Bool} (fits : (Check.isNumber whole).Fits one node) :
    Except.Agree (runIsNumber one whole value node) (runIsNumber two whole copy other) := by
  obtain ⟨part, name, found, shaped⟩ := fits
  obtain ⟨again, there, same⟩ := twin.found found
  have operand : isOperand whole value.shape = isOperand whole copy.shape := by
    simp only [isOperand, values.shape.isInteger_eq, values.shape.isNumber_eq]
  rw [runIsNumber_eq found shaped, runIsNumber_eq there (same.text shaped), operand]
  exact .accept Iff.rfl _ _

theorem runText_agree (values : value.Twin copy) {checks : List TextCheck} (fits : (Check.text checks).Fits one node) :
    Except.Agree (runText one checks value node) (runText two checks copy other) := by
  obtain ⟨optional, optional_again⟩ := twin.optionals object
  simp only [runText, live, optional, optional_again, Except.ok_bind, twin.hasType_eq]
  split
  next text =>
    obtain rfl := values.text
    apply Except.Agree.forM_same
    intro check member
    cases check with
    | size check => exact check.run_agree twin (fits _ member) text.length
    | pattern known =>
      obtain ⟨part, source, pattern, found, shaped, compiles⟩ := fits _ member
      obtain ⟨again, there, same⟩ := twin.found found
      simp only [runTextCheck, runPattern, live_require found, live_require there,
        livePattern_eq shaped compiles known, livePattern_eq (same.text shaped) compiles known]
      exact .accept Iff.rfl _ _
  next noText =>
    cases copy with
    | text text => exact absurd values.symm.text (noText text)
    | null | bool | number | bytes | array | object => exact .refuse Iff.rfl _ _

theorem runUnique_agree (constants : one.ConstantBooleans) (others : two.ConstantBooleans) {items copies : List Value}
    (twins : List.Forall₂ Value.Twin items copies) :
    Except.Agree (runUnique one items node) (runUnique two copies other) := by
  obtain ⟨optional, optional_again⟩ := twin.optionals object
  simp only [runUnique, live, optional, optional_again, Except.ok_bind, Value.Twin.canons_eq twins,
    twin.field_bool_iff constants others]
  split
  · split
    · exact .violation _ _
    · exact .ok ()
  · exact .ok ()

end Keyword
end Outcomes

section Programs

open LiveSchema.Graph (Twin)

/-- Entries of equal objects under the same name. -/
structure Keyword.EntryContext.Twin (entry copy : EntryContext) : Prop where
  whole : (Value.object entry.container).Twin (.object copy.container)
  name : entry.name = copy.name
  item : entry.item.Twin copy.item

theorem Keyword.EntryContext.Twin.container {entry copy : EntryContext} (entries : entry.Twin copy) :
    Table.Twin Value.Twin entry.container copy.container := by
  obtain ⟨others, same, twins⟩ := entries.whole.object
  cases same
  exact twins

variable {one two : Graph} {node other : Ref} {fields : Entries Ref} {value copy : Value}
  {judge judges : Value → Ref → Except Failure Unit} {prepare prepares : Ref → Except Failure Unit}

/-- What is nested in a node judges as its twins do. -/
structure Graph.JudgeAlike (one two : Graph) (node : Ref) (judge judges : Value → Ref → Except Failure Unit)
    (prepare prepares : Ref → Except Failure Unit) : Prop where
  judged : ∀ schema ∈ one.subschemas node, ∀ again part copy, Twin one two schema again → part.Twin copy →
    Except.Agree (judge part schema) (judges copy again)
  prepared : ∀ schema ∈ one.subschemas node, ∀ again, Twin one two schema again →
    Except.Agree (prepare schema) (prepares again)

variable (twin : Twin one two node other) (object : one.shape node = .object fields)
  (nested : one.JudgeAlike two node judge judges prepare prepares)
include nested

theorem Graph.JudgeAlike.descend {schema again : Ref} (inside : schema ∈ one.subschemas node) (same : Twin one two schema again)
    (values : value.Twin copy) :
    Except.Agree ((Program.descend value schema).evaluate judge prepare)
      ((Program.descend copy again).evaluate judges prepares) := by
  rw [Program.evaluate_descend, Program.evaluate_descend]
  exact nested.judged schema inside again value copy same values

namespace Keyword

section Arrays

variable (constants : one.ConstantBooleans) (others : two.ConstantBooleans)
include twin object constants others

omit nested twin object constants others in
private theorem runAdditionalItem_eq {graph : Graph} {part : Ref} (present : graph.optional node "additionalItems" = .ok (some part))
    (index : Nat) : runAdditionalItem graph index value node =
      if part = .bool false then Program.violate (.additionalItem index)
      else if (graph.shape part).isObject then Program.descend value part else pure () := by
  simp only [runAdditionalItem, present, Program.live_bind]
  split
  next equal => rw [Option.some.inj equal, if_pos rfl]
  next additional allowed equal =>
    cases equal
    rw [if_neg allowed]
  next none => cases none

theorem runAdditionalItem_agree (values : value.Twin copy) (index : Nat) :
    Except.Agree ((runAdditionalItem one index value node).evaluate judge prepare)
      ((runAdditionalItem two index copy other).evaluate judges prepares) := by
  obtain ⟨optional, optional_again⟩ := twin.optionals object
  rcases twin.field "additionalItems" with ⟨absent, missing⟩ | ⟨part, again, found, there, same⟩
  · simp only [runAdditionalItem, optional, optional_again, Program.live_bind, absent, missing]
    exact .ok ()
  · rw [runAdditionalItem_eq ((optional _).trans (congrArg _ found)), runAdditionalItem_eq ((optional_again _).trans (congrArg _ there)),
      ← same.shape.isObject_eq]
    simp only [← same.bool_iff constants others false]
    split
    · exact .violation _ _
    · split
      next isObject =>
        refine nested.descend ?_ same values
        exact Graph.mem_subschemas_of_single (.inl (by decide)) found (by simp [Graph.isSchema, Shape.isSchema, isObject])
      next => exact .ok ()

theorem runItem_agree {check : ItemCheck} (fits : check.Fits one node) (values : value.Twin copy) (index : Nat) :
    Except.Agree ((runItem one index value node check).evaluate judge prepare)
      ((runItem two index copy other check).evaluate judges prepares) := by
  cases check with
  | every =>
    obtain ⟨items, found, isSchema⟩ := fits
    obtain ⟨again, there, same⟩ := twin.found found
    simp only [runItem, Program.live_require found, Program.live_require there]
    exact nested.descend (Graph.mem_subschemas_of_single (.inr rfl) found isSchema) same values
  | positional =>
    obtain ⟨items, fixed, members, found, shaped, schemas⟩ := fits
    obtain ⟨again, there, same⟩ := twin.found found
    obtain ⟨kind, copies, shaped_again, twins⟩ := same.array shaped
    simp only [runItem, Program.live_require found, Program.live_require there, positionalSchema_eq shaped,
      positionalSchema_eq shaped_again]
    rcases Nat.lt_or_ge index members.length with inside | past
    · have inside_again : index < copies.length := twins.length_eq ▸ inside
      rw [List.getElem?_eq_getElem inside, List.getElem?_eq_getElem inside_again]
      have member := List.getElem_mem inside
      refine nested.descend ?_ (twins.get inside inside_again) values
      exact Graph.mem_subschemas_of_list (.inr rfl) found shaped member (schemas _ member)
    · rw [List.getElem?_eq_none past, List.getElem?_eq_none (twins.length_eq ▸ past)]
      exact runAdditionalItem_agree twin object nested constants others values index

theorem runItems_agree {check : ItemCheck} (fits : check.Fits one node) {items copies : List Value}
    (twins : List.Forall₂ Value.Twin items copies) (index : Nat) :
    Except.Agree ((runItems one check node index items).evaluate judge prepare)
      ((runItems two check other index copies).evaluate judges prepares) := by
  induction twins generalizing index with
  | nil => exact .ok ()
  | cons first _ ih =>
    exact Program.agree_bind (runItem_agree twin object nested constants others fits first index) fun _ => ih (index + 1)

omit twin object constants others in
theorem runContains_agree {schema again : Ref} (inside : schema ∈ one.subschemas node) (same : Twin one two schema again)
    {items copies : List Value} (twins : List.Forall₂ Value.Twin items copies) :
    Except.Agree ((runContains schema items).evaluate judge prepare) ((runContains again copies).evaluate judges prepares) := by
  induction twins with
  | nil => exact .violation _ _
  | cons first _ ih =>
    exact Program.agree_verdict (nested.judged schema inside again _ _ same first) (.ok ()) fun _ _ => ih

theorem runArrayCheck_agree {check : ArrayCheck} (fits : check.Fits one node) {items copies : List Value}
    (twins : List.Forall₂ Value.Twin items copies) :
    Except.Agree ((runArrayCheck one items node check).evaluate judge prepare)
      ((runArrayCheck two copies other check).evaluate judges prepares) := by
  cases check with
  | contains =>
    obtain ⟨schema, found, isSchema⟩ := fits
    obtain ⟨again, there, same⟩ := twin.found found
    have inside := Graph.mem_subschemas_of_single (.inl (by decide)) found isSchema
    simp only [runArrayCheck, Program.live_require found, Program.live_require there, Program.evaluate_prepare]
    exact (nested.prepared schema inside again same).bind fun _ => runContains_agree nested inside same twins
  | unique =>
    simp only [runArrayCheck, Program.evaluate_ofExcept]
    exact runUnique_agree twin object constants others twins
  | size check =>
    simp only [runArrayCheck, Program.evaluate_ofExcept, ← twins.length_eq]
    exact check.run_agree twin fits items.length

theorem runArrayChecks_agree {checks : List ArrayCheck} (fits : ∀ check ∈ checks, check.Fits one node)
    {items copies : List Value} (twins : List.Forall₂ Value.Twin items copies) :
    Except.Agree ((runArrayChecks one items node checks).evaluate judge prepare)
      ((runArrayChecks two copies other checks).evaluate judges prepares) := by
  induction checks with
  | nil => exact .ok ()
  | cons check rest ih =>
    refine Program.agree_bind (runArrayCheck_agree twin object nested constants others (fits check (by simp)) twins) fun _ => ?_
    exact ih fun later member => fits later (List.mem_cons_of_mem _ member)

theorem runArray_agree {items : Option ItemCheck} {all : List ArrayCheck} (fits : (Check.array items all).Fits one node)
    (values : value.Twin copy) :
    Except.Agree ((runArray one items all value node).evaluate judge prepare)
      ((runArray two items all copy other).evaluate judges prepares) := by
  obtain ⟨optional, optional_again⟩ := twin.optionals object
  simp only [runArray, optional, optional_again, Program.live_bind, twin.hasType_eq]
  split
  next fixed parts =>
    obtain ⟨kind, copies, rfl, twins⟩ := values.array
    have whole := runArrayChecks_agree twin object nested constants others fits.2 twins
    cases items with
    | none => exact whole
    | some check =>
      exact Program.agree_bind (runItems_agree twin object nested constants others (fits.1 check rfl) twins 0) fun _ => whole
  next noArray =>
    cases copy with
    | array kind copies =>
      obtain ⟨fixed, parts, rfl, _⟩ := values.symm.array
      exact absurd rfl (noArray fixed parts)
    | null | bool | number | text | bytes | object =>
      dsimp only
      split
      · exact .violation _ _
      · exact .ok ()

end Arrays

section Objects

variable {entry mirror : EntryContext}

include twin in
theorem runProperties_agree (fits : KeyCheck.properties.Fits one node) (entries : entry.Twin mirror) :
    Except.Agree ((runProperties one entry node).evaluate judge prepare)
      ((runProperties two mirror other).evaluate judges prepares) := by
  obtain ⟨part, schemas, found, shaped, _⟩ := fits
  obtain ⟨again, there, same⟩ := twin.found found
  obtain ⟨copies, shaped_again, twins⟩ := same.object shaped
  simp only [runProperties, live_entries found shaped, live_entries there shaped_again, ← entries.name]
  rcases twins.lookup entry.name with ⟨absent, missing⟩ | ⟨schema, schema_again, listed, listed_again, related⟩
  · rw [absent, missing]
    exact .ok ()
  · simp only [listed, listed_again, ← related.isSchema_eq]
    split
    next isSchema =>
      refine nested.descend ?_ related entries.item
      exact Graph.mem_subschemas_of_map (by decide) found shaped (Table.mem_of_get? listed) isSchema
    next => exact .ok ()

/-- Whether the pattern of an entry is found in a name. -/
def patternFound (name : String) (source : Key) : Bool :=
  match compileEntryPattern source with
  | .ok pattern => pattern.foundIn name
  | .error _ => false

omit nested in
/-- Each pattern that is found asks for one verdict, and it does not matter which of them is found first. -/
theorem evaluate_runPatterns (known : List Pattern) (name : String) (item : Value) {patterns : Entries Ref}
    (compile : ∀ entry ∈ patterns, ∃ pattern, compileEntryPattern entry.1 = .ok pattern) (matched : Bool) :
    (runPatterns known name item matched patterns).evaluate judge prepare =
      (patterns.forM fun entry => if patternFound name entry.1 then judge item entry.2 else .ok ()) >>=
        fun _ => .ok (matched || patterns.any fun entry => patternFound name entry.1) := by
  induction patterns generalizing matched with
  | nil => simp [runPatterns]; rfl
  | cons first rest ih =>
    obtain ⟨pattern, compiles⟩ := compile first (by simp)
    have found : patternFound name first.1 = pattern.foundIn name := by simp only [patternFound, compiles]
    have later := ih fun other member => compile other (List.mem_cons_of_mem _ member)
    simp only [runPatterns, liveEntryPattern_eq, compiles, List.forM_eq_forM, List.forM_cons, List.any_cons, found, bind_assoc]
    change (if pattern.foundIn name = true then _ else _ : Program Bool).evaluate judge prepare = _
    cases pattern.foundIn name with
    | true =>
      rw [if_pos rfl, Program.evaluate_bind, Program.evaluate_descend]
      simp only [later, Bool.true_or, Bool.or_true, if_pos, List.forM_eq_forM]
    | false =>
      simp only [later, Bool.false_or, Bool.false_eq_true, if_false, Except.ok_bind, List.forM_eq_forM]

include twin in
theorem runPatternProperties_agree {known : List Pattern} (fits : (KeyCheck.patternProperties known).Fits one node)
    (entries : entry.Twin mirror) (matched : Bool) :
    Except.Agree ((runPatternProperties one known entry node matched).evaluate judge prepare)
      ((runPatternProperties two known mirror other matched).evaluate judges prepares) := by
  obtain ⟨part, patterns, found, shaped, compile⟩ := fits
  obtain ⟨again, there, same⟩ := twin.found found
  obtain ⟨copies, shaped_again, twins⟩ := same.object shaped
  have compile_again : ∀ entry ∈ copies, ∃ pattern, compileEntryPattern entry.1 = .ok pattern := by
    rintro ⟨key, schema⟩ member
    obtain ⟨item, inside, _⟩ := twins.exists_of_mem member
    exact (compile _ inside).2
  unfold runPatternProperties
  rw [← entries.name]
  split
  · exact .ok matched
  next name _ =>
    simp only [live_entries found shaped, live_entries there shaped_again]
    have some_found : (patterns.any fun entry => patternFound name entry.1) = copies.any fun entry => patternFound name entry.1 :=
      twins.any_eq fun _ _ _ _ => rfl
    rw [evaluate_runPatterns known name _ fun entry member => (compile entry member).2, evaluate_runPatterns known name _ compile_again,
      some_found]
    refine (Except.Agree.forM_twin twins fun key schema again member related => ?_).bind fun _ => .ok _
    dsimp only
    split
    · have inside := Graph.mem_subschemas_of_map (by decide) found shaped member (compile _ member).1
      exact nested.judged schema inside again _ _ related entries.item
    · exact .ok ()

include twin object in
omit nested in
theorem isAdditional_twin (reads : one.ReadsProperties node) (name : Key) (matched : Bool) :
    ∃ result, isAdditional one name node matched = .ok result ∧ isAdditional two name other matched = .ok result := by
  obtain ⟨optional, optional_again⟩ := twin.optionals object
  simp only [isAdditional, optional, optional_again, Except.ok_bind]
  rcases twin.field "properties" with ⟨absent, missing⟩ | ⟨part, again, found, there, same⟩
  · rw [absent, missing]
    exact ⟨!matched, rfl, rfl⟩
  · obtain ⟨entries, shaped⟩ := reads part found
    obtain ⟨copies, shaped_again, twins⟩ := same.object shaped
    have empty : entries.isEmpty = copies.isEmpty := by
      rw [Bool.eq_iff_iff, List.isEmpty_iff_length_eq_zero, List.isEmpty_iff_length_eq_zero, twins.length_eq]
    simp only [found, there, shaped, shaped_again, Shape.isTruthy, empty, nameIn, twins.has_eq]
    split
    · exact ⟨_, rfl, rfl⟩
    · exact ⟨!matched, rfl, rfl⟩

omit nested in
theorem runNameDependencies_agree (entries : entry.Twin mirror) {names copies : List Ref}
    (twins : List.Forall₂ (Twin one two) names copies) (texts : ∀ name ∈ names, ∃ text, one.shape name = .text text) :
    Except.Agree (runNameDependencies one entry names) (runNameDependencies two mirror copies) := by
  induction twins with
  | nil => exact .ok ()
  | cons first _ ih =>
    obtain ⟨text, shaped⟩ := texts _ List.mem_cons_self
    simp only [runNameDependencies, Graph.value_text shaped, Graph.value_text (first.text shaped), hasEntry, live, Except.ok_bind,
      entries.container.has_eq]
    split
    · exact ih fun name later => texts name (List.mem_cons_of_mem _ later)
    · exact .violate _ _

omit nested in
theorem runDependencies_eq {graph : Graph} {schemas : Entries Ref} {dependency : Ref}
    (read : (graph.require node "dependencies" >>= graph.entriesOf) = .ok schemas)
    (listed : schemas.get? entry.name = some dependency) (kind : isDependency graph dependency = true) :
    runDependencies graph entry node =
      match (graph.shape dependency).items? with
      | some names => Program.ofExcept (runNameDependencies graph entry names)
      | none => Program.descend (.object entry.container) dependency := by
  simp only [runDependencies, read, Program.live_bind, listed]
  split
  next none => cases none
  next null =>
    cases null
    cases kind
  next _ same =>
    cases same
    rfl

include twin in
theorem runDependencies_agree (fits : KeyCheck.dependencies.Fits one node) (entries : entry.Twin mirror) :
    Except.Agree ((runDependencies one entry node).evaluate judge prepare)
      ((runDependencies two mirror other).evaluate judges prepares) := by
  obtain ⟨part, schemas, found, shaped, dependencies⟩ := fits
  obtain ⟨again, there, same⟩ := twin.found found
  obtain ⟨copies, shaped_again, twins⟩ := same.object shaped
  have read := entriesOf_eq found shaped
  have read_again := entriesOf_eq there shaped_again
  rcases twins.lookup entry.name with ⟨absent, missing⟩ | ⟨dependency, dependency_again, listed, listed_again, related⟩
  · simp only [runDependencies, read, read_again, Program.live_bind, ← entries.name, absent, missing]
    exact .ok ()
  · have member := Table.mem_of_get? listed
    have kind := dependencies _ member
    rw [entries.name] at listed_again
    rw [runDependencies_eq read listed kind, runDependencies_eq read_again listed_again ((isDependency_twin related).symm.trans kind)]
    rcases Option.rel_cases related.items? with ⟨noItems, missing⟩ | ⟨names, names_again, listed, listed_again, twins⟩
    · rw [noItems, missing]
      refine nested.descend ?_ related entries.whole
      exact Graph.mem_subschemas_of_map (by decide) found shaped member (dependency_schema kind noItems)
    · obtain ⟨fixed, array⟩ := Graph.items?_eq_some listed
      simp only [listed, listed_again, Program.evaluate_ofExcept]
      exact runNameDependencies_agree entries twins (dependency_texts kind array)

include twin object

theorem runKeyCheck_agree {check : KeyCheck} (fits : check.Fits one node) (entries : entry.Twin mirror) (matched : Bool) :
    Except.Agree ((runKeyCheck one entry node matched check).evaluate judge prepare)
      ((runKeyCheck two mirror other matched check).evaluate judges prepares) := by
  cases check with
  | properties => exact Program.agree_bind (runProperties_agree twin nested fits entries) fun _ => .ok matched
  | patternProperties known => exact runPatternProperties_agree twin nested fits entries matched
  | additionalSchema =>
    obtain ⟨⟨schema, found, isSchema⟩, reads⟩ := fits
    obtain ⟨again, there, same⟩ := twin.found found
    obtain ⟨additional, ended, ended_again⟩ := isAdditional_twin twin object reads entry.name matched
    simp only [runKeyCheck, ← entries.name, ended, ended_again, Program.live_bind, Graph.require_eq found, Graph.require_eq there]
    have inside := Graph.mem_subschemas_of_single (.inl (by decide)) found isSchema
    split
    · exact Program.agree_bind (nested.descend inside same entries.item) fun _ => .ok matched
    · exact .ok matched
  | noAdditional =>
    obtain ⟨additional, ended, ended_again⟩ := isAdditional_twin twin object fits entry.name matched
    simp only [runKeyCheck, ← entries.name, ended, ended_again, Program.live_bind]
    split
    · exact .violation _ _
    · exact .ok matched
  | dependencies => exact Program.agree_bind (runDependencies_agree twin nested fits entries) fun _ => .ok matched
  | propertyNames =>
    obtain ⟨schema, found, isSchema⟩ := fits
    obtain ⟨again, there, same⟩ := twin.found found
    simp only [runKeyCheck, ← entries.name, Program.live_require found, Program.live_require there]
    have inside := Graph.mem_subschemas_of_single (.inl (by decide)) found isSchema
    exact Program.agree_bind (nested.descend inside same (.refl (Value.distinct_ofKey _))) fun _ => .ok matched

theorem runKeyChecks_agree {checks : List KeyCheck} (fits : ∀ check ∈ checks, check.Fits one node) (entries : entry.Twin mirror)
    (matched : Bool) :
    Except.Agree ((runKeyChecks one entry node matched checks).evaluate judge prepare)
      ((runKeyChecks two mirror other matched checks).evaluate judges prepares) := by
  induction checks generalizing matched with
  | nil => exact .ok ()
  | cons check rest ih =>
    refine Program.agree_bind (runKeyCheck_agree twin object nested (fits check (by simp)) entries matched) fun result => ?_
    exact ih (fun later member => fits later (List.mem_cons_of_mem _ member)) result

omit nested twin object in
theorem countRequired_twin {entries copies : Entries Value} (twins : Table.Twin Value.Twin entries copies) (required : List String) :
    countRequired required entries = countRequired required copies := by
  rw [countRequired_eq, countRequired_eq, (twins.perm.filter _).length_eq]

omit nested object in
theorem runTally_agree {check : TallyCheck} (fits : check.Fits one node) (length seen : Nat) :
    Except.Agree (runTallyCheck one length seen node check) (runTallyCheck two length seen other check) := by
  cases check with
  | size check => exact check.run_agree twin fits length
  | required =>
    obtain ⟨part, fixed, items, found, shaped, _⟩ := fits
    obtain ⟨again, there, same⟩ := twin.found found
    have length_found : (one.shape part).length? = some items.length := by
      rw [shaped]
      rfl
    have length_again := same.shape.length?_eq.symm.trans length_found
    simp only [runTallyCheck, runRequired, live_require found, live_require there, length_found,
      length_again]
    exact .accept Iff.rfl _ _

theorem runObject_agree {checks : List KeyCheck} {required : List String} {tally : List TallyCheck}
    (fits : (Check.object checks required tally).Fits one node) (values : value.Twin copy) :
    Except.Agree ((runObject one checks required tally value node).evaluate judge prepare)
      ((runObject two checks required tally copy other).evaluate judges prepares) := by
  obtain ⟨optional, optional_again⟩ := twin.optionals object
  simp only [runObject, optional, optional_again, Program.live_bind, twin.hasType_eq]
  split
  next entries =>
    obtain ⟨copies, rfl, twins⟩ := values.object
    refine Program.agree_bind ?_ fun _ => ?_
    · rw [evaluate_runEntries, evaluate_runEntries]
      refine .forM_twin twins fun key item other member related => ?_
      have entry : EntryContext.Twin ⟨entries, key, item⟩ ⟨copies, key, other⟩ := ⟨values, rfl, related⟩
      exact runKeyChecks_agree twin object nested fits.1 entry false
    · simp only [Program.evaluate_ofExcept, ← twins.length_eq, ← countRequired_twin twins]
      exact .forM_same fun check member => runTally_agree twin (fits.2 check member) _ _
  next noObject =>
    cases copy with
    | object copies =>
      obtain ⟨entries, rfl, _⟩ := values.symm.object
      exact absurd rfl (noObject entries)
    | null | bool | number | text | bytes | array =>
      dsimp only
      split
      · exact .violation _ _
      · exact .ok ()

end Objects

section Members

variable {members copies : List Ref}

omit nested in
theorem liveMembers_twin (twin : Twin one two node other) {keyword : String} (known : keyword ∈ Graph.listKeywords)
    (fits : one.HoldsItems node keyword fun item => one.isSchema item = true) :
    ∃ members copies : List Ref, liveMembers one node keyword = .done (members.map .node) ∧
      liveMembers two other keyword = .done (copies.map .node) ∧
      List.Forall₂ (fun schema again => schema ∈ one.subschemas node ∧ Twin one two schema again) members copies := by
  obtain ⟨part, fixed, items, found, shaped, schemas⟩ := fits
  obtain ⟨again, there, same⟩ := twin.found found
  obtain ⟨kind, copies, shaped_again, twins⟩ := same.array shaped
  refine ⟨items, copies, ?_, ?_, ?_⟩
  · rw [liveMembers, membersOf_eq found shaped]
    rfl
  · rw [liveMembers, membersOf_eq there shaped_again]
    rfl
  · refine List.forall₂_iff_zip.mpr ⟨twins.length_eq, fun inside => ⟨?_, List.forall₂_zip twins inside⟩⟩
    have member := (List.of_mem_zip inside).1
    exact Graph.mem_subschemas_of_list (.inl known) found shaped member (schemas _ member)

variable (related : List.Forall₂ (fun schema again => schema ∈ one.subschemas node ∧ Twin one two schema again) members copies)
  (values : value.Twin copy)
include related values

theorem runAllOf_agree :
    Except.Agree ((runAllOf value (members.map .node)).evaluate judge prepare)
      ((runAllOf copy (copies.map .node)).evaluate judges prepares) := by
  induction related with
  | nil => exact .ok ()
  | cons first _ ih =>
    exact Program.agree_verdict (nested.judged _ first.1 _ _ _ first.2 values) ih fun _ _ => .violation _ _

theorem runAnyOf_agree :
    Except.Agree ((runAnyOf value (members.map .node)).evaluate judge prepare)
      ((runAnyOf copy (copies.map .node)).evaluate judges prepares) := by
  induction related with
  | nil => exact .violation _ _
  | cons first _ ih =>
    exact Program.agree_verdict (nested.judged _ first.1 _ _ _ first.2 values) (.ok ()) fun _ _ => ih

theorem runOneOf_agree (found : Bool) :
    Except.Agree ((runOneOf value found (members.map .node)).evaluate judge prepare)
      ((runOneOf copy found (copies.map .node)).evaluate judges prepares) := by
  induction related generalizing found with
  | nil =>
    cases found with
    | true => exact .ok ()
    | false => exact .violation _ _
  | cons first _ ih =>
    simp only [List.map_cons, runOneOf]
    refine Program.agree_verdict (nested.judged _ first.1 _ _ _ first.2 values) ?_ fun _ _ => ih found
    cases found with
    | true => exact .violation _ _
    | false => exact ih true

end Members

theorem runNot_agree {schema again : Ref} (inside : schema ∈ one.subschemas node) (same : Twin one two schema again)
    (values : value.Twin copy) :
    Except.Agree ((runNot value schema).evaluate judge prepare) ((runNot copy again).evaluate judges prepares) :=
  Program.agree_verdict (nested.judged _ inside _ _ _ same values) (.violation _ _) fun _ _ => .ok ()

end Keyword

omit nested in
/-- An `enum` keyword that was compiled is an array. -/
theorem enum_array {graph : Graph} {part : Ref} {checks : List Check} (compiled : compileNode graph node = .ok checks)
    (found : graph.field? node "enum" = some part) : ∃ fixed items, graph.shape part = .array fixed items := by
  unfold compileNode at compiled
  split at compiled
  next flag shaped => simp [Graph.field?, shaped, Shape.entries?] at found
  next fields object =>
    obtain ⟨own, made, _⟩ := Except.bind_ok compiled
    simp only [Family.compile, Keyword.compileKind] at made
    obtain ⟨_, _, made⟩ := Keyword.optional_ok made
    obtain ⟨enum, made, _⟩ := Keyword.optional_ok made
    rw [Graph.field?_eq object] at found
    simp only [found, Keyword.compileEnum] at made
    split at made
    next fixed first rest shaped => exact ⟨fixed, first :: rest, shaped⟩
    next => cases made
  next => cases compiled

omit nested in
theorem Keyword.runEnum_agree (twin : Twin one two node other) (values : value.Twin copy) {memo mirror : Memo} {fixed : Bool}
    {items : List Ref} (fits : (Check.enum memo).Fits one node) (fits_again : (Check.enum mirror).Fits two other)
    (array : one.shape memo.source = .array fixed items) :
    Except.Agree ((runEnum one value node memo).evaluate judge prepare) ((runEnum two copy other mirror).evaluate judges prepares) := by
  obtain ⟨again, there, same⟩ := twin.found fits.1
  cases there.symm.trans fits_again.1
  have allowed : memo.allowed = mirror.allowed :=
    Except.ok.inj (fits.2.symm.trans ((memberForms_twin same array).trans fits_again.2))
  rw [evaluate_runEnum fits, evaluate_runEnum fits_again, membership, membership]
  exact .accept (by rw [values.same, allowed]) _ _

namespace Check

variable {mode modes : MultipleMode} (constants : one.ConstantBooleans) (others : two.ConstantBooleans)
  (free : one.field? node "multipleOf" = none) (values : value.Twin copy)
include twin object constants others free values

theorem run_agree {check : Check} (fits : check.Fits one node) (plain : check.isEnum = false) :
    Except.Agree ((check.run one mode value node).evaluate judge prepare)
      ((check.run two modes copy other).evaluate judges prepares) := by
  cases check with
  | enum memo => cases plain
  | null =>
    simp only [run, Program.evaluate_ofExcept, Keyword.runNull, values.shape.isNull_eq]
    exact .accept Iff.rfl _ _
  | types =>
    simp only [run, Program.evaluate_ofExcept]
    exact Keyword.runTypes_agree twin values fits
  | const =>
    simp only [run, Program.evaluate_ofExcept]
    exact Keyword.runConst_agree twin values fits
  | object entries required tally => exact Keyword.runObject_agree twin object nested fits values
  | isObject =>
    simp only [run, Program.evaluate_ofExcept, Keyword.runIsObject, values.shape.isObject_eq]
    exact .accept Iff.rfl _ _
  | number whole =>
    simp only [run, Program.evaluate_ofExcept]
    exact Keyword.runNumber_agree twin object values constants others free whole
  | isNumber whole =>
    simp only [run, Program.evaluate_ofExcept]
    exact Keyword.runIsNumber_agree twin values fits
  | text checks =>
    simp only [run, Program.evaluate_ofExcept]
    exact Keyword.runText_agree twin object values fits
  | isText =>
    simp only [run, Program.evaluate_ofExcept, Keyword.runIsText, values.shape.isText_eq]
    exact .accept Iff.rfl _ _
  | array items all => exact Keyword.runArray_agree twin object nested constants others fits values
  | isArray =>
    simp only [run, Program.evaluate_ofExcept, Keyword.runIsArray, values.shape.isArray_eq]
    exact .accept Iff.rfl _ _
  | isBoolean =>
    simp only [run, Program.evaluate_ofExcept, runIsBoolean, values.shape.isBool_eq]
    exact .accept Iff.rfl _ _
  | allOf =>
    obtain ⟨members, copies, read, read_again, related⟩ := Keyword.liveMembers_twin twin (by decide) fits
    simp only [run, read, read_again, Program.bind_done]
    exact Keyword.runAllOf_agree nested related values
  | anyOf =>
    obtain ⟨members, copies, read, read_again, related⟩ := Keyword.liveMembers_twin twin (by decide) fits
    simp only [run, read, read_again, Program.bind_done]
    exact Keyword.runAnyOf_agree nested related values
  | oneOf =>
    obtain ⟨members, copies, read, read_again, related⟩ := Keyword.liveMembers_twin twin (by decide) fits
    simp only [run, read, read_again, Program.bind_done]
    exact Keyword.runOneOf_agree nested related values false
  | not =>
    obtain ⟨schema, found, isSchema⟩ := fits
    obtain ⟨again, there, same⟩ := twin.found found
    simp only [run, Program.live_require found, Program.live_require there]
    exact Keyword.runNot_agree nested (Graph.mem_subschemas_of_single (.inl (by decide)) found isSchema) same values

/-- The lists of two nodes agree check by check, those of `enum` by the members that were there when they were compiled. -/
theorem runAll_agree {checks copies : List Check} (alike : List.Forall₂ Alike checks copies)
    (fits : ∀ check ∈ checks, check.Fits one node) (fits_again : ∀ check ∈ copies, check.Fits two other)
    (arrays : ∀ part, one.field? node "enum" = some part → ∃ fixed items, one.shape part = .array fixed items) :
    Except.Agree ((runAll one mode value node checks).evaluate judge prepare)
      ((runAll two modes copy other copies).evaluate judges prepares) := by
  induction alike with
  | nil => exact .ok ()
  | @cons check mirror _ _ first _ ih =>
    refine Program.agree_bind ?_ fun _ => ih (fun later member => fits later (List.mem_cons_of_mem _ member))
      fun later member => fits_again later (List.mem_cons_of_mem _ member)
    have fit := fits check List.mem_cons_self
    cases first with
    | enum memo again =>
      obtain ⟨fixed, items, array⟩ := arrays _ fit.1
      exact Keyword.runEnum_agree twin values fit (fits_again _ List.mem_cons_self) array
    | run plain same =>
      have plain_too : check.isEnum = false := by
        cases check with
        | enum memo =>
          have within : (mirror.run one mode value node).Within .free := run_plain plain value
          rw [← same, run, Keyword.runEnum_eq fit.1] at within
          exact within.elim
        | _ => rfl
      rw [← same]
      exact run_agree twin object nested constants others free values fit plain_too

end Check
end Programs
end LiveSchema
