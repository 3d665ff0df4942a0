import LiveSchema.Proofs.Divisors
import LiveSchema.Proofs.NodeShape
import LiveSchema.Proofs.Programs

/-! What the checks of a compiled node may do. They ask for verdicts of directly
nested schemas only, on the value itself or on a part that is less deep, and
they fail on account of the value alone: they find a violation, unless its message
would quote a number that has no text, or a constant holds, at any depth, what
contains itself and has no end. -/

namespace LiveSchema

/-- A failure that says something about the value, not about the schema, though the
message may be too much for it. A value that is compared with itself inside has no end. -/
def Failure.OfValue : Failure → Prop
  | .violation _ | .endless => True
  | .fault cause => cause = .badValue
  | _ => False

namespace Graph

/-- What the messages of a node may quote has a text: its bounds, and the names that others
depend on. -/
structure Quotable (graph : Graph) (node : Ref) : Prop where
  bounds : ∀ keyword ∈ Keyword.boundKeywords, ∀ part number, graph.field? node keyword = some part →
    (graph.shape part).number? = some number → number.isWritable = true
  names : ∀ part entries, graph.field? node "dependencies" = some part → graph.shape part = .object entries →
    ∀ entry ∈ entries, entry.1.isWritable = true

theorem quotable_iff (graph : Graph) (node : Ref) : graph.Quotable node ↔
    (Keyword.boundKeywords.all fun keyword => (Keyword.liveNumber graph (graph.field? node keyword)).all Number.isWritable) = true ∧
      (((graph.field? node "dependencies").bind fun part => (graph.shape part).entries?).all
        fun entries => entries.all fun entry => entry.1.isWritable) = true := by
  have mapped : ∀ part entries, (graph.shape part).entries? = some entries ↔ graph.shape part = .object entries :=
    fun part entries => ⟨entries?_eq_some, fun shaped => by rw [shaped]; rfl⟩
  simp only [List.all_eq_true, Option.all_eq_true, Keyword.liveNumber, Option.bind_eq_some_iff, mapped]
  constructor
  · rintro ⟨bounds, names⟩
    exact ⟨fun keyword known number ⟨part, found, read⟩ => bounds keyword known part number found read,
      fun entries ⟨part, found, shaped⟩ => names part entries found shaped⟩
  · rintro ⟨bounds, names⟩
    exact ⟨fun keyword known part number found read => bounds keyword known number ⟨part, found, read⟩,
      fun part entries found shaped => names entries ⟨part, found, shaped⟩⟩

instance (graph : Graph) (node : Ref) : Decidable (graph.Quotable node) := decidable_of_iff' _ (graph.quotable_iff node)

/-- How the checks of a compiled node refuse a value. They find a violation, which ends in a
fault if its message quotes what has no text. -/
def Refuses (graph : Graph) (node : Ref) : Failure → Prop
  | .violation _ => True
  | .fault cause => cause = .badValue ∧ ¬ graph.Quotable node
  | _ => False

/-- A nested schema that gets the very value its node gets. -/
def HandsOn (graph : Graph) (node schema : Ref) : Prop :=
  (∃ keyword ∈ listKeywords, ∃ part fixed items, graph.field? node keyword = some part ∧
    graph.shape part = .array fixed items ∧ schema ∈ items) ∨
  graph.field? node "not" = some schema ∨
  ∃ part entries name, graph.field? node "dependencies" = some part ∧
    graph.shape part = .object entries ∧ (name, schema) ∈ entries

/-- The verdicts that the checks of a node may ask for. -/
def Asks (graph : Graph) (node : Ref) (value part : Value) (schema : Ref) : Prop :=
  schema ∈ graph.subschemas node ∧
    (part.depth < value.depth ∨ part = value ∧ graph.HandsOn node schema)

/-- The checks of a node that fail in some ways and ask for nothing but what they may ask for. -/
def scope (graph : Graph) (node : Ref) (value : Value) (fails : Failure → Prop) : Limits :=
  ⟨fails, graph.Asks node value, fun schema => schema ∈ graph.subschemas node⟩

def limits (graph : Graph) (node : Ref) (value : Value) : Limits :=
  ⟨Failure.OfValue, graph.Asks node value, fun schema => schema ∈ graph.subschemas node⟩

/-- The `const` keyword of a node, if it has one, holds nothing at any depth that contains
itself, so there is a value to compare with. -/
def ReadsConstant (graph : Graph) (node : Ref) : Prop :=
  ∀ part, graph.field? node "const" = some part → ∃ value, graph.value? part = some value

variable {graph : Graph} {node part schema : Ref} {fields : Entries Ref} {keyword : String}

theorem require_eq (found : graph.field? node keyword = some part) : graph.require node keyword = .ok part := by
  unfold field? at found
  unfold require
  cases shaped : graph.shape node <;> simp only [shaped, Shape.entries?] at found
  case object entries =>
    simp only [Option.bind_some] at found
    simp only [found]
  all_goals cases found

theorem optional_eq (object : graph.shape node = .object fields) (keyword : String) :
    graph.optional node keyword = .ok (graph.field? node keyword) := by
  simp only [optional, field?, object, Shape.entries?, Option.bind_some]

end Graph

namespace Value

theorem depth_item {fixed : Bool} {items : List Value} {item : Value} (member : item ∈ items) :
    item.depth < (Value.array fixed items).depth := by
  suffices item.depth ≤ depthItems items by simp only [depth]; omega
  induction items with
  | nil => cases member
  | cons first rest ih =>
    simp only [depthItems]
    rcases List.mem_cons.mp member with rfl | later
    · omega
    · have := ih later
      omega

theorem depth_entry {entries : Entries Value} {name : Key} {item : Value} (member : (name, item) ∈ entries) :
    item.depth < (Value.object entries).depth := by
  suffices item.depth ≤ depthEntries entries by simp only [depth]; omega
  induction entries with
  | nil => cases member
  | cons first rest ih =>
    obtain ⟨other, value⟩ := first
    simp only [depthEntries]
    rcases List.mem_cons.mp member with same | later
    · cases same
      omega
    · have := ih later
      omega

theorem depth_ofKey (name : Key) (entries : Entries Value) : (ofKey name).depth < (Value.object entries).depth := by
  have flat : (ofKey name).depth = 0 := by cases name <;> rfl
  simp only [flat, depth]
  omega

end Value

@[simp]
theorem Except.ok_bind (result : α) (rest : α → Except ε β) : (Except.ok result >>= rest) = rest result := rfl

@[simp]
theorem Program.live_bind (result : α) (rest : α → Program β) : (live (.ok result) >>= rest) = rest result := rfl

section Reads

variable {graph : Graph} {node part : Ref} {fields : Entries Ref} {keyword : String}

theorem live_require (found : graph.field? node keyword = some part) (rest : Ref → Except Failure α) :
    (live (graph.require node keyword) >>= rest) = rest part := by
  rw [Graph.require_eq found]
  rfl

theorem live_optional (object : graph.shape node = .object fields) (rest : Option Ref → Except Failure α) :
    (live (graph.optional node keyword) >>= rest) = rest (graph.field? node keyword) := by
  rw [Graph.optional_eq object]
  rfl

theorem Program.live_require (found : graph.field? node keyword = some part) (rest : Ref → Program α) :
    (live (graph.require node keyword) >>= rest) = rest part := by
  rw [Graph.require_eq found, live_bind]

theorem Program.live_optional (object : graph.shape node = .object fields) (rest : Option Ref → Program α) :
    (live (graph.optional node keyword) >>= rest) = rest (graph.field? node keyword) := by
  rw [Graph.optional_eq object, live_bind]

end Reads

namespace Except.FailsAs

variable {graph : Graph} {node : Ref} {violation : Violation}

theorem violate (quotes : graph.Quotable node → violation.isWritable = true) :
    FailsAs (graph.Refuses node) (LiveSchema.violate violation : Except Failure α) := by
  refine .error ?_
  unfold Violation.failure
  split
  · trivial
  next textless => exact ⟨rfl, fun quotable => textless (quotes quotable)⟩

theorem accept {condition : Prop} [Decidable condition] (quotes : graph.Quotable node → violation.isWritable = true) :
    FailsAs (graph.Refuses node) (if condition then .ok () else LiveSchema.violate violation) := by
  split
  · exact .ok ()
  · exact .violate quotes

theorem refuse {condition : Prop} [Decidable condition] (quotes : graph.Quotable node → violation.isWritable = true) :
    FailsAs (graph.Refuses node) (if condition then LiveSchema.violate violation else .ok ()) := by
  split
  · exact .violate quotes
  · exact .ok ()

theorem forM {fails : Failure → Prop} {items : List α} {step : α → Except Failure Unit}
    (each : ∀ item ∈ items, FailsAs fails (step item)) : FailsAs fails (items.forM step) := by
  induction items with
  | nil => exact .ok ()
  | cons item rest ih =>
    exact .bind (each item (by simp)) fun _ _ => ih fun other member => each other (List.mem_cons_of_mem _ member)

end Except.FailsAs

section Outcomes

variable {graph : Graph} {node part : Ref} {fields : Entries Ref}

theorem Graph.Quotable.bound (quotable : graph.Quotable node) {keyword : String} (known : keyword ∈ Keyword.boundKeywords)
    {number : Number} (found : Keyword.liveNumber graph (graph.field? node keyword) = some number) :
    number.isWritable = true := by
  obtain ⟨part, present, read⟩ := Option.bind_eq_some_iff.mp found
  exact quotable.bounds keyword known part number present read

theorem Graph.value_text {text : String} (shaped : graph.shape part = .text text) : graph.value part = .text text := by
  simp only [value, unfold, shaped]

theorem SizeCheck.run_fails {check : SizeCheck} (fits : check.Fits graph node) (length : Nat) :
    Except.FailsAs (graph.Refuses node) (check.run graph node (.ok length)) := by
  obtain ⟨threshold, limit, found, ordered⟩ := fits
  simp only [run, live_require found, ordered]
  cases check.direction with
  | max => exact .refuse fun _ => rfl
  | min => exact .refuse fun _ => rfl

namespace Keyword

theorem isAnyType_ok (value : Value) {names : List Value}
    (known : ∀ name ∈ names, ∃ text type, name = .text text ∧ TypeName.ofName? text = some type) :
    ∃ result, isAnyType value names = .ok result := by
  induction names with
  | nil => exact ⟨false, rfl⟩
  | cons name rest ih =>
    obtain ⟨text, type, rfl, found⟩ := known name (by simp)
    obtain ⟨later, ended⟩ := ih fun other member => known other (List.mem_cons_of_mem _ member)
    have first : namedType (.text text) = .ok type := by simp only [namedType, found]
    simp only [isAnyType, first, Except.ok_bind]
    split
    · exact ⟨true, rfl⟩
    · exact ⟨later, ended⟩

theorem members_array {fixed : Bool} {items : List Ref} (shaped : graph.shape part = .array fixed items) :
    graph.members part = .ok (items.map .node) := by
  simp only [Graph.members, shaped]

theorem membersOf_eq {fixed : Bool} {items : List Ref} {keyword : String} (found : graph.field? node keyword = some part)
    (shaped : graph.shape part = .array fixed items) : (graph.require node keyword >>= graph.members) = .ok (items.map .node) := by
  rw [Graph.require_eq found]
  exact members_array shaped

theorem named_members {items : List Ref}
    (known : ∀ item ∈ items, ∃ name type, graph.shape item = .text name ∧ TypeName.ofName? name = some type) :
    ∀ name ∈ (items.map Member.node).map graph.memberValue,
      ∃ text type, name = .text text ∧ TypeName.ofName? text = some type := by
  intro name member
  obtain ⟨item, inside, rfl⟩ := by simpa using member
  obtain ⟨text, type, texts, type_found⟩ := known item inside
  exact ⟨text, type, Graph.value_text texts, type_found⟩

theorem runTypes_fails (fits : Check.types.Fits graph node) (value : Value) :
    Except.FailsAs (graph.Refuses node) (runTypes graph value node) := by
  obtain ⟨part, fixed, items, found, shaped, known⟩ := fits
  obtain ⟨result, ended⟩ := isAnyType_ok value (named_members known)
  simp only [runTypes, live, membersOf_eq found shaped, Except.ok_bind, ended]
  exact .accept fun _ => rfl

theorem runConst_fails {fails : Failure → Prop} (violations : ∀ violation, fails (.violation violation))
    (fits : Check.const.Fits graph node) (ends : fails .endless ∨ graph.ReadsConstant node) (value : Value) :
    Except.FailsAs fails (runConst graph value node) := by
  obtain ⟨part, found⟩ := fits
  simp only [runConst, live_require found]
  cases read : graph.value? part with
  | none =>
    rcases ends with endless | readable
    · exact .error endless
    · obtain ⟨constant, compared⟩ := readable part found
      cases read.symm.trans compared
  | some constant =>
    simp only [comparedForm, Except.ok_bind]
    split
    · exact .ok ()
    · exact .error (violations _)

theorem checkMultiple_fails {mode : MultipleMode} {value divisor : Number}
    (quotes : graph.Quotable node → divisor.isWritable = true) (positive : Number.zero.lt divisor = true) :
    Except.FailsAs (graph.Refuses node) (checkMultiple mode value divisor) := by
  unfold checkMultiple
  split
  · exact .ok ()
  · exact .violate quotes
  next zero => exact absurd zero (divisibility_ne_byZero mode value positive)

theorem withNumber_fails {keyword : String} (known : keyword ∈ boundKeywords) {test : Number → Except Failure Unit}
    (tests : ∀ number, liveNumber graph (graph.field? node keyword) = some number →
      (graph.Quotable node → number.isWritable = true) → Except.FailsAs (graph.Refuses node) (test number)) :
    Except.FailsAs (graph.Refuses node) (withNumber graph (graph.field? node keyword) test) := by
  unfold withNumber
  split
  next number found => exact tests number found fun quotable => quotable.bound known found
  next => exact .ok ()

theorem runBounds_fails {mode : MultipleMode} (object : graph.shape node = .object fields) {whole : Bool}
    (fits : (Check.number whole).Fits graph node) (value : Number) :
    Except.FailsAs (graph.Refuses node) (runBounds graph mode value node) := by
  simp only [runBounds, live_optional object]
  refine .bind ?_ fun _ _ => .bind ?_ fun _ _ => .bind ?_ fun _ _ => .bind ?_ fun _ _ => ?_
  · exact withNumber_fails (by decide) fun _ _ quotes => .refuse quotes
  · exact withNumber_fails (by decide) fun _ _ quotes => .refuse quotes
  · exact withNumber_fails (by decide) fun _ _ quotes => .refuse quotes
  · exact withNumber_fails (by decide) fun _ _ quotes => .refuse quotes
  · refine withNumber_fails (by decide) fun divisor found quotes => checkMultiple_fails quotes ?_
    obtain ⟨part, present, number⟩ := Option.bind_eq_some_iff.mp found
    exact fits part divisor present number

theorem runNumber_fails {mode : MultipleMode} (object : graph.shape node = .object fields) {whole : Bool}
    (fits : (Check.number whole).Fits graph node) (value : Value) :
    Except.FailsAs (graph.Refuses node) (runNumber graph mode whole value node) := by
  simp only [runNumber, live_optional object]
  split
  next number _ => exact runBounds_fails object fits number
  next =>
    split
    · exact .violate fun _ => rfl
    · exact .refuse fun _ => rfl

theorem runIsNumber_eq {name : String} {whole : Bool} {value : Value} (found : graph.field? node "type" = some part)
    (shaped : graph.shape part = .text name) :
    runIsNumber graph whole value node = if isOperand whole value.shape then .ok () else violate (.notNumeric name) := by
  simp only [runIsNumber, live_require found, Graph.value_text shaped]
  rfl

theorem runIsNumber_fails {whole : Bool} (fits : (Check.isNumber whole).Fits graph node) (value : Value) :
    Except.FailsAs (graph.Refuses node) (runIsNumber graph whole value node) := by
  obtain ⟨part, name, found, shaped⟩ := fits
  rw [runIsNumber_eq found shaped]
  exact .accept fun _ => rfl

theorem livePattern_eq {shape : Shape Ref} {source : String} {pattern : Pattern} (texts : shape = .text source)
    (compiles : Pattern.compile source = .ok pattern) (known : Pattern) : livePattern shape known = .ok pattern := by
  subst texts
  simp only [livePattern, patternSource?, Option.map_some, Pattern.lookUp_eq_compile, compiles]
  rfl

theorem runText_fails (object : graph.shape node = .object fields) {checks : List TextCheck}
    (fits : (Check.text checks).Fits graph node) (value : Value) :
    Except.FailsAs (graph.Refuses node) (runText graph checks value node) := by
  simp only [runText, live_optional object]
  split
  next text =>
    apply Except.FailsAs.forM
    intro check member
    cases check with
    | size check => exact check.run_fails (fits _ member) text.length
    | pattern known =>
      obtain ⟨part, source, pattern, found, shaped, compiles⟩ := fits _ member
      simp only [runTextCheck, runPattern, live_require found,
        livePattern_eq shaped compiles known]
      exact .accept fun _ => rfl
  next => exact .refuse fun _ => rfl

theorem runUnique_fails (object : graph.shape node = .object fields) (items : List Value) :
    Except.FailsAs (graph.Refuses node) (runUnique graph items node) := by
  simp only [runUnique, live_optional object]
  split
  · split
    · exact .violate fun _ => rfl
    · exact .ok ()
  · exact .ok ()

theorem runTally_fails {check : TallyCheck} (fits : check.Fits graph node) (length seen : Nat) :
    Except.FailsAs (graph.Refuses node) (runTallyCheck graph length seen node check) := by
  cases check with
  | size check => exact check.run_fails fits length
  | required =>
    obtain ⟨part, fixed, items, found, shaped, _⟩ := fits
    simp only [runTallyCheck, runRequired, live_require found, shaped, Shape.length?]
    exact .accept fun _ => rfl

theorem runNameDependencies_fails (entry : EntryContext) {names : List Ref}
    (quotes : graph.Quotable node → entry.name.isWritable = true)
    (texts : ∀ name ∈ names, ∃ text, graph.shape name = .text text) :
    Except.FailsAs (graph.Refuses node) (runNameDependencies graph entry names) := by
  induction names with
  | nil => exact .ok ()
  | cons name rest ih =>
    obtain ⟨text, shaped⟩ := texts name (by simp)
    simp only [runNameDependencies, Graph.value_text shaped, hasEntry, live, Except.ok_bind]
    split
    · exact ih fun other member => texts other (List.mem_cons_of_mem _ member)
    · exact .violate quotes

end Keyword
end Outcomes

section Programs

open Program (Within)

variable {graph : Graph} {node part : Ref} {fields : Entries Ref} {mode : MultipleMode}

theorem Graph.descend_within {value part : Value} {schema : Ref} (asks : graph.Asks node value part schema) :
    (Program.descend part schema).Within (graph.scope node value (graph.Refuses node)) :=
  Program.within_descend asks fun _ => trivial

theorem Graph.outcome_within {outcome : Except Failure α} (fails : Except.FailsAs (graph.Refuses node) outcome)
    (value : Value) : (Program.ofExcept outcome).Within (graph.scope node value (graph.Refuses node)) :=
  Program.within_ofExcept fails

namespace Keyword

theorem positionalSchema_eq {items : Ref} {fixed : Bool} {members : List Ref}
    (shaped : graph.shape items = .array fixed members) (index : Nat) :
    positionalSchema graph items index = .ok members[index]? := by
  simp only [positionalSchema, shaped, Shape.length?]
  split
  next past => rw [List.getElem?_eq_none past]; rfl
  next => rfl

theorem runAdditionalItem_within (object : graph.shape node = .object fields) {value item : Value}
    (inside : item.depth < value.depth) (index : Nat) :
    (runAdditionalItem graph index item node).Within (graph.scope node value (graph.Refuses node)) := by
  simp only [runAdditionalItem, Program.live_optional object]
  split
  · trivial
  next additional found =>
    split
    next isObject =>
      refine Graph.descend_within ⟨?_, .inl inside⟩
      exact Graph.mem_subschemas_of_single (.inl (by decide)) found
        (by simp [Graph.isSchema, Shape.isSchema, isObject])
    next => trivial
  · trivial

theorem runItem_within (object : graph.shape node = .object fields) {check : ItemCheck}
    (fits : check.Fits graph node) {value item : Value} (inside : item.depth < value.depth) (index : Nat) :
    (runItem graph index item node check).Within (graph.scope node value (graph.Refuses node)) := by
  cases check with
  | every =>
    obtain ⟨items, found, isSchema⟩ := fits
    simp only [runItem, Program.live_require found]
    exact Graph.descend_within ⟨Graph.mem_subschemas_of_single (.inr rfl) found isSchema, .inl inside⟩
  | positional =>
    obtain ⟨items, fixed, members, found, shaped, schemas⟩ := fits
    simp only [runItem, Program.live_require found, positionalSchema_eq shaped]
    cases placed : members[index]? with
    | some schema =>
      have member := List.mem_of_getElem? placed
      exact Graph.descend_within
        ⟨Graph.mem_subschemas_of_list (.inr rfl) found shaped member (schemas schema member), .inl inside⟩
    | none => exact runAdditionalItem_within object inside index

theorem runItems_within (object : graph.shape node = .object fields) {check : ItemCheck}
    (fits : check.Fits graph node) {value : Value} {items : List Value}
    (inside : ∀ item ∈ items, item.depth < value.depth) (index : Nat) :
    (runItems graph check node index items).Within (graph.scope node value (graph.Refuses node)) := by
  induction items generalizing index with
  | nil => trivial
  | cons item rest ih =>
    apply Program.Within.bind (runItem_within object fits (inside item (by simp)) index)
    intro _
    exact ih (fun other member => inside other (List.mem_cons_of_mem _ member)) (index + 1)

theorem runContains_within {schema : Ref} (nested : schema ∈ graph.subschemas node) {value : Value}
    {items : List Value} (inside : ∀ item ∈ items, item.depth < value.depth) :
    (runContains schema items).Within (graph.scope node value (graph.Refuses node)) := by
  induction items with
  | nil => trivial
  | cons item rest ih =>
    refine .bind (Program.within_verdict ⟨nested, .inl (inside item (by simp))⟩) ?_
    intro verdict
    cases verdict with
    | none => trivial
    | some _ => exact ih fun other member => inside other (List.mem_cons_of_mem _ member)

theorem runArrayCheck_within (object : graph.shape node = .object fields) {check : ArrayCheck}
    (fits : check.Fits graph node) {value : Value} {items : List Value}
    (inside : ∀ item ∈ items, item.depth < value.depth) :
    (runArrayCheck graph items node check).Within (graph.scope node value (graph.Refuses node)) := by
  cases check with
  | contains =>
    obtain ⟨schema, found, isSchema⟩ := fits
    have nested := Graph.mem_subschemas_of_single (.inl (by decide)) found isSchema
    simp only [runArrayCheck, Program.live_require found]
    exact ⟨nested, runContains_within nested inside⟩
  | unique => exact Graph.outcome_within (runUnique_fails object items) value
  | size check => exact Graph.outcome_within (check.run_fails fits items.length) value

theorem runArrayChecks_within (object : graph.shape node = .object fields) {checks : List ArrayCheck}
    (fits : ∀ check ∈ checks, check.Fits graph node) {value : Value} {items : List Value}
    (inside : ∀ item ∈ items, item.depth < value.depth) :
    (runArrayChecks graph items node checks).Within (graph.scope node value (graph.Refuses node)) := by
  induction checks with
  | nil => trivial
  | cons check rest ih =>
    apply Program.Within.bind (runArrayCheck_within object (fits check (by simp)) inside)
    intro _
    exact ih fun other member => fits other (List.mem_cons_of_mem _ member)

theorem runArray_within (object : graph.shape node = .object fields) {items : Option ItemCheck}
    {all : List ArrayCheck} (fits : (Check.array items all).Fits graph node) (value : Value) :
    (runArray graph items all value node).Within (graph.scope node value (graph.Refuses node)) := by
  unfold runArray
  split
  next fixed parts =>
    have inside : ∀ item ∈ parts, item.depth < (Value.array fixed parts).depth := fun _ => Value.depth_item
    have whole := runArrayChecks_within object fits.2 inside
    cases items with
    | none => exact whole
    | some check => exact .bind (runItems_within object (fits.1 check rfl) inside 0) fun _ => whole
  next =>
    simp only [Program.live_optional object]
    split <;> trivial

theorem entriesOf_eq {part : Ref} {entries : Entries Ref} {keyword : String}
    (found : graph.field? node keyword = some part) (shaped : graph.shape part = .object entries) :
    (graph.require node keyword >>= graph.entriesOf) = .ok entries := by
  rw [Graph.require_eq found]
  simp only [Except.ok_bind, Graph.entriesOf, shaped]

theorem live_entries {part : Ref} {entries : Entries Ref} {keyword : String} (found : graph.field? node keyword = some part)
    (shaped : graph.shape part = .object entries) (rest : Entries Ref → Program α) :
    (Program.live (graph.require node keyword >>= graph.entriesOf) >>= rest) = rest entries := by
  rw [entriesOf_eq found shaped, Program.live_bind]

theorem runProperties_within (fits : KeyCheck.properties.Fits graph node) {entry : EntryContext} {value : Value}
    (inside : entry.item.depth < value.depth) : (runProperties graph entry node).Within (graph.scope node value (graph.Refuses node)) := by
  obtain ⟨part, entries, found, shaped, _⟩ := fits
  simp only [runProperties, live_entries found shaped]
  split
  next schema listed =>
    split
    next isSchema =>
      refine Graph.descend_within ⟨?_, .inl inside⟩
      exact Graph.mem_subschemas_of_map (by decide) found shaped (Table.mem_of_get? listed) isSchema
    next => trivial
  next => trivial

/-- Looking a pattern up among known ones is as good as compiling it. -/
theorem liveEntryPattern_eq (known : List Pattern) (name : Key) :
    liveEntryPattern known name = compileEntryPattern name := by
  cases name with
  | int value => rfl
  | text source =>
    simp only [liveEntryPattern, Pattern.lookUp_eq_compile]
    cases compiled : Pattern.compile source with
    | ok pattern => simp only [compileEntryPattern, compilePattern, compiled]
    | error refusal => rfl

theorem runPatterns_within {value item : Value} {patterns : Entries Ref} (known : List Pattern) (name : String)
    (inside : item.depth < value.depth)
    (fits : ∀ entry ∈ patterns, entry.2 ∈ graph.subschemas node ∧
      ∃ pattern, compileEntryPattern entry.1 = .ok pattern) (matched : Bool) :
    (runPatterns known name item matched patterns).Within (graph.scope node value (graph.Refuses node)) := by
  induction patterns generalizing matched with
  | nil => trivial
  | cons entry rest ih =>
    obtain ⟨nested, pattern, compiles⟩ := fits entry (by simp)
    have later := ih fun other member => fits other (List.mem_cons_of_mem _ member)
    simp only [runPatterns, liveEntryPattern_eq, compiles]
    change Within _ (if pattern.foundIn name = true then _ else _)
    split
    · exact .bind (Graph.descend_within ⟨nested, .inl inside⟩) fun _ => later true
    · exact later matched

theorem runPatternProperties_within {known : List Pattern} (fits : (KeyCheck.patternProperties known).Fits graph node)
    {entry : EntryContext} {value : Value} (inside : entry.item.depth < value.depth) (matched : Bool) :
    (runPatternProperties graph known entry node matched).Within (graph.scope node value (graph.Refuses node)) := by
  obtain ⟨part, entries, found, shaped, patterns⟩ := fits
  unfold runPatternProperties
  split
  · trivial
  next name _ =>
    simp only [live_entries found shaped]
    refine runPatterns_within known name inside (fun other member => ⟨?_, (patterns other member).2⟩) matched
    exact Graph.mem_subschemas_of_map (by decide) found shaped member (patterns other member).1

theorem isAdditional_ok (object : graph.shape node = .object fields) (reads : graph.ReadsProperties node)
    (name : Key) (matched : Bool) : ∃ result, isAdditional graph name node matched = .ok result := by
  simp only [isAdditional, Graph.optional_eq object, Except.ok_bind]
  cases found : graph.field? node "properties" with
  | none => exact ⟨!matched, rfl⟩
  | some part =>
    obtain ⟨entries, shaped⟩ := reads part found
    simp only [shaped, nameIn]
    split
    · exact ⟨_, rfl⟩
    · exact ⟨!matched, rfl⟩

theorem dependency_texts {fixed : Bool} {names : List Ref} (kind : isDependency graph part = true)
    (shaped : graph.shape part = .array fixed names) : ∀ name ∈ names, ∃ text, graph.shape name = .text text := by
  have isTexts : (distinctTexts? graph part).isSome = true := by
    simpa [isDependency, Graph.isSchema, shaped, Shape.isSchema, Shape.isObject, Shape.isBool] using kind
  obtain ⟨texts, read⟩ := Option.isSome_iff_exists.mp isTexts
  obtain ⟨_, others, same, each⟩ := distinctTexts?_eq_some read
  cases shaped.symm.trans same
  intro name inside
  obtain ⟨text, _, shaped⟩ := exists_of_forall₂ each inside
  exact ⟨text, shaped⟩

theorem dependency_schema (kind : isDependency graph part = true) (noItems : (graph.shape part).items? = none) :
    graph.isSchema part = true := by
  apply (Bool.or_eq_true_iff.mp kind).resolve_right
  intro isTexts
  obtain ⟨texts, read⟩ := Option.isSome_iff_exists.mp isTexts
  obtain ⟨fixed, items, array, _⟩ := distinctTexts?_eq_some read
  simp [array, Shape.items?] at noItems

theorem runDependencies_within (fits : KeyCheck.dependencies.Fits graph node) (entry : EntryContext) :
    (runDependencies graph entry node).Within (graph.scope node (.object entry.container) (graph.Refuses node)) := by
  obtain ⟨part, entries, found, shaped, dependencies⟩ := fits
  simp only [runDependencies, live_entries found shaped]
  split
  · trivial
  · trivial
  next dependency _ listed =>
    have member := Table.mem_of_get? listed
    have kind := dependencies _ member
    split
    next names items =>
      obtain ⟨fixed, array⟩ := Graph.items?_eq_some items
      have quotes : graph.Quotable node → entry.name.isWritable = true := fun quotable =>
        quotable.names part entries found shaped _ member
      exact Graph.outcome_within (runNameDependencies_fails entry quotes (dependency_texts kind array)) _
    next noItems =>
      refine Graph.descend_within ⟨?_, .inr ⟨rfl, .inr (.inr ⟨part, entries, _, found, shaped, member⟩)⟩⟩
      exact Graph.mem_subschemas_of_map (by decide) found shaped member (dependency_schema kind noItems)

theorem runKeyCheck_within (object : graph.shape node = .object fields) {check : KeyCheck}
    (fits : check.Fits graph node) {entry : EntryContext} (member : (entry.name, entry.item) ∈ entry.container)
    (matched : Bool) :
    (runKeyCheck graph entry node matched check).Within (graph.scope node (.object entry.container) (graph.Refuses node)) := by
  have inside : entry.item.depth < (Value.object entry.container).depth := Value.depth_entry member
  cases check with
  | properties => exact .bind (runProperties_within fits inside) fun _ => trivial
  | patternProperties known => exact runPatternProperties_within fits inside matched
  | additionalSchema =>
    obtain ⟨⟨schema, found, isSchema⟩, reads⟩ := fits
    obtain ⟨additional, ended⟩ := isAdditional_ok object reads entry.name matched
    have nested := Graph.mem_subschemas_of_single (.inl (by decide)) found isSchema
    simp only [runKeyCheck, ended, Program.live_bind, Graph.require_eq found]
    split
    · exact .bind (Graph.descend_within ⟨nested, .inl inside⟩) fun _ => trivial
    · trivial
  | noAdditional =>
    obtain ⟨additional, ended⟩ := isAdditional_ok object fits entry.name matched
    simp only [runKeyCheck, ended, Program.live_bind]
    split <;> trivial
  | dependencies => exact .bind (runDependencies_within fits entry) fun _ => trivial
  | propertyNames =>
    obtain ⟨schema, found, isSchema⟩ := fits
    have nested := Graph.mem_subschemas_of_single (.inl (by decide)) found isSchema
    simp only [runKeyCheck, Program.live_require found]
    exact .bind (Graph.descend_within ⟨nested, .inl (Value.depth_ofKey _ _)⟩) fun _ => trivial

theorem runKeyChecks_within (object : graph.shape node = .object fields) {checks : List KeyCheck}
    (fits : ∀ check ∈ checks, check.Fits graph node) {entry : EntryContext}
    (member : (entry.name, entry.item) ∈ entry.container) (matched : Bool) :
    (runKeyChecks graph entry node matched checks).Within (graph.scope node (.object entry.container) (graph.Refuses node)) := by
  induction checks generalizing matched with
  | nil => trivial
  | cons check rest ih =>
    apply Program.Within.bind (runKeyCheck_within object (fits check (by simp)) member matched)
    intro result
    exact ih (fun other later => fits other (List.mem_cons_of_mem _ later)) result

theorem runEntries_within (object : graph.shape node = .object fields) {checks : List KeyCheck}
    (fits : ∀ check ∈ checks, check.Fits graph node) {container entries : Entries Value}
    (inside : ∀ entry ∈ entries, entry ∈ container) :
    (runEntries graph checks container node entries).Within (graph.scope node (.object container) (graph.Refuses node)) := by
  induction entries with
  | nil => trivial
  | cons entry rest ih =>
    obtain ⟨name, item⟩ := entry
    let context : EntryContext := ⟨container, name, item⟩
    have member : (context.name, context.item) ∈ context.container :=
      inside _ List.mem_cons_self
    apply Program.Within.bind (runKeyChecks_within object fits member false)
    intro _
    exact ih fun other later => inside other (List.mem_cons_of_mem _ later)

theorem runObject_within (object : graph.shape node = .object fields) {entries : List KeyCheck}
    {required : List String} {tally : List TallyCheck} (fits : (Check.object entries required tally).Fits graph node)
    (value : Value) : (runObject graph entries required tally value node).Within (graph.scope node value (graph.Refuses node)) := by
  unfold runObject
  split
  next parts =>
    apply Program.Within.bind (runEntries_within object fits.1 fun _ member => member)
    intro _
    refine Graph.outcome_within (.forM fun check member => ?_) _
    exact runTally_fails (fits.2 check member) _ _
  next =>
    simp only [Program.live_optional object]
    split <;> trivial

theorem liveMembers_eq {keyword : String} (known : keyword ∈ Graph.listKeywords)
    (fits : graph.HoldsItems node keyword fun item => graph.isSchema item = true) :
    ∃ members : List Ref, liveMembers graph node keyword = .done (members.map .node) ∧
      ∀ value, ∀ schema ∈ members, graph.Asks node value value schema := by
  obtain ⟨part, fixed, items, found, shaped, schemas⟩ := fits
  refine ⟨items, ?_, fun value schema member => ⟨?_, .inr ⟨rfl, .inl ?_⟩⟩⟩
  · rw [liveMembers, membersOf_eq found shaped]
    rfl
  · exact Graph.mem_subschemas_of_list (.inl known) found shaped member (schemas schema member)
  · exact ⟨keyword, known, part, fixed, items, found, shaped, member⟩

section Members

variable {value : Value} {members : List Ref}

theorem runAllOf_within (asks : ∀ schema ∈ members, graph.Asks node value value schema) :
    (runAllOf value (members.map .node)).Within (graph.scope node value (graph.Refuses node)) := by
  induction members with
  | nil => trivial
  | cons schema rest ih =>
    apply Program.Within.bind (Program.within_verdict (asks schema (by simp)))
    intro verdict
    cases verdict with
    | none => exact ih fun other later => asks other (List.mem_cons_of_mem _ later)
    | some _ => trivial

theorem runAnyOf_within (asks : ∀ schema ∈ members, graph.Asks node value value schema) :
    (runAnyOf value (members.map .node)).Within (graph.scope node value (graph.Refuses node)) := by
  induction members with
  | nil => trivial
  | cons schema rest ih =>
    apply Program.Within.bind (Program.within_verdict (asks schema (by simp)))
    intro verdict
    cases verdict with
    | none => trivial
    | some _ => exact ih fun other later => asks other (List.mem_cons_of_mem _ later)

theorem runOneOf_within (asks : ∀ schema ∈ members, graph.Asks node value value schema) (found : Bool) :
    (runOneOf value found (members.map .node)).Within (graph.scope node value (graph.Refuses node)) := by
  induction members generalizing found with
  | nil => cases found <;> trivial
  | cons schema rest ih =>
    have later := ih fun other member => asks other (List.mem_cons_of_mem _ member)
    simp only [List.map_cons, runOneOf]
    apply Program.Within.bind (Program.within_verdict (asks schema (by simp)))
    intro verdict
    cases verdict with
    | none =>
      cases found with
      | true => trivial
      | false => exact later true
    | some _ => exact later found

end Members

theorem runNot_within {value : Value} {schema : Ref} (asks : graph.Asks node value value schema) :
    (runNot value schema).Within (graph.scope node value (graph.Refuses node)) := by
  apply Program.Within.bind (Program.within_verdict asks)
  intro verdict
  cases verdict <;> trivial

end Keyword

def Check.isEnum : Check → Bool
  | .enum _ => true
  | _ => false

/-- The checks of a compiled node that remember nothing and compare no constant either pass or
find a violation. -/
private theorem Check.run_settled (object : graph.shape node = .object fields) {check : Check} (fits : check.Fits graph node)
    (plain : check.isEnum = false) (loose : check ≠ .const) (value : Value) :
    (check.run graph mode value node).Within (graph.scope node value (graph.Refuses node)) := by
  cases check with
  | enum memo => cases plain
  | null => exact Graph.outcome_within (.accept fun _ => rfl) value
  | types => exact Graph.outcome_within (Keyword.runTypes_fails fits value) value
  | const => exact absurd rfl loose
  | object entries required tally => exact Keyword.runObject_within object fits value
  | isObject => exact Graph.outcome_within (.accept fun _ => rfl) value
  | number whole => exact Graph.outcome_within (Keyword.runNumber_fails object fits value) value
  | isNumber whole => exact Graph.outcome_within (Keyword.runIsNumber_fails fits value) value
  | text checks => exact Graph.outcome_within (Keyword.runText_fails object fits value) value
  | isText => exact Graph.outcome_within (.accept fun _ => rfl) value
  | array items all => exact Keyword.runArray_within object fits value
  | isArray => exact Graph.outcome_within (.accept fun _ => rfl) value
  | isBoolean => exact Graph.outcome_within (.accept fun _ => rfl) value
  | allOf =>
    obtain ⟨members, read, asks⟩ := Keyword.liveMembers_eq (by decide) fits
    simp only [run, read, Program.bind_done]
    exact Keyword.runAllOf_within (asks value)
  | anyOf =>
    obtain ⟨members, read, asks⟩ := Keyword.liveMembers_eq (by decide) fits
    simp only [run, read, Program.bind_done]
    exact Keyword.runAnyOf_within (asks value)
  | oneOf =>
    obtain ⟨members, read, asks⟩ := Keyword.liveMembers_eq (by decide) fits
    simp only [run, read, Program.bind_done]
    exact Keyword.runOneOf_within (asks value) false
  | not =>
    obtain ⟨schema, found, isSchema⟩ := fits
    have nested := Graph.mem_subschemas_of_single (.inl (by decide)) found isSchema
    simp only [run, Program.live_require found]
    exact Keyword.runNot_within ⟨nested, .inr ⟨rfl, .inr (.inl found)⟩⟩

theorem Graph.Refuses.ofValue {failure : Failure} (refused : graph.Refuses node failure) : failure.OfValue := by
  cases failure with
  | violation => trivial
  | fault fault => exact refused.1
  | defect | setting | lookup | endless => exact refused.elim

/-- The checks of a compiled node stay within their limits, whichever failures these allow
besides refusals. Only those of `enum` remember something. -/
theorem Check.run_scoped {fails : Failure → Prop} (refuses : ∀ failure, graph.Refuses node failure → fails failure)
    (object : graph.shape node = .object fields) {check : Check} (fits : check.Fits graph node) (plain : check.isEnum = false)
    (ends : fails .endless ∨ graph.ReadsConstant node) (value : Value) :
    (check.run graph mode value node).Within (graph.scope node value fails) := by
  by_cases compares : check = .const
  · subst compares
    exact Program.within_ofExcept (Keyword.runConst_fails (fun _ => refuses _ trivial) fits ends value)
  · exact (check.run_settled object fits plain compares value).weaken refuses

theorem Check.run_within (object : graph.shape node = .object fields) {check : Check} (fits : check.Fits graph node)
    (plain : check.isEnum = false) (value : Value) : (check.run graph mode value node).Within (graph.limits node value) :=
  check.run_scoped (fun _ => Graph.Refuses.ofValue) object fits plain (.inl trivial) value

end Programs

end LiveSchema
