import LiveSchema.Proofs.CacheLaws
import LiveSchema.Proofs.Contents

/-! Edits and what a compiled node takes from its surroundings. Of a nested
schema a node only takes that it is one, and no edit in place changes that. So a
node compiles to the same checks as long as its own contents stay as they are. -/

namespace LiveSchema

/-- Arrays and objects are edited in place and stay what they are. Everything else stays the same. -/
inductive Shape.SameKind : Shape α → Shape α → Prop
  | same (shape : Shape α) : SameKind shape shape
  | array (before after : List α) : SameKind (.array false before) (.array false after)
  | object (before after : Entries α) : SameKind (.object before) (.object after)

namespace Graph

/-- A numbered node that is there, or a constant. -/
def Held (graph : Graph) : Ref → Prop
  | .node index => index < graph.size
  | _ => True

/-- Every node that stands in another is there. -/
def Closed (graph : Graph) : Prop := ∀ ref, ∀ part ∈ (graph.shape ref).parts, graph.Held part

/-- Any number of nodes was edited in place, and new ones were added. -/
structure Edited (before after : Graph) : Prop where
  kinds : ∀ ref, before.Held ref → (before.shape ref).SameKind (after.shape ref)
  closed : after.Closed

/-- Keywords whose value a compilation always looks into. -/
def readKeywords : List String :=
  ["type", "required", "properties", "patternProperties", "dependencies", "maxProperties", "minProperties", "pattern", "maxLength",
    "minLength", "uniqueItems", "maxItems", "minItems"] ++ Keyword.boundKeywords ++ listKeywords

/-- The own contents of a node are what its compilation looks at: the node, the values of its
keywords, all that stands in a choice, and the names that an entry depends on. A nested schema is
not among them, and neither is anything under a keyword that nothing reads. -/
inductive Owns (graph : Graph) (node : Ref) : Ref → Prop
  | self : graph.Owns node node
  | value {keyword : String} {part : Ref} (known : keyword ∈ readKeywords) (found : graph.field? node keyword = some part) :
      graph.Owns node part
  | items {part : Ref} (found : graph.field? node "items" = some part) (apart : graph.isSchema part = false) : graph.Owns node part
  | choice {part inner : Ref} (found : graph.field? node "enum" = some part) (contains : graph.Contains part inner) :
      graph.Owns node inner
  | names {part names : Ref} (found : graph.field? node "dependencies" = some part) (member_of : names ∈ (graph.shape part).parts)
      (apart : graph.isSchema names = false) : graph.Owns node names

/-- An edit that left the own contents of a node alone. -/
structure Spares (before after : Graph) (node : Ref) : Prop where
  edited : Edited before after
  closed : before.Closed
  own : ∀ ref, before.Owns node ref → after.shape ref = before.shape ref

section Kinds

variable {before after : Graph} {ref : Ref} {f : Shape Ref → α}

/-- A view that does not look into arrays and objects sees no edit. -/
theorem Edited.view (edited : Edited before after) (held : before.Held ref)
    (arrays : ∀ one other, f (.array false one) = f (.array false other))
    (objects : ∀ one other, f (.object one) = f (.object other)) : f (after.shape ref) = f (before.shape ref) := by
  have kind := edited.kinds ref held
  generalize before.shape ref = old at kind
  generalize after.shape ref = new at kind
  cases kind with
  | same => rfl
  | array before after => exact arrays after before
  | object before after => exact objects after before

theorem Edited.isSchema (edited : Edited before after) (held : before.Held ref) :
    after.isSchema ref = before.isSchema ref :=
  edited.view held (fun _ _ => rfl) fun _ _ => rfl

theorem Edited.text? (edited : Edited before after) (held : before.Held ref) :
    (after.shape ref).text? = (before.shape ref).text? :=
  edited.view held (fun _ _ => rfl) fun _ _ => rfl

theorem held_of_field {graph : Graph} {node part : Ref} {keyword : String} (closed : graph.Closed)
    (found : graph.field? node keyword = some part) : graph.Held part := by
  obtain ⟨entries, shaped, entry⟩ := Option.bind_eq_some_iff.mp found
  apply closed node part
  rw [entries?_eq_some shaped]
  exact List.mem_map.mpr ⟨_, Table.mem_of_get? entry, rfl⟩

end Kinds
end Graph

section Transport

open LiveSchema.Graph (Spares Edited readKeywords)

variable {before after : Graph} {node part : Ref} {fields : Entries Ref} {keyword : String}

namespace Keyword

/-- The value of a keyword that is read stays as it is. -/
theorem shape_eq (spares : Spares before after node) (object : before.shape node = .object fields)
    (found : fields.keyword? keyword = some part) (known : keyword ∈ readKeywords) : after.shape part = before.shape part :=
  spares.own part (.value known ((Graph.field?_eq object keyword).trans found))

theorem held (spares : Spares before after node) (object : before.shape node = .object fields)
    (found : fields.keyword? keyword = some part) : before.Held part :=
  Graph.held_of_field spares.closed ((Graph.field?_eq object keyword).trans found)

theorem held_items (spares : Spares before after node) {items : List Ref}
    (listed : (before.shape part).items? = some items) : ∀ item ∈ items, before.Held item := by
  obtain ⟨fixed, shaped⟩ := Graph.items?_eq_some listed
  intro item member
  apply spares.closed part item
  rwa [shaped]

theorem held_entries (spares : Spares before after node) {entries : Entries Ref}
    (mapped : (before.shape part).entries? = some entries) : ∀ entry ∈ entries, before.Held entry.2 := by
  intro entry member
  apply spares.closed part entry.2
  rw [Graph.entries?_eq_some mapped]
  exact List.mem_map_of_mem member

theorem hasType_eq (spares : Spares before after node) (object : before.shape node = .object fields) (name : String) :
    after.hasType (fields.keyword? "type") name = before.hasType (fields.keyword? "type") name := by
  cases found : fields.keyword? "type" with
  | none => rfl
  | some part => simp only [Graph.hasType, shape_eq spares object found (by decide)]

private theorem all_eq {items : List α} {new old : α → Bool} (same : ∀ item ∈ items, new item = old item) :
    items.all new = items.all old := by
  rw [Bool.eq_iff_iff, List.all_eq_true, List.all_eq_true]
  apply forall₂_congr
  intro item member
  rw [same item member]

theorem areSchemas_eq (edited : Edited before after) {refs : List Ref} (held : ∀ ref ∈ refs, before.Held ref) :
    areSchemas after refs = areSchemas before refs := by
  apply all_eq
  intro ref member
  exact edited.isSchema (held ref member)

theorem texts_eq (edited : Edited before after) {items : List Ref} (held : ∀ item ∈ items, before.Held item) :
    items.mapM (fun item => (after.shape item).text?) = items.mapM fun item => (before.shape item).text? := by
  apply Option.ext
  intro names
  constructor
  · exact Option.mapM_kept fun item member name => (edited.text? (held item member)).symm.trans
  · exact Option.mapM_kept fun item member name => (edited.text? (held item member)).trans

theorem distinctTexts?_eq (spares : Spares before after node) (same : after.shape part = before.shape part) :
    distinctTexts? after part = distinctTexts? before part := by
  unfold distinctTexts?
  rw [same]
  cases listed : (before.shape part).items? with
  | none => rfl
  | some items =>
    simp only [Option.bind_eq_bind, Option.bind_some, texts_eq spares.edited (held_items spares listed)]

theorem schemaMap?_eq (spares : Spares before after node) (same : after.shape part = before.shape part) :
    schemaMap? after part = schemaMap? before part := by
  unfold schemaMap?
  rw [same]
  cases mapped : (before.shape part).entries? with
  | none => rfl
  | some entries =>
    have schemas : (entries.all fun entry => after.isSchema entry.2) = entries.all fun entry => before.isSchema entry.2 := by
      apply all_eq
      intro entry member
      exact spares.edited.isSchema (held_entries spares mapped entry member)
    simp only [Option.bind_eq_bind, Option.bind_some, schemas]

section Families

variable (spares : Spares before after node) (object : before.shape node = .object fields)
include spares object

theorem compileSize_eq (keyword : String) (direction : Direction) (known : keyword ∈ readKeywords) :
    SizeCheck.compile? after fields keyword direction = SizeCheck.compile? before fields keyword direction := by
  unfold SizeCheck.compile?
  cases found : fields.keyword? keyword with
  | none => rfl
  | some part => simp only [shape_eq spares object found known]

theorem compileType_eq (found : fields.keyword? "type" = some part) : compileType after part = compileType before part := by
  have same := shape_eq spares object found (by decide)
  unfold compileType
  rw [same, distinctTexts?_eq spares same]

/-- The members of an `enum` array are read to the bottom, and all of that is the node's own. -/
theorem compileEnum_kept {checks : List Check} (found : fields.keyword? "enum" = some part)
    (compiled : compileEnum before part = .ok checks) : compileEnum after part = .ok checks := by
  have own : before.SameContents after part := by
    intro inner contained
    exact spares.own inner (.choice ((Graph.field?_eq object "enum").trans found) contained)
  unfold compileEnum at compiled ⊢
  rw [own part .refl]
  split at compiled
  next shaped =>
    obtain ⟨forms, read, compiled⟩ := Except.bind_ok compiled
    rw [Graph.memberForms_kept own read]
    exact compiled
  next => cases compiled

theorem compileKind_kept {checks : List Check} (compiled : compileKind before fields = .ok checks) :
    compileKind after fields = .ok checks := by
  unfold compileKind at compiled ⊢
  cases typed : fields.keyword? "type" with
  | none =>
    cases enumerated : fields.keyword? "enum" with
    | none => simpa only [typed, enumerated] using compiled
    | some enum =>
      simp only [typed, enumerated] at compiled ⊢
      obtain ⟨names, first, compiled⟩ := Except.bind_ok compiled
      cases first
      obtain ⟨forms, made, compiled⟩ := Except.bind_ok compiled
      rw [compileEnum_kept spares object enumerated made]
      exact compiled
  | some type =>
    cases enumerated : fields.keyword? "enum" with
    | none => simpa only [typed, enumerated, compileType_eq spares object typed] using compiled
    | some enum =>
      simp only [typed, enumerated, compileType_eq spares object typed] at compiled ⊢
      obtain ⟨names, first, compiled⟩ := Except.bind_ok compiled
      obtain ⟨forms, made, compiled⟩ := Except.bind_ok compiled
      rw [first, compileEnum_kept spares object enumerated made]
      exact compiled

theorem compileProperties_eq : compileProperties after fields = compileProperties before fields := by
  unfold compileProperties
  cases found : fields.keyword? "properties" with
  | none => rfl
  | some part => simp only [schemaMap?_eq spares (shape_eq spares object found (by decide))]

theorem compilePatternProperties_eq : compilePatternProperties after fields = compilePatternProperties before fields := by
  unfold compilePatternProperties
  cases found : fields.keyword? "patternProperties" with
  | none => rfl
  | some part => simp only [schemaMap?_eq spares (shape_eq spares object found (by decide))]

theorem compileAdditional_eq : compileAdditional after fields = compileAdditional before fields := by
  unfold compileAdditional
  cases found : fields.keyword? "additionalProperties" with
  | none => rfl
  | some part =>
    have kind := spares.edited.kinds part (held spares object found)
    simp only
    generalize before.shape part = old at kind
    generalize after.shape part = new at kind
    cases kind <;> rfl

theorem compileDependencies_eq : compileDependencies after fields = compileDependencies before fields := by
  unfold compileDependencies
  cases found : fields.keyword? "dependencies" with
  | none => rfl
  | some part =>
    simp only [shape_eq spares object found (by decide)]
    cases mapped : (before.shape part).entries? with
    | none => rfl
    | some entries =>
      have each : ∀ entry ∈ entries, isDependency after entry.2 = isDependency before entry.2 := by
        intro entry member
        unfold isDependency
        rw [spares.edited.isSchema (held_entries spares mapped entry member)]
        cases nested : before.isSchema entry.2 with
        | true => rfl
        | false =>
          have inside : entry.2 ∈ (before.shape part).parts := by
            rw [Graph.entries?_eq_some mapped]
            exact List.mem_map_of_mem member
          have same : after.shape entry.2 = before.shape entry.2 :=
            spares.own entry.2 (.names ((Graph.field?_eq object "dependencies").trans found) inside nested)
          rw [distinctTexts?_eq spares same]
      simp only [all_eq each]

/-- A keyword whose value is one schema only asks whether it is one. -/
theorem isSchema_eq (found : fields.keyword? keyword = some part) : after.isSchema part = before.isSchema part :=
  spares.edited.isSchema (held spares object found)

theorem compilePropertyNames_eq : compilePropertyNames after fields = compilePropertyNames before fields := by
  unfold compilePropertyNames
  cases found : fields.keyword? "propertyNames" with
  | none => rfl
  | some part => simp only [isSchema_eq spares object found]

theorem compileRequired_eq : compileRequired after fields = compileRequired before fields := by
  unfold compileRequired
  cases found : fields.keyword? "required" with
  | none => rfl
  | some part =>
    unfold requiredNames
    simp only [shape_eq spares object found (by decide)]
    cases listed : (before.shape part).items? with
    | none => rfl
    | some items => simp only [texts_eq spares.edited (held_items spares listed)]

theorem compileObject_eq : compileObject after fields = compileObject before fields := by
  unfold compileObject
  rw [compileProperties_eq spares object, compilePatternProperties_eq spares object, compileAdditional_eq spares object,
    compileDependencies_eq spares object, compilePropertyNames_eq spares object, compileRequired_eq spares object,
    compileSize_eq spares object "maxProperties" .max (by decide),
    compileSize_eq spares object "minProperties" .min (by decide), hasType_eq spares object]

theorem checkBound_eq (whole : Bool) (keyword exclusive : String) (known : keyword ∈ readKeywords)
    (beside : exclusive ∈ readKeywords) :
    checkBound after fields whole keyword exclusive = checkBound before fields whole keyword exclusive := by
  unfold checkBound
  cases found : fields.keyword? keyword with
  | none => rfl
  | some part =>
    simp only [shape_eq spares object found known]
    cases sharpened : fields.keyword? exclusive with
    | none => rfl
    | some other => simp only [shape_eq spares object sharpened beside]

theorem checkExclusive_eq (keyword : String) (known : keyword ∈ readKeywords) :
    checkExclusive after fields keyword = checkExclusive before fields keyword := by
  unfold checkExclusive
  cases found : fields.keyword? keyword with
  | none => rfl
  | some part => simp only [shape_eq spares object found known]

theorem checkMultipleOf_eq (whole : Bool) : checkMultipleOf after fields whole = checkMultipleOf before fields whole := by
  unfold checkMultipleOf
  cases found : fields.keyword? "multipleOf" with
  | none => rfl
  | some part => simp only [shape_eq spares object found (by decide)]

theorem isNumber_eq (known : keyword ∈ readKeywords) :
    ((fields.keyword? keyword).any fun bound => (after.shape bound).isNumber) =
      (fields.keyword? keyword).any fun bound => (before.shape bound).isNumber := by
  cases found : fields.keyword? keyword with
  | none => rfl
  | some part => simp only [Option.any_some, shape_eq spares object found known]

theorem compileNumber_eq : compileNumber after fields = compileNumber before fields := by
  unfold compileNumber
  have bounded : ∀ keyword ∈ boundKeywords, keyword ∈ readKeywords := by decide
  have numbers : (boundKeywords.any fun keyword => (fields.keyword? keyword).any fun bound => (after.shape bound).isNumber) =
      boundKeywords.any fun keyword => (fields.keyword? keyword).any fun bound => (before.shape bound).isNumber := by
    rw [Bool.eq_iff_iff, List.any_eq_true, List.any_eq_true]
    exact exists_congr fun keyword => and_congr_right fun member => by rw [isNumber_eq spares object (bounded keyword member)]
  simp only [hasType_eq spares object, numbers, checkMultipleOf_eq spares object,
    checkBound_eq spares object _ "maximum" "exclusiveMaximum" (by decide) (by decide),
    checkBound_eq spares object _ "minimum" "exclusiveMinimum" (by decide) (by decide),
    checkExclusive_eq spares object "exclusiveMaximum" (by decide),
    checkExclusive_eq spares object "exclusiveMinimum" (by decide)]

theorem compileText_eq : compileText after fields = compileText before fields := by
  have pattern : compilePatternKeyword after fields = compilePatternKeyword before fields := by
    unfold compilePatternKeyword
    cases found : fields.keyword? "pattern" with
    | none => rfl
    | some part => simp only [shape_eq spares object found (by decide)]
  unfold compileText
  rw [pattern, compileSize_eq spares object "maxLength" .max (by decide),
    compileSize_eq spares object "minLength" .min (by decide), hasType_eq spares object]

theorem compileItems_eq (found : fields.keyword? "items" = some part) : compileItems after part = compileItems before part := by
  unfold compileItems
  rw [isSchema_eq spares object found]
  cases nested : before.isSchema part with
  | true => rfl
  | false =>
    have same : after.shape part = before.shape part := spares.own part (.items ((Graph.field?_eq object "items").trans found) nested)
    rw [same]
    cases listed : (before.shape part).items? with
    | none => rfl
    | some items => simp only [areSchemas_eq spares.edited (held_items spares listed)]

theorem compileContains_eq : compileContains after fields = compileContains before fields := by
  unfold compileContains
  cases found : fields.keyword? "contains" with
  | none => rfl
  | some part => simp only [isSchema_eq spares object found]

theorem compileUnique_eq : compileUnique after fields = compileUnique before fields := by
  unfold compileUnique
  cases found : fields.keyword? "uniqueItems" with
  | none => rfl
  | some part => simp only [shape_eq spares object found (by decide)]

theorem compileArray_eq : compileArray after fields = compileArray before fields := by
  have additional : (fields.keyword? "additionalItems").all after.isSchema =
      (fields.keyword? "additionalItems").all before.isSchema := by
    cases found : fields.keyword? "additionalItems" with
    | none => rfl
    | some part => simp only [Option.all_some, isSchema_eq spares object found]
  unfold compileArray
  rw [additional, compileContains_eq spares object, compileUnique_eq spares object,
    compileSize_eq spares object "maxItems" .max (by decide),
    compileSize_eq spares object "minItems" .min (by decide), hasType_eq spares object]
  cases found : fields.keyword? "items" with
  | none => rfl
  | some part => simp only [compileItems_eq spares object found]

theorem checkMembers_eq (keyword : String) (known : keyword ∈ readKeywords) :
    checkMembers after fields keyword = checkMembers before fields keyword := by
  unfold checkMembers
  cases found : fields.keyword? keyword with
  | none => rfl
  | some part =>
    simp only [shape_eq spares object found known]
    cases listed : (before.shape part).items? with
    | none => rfl
    | some items =>
      cases items with
      | nil => rfl
      | cons first rest => simp only [areSchemas_eq spares.edited (held_items spares listed)]

theorem compileCombinators_eq : compileCombinators after fields = compileCombinators before fields := by
  have negation : compileNot after fields = compileNot before fields := by
    unfold compileNot
    cases found : fields.keyword? "not" with
    | none => rfl
    | some part => simp only [isSchema_eq spares object found]
  unfold compileCombinators
  rw [negation, checkMembers_eq spares object "allOf" (by decide), checkMembers_eq spares object "anyOf" (by decide),
    checkMembers_eq spares object "oneOf" (by decide)]

end Families
end Keyword

namespace Family

variable (spares : Spares before after node) (object : before.shape node = .object fields)
include spares object

theorem compile_kept {family : Family} {checks : List Check} (compiled : family.compile before fields = .ok checks) :
    family.compile after fields = .ok checks := by
  cases family with
  | kind => exact Keyword.compileKind_kept spares object compiled
  | object => exact (Keyword.compileObject_eq spares object).trans compiled
  | number => exact (Keyword.compileNumber_eq spares object).trans compiled
  | text => exact (Keyword.compileText_eq spares object).trans compiled
  | array => exact (Keyword.compileArray_eq spares object).trans compiled
  | boolean => simpa only [compile, Keyword.hasType_eq spares object] using compiled
  | combinators => exact (Keyword.compileCombinators_eq spares object).trans compiled

theorem compileAll_kept {families : List Family} {checks : List Check}
    (compiled : compileAll before fields families = .ok checks) : compileAll after fields families = .ok checks := by
  induction families generalizing checks with
  | nil => exact compiled
  | cons family rest ih =>
    obtain ⟨first, made, compiled⟩ := Except.bind_ok compiled
    obtain ⟨others, rests, compiled⟩ := Except.bind_ok compiled
    rw [compileAll, compile_kept spares object made, ih rests]
    exact compiled

theorem selected_eq : selected after fields = selected before fields := by
  unfold selected
  cases found : fields.keyword? "type" with
  | none => rfl
  | some part => simp only [Option.bind_some, Keyword.shape_eq spares object found (by decide)]

end Family

/-- A node whose own contents were spared compiles to what it compiled to before. -/
theorem compileNode_kept {checks : List Check} (spares : Spares before after node)
    (compiled : compileNode before node = .ok checks) : compileNode after node = .ok checks := by
  have same := spares.own node .self
  unfold compileNode at compiled ⊢
  rw [same]
  split at compiled
  next shaped => exact compiled
  next fields object =>
    rw [Family.selected_eq spares object]
    exact Family.compileAll_kept spares object compiled
  next => cases compiled

end Transport
end LiveSchema
