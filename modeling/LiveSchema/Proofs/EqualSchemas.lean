import LiveSchema.Proofs.EqualData
import LiveSchema.Proofs.Outline

/-! Schemas that are equal as data compile alike. Whether a keyword is accepted shows
in the shape of its value and of what stands in that, so twins settle the same; and
the schemas nested in one are twins of schemas nested in the other. -/

namespace LiveSchema

variable {one two : Graph} {node other part again : Ref} {fields others : Entries Ref} {keyword : String}

theorem Shape.Twin.bool?_eq {relates : α → β → Prop} {one : Shape α} {two : Shape β} (twin : Twin relates one two) :
    one.bool? = two.bool? := by
  cases twin <;> rfl

namespace Graph

theorem Twin.isSchema_eq (twin : Twin one two part again) : one.isSchema part = two.isSchema again := twin.shape.isSchema_eq

theorem Twin.object (twin : Twin one two node other) (shaped : one.shape node = .object fields) :
    ∃ others, two.shape other = .object others ∧ Table.Twin (Twin one two) fields others := by
  have layer := twin.shape
  rw [shaped] at layer
  generalize two.shape other = found at layer
  cases layer with | object entries => exact ⟨_, rfl, entries⟩

theorem Twin.array {fixed : Bool} {items : List Ref} (twin : Twin one two part again) (shaped : one.shape part = .array fixed items) :
    ∃ kind others, two.shape again = .array kind others ∧ List.Forall₂ (Twin one two) items others := by
  have layer := twin.shape
  rw [shaped] at layer
  generalize two.shape again = found at layer
  cases layer with | array items => exact ⟨_, _, rfl, items⟩

theorem Twin.text {text : String} (twin : Twin one two part again) (shaped : one.shape part = .text text) :
    two.shape again = .text text := by
  have texts := twin.shape.text?_eq
  rw [shaped] at texts
  exact text?_eq_some texts.symm

theorem Twin.items? (twin : Twin one two part again) :
    Option.Rel (List.Forall₂ (Twin one two)) (one.shape part).items? (two.shape again).items? := by
  have layer := twin.shape
  generalize one.shape part = shape at layer
  generalize two.shape again = found at layer
  cases layer with
  | array items => exact .some items
  | null | bool | number | text | bytes | object => exact .none

theorem Twin.entries? (twin : Twin one two part again) :
    Option.Rel (Table.Twin (Twin one two)) (one.shape part).entries? (two.shape again).entries? := by
  have layer := twin.shape
  generalize one.shape part = shape at layer
  generalize two.shape again = found at layer
  cases layer with
  | object entries => exact .some entries
  | null | bool | number | text | bytes | array => exact .none

theorem Twin.field (twin : Twin one two node other) (keyword : String) :
    (one.field? node keyword = none ∧ two.field? other keyword = none) ∨
      ∃ part again, one.field? node keyword = some part ∧ two.field? other keyword = some again ∧ Twin one two part again := by
  unfold field?
  rcases Option.rel_cases twin.entries? with ⟨absent, missing⟩ | ⟨_, _, found, there, entries⟩
  · rw [absent, missing]
    exact .inl ⟨rfl, rfl⟩
  · rw [found, there]
    exact entries.lookup (.text keyword)

theorem Twin.found (twin : Twin one two node other) (found : one.field? node keyword = some part) :
    ∃ again, two.field? other keyword = some again ∧ Twin one two part again := by
  rcases twin.field keyword with ⟨absent, _⟩ | ⟨_, again, present, there, same⟩
  · cases found.symm.trans absent
  · cases found.symm.trans present
    exact ⟨again, there, same⟩

theorem Twin.form (twin : Twin one two part again) : ∃ form,
    Keyword.comparedForm (one.value? part) = .ok form ∧ Keyword.comparedForm (two.value? again) = .ok form := by
  obtain ⟨value, reread, first, second, same⟩ := twin
  exact ⟨value.canon, by rw [first]; rfl, by rw [second, same.same]; rfl⟩

end Graph

/-- An attempt that succeeds whenever another one does. -/
def Except.Follows (first second : Except ε α) : Prop := ∀ result, first = .ok result → ∃ other, second = .ok other

theorem Except.Follows.of_eq {first second : Except ε α} (same : first = second) : Follows first second :=
  fun result made => ⟨result, same ▸ made⟩

theorem Except.Follows.bind {first second : Except ε α} {rest rests : α → Except ε β} (begins : Follows first second)
    (continues : ∀ result other, Follows (rest result) (rests other)) : Follows (first >>= rest) (second >>= rests) := by
  intro result made
  obtain ⟨middle, made, goes⟩ := Except.bind_ok made
  obtain ⟨other, done⟩ := begins middle made
  rw [done]
  exact continues middle other result goes

theorem Except.mapM_succeeds {f : α → Except ε β} {items : List α} (each : ∀ item ∈ items, ∃ result, f item = .ok result) :
    ∃ results, items.mapM f = .ok results := by
  induction items with
  | nil => exact ⟨[], rfl⟩
  | cons item rest ih =>
    obtain ⟨first, made⟩ := each item (by simp)
    obtain ⟨others, rests⟩ := ih fun other later => each other (List.mem_cons_of_mem _ later)
    exact ⟨first :: others, by rw [List.mapM_cons, made, rests]; rfl⟩

open LiveSchema.Graph (Twin)

namespace Keyword

/-- A keyword is in both nodes or in neither, and what is made of it is the same if its values are twins. -/
theorem keyword_twin {absent : γ} {make makes : Ref → γ} (twin : Table.Twin (Twin one two) fields others) (keyword : String)
    (agree : ∀ part again, Twin one two part again → make part = makes again) :
    (match fields.keyword? keyword with
      | none => absent
      | some part => make part) =
    match others.keyword? keyword with
      | none => absent
      | some part => makes part := by
  unfold Entries.keyword?
  rcases twin.lookup (.text keyword) with ⟨none, gone⟩ | ⟨part, again, found, there, same⟩
  · rw [none, gone]
  · rw [found, there]
    exact agree part again same

theorem keyword_follows {absent : Except ε γ} {make makes : Ref → Except ε γ} (twin : Table.Twin (Twin one two) fields others)
    (keyword : String) (agree : ∀ part again, Twin one two part again → Except.Follows (make part) (makes again)) :
    Except.Follows
      (match fields.keyword? keyword with
        | none => absent
        | some part => make part)
      (match others.keyword? keyword with
        | none => absent
        | some part => makes part) := by
  unfold Entries.keyword?
  rcases twin.lookup (.text keyword) with ⟨none, gone⟩ | ⟨part, again, found, there, same⟩
  · rw [none, gone]
    exact .of_eq rfl
  · rw [found, there]
    exact agree part again same

theorem size_twin (twin : Table.Twin (Twin one two) fields others) (keyword : String) (direction : Direction) :
    SizeCheck.compile? one fields keyword direction = SizeCheck.compile? two others keyword direction := by
  apply keyword_twin twin
  intro part again same
  have accepted : SizeCheck.accepts (one.shape part) = SizeCheck.accepts (two.shape again) := by
    unfold SizeCheck.accepts
    rw [same.shape.isInteger_eq]
    rcases Option.rel_cases same.shape.number? with ⟨none, missing⟩ | ⟨_, _, number, number_again, place⟩
    · rw [none, missing]
    · simp only [number, number_again, Option.any_some, Number.lt_congr rfl place]
  simp only [SizeCheck.make, accepted]

theorem texts_twin {items parts : List Ref} (twins : List.Forall₂ (Twin one two) items parts) :
    (items.mapM fun item => (one.shape item).text?) = parts.mapM fun item => (two.shape item).text? := by
  induction twins with
  | nil => rfl
  | cons first _ ih => rw [List.mapM_cons, List.mapM_cons, first.shape.text?_eq, ih]

theorem distinctTexts?_twin (same : Twin one two part again) : distinctTexts? one part = distinctTexts? two again := by
  unfold distinctTexts?
  rcases Option.rel_cases same.items? with ⟨absent, missing⟩ | ⟨_, _, listed, listed_again, twins⟩
  · rw [absent, missing]
    rfl
  · simp only [listed, listed_again, Option.bind_eq_bind, Option.bind_some, texts_twin twins]

theorem schemaMap?_twin (same : Twin one two part again) :
    Option.Rel (Table.Twin (Twin one two)) (schemaMap? one part) (schemaMap? two again) := by
  unfold schemaMap?
  rcases Option.rel_cases same.entries? with ⟨absent, missing⟩ | ⟨entries, entries_again, mapped, mapped_again, twins⟩
  · rw [absent, missing]
    exact .none
  · have schemas : (entries.all fun entry => one.isSchema entry.2) = entries_again.all fun entry => two.isSchema entry.2 :=
      twins.all_eq fun _ _ _ same => same.isSchema_eq
    simp only [mapped, mapped_again, Option.bind_eq_bind, Option.bind_some, schemas]
    split
    · exact .some twins
    · exact .none

theorem areSchemas_twin {items parts : List Ref} (twins : List.Forall₂ (Twin one two) items parts) :
    areSchemas one items = areSchemas two parts := by
  unfold areSchemas
  induction twins with
  | nil => rfl
  | cons first _ ih => rw [List.all_cons, List.all_cons, first.isSchema_eq, ih]

section Families

variable (twin : Table.Twin (Twin one two) fields others)
include twin

theorem hasType_twin (name : String) : one.hasType (fields.keyword? "type") name = two.hasType (others.keyword? "type") name := by
  unfold Graph.hasType Entries.keyword?
  rcases twin.lookup (.text "type") with ⟨absent, gone⟩ | ⟨part, again, found, there, same⟩
  · rw [absent, gone]
  · simp only [found, there, same.shape.text?_eq]

theorem isSome_twin (keyword : String) : (fields.keyword? keyword).isSome = (others.keyword? keyword).isSome := by
  unfold Entries.keyword?
  rcases twin.lookup (.text keyword) with ⟨absent, gone⟩ | ⟨part, again, found, there, _⟩
  · simp [absent, gone]
  · simp [found, there]

theorem bind_twin {view views : Ref → Option γ} (keyword : String)
    (agree : ∀ part again, Twin one two part again → view part = views again) :
    (fields.keyword? keyword).bind view = (others.keyword? keyword).bind views := by
  unfold Entries.keyword?
  rcases twin.lookup (.text keyword) with ⟨absent, gone⟩ | ⟨part, again, found, there, same⟩
  · simp [absent, gone]
  · simp [found, there, agree part again same]

theorem any_twin {test tests : Ref → Bool} (keyword : String)
    (agree : ∀ part again, Twin one two part again → test part = tests again) :
    (fields.keyword? keyword).any test = (others.keyword? keyword).any tests := by
  unfold Entries.keyword?
  rcases twin.lookup (.text keyword) with ⟨absent, gone⟩ | ⟨part, again, found, there, same⟩
  · simp [absent, gone]
  · simp [found, there, agree part again same]

omit twin in
theorem compileType_twin (same : Twin one two part again) : compileType one part = compileType two again := by
  unfold compileType
  rw [distinctTexts?_twin same]
  have layer := same.shape
  generalize one.shape part = shape at layer
  generalize two.shape again = shape_again at layer
  cases layer <;> rfl

omit twin in
theorem memberForms_twin (same : Twin one two part again) {fixed : Bool} {items : List Ref}
    (shaped : one.shape part = .array fixed items) : memberForms one part = memberForms two again := by
  obtain ⟨kind, parts, shaped_again, twins⟩ := same.array shaped
  simp only [memberForms, members_array shaped, members_array shaped_again, live, Except.ok_bind]
  clear shaped shaped_again
  induction twins with
  | nil => rfl
  | cons first _ ih =>
    obtain ⟨form, compared, compared_again⟩ := first.form
    simp only [List.map_cons, List.mapM_cons, ih]
    simp only [Graph.memberValue?, compared, compared_again]

omit twin in
theorem compileEnum_twin (same : Twin one two part again) : Except.Follows (compileEnum one part) (compileEnum two again) := by
  intro checks compiled
  unfold compileEnum at compiled ⊢
  split at compiled
  next fixed first rest shaped =>
    obtain ⟨forms, read, _⟩ := Except.bind_ok compiled
    obtain ⟨kind, parts, shaped_again, twins⟩ := same.array shaped
    rw [memberForms_twin same shaped] at read
    cases twins with
    | cons _ _ =>
      rw [shaped_again]
      exact ⟨_, by rw [read]; rfl⟩
  next => cases compiled

/-- A keyword that may be absent, and what is done with what was made of it. -/
theorem optional_twin {absent : α} {make makes : Ref → Except ε α} {rest rests : α → Except ε β} (keyword : String)
    (agree : ∀ part again, Twin one two part again → Except.Follows (make part) (makes again))
    (continues : ∀ result other, Except.Follows (rest result) (rests other)) :
    Except.Follows
      (match fields.keyword? keyword with
        | some part => make part >>= rest
        | none => .ok absent >>= rest)
      (match others.keyword? keyword with
        | some part => makes part >>= rests
        | none => .ok absent >>= rests) := by
  unfold Entries.keyword?
  rcases twin.lookup (.text keyword) with ⟨gone, missing⟩ | ⟨part, again, found, there, same⟩
  · rw [gone, missing]
    exact continues absent absent
  · rw [found, there]
    exact .bind (agree part again same) continues

theorem compileKind_twin : Except.Follows (compileKind one fields) (compileKind two others) := by
  apply optional_twin twin "type" fun _ _ same => .of_eq (compileType_twin same)
  intro _ _
  apply optional_twin twin "enum" fun _ _ same => compileEnum_twin same
  exact fun _ _ _ _ => ⟨_, rfl⟩

theorem compileProperties_twin : compileProperties one fields = compileProperties two others := by
  apply keyword_twin twin
  intro part again same
  rcases Option.rel_cases (schemaMap?_twin same) with ⟨absent, missing⟩ | ⟨_, _, mapped, mapped_again, _⟩
  · rw [absent, missing]
  · rw [mapped, mapped_again]

/-- Patterns may be compiled in another order, so a defect may be another one. -/
theorem compilePatternProperties_twin :
    Except.Follows (compilePatternProperties one fields) (compilePatternProperties two others) := by
  apply keyword_follows twin
  intro part again same
  rcases Option.rel_cases (schemaMap?_twin same) with ⟨absent, missing⟩ | ⟨entries, entries_again, mapped, mapped_again, twins⟩
  · rw [absent, missing]
    exact .of_eq rfl
  · rw [mapped, mapped_again]
    refine .bind (fun patterns made => ?_) fun _ _ => fun _ _ => ⟨_, rfl⟩
    apply Except.mapM_succeeds
    rintro ⟨name, schema⟩ member
    obtain ⟨item, inside, _⟩ := twins.exists_of_mem member
    obtain ⟨pattern, _, compiled⟩ := exists_of_forall₂ (Except.mapM_forall₂ made) inside
    exact ⟨pattern, compiled⟩

theorem compileAdditional_twin : compileAdditional one fields = compileAdditional two others := by
  apply keyword_twin twin
  intro part again same
  have layer := same.shape
  generalize one.shape part = shape at layer
  generalize two.shape again = shape_again at layer
  cases layer with
  | bool value => cases value <;> rfl
  | null | number | text | bytes | array | object => rfl

omit twin in
theorem isDependency_twin (same : Twin one two part again) : isDependency one part = isDependency two again := by
  unfold isDependency
  rw [same.isSchema_eq, distinctTexts?_twin same]

theorem compileDependencies_twin : compileDependencies one fields = compileDependencies two others := by
  apply keyword_twin twin
  intro part again same
  rcases Option.rel_cases same.entries? with ⟨absent, missing⟩ | ⟨entries, entries_again, mapped, mapped_again, twins⟩
  · rw [absent, missing]
  · have dependencies : (entries.all fun entry => isDependency one entry.2) = entries_again.all fun entry => isDependency two entry.2 :=
      twins.all_eq fun _ _ _ same => isDependency_twin same
    simp only [mapped, mapped_again, dependencies]

theorem compilePropertyNames_twin : compilePropertyNames one fields = compilePropertyNames two others :=
  keyword_twin twin "propertyNames" fun part again same => by simp only [same.isSchema_eq]

omit twin in
theorem requiredNames_twin (same : Twin one two part again) : requiredNames one part = requiredNames two again := by
  unfold requiredNames
  rcases Option.rel_cases same.items? with ⟨absent, missing⟩ | ⟨_, _, listed, listed_again, twins⟩
  · rw [absent, missing]
  · simp only [listed, listed_again, texts_twin twins]

theorem compileRequired_twin : compileRequired one fields = compileRequired two others :=
  keyword_twin twin "required" fun part again same => by simp only [requiredNames_twin same]

omit twin in
private theorem chosen_succeeds (settled typed : Bool) (own type none : List Check) :
    ∃ checks, (if settled = true then pure own else if typed = true then pure type else pure none : Except Failure (List Check)) =
      .ok checks := by
  cases settled <;> cases typed <;> exact ⟨_, rfl⟩

theorem compileObject_twin : Except.Follows (compileObject one fields) (compileObject two others) := by
  unfold compileObject
  rw [compileProperties_twin twin, compileAdditional_twin twin, compileDependencies_twin twin, compilePropertyNames_twin twin,
    compileRequired_twin twin, size_twin twin, size_twin twin]
  refine .bind (.of_eq rfl) fun _ _ => .bind (compilePatternProperties_twin twin) fun _ _ => .bind (.of_eq rfl) fun _ _ =>
    .bind (.of_eq rfl) fun _ _ => .bind (.of_eq rfl) fun _ _ => .bind (.of_eq rfl) fun _ _ => .bind (.of_eq rfl) fun _ _ =>
    .bind (.of_eq rfl) fun _ _ => ?_
  exact fun _ _ => chosen_succeeds _ _ _ _ _

omit twin in
theorem isOperand_twin (whole : Bool) (same : Twin one two part again) :
    isOperand whole (one.shape part) = isOperand whole (two.shape again) := by
  simp only [isOperand, same.shape.isInteger_eq, same.shape.isNumber_eq]

theorem checkBound_twin (whole : Bool) (keyword exclusive : String) :
    checkBound one fields whole keyword exclusive = checkBound two others whole keyword exclusive := by
  unfold checkBound Entries.keyword?
  rcases twin.lookup (.text keyword) with ⟨absent, gone⟩ | ⟨part, again, found, there, same⟩
  · rw [absent, gone]
  · simp only [found, there, isOperand_twin whole same]
    rcases twin.lookup (.text exclusive) with ⟨absent, gone⟩ | ⟨_, _, found, there, sharpens⟩
    · rw [absent, gone]
    · simp only [found, there, sharpens.shape.isNumber_eq, sharpens.shape.isBool_eq]

theorem checkExclusive_twin (keyword : String) : checkExclusive one fields keyword = checkExclusive two others keyword := by
  unfold checkExclusive Entries.keyword?
  rcases twin.lookup (.text keyword) with ⟨absent, gone⟩ | ⟨part, again, found, there, same⟩
  · rw [absent, gone]
  · simp only [found, there, same.shape.isNumber_eq, same.shape.isBool_eq]

theorem checkMultipleOf_twin (whole : Bool) : checkMultipleOf one fields whole = checkMultipleOf two others whole := by
  unfold checkMultipleOf Entries.keyword?
  rcases twin.lookup (.text "multipleOf") with ⟨absent, gone⟩ | ⟨part, again, found, there, same⟩
  · rw [absent, gone]
  · simp only [found, there, isOperand_twin whole same]
    rcases Option.rel_cases same.shape.number? with ⟨none, missing⟩ | ⟨_, _, number, number_again, place⟩
    · rw [none, missing]
    · simp only [number, number_again, Option.any_some, Number.lt_congr rfl place]

theorem compileNumber_twin : compileNumber one fields = compileNumber two others := by
  have bounded : ∀ keyword, ((fields.keyword? keyword).any fun bound => (one.shape bound).isNumber) =
      (others.keyword? keyword).any fun bound => (two.shape bound).isNumber :=
    fun keyword => any_twin twin keyword fun _ _ same => same.shape.isNumber_eq
  simp only [compileNumber, hasType_twin twin, checkBound_twin twin, checkExclusive_twin twin, checkMultipleOf_twin twin, bounded]

theorem compilePatternKeyword_twin : compilePatternKeyword one fields = compilePatternKeyword two others := by
  apply keyword_twin twin
  intro part again same
  have layer := same.shape
  generalize one.shape part = shape at layer
  generalize two.shape again = shape_again at layer
  cases layer <;> rfl

theorem compileText_twin : compileText one fields = compileText two others := by
  simp only [compileText, size_twin twin, compilePatternKeyword_twin twin, hasType_twin twin]

omit twin in
theorem compileItems_twin (same : Twin one two part again) : compileItems one part = compileItems two again := by
  unfold compileItems
  rw [same.isSchema_eq]
  rcases Option.rel_cases same.items? with ⟨absent, missing⟩ | ⟨_, _, listed, listed_again, twins⟩
  · rw [absent, missing]
  · simp only [listed, listed_again, areSchemas_twin twins]

theorem compileContains_twin : compileContains one fields = compileContains two others :=
  keyword_twin twin "contains" fun part again same => by simp only [same.isSchema_eq]

theorem compileUnique_twin : compileUnique one fields = compileUnique two others := by
  apply keyword_twin twin
  intro part again same
  have layer := same.shape
  generalize one.shape part = shape at layer
  generalize two.shape again = shape_again at layer
  cases layer with
  | bool value => cases value <;> rfl
  | null | number | text | bytes | array | object => rfl

theorem compileArray_twin : Except.Follows (compileArray one fields) (compileArray two others) := by
  have additional : (fields.keyword? "additionalItems").all one.isSchema = (others.keyword? "additionalItems").all two.isSchema := by
    unfold Entries.keyword?
    rcases twin.lookup (.text "additionalItems") with ⟨absent, gone⟩ | ⟨part, again, found, there, same⟩
    · simp [absent, gone]
    · simp [found, there, same.isSchema_eq]
  unfold compileArray
  rw [additional, compileContains_twin twin, compileUnique_twin twin, size_twin twin, size_twin twin]
  dsimp only
  generalize Option.all two.isSchema (others.keyword? "additionalItems") = accepted
  cases accepted with
  | true =>
    rw [if_pos rfl, if_pos rfl]
    refine optional_twin twin "items" (fun _ _ same => .of_eq ?_) fun _ _ => ?_
    · rw [compileItems_twin same]
    refine .bind (.of_eq rfl) fun _ _ => .bind (.of_eq rfl) fun _ _ => .bind (.of_eq rfl) fun _ _ =>
      .bind (.of_eq rfl) fun _ _ => ?_
    exact fun _ _ => chosen_succeeds _ _ _ _ _
  | false =>
    intro _ made
    cases made

theorem checkMembers_twin (keyword : String) : checkMembers one fields keyword = checkMembers two others keyword := by
  unfold checkMembers Entries.keyword?
  rcases twin.lookup (.text keyword) with ⟨absent, gone⟩ | ⟨part, again, found, there, same⟩
  · rw [absent, gone]
  · simp only [found, there]
    rcases Option.rel_cases same.items? with ⟨none, missing⟩ | ⟨_, _, listed, listed_again, twins⟩
    · rw [none, missing]
    · rw [listed, listed_again]
      cases twins with
      | nil => rfl
      | cons first rest => simp only [areSchemas_twin (.cons first rest)]

theorem compileNot_twin : compileNot one fields = compileNot two others :=
  keyword_twin twin "not" fun part again same => by simp only [same.isSchema_eq]

theorem compileCombinators_twin : compileCombinators one fields = compileCombinators two others := by
  simp only [compileCombinators, checkMembers_twin twin, compileNot_twin twin, presentAs, isSome_twin twin]

theorem outline_twin : outline one fields = outline two others := by
  ext1
  · funext keyword
    exact isSome_twin twin keyword
  · exact bind_twin twin "type" fun _ _ same => same.shape.text?_eq
  · simp only [outline, Option.map_eq_bind]
    exact bind_twin twin "required" fun _ _ same => congrArg some (requiredNames_twin same)
  · exact bind_twin twin "uniqueItems" fun _ _ same => same.shape.bool?_eq
  · exact bind_twin twin "additionalProperties" fun _ _ same => same.shape.bool?_eq
  · exact any_twin twin "items" fun _ _ same => same.isSchema_eq
  · exact any_twin twin "exclusiveMaximum" fun _ _ same => same.shape.isNumber_eq
  · exact any_twin twin "exclusiveMinimum" fun _ _ same => same.shape.isNumber_eq

end Families
end Keyword

namespace Family

variable (twin : Table.Twin (Twin one two) fields others)
include twin

theorem compile_twin (family : Family) : Except.Follows (family.compile one fields) (family.compile two others) := by
  cases family with
  | kind => exact Keyword.compileKind_twin twin
  | object => exact Keyword.compileObject_twin twin
  | number => exact .of_eq (Keyword.compileNumber_twin twin)
  | text => exact .of_eq (Keyword.compileText_twin twin)
  | array => exact Keyword.compileArray_twin twin
  | boolean => exact fun _ _ => ⟨_, rfl⟩
  | combinators => exact .of_eq (Keyword.compileCombinators_twin twin)

theorem compileAll_twin (families : List Family) : Except.Follows (compileAll one fields families) (compileAll two others families) := by
  induction families with
  | nil => exact .of_eq rfl
  | cons family rest ih => exact .bind (compile_twin twin family) fun _ _ => .bind ih fun _ _ => fun _ _ => ⟨_, rfl⟩

theorem selected_twin : selected one fields = selected two others := by
  have type : ((fields.keyword? "type").bind fun type => (one.shape type).text?) =
      (others.keyword? "type").bind fun type => (two.shape type).text? :=
    Keyword.bind_twin twin "type" fun _ _ same => same.shape.text?_eq
  simp only [selected, type]

end Family

theorem compileNode_twin (twin : Twin one two node other) : Except.Follows (compileNode one node) (compileNode two other) := by
  have layer := twin.shape
  unfold compileNode
  generalize one.shape node = shape at layer
  generalize two.shape other = shape_again at layer
  cases layer with
  | object entries =>
    simp only [Family.selected_twin entries]
    exact Family.compileAll_twin entries _
  | null | bool | number | text | bytes | array => exact .of_eq rfl

namespace Graph

theorem Twin.outline_eq (twin : Twin one two node other) : one.outline node = two.outline other := by
  unfold outline
  rcases Option.rel_cases twin.entries? with ⟨absent, missing⟩ | ⟨_, _, found, there, entries⟩
  · rw [absent, missing]
    rfl
  · rw [found, there]
    exact congrArg some (Keyword.outline_twin entries)

/-- Every node of the second list is the twin of one in the first. -/
def Covers (one two : Graph) (refs parts : List Ref) : Prop := ∀ part ∈ parts, ∃ ref ∈ refs, Twin one two ref part

theorem Covers.nil {refs : List Ref} : Covers one two refs [] := fun _ member => nomatch member

theorem Covers.append {refs parts firsts lasts : List Ref} (begins : Covers one two refs parts) (ends : Covers one two firsts lasts) :
    Covers one two (refs ++ firsts) (parts ++ lasts) := by
  intro part member
  rcases List.mem_append.mp member with early | late
  · obtain ⟨ref, inside, same⟩ := begins part early
    exact ⟨ref, List.mem_append_left _ inside, same⟩
  · obtain ⟨ref, inside, same⟩ := ends part late
    exact ⟨ref, List.mem_append_right _ inside, same⟩

theorem Covers.flatMap {view views : String → List Ref} (keywords : List String)
    (each : ∀ keyword, Covers one two (view keyword) (views keyword)) :
    Covers one two (keywords.flatMap view) (keywords.flatMap views) := by
  induction keywords with
  | nil => exact .nil
  | cons keyword rest ih => exact (each keyword).append ih

theorem Covers.schemas {refs parts : List Ref} (covers : Covers one two refs parts) :
    Covers one two (one.schemasIn refs) (two.schemasIn parts) := by
  intro part member
  obtain ⟨inside, isSchema⟩ := List.mem_filter.mp member
  obtain ⟨ref, there, same⟩ := covers part inside
  exact ⟨ref, List.mem_filter.mpr ⟨there, same.isSchema_eq.trans isSchema⟩, same⟩

theorem covers_mapped (twin : Table.Twin (Twin one two) fields others) (keyword : String) :
    Covers one two (one.mappedSchemas fields keyword) (two.mappedSchemas others keyword) := by
  unfold mappedSchemas keyword?
  rcases twin.lookup (.text keyword) with ⟨_, gone⟩ | ⟨part, again, found, there, same⟩
  · rw [gone]
    exact .nil
  · rw [found, there, Option.bind_some, Option.bind_some]
    rcases Option.rel_cases same.entries? with ⟨_, missing⟩ | ⟨_, _, mapped, mapped_again, twins⟩
    · rw [missing]
      exact .nil
    · rw [mapped, mapped_again]
      apply Covers.schemas
      intro inner member
      obtain ⟨⟨key, item⟩, inside, rfl⟩ := List.mem_map.mp member
      obtain ⟨ref, present, related⟩ := twins.exists_of_mem inside
      exact ⟨ref, List.mem_map_of_mem present, related⟩

theorem covers_single (twin : Table.Twin (Twin one two) fields others) (keyword : String) :
    Covers one two (one.singleSchema fields keyword) (two.singleSchema others keyword) := by
  unfold singleSchema keyword?
  apply Covers.schemas
  rcases twin.lookup (.text keyword) with ⟨_, gone⟩ | ⟨part, again, found, there, same⟩
  · rw [gone]
    exact .nil
  · rw [found, there]
    intro inner member
    rw [List.mem_singleton.mp member]
    exact ⟨part, List.mem_singleton.mpr rfl, same⟩

theorem covers_listed (twin : Table.Twin (Twin one two) fields others) (keyword : String) :
    Covers one two (one.listedSchemas fields keyword) (two.listedSchemas others keyword) := by
  unfold listedSchemas keyword?
  rcases twin.lookup (.text keyword) with ⟨_, gone⟩ | ⟨part, again, found, there, same⟩
  · rw [gone]
    exact .nil
  · rw [found, there, Option.bind_some, Option.bind_some]
    rcases Option.rel_cases same.items? with ⟨_, missing⟩ | ⟨_, _, listed, listed_again, twins⟩
    · rw [missing]
      exact .nil
    · rw [listed, listed_again]
      apply Covers.schemas
      intro inner member
      exact exists_of_forall₂ twins.flip member

/-- Schemas nested in a node are twins of schemas nested in its twin. -/
theorem Twin.nested (twin : Twin one two node other) : Covers one two (one.subschemas node) (two.subschemas other) := by
  have layer := twin.shape
  unfold subschemas
  generalize one.shape node = shape at layer
  generalize two.shape other = shape_again at layer
  cases layer with
  | object entries =>
    exact ((((Covers.flatMap _ (covers_mapped entries)).append (.flatMap _ (covers_single entries))).append
      (covers_single entries "items")).append (covers_listed entries "items")).append (.flatMap _ (covers_listed entries))
  | null | bool | number | text | bytes | array => exact .nil

theorem Twin.reached (twin : Twin one two node other) {inner : Ref} (reached : two.Reaches other inner) :
    ∃ outer, one.Reaches node outer ∧ Twin one two outer inner := by
  induction reached with
  | refl => exact ⟨node, .refl, twin⟩
  | tail _ nested ih =>
    obtain ⟨outer, reached, same⟩ := ih
    obtain ⟨deeper, inside, again⟩ := same.nested _ nested
    exact ⟨deeper, reached.tail inside, again⟩

end Graph
end LiveSchema
