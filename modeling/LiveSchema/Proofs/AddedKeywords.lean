import LiveSchema.Proofs.NodeAcceptance
import LiveSchema.Proofs.TrackedCache

/-! What a node still says when keywords are added to it. A keyword that was there is read
and checked as before, so what passes the node with more keywords passes the one with fewer.
Additional properties are the exception: a new property or pattern takes names away from them. -/

namespace LiveSchema

open Run (start)

variable {graph : Graph} {mode : MultipleMode} {judge : Value → Ref → Except Failure Unit}
  {prepare : Ref → Except Failure Unit} {value : Value} {node more : Ref} {fields fuller : Entries Ref}

/-- All keywords of a node but its type are keywords of another as well. If the node restricts
additional properties, the other has no properties or patterns besides its own. -/
structure Graph.Sharpens (graph : Graph) (node more : Ref) : Prop where
  kept : ∀ {keyword part}, keyword ≠ "type" → graph.field? node keyword = some part → graph.field? more keyword = some part
  additional : (∀ part, graph.field? node "additionalProperties" = some part → graph.shape part = .bool true) ∨
    graph.field? more "properties" = graph.field? node "properties" ∧
      graph.field? more "patternProperties" = graph.field? node "patternProperties"

theorem Graph.Sharpens.require_eq (sharp : graph.Sharpens node more) {keyword : String} (other : keyword ≠ "type")
    (present : (graph.field? node keyword).isSome = true) : graph.require more keyword = graph.require node keyword := by
  obtain ⟨part, found⟩ := Option.isSome_iff_exists.mp present
  rw [Graph.require_eq found, Graph.require_eq (sharp.kept other found)]

theorem Outline.mem_sizes (outline : Outline) {longest shortest : String} {check : SizeCheck} :
    check ∈ outline.sizes longest shortest ↔
      (outline.present longest = true ∧ check = ⟨longest, .max⟩) ∨ outline.present shortest = true ∧ check = ⟨shortest, .min⟩ := by
  rw [Outline.sizes, List.mem_append, Outline.mem_given, Outline.mem_given]

/-- Checks that ask whether an entry is additional. -/
def KeyCheck.isAdditional : KeyCheck → Bool
  | .additionalSchema | .noAdditional => true
  | .properties | .patternProperties _ | .dependencies | .propertyNames => false

namespace Outline

variable (outline : Outline)

def propertyChecks : List KeyCheck :=
  outline.given "properties" .properties ++ outline.given "patternProperties" (.patternProperties []) ++ outline.additionalChecks

def otherChecks : List KeyCheck :=
  outline.given "dependencies" .dependencies ++ outline.given "propertyNames" .propertyNames

theorem entryChecks_eq : outline.entryChecks = outline.propertyChecks ++ outline.otherChecks := List.append_assoc _ _ _

variable {outline}

theorem isAdditional_of_mem {check : KeyCheck} (member : check ∈ outline.additionalChecks) : check.isAdditional = true := by
  unfold additionalChecks at member
  split at member
  · cases member
  · rw [List.mem_singleton.mp member]
    rfl
  · rw [((mem_given _).mp member).2]
    rfl

end Outline

namespace Keyword

section Entries

variable {entry : EntryContext} {matched other : Bool}

/-- Which patterns are found in a name does not depend on what was found before. -/
theorem runPatterns_flag {known : List Pattern} {name : String} {item : Value} {patterns : Entries Ref} {found : Bool}
    (passed : (runPatterns known name item matched patterns).evaluate judge prepare = .ok found) :
    ∃ found, (runPatterns known name item other patterns).evaluate judge prepare = .ok found := by
  induction patterns generalizing matched other with
  | nil => exact ⟨other, rfl⟩
  | cons pattern rest ih =>
    rw [runPatterns, Program.evaluate_bind_ok_iff] at passed
    obtain ⟨known, read, passed⟩ := passed
    simp only [runPatterns, Program.evaluate_bind_ok_iff]
    split at passed
    next inside =>
      refine ⟨found, known, read, ?_⟩
      rwa [if_pos inside]
    next outside =>
      obtain ⟨again, passed⟩ := ih passed
      refine ⟨again, known, read, ?_⟩
      rwa [if_neg outside]

theorem runKeyCheck_flag {check : KeyCheck} {found : Bool} (plain : check.isAdditional = false)
    (passed : (runKeyCheck graph entry node matched check).evaluate judge prepare = .ok found) :
    ∃ found, (runKeyCheck graph entry node other check).evaluate judge prepare = .ok found := by
  cases check with
  | additionalSchema | noAdditional => cases plain
  | patternProperties known =>
    simp only [runKeyCheck, runPatternProperties] at passed ⊢
    split at passed
    · exact ⟨other, rfl⟩
    · obtain ⟨patterns, read, passed⟩ := Program.evaluate_bind_ok_iff.mp passed
      obtain ⟨again, passed⟩ := runPatterns_flag passed
      exact ⟨again, Program.evaluate_bind_ok_iff.mpr ⟨patterns, read, passed⟩⟩
  | properties | dependencies =>
    obtain ⟨done, _⟩ := Program.evaluate_seq_ok_iff.mp passed
    exact ⟨other, Program.evaluate_seq_ok_iff.mpr ⟨done, rfl⟩⟩
  | propertyNames =>
    obtain ⟨names, read, passed⟩ := Program.evaluate_bind_ok_iff.mp passed
    obtain ⟨done, _⟩ := Program.evaluate_seq_ok_iff.mp passed
    exact ⟨other, Program.evaluate_bind_ok_iff.mpr ⟨names, read, Program.evaluate_seq_ok_iff.mpr ⟨done, rfl⟩⟩⟩

theorem runKeyChecks_each {checks : List KeyCheck}
    (passed : (runKeyChecks graph entry node matched checks).evaluate judge prepare = .ok ()) :
    ∀ check ∈ checks, ∃ matched found, (runKeyCheck graph entry node matched check).evaluate judge prepare = .ok found := by
  induction checks generalizing matched with
  | nil => exact nofun
  | cons check rest ih =>
    obtain ⟨found, first, passed⟩ := Program.evaluate_bind_ok_iff.mp passed
    exact List.forall_mem_cons.mpr ⟨⟨matched, found, first⟩, ih passed⟩

/-- Checks that do not ask for additional entries pass one by one, among whatever others. -/
theorem runKeyChecks_among {fewer others : List KeyCheck}
    (each : ∀ check ∈ fewer, check ∈ others ∧ check.isAdditional = false ∧
      ∀ matched, runKeyCheck graph entry more matched check = runKeyCheck graph entry node matched check)
    (passed : (runKeyChecks graph entry more matched others).evaluate judge prepare = .ok ()) :
    (runKeyChecks graph entry node other fewer).evaluate judge prepare = .ok () := by
  have passes := runKeyChecks_each passed
  induction fewer generalizing other with
  | nil => rfl
  | cons check rest ih =>
    rw [List.forall_mem_cons] at each
    obtain ⟨⟨member, plain, same⟩, each⟩ := each
    obtain ⟨flag, found, first⟩ := passes check member
    obtain ⟨found, first⟩ := runKeyCheck_flag plain (same flag ▸ first)
    exact Program.evaluate_bind_ok_iff.mpr ⟨found, first, ih each⟩

/-- Checks that both nodes begin with hand the same flag on. -/
theorem runKeyChecks_after {head fewer others : List KeyCheck}
    (same : ∀ check ∈ head, ∀ matched, runKeyCheck graph entry more matched check = runKeyCheck graph entry node matched check)
    (rest : ∀ matched, (runKeyChecks graph entry more matched others).evaluate judge prepare = .ok () →
      (runKeyChecks graph entry node matched fewer).evaluate judge prepare = .ok ())
    (passed : (runKeyChecks graph entry more matched (head ++ others)).evaluate judge prepare = .ok ()) :
    (runKeyChecks graph entry node matched (head ++ fewer)).evaluate judge prepare = .ok () := by
  induction head generalizing matched with
  | nil => exact rest matched passed
  | cons check head ih =>
    rw [List.forall_mem_cons] at same
    rw [List.cons_append, runKeyChecks, same.1, Program.evaluate_bind_ok_iff] at passed
    obtain ⟨found, first, passed⟩ := passed
    rw [List.cons_append, runKeyChecks, Program.evaluate_bind_ok_iff]
    exact ⟨found, first, ih same.2 passed⟩

end Entries

section Sharpened

variable (object : graph.shape node = .object fields) (larger : graph.shape more = .object fuller) (sharp : graph.Sharpens node more)
include object larger sharp

theorem outline_kept {keyword : String} (other : keyword ≠ "type") (present : (outline graph fields).present keyword = true) :
    fuller.keyword? keyword = fields.keyword? keyword ∧ graph.require more keyword = graph.require node keyword := by
  change (fields.keyword? keyword).isSome = true at present
  rw [← Graph.field?_eq object] at present
  refine ⟨?_, sharp.require_eq other present⟩
  obtain ⟨part, found⟩ := Option.isSome_iff_exists.mp present
  rw [← Graph.field?_eq larger, ← Graph.field?_eq object, sharp.kept other found, found]

theorem present_kept {keyword : String} (other : keyword ≠ "type") (present : (outline graph fields).present keyword = true) :
    (outline graph fuller).present keyword = true := by
  change (fuller.keyword? keyword).isSome = true
  rw [(outline_kept object larger sharp other present).1]
  exact present

omit larger sharp in
theorem additionalChecks_open (loose : ∀ part, graph.field? node "additionalProperties" = some part → graph.shape part = .bool true) :
    (outline graph fields).additionalChecks = [] := by
  have found := Graph.field?_eq object "additionalProperties"
  have settled : (outline graph fields).additional = (fields.keyword? "additionalProperties").bind fun part => (graph.shape part).bool? := rfl
  have given : (outline graph fields).present "additionalProperties" = (fields.keyword? "additionalProperties").isSome := rfl
  rw [← found] at settled given
  unfold Outline.additionalChecks Outline.given
  rw [settled, given]
  cases present : graph.field? node "additionalProperties" with
  | none => rfl
  | some part =>
    rw [Option.bind_some, loose part present]
    rfl

theorem sizes_kept {longest shortest : String} {check : SizeCheck} (others : longest ≠ "type" ∧ shortest ≠ "type")
    (member : check ∈ (outline graph fields).sizes longest shortest) :
    check ∈ (outline graph fuller).sizes longest shortest ∧ ∀ length, check.run graph more length = check.run graph node length := by
  rw [Outline.mem_sizes] at member ⊢
  have same : ∀ length, graph.require more check.keyword = graph.require node check.keyword →
      check.run graph more length = check.run graph node length :=
    fun length same => by simp only [SizeCheck.run, same]
  rcases member with ⟨present, rfl⟩ | ⟨present, rfl⟩
  · exact ⟨.inl ⟨present_kept object larger sharp others.1 present, rfl⟩,
      fun length => same length (outline_kept object larger sharp others.1 present).2⟩
  · exact ⟨.inr ⟨present_kept object larger sharp others.2 present, rfl⟩,
      fun length => same length (outline_kept object larger sharp others.2 present).2⟩

omit object larger in
theorem says_kind_sharp (told : Family.kind.Says graph mode judge prepare fuller value more) :
    Family.kind.Says graph mode judge prepare fields value node := by
  obtain ⟨enum, const⟩ := told
  refine ⟨fun part forms found => enum part forms (sharp.kept (by decide) found), fun part found => ?_⟩
  have same := const part (sharp.kept (by decide) found)
  rwa [runConst, sharp.require_eq (by decide) (Option.isSome_of_mem found)] at same

theorem says_number_sharp (told : Family.number.Says graph mode judge prepare fuller value more) :
    Family.number.Says graph mode judge prepare fields value node := by
  intro number present
  have bounds := told number present
  rw [runBounds_ok_iff larger] at bounds
  rw [runBounds_ok_iff object]
  obtain ⟨maximum, below, minimum, above, multiple⟩ := bounds
  have kept : ∀ {keyword bound}, keyword ≠ "type" → liveNumber graph (graph.field? node keyword) = some bound →
      liveNumber graph (graph.field? more keyword) = some bound := by
    intro keyword bound other found
    obtain ⟨part, present, number⟩ := Option.bind_eq_some_iff.mp found
    rw [sharp.kept other present]
    exact number
  -- A bound is sharpened by the keyword beside it, which may be new.
  have modifier : ∀ {keyword}, keyword ≠ "type" → graph.field? node keyword = some (.bool true) →
      graph.field? more keyword = some (.bool true) := fun other => sharp.kept other
  refine ⟨fun bound found => ?_, fun bound found => below bound (kept (by decide) found), fun bound found => ?_,
    fun bound found => above bound (kept (by decide) found), fun divisor found => multiple divisor (kept (by decide) found)⟩
  · have passed := maximum bound (kept (by decide) found)
    unfold checkMaximum at passed ⊢
    rw [Except.refuse_ok_iff] at passed ⊢
    exact fun refused => passed (refused.imp_left fun sharper => ⟨modifier (by decide) sharper.1, sharper.2⟩)
  · have passed := minimum bound (kept (by decide) found)
    unfold checkMinimum at passed ⊢
    rw [Except.refuse_ok_iff] at passed ⊢
    exact fun refused => passed (refused.imp_left fun sharper => ⟨modifier (by decide) sharper.1, sharper.2⟩)

theorem says_text_sharp (told : Family.text.Says graph mode judge prepare fuller value more) :
    Family.text.Says graph mode judge prepare fields value node := by
  intro text here check member
  rcases List.mem_append.mp member with sizes | pattern
  · obtain ⟨size, inside, rfl⟩ := List.mem_map.mp sizes
    obtain ⟨again, same⟩ := sizes_kept object larger sharp (by decide) inside
    have passed := told text here (.size size) (List.mem_append_left _ (List.mem_map_of_mem again))
    rwa [runTextCheck, same] at passed
  · obtain ⟨present, rfl⟩ := (Outline.mem_given _).mp pattern
    have again := present_kept object larger sharp (by decide) present
    have passed := told text here (.pattern default) (List.mem_append_right _ ((Outline.mem_given _).mpr ⟨again, rfl⟩))
    rwa [runTextCheck, runPattern, (outline_kept object larger sharp (by decide) present).2] at passed

/-- An item past the schemas of its array may have been left alone before. -/
theorem runItem_sharp {index : Nat} {item : Value} {check : ItemCheck} (present : (outline graph fields).present "items" = true)
    (passed : (runItem graph index item more check).evaluate judge prepare = .ok ()) :
    (runItem graph index item node check).evaluate judge prepare = .ok () := by
  have same := (outline_kept object larger sharp (by decide) present).2
  cases check with
  | every => rwa [runItem, same] at passed
  | positional =>
    obtain ⟨part, present⟩ := Option.isSome_iff_exists.mp present
    have found : graph.field? node "items" = some part := (Graph.field?_eq object "items").trans present
    rw [runItem, same, Program.live_require found] at passed
    rw [runItem, Program.live_require found]
    obtain ⟨schema, placed, passed⟩ := Program.evaluate_bind_ok_iff.mp passed
    refine Program.evaluate_bind_ok_iff.mpr ⟨schema, placed, ?_⟩
    cases schema with
    | some schema => exact passed
    | none =>
      rw [runAdditionalItem, Program.live_optional object]
      rw [runAdditionalItem, Program.live_optional larger] at passed
      cases found : graph.field? node "additionalItems" with
      | none => rfl
      | some additional =>
        rw [sharp.kept (by decide) found] at passed
        exact passed

theorem runItems_sharp {index : Nat} {items : List Value} {check : ItemCheck}
    (present : (outline graph fields).present "items" = true)
    (passed : (runItems graph check more index items).evaluate judge prepare = .ok ()) :
    (runItems graph check node index items).evaluate judge prepare = .ok () := by
  induction items generalizing index with
  | nil => rfl
  | cons item rest ih =>
    rw [runItems, Program.evaluate_seq_ok_iff] at passed ⊢
    exact ⟨runItem_sharp object larger sharp present passed.1, ih passed.2⟩

theorem itemCheck_kept {check : ItemCheck} (chosen : (outline graph fields).itemCheck = some check) :
    (outline graph fields).present "items" = true ∧ (outline graph fuller).itemCheck = some check := by
  unfold Outline.itemCheck at chosen ⊢
  split at chosen
  next present =>
    have same : (outline graph fuller).single = (outline graph fields).single := by
      change (fuller.keyword? "items").any _ = (fields.keyword? "items").any _
      rw [(outline_kept object larger sharp (by decide) present).1]
    rw [if_pos (present_kept object larger sharp (by decide) present), same]
    exact ⟨present, chosen⟩
  next => cases chosen

theorem uniqueChecks_kept {check : ArrayCheck} (member : check ∈ (outline graph fields).uniqueChecks) :
    check = .unique ∧ check ∈ (outline graph fuller).uniqueChecks ∧ (graph.field? node "uniqueItems").isSome = true := by
  unfold Outline.uniqueChecks at member ⊢
  split at member
  next settled =>
    obtain ⟨part, found, shaped⟩ := Option.bind_eq_some_iff.mp settled
    have present : (outline graph fields).present "uniqueItems" = true := Option.isSome_of_mem found
    have same : (outline graph fuller).unique = (outline graph fields).unique := by
      change (fuller.keyword? "uniqueItems").bind _ = (fields.keyword? "uniqueItems").bind _
      rw [(outline_kept object larger sharp (by decide) present).1]
    rw [same, settled, Graph.field?_eq object]
    exact ⟨List.mem_singleton.mp member, member, present⟩
  next => cases member

theorem says_array_sharp (told : Family.array.Says graph mode judge prepare fuller value more) :
    Family.array.Says graph mode judge prepare fields value node := by
  intro fixed items here
  obtain ⟨each, whole⟩ := told fixed items here
  refine ⟨fun check chosen => ?_, fun check member => ?_⟩
  · obtain ⟨present, again⟩ := itemCheck_kept object larger sharp chosen
    exact runItems_sharp object larger sharp present (each check again)
  · simp only [Outline.wholeChecks, List.mem_append, or_assoc] at member whole
    rcases member with contains | unique | sizes
    · obtain ⟨present, rfl⟩ := (Outline.mem_given _).mp contains
      have again := present_kept object larger sharp (by decide) present
      have passed := whole .contains (.inl ((Outline.mem_given _).mpr ⟨again, rfl⟩))
      rwa [runArrayCheck, (outline_kept object larger sharp (by decide) present).2] at passed
    · obtain ⟨rfl, again, present⟩ := uniqueChecks_kept object larger sharp unique
      obtain ⟨part, found⟩ := Option.isSome_iff_exists.mp present
      have passed := whole .unique (.inr (.inl again))
      rw [runArrayCheck, runUnique, Graph.optional_eq larger, sharp.kept (by decide) found] at passed
      rw [runArrayCheck, runUnique, Graph.optional_eq object, found]
      exact passed
    · obtain ⟨size, inside, rfl⟩ := List.mem_map.mp sizes
      obtain ⟨again, same⟩ := sizes_kept object larger sharp (by decide) inside
      have passed := whole (.size size) (.inr (.inr (List.mem_map_of_mem again)))
      rwa [runArrayCheck, same] at passed

theorem says_combinators_sharp (told : Family.combinators.Says graph mode judge prepare fuller value more) :
    Family.combinators.Says graph mode judge prepare fields value node := by
  have kept : ∀ {keyword : String} {check : Check}, keyword ≠ "type" →
      (graph.require more keyword = graph.require node keyword →
        check.run graph mode value more = check.run graph mode value node) →
      (∀ other ∈ (outline graph fuller).given keyword check, other.Passes graph mode judge prepare value more) →
      ∀ other ∈ (outline graph fields).given keyword check, other.Passes graph mode judge prepare value node := by
    intro keyword check other same passes
    rw [Outline.forall_given_iff] at passes ⊢
    intro present
    have passed := passes (present_kept object larger sharp other present)
    rwa [Check.Passes, same (outline_kept object larger sharp other present).2] at passed
  simp only [Family.Says, Outline.combinators, List.forall_mem_append] at told ⊢
  obtain ⟨⟨⟨all, any⟩, one⟩, none⟩ := told
  refine ⟨⟨⟨kept (by decide) ?_ all, kept (by decide) ?_ any⟩, kept (by decide) ?_ one⟩, kept (by decide) ?_ none⟩
  all_goals
    intro same
    simp only [Check.run, liveMembers, same]

theorem additionalChecks_kept (present : (outline graph fields).present "additionalProperties" = true) :
    (outline graph fuller).additionalChecks = (outline graph fields).additionalChecks := by
  have same := (outline_kept object larger sharp (by decide) present).1
  have settled : (outline graph fuller).additional = (outline graph fields).additional := by
    change (fuller.keyword? "additionalProperties").bind _ = (fields.keyword? "additionalProperties").bind _
    rw [same]
  unfold Outline.additionalChecks Outline.given
  rw [settled, present, present_kept object larger sharp (by decide) present]

theorem propertyCheck_kept {check : KeyCheck} (plain : check.isAdditional = false)
    (member : check ∈ (outline graph fields).propertyChecks) :
    check ∈ (outline graph fuller).propertyChecks ∧
      ∀ entry matched, runKeyCheck graph entry more matched check = runKeyCheck graph entry node matched check := by
  simp only [Outline.propertyChecks, List.mem_append, or_assoc, Outline.mem_given] at member ⊢
  rcases member with ⟨present, rfl⟩ | ⟨present, rfl⟩ | additional
  · have same := (outline_kept object larger sharp (by decide) present).2
    exact ⟨.inl ⟨present_kept object larger sharp (by decide) present, rfl⟩,
      fun entry matched => by simp only [runKeyCheck, runProperties, same]⟩
  · have same := (outline_kept object larger sharp (by decide) present).2
    exact ⟨.inr (.inl ⟨present_kept object larger sharp (by decide) present, rfl⟩),
      fun entry matched => by simp only [runKeyCheck, runPatternProperties, same]⟩
  · rw [Outline.isAdditional_of_mem additional] at plain
    cases plain

theorem otherCheck_kept {check : KeyCheck} (member : check ∈ (outline graph fields).otherChecks) :
    check ∈ (outline graph fuller).otherChecks ∧ check.isAdditional = false ∧
      ∀ entry matched, runKeyCheck graph entry more matched check = runKeyCheck graph entry node matched check := by
  simp only [Outline.otherChecks, List.mem_append, Outline.mem_given] at member ⊢
  rcases member with ⟨present, rfl⟩ | ⟨present, rfl⟩
  · have same := (outline_kept object larger sharp (by decide) present).2
    exact ⟨.inl ⟨present_kept object larger sharp (by decide) present, rfl⟩, rfl,
      fun entry matched => by simp only [runKeyCheck, runDependencies, same]⟩
  · have same := (outline_kept object larger sharp (by decide) present).2
    exact ⟨.inr ⟨present_kept object larger sharp (by decide) present, rfl⟩, rfl,
      fun entry matched => by simp only [runKeyCheck, same]⟩

/-- An entry that is additional to the same properties is checked as before. -/
theorem additionalCheck_same (properties : graph.field? more "properties" = graph.field? node "properties")
    (present : (outline graph fields).present "additionalProperties" = true) {check : KeyCheck} (additional : check.isAdditional = true)
    (entry : EntryContext) (matched : Bool) :
    runKeyCheck graph entry more matched check = runKeyCheck graph entry node matched check := by
  have listed : isAdditional graph entry.name more matched = isAdditional graph entry.name node matched := by
    simp only [isAdditional, Graph.optional_eq object, Graph.optional_eq larger, properties]
  cases check with
  | noAdditional => simp only [runKeyCheck, listed]
  | additionalSchema => simp only [runKeyCheck, listed, (outline_kept object larger sharp (by decide) present).2]
  | properties | patternProperties | dependencies | propertyNames => cases additional

/-- Nothing that was additional before is spared now. -/
theorem runKeyChecks_sharp {entry : EntryContext}
    (passed : (runKeyChecks graph entry more false (outline graph fuller).entryChecks).evaluate judge prepare = .ok ()) :
    (runKeyChecks graph entry node false (outline graph fields).entryChecks).evaluate judge prepare = .ok () := by
  rw [Outline.entryChecks_eq] at passed ⊢
  by_cases loose : ∀ part, graph.field? node "additionalProperties" = some part → graph.shape part = .bool true
  · refine runKeyChecks_among (fun check member => ?_) passed
    rcases List.mem_append.mp member with first | later
    · have plain : check.isAdditional = false := by
        simp only [Outline.propertyChecks, additionalChecks_open object loose, List.append_nil, List.mem_append,
          Outline.mem_given] at first
        rcases first with ⟨_, rfl⟩ | ⟨_, rfl⟩ <;> rfl
      obtain ⟨again, same⟩ := propertyCheck_kept object larger sharp plain first
      exact ⟨List.mem_append_left _ again, plain, same entry⟩
    · obtain ⟨again, plain, same⟩ := otherCheck_kept object larger sharp later
      exact ⟨List.mem_append_right _ again, plain, same entry⟩
  · obtain ⟨properties, patterns⟩ := sharp.additional.resolve_left loose
    have present : (outline graph fields).present "additionalProperties" = true := by
      change (fields.keyword? "additionalProperties").isSome = true
      rw [← Graph.field?_eq object]
      by_contra absent
      exact loose fun part found => absurd (Option.isSome_of_mem found) absent
    have first : (outline graph fuller).propertyChecks = (outline graph fields).propertyChecks := by
      have given : ∀ {keyword : String} {check : KeyCheck}, graph.field? more keyword = graph.field? node keyword →
          (outline graph fuller).given keyword check = (outline graph fields).given keyword check := by
        intro keyword check same
        rw [Graph.field?_eq object, Graph.field?_eq larger] at same
        rw [given_eq, given_eq, same]
      rw [Outline.propertyChecks, given properties, given patterns, additionalChecks_kept object larger sharp present]
      rfl
    rw [first] at passed
    refine runKeyChecks_after (fun check member matched => ?_) (fun matched passed => ?_) passed
    · cases plain : check.isAdditional with
      | false => exact (propertyCheck_kept object larger sharp plain member).2 entry matched
      | true => exact additionalCheck_same object larger sharp properties present plain entry matched
    · refine runKeyChecks_among (fun check member => ?_) passed
      obtain ⟨again, plain, same⟩ := otherCheck_kept object larger sharp member
      exact ⟨again, plain, same entry⟩

theorem requiredChecks_kept {check : TallyCheck} (member : check ∈ (outline graph fields).requiredChecks.2) :
    check = .required ∧ (outline graph fuller).requiredChecks = (outline graph fields).requiredChecks ∧
      graph.require more "required" = graph.require node "required" := by
  obtain ⟨present, rfl⟩ : (outline graph fields).present "required" = true ∧ check = .required := by
    unfold Outline.requiredChecks at member
    split at member
    next names settled =>
      obtain ⟨part, found, _⟩ := Option.map_eq_some_iff.mp settled
      exact ⟨Option.isSome_of_mem found, List.mem_singleton.mp member⟩
    next => cases member
  obtain ⟨kept, same⟩ := outline_kept object larger sharp (by decide) present
  have settled : (outline graph fuller).required = (outline graph fields).required := by
    change (fuller.keyword? "required").map _ = (fields.keyword? "required").map _
    rw [kept]
  refine ⟨rfl, ?_, same⟩
  rw [Outline.requiredChecks, settled]
  rfl

theorem says_object_sharp (told : Family.object.Says graph mode judge prepare fuller value more) :
    Family.object.Says graph mode judge prepare fields value node := by
  intro entries here
  obtain ⟨each, tally⟩ := told entries here
  refine ⟨fun entry member => runKeyChecks_sharp object larger sharp (each entry member), fun check member => ?_⟩
  rcases List.mem_append.mp member with required | sizes
  · obtain ⟨rfl, names, same⟩ := requiredChecks_kept object larger sharp required
    have passed := tally .required (List.mem_append_left _ (names ▸ required))
    rwa [runTallyCheck, runRequired, same, names] at passed
  · obtain ⟨size, inside, rfl⟩ := List.mem_map.mp sizes
    obtain ⟨again, same⟩ := sizes_kept object larger sharp (by decide) inside
    have passed := tally (.size size) (List.mem_append_right _ (List.mem_map_of_mem again))
    rwa [runTallyCheck, same] at passed

/-- What a family speaks against with fewer keywords, it speaks against with more. -/
theorem says_sharp {family : Family} (told : family.Says graph mode judge prepare fuller value more) :
    family.Says graph mode judge prepare fields value node := by
  cases family with
  | kind => exact says_kind_sharp sharp told
  | object => exact says_object_sharp object larger sharp told
  | number => exact says_number_sharp object larger sharp told
  | text => exact says_text_sharp object larger sharp told
  | array => exact says_array_sharp object larger sharp told
  | boolean => trivial
  | combinators => exact says_combinators_sharp object larger sharp told

end Sharpened

end Keyword

/-- A node with more keywords accepts nothing that the other refuses for its keywords. -/
theorem Graph.Sharpens.accepts (object : graph.shape node = .object fields) (larger : graph.shape more = .object fuller)
    (sharp : graph.Sharpens node more) (allows : graph.TypeAllows more value → graph.TypeAllows node value)
    (compiled : ∃ checks, compileNode graph node = .ok checks) (compiled_more : ∃ checks, compileNode graph more = .ok checks)
    (accepted : graph.evaluate mode value more = .ok ()) : graph.evaluate mode value node = .ok () := by
  obtain ⟨checks, compiled⟩ := compiled
  obtain ⟨longer, compiled_more⟩ := compiled_more
  obtain ⟨typed, told⟩ := (Graph.evaluate_ok_iff larger compiled_more).mp accepted
  exact (Graph.evaluate_ok_iff object compiled).mpr ⟨allows typed, fun family => Keyword.says_sharp object larger sharp (told family)⟩

namespace Validator

/-- A keyword that is added to a node makes it accept nothing new. Only a new property or
pattern may, where the node says something about additional properties. -/
theorem added_keyword_never_loosens (validator : Validator) {key : String} {part : Ref}
    (object : graph.shape validator.schema = .object fields) (lacks : graph.field? validator.schema key = none)
    (added : graph.field? more key = some part)
    (kept : ∀ keyword, keyword ≠ key → graph.field? more keyword = graph.field? validator.schema keyword)
    (loose : key = "properties" ∨ key = "patternProperties" →
      ∀ additional, graph.field? validator.schema "additionalProperties" = some additional → graph.shape additional = .bool true)
    (compiles : graph.Compiles validator.schema) (compiles_more : graph.Compiles more) (tasks works : List Task) (value : Value)
    (passed : (start (Validator.validate ⟨more, validator.settings⟩ graph value)
      (Validator.work ⟨more, validator.settings⟩ graph works .empty)).1 = .ok ()) :
    (start (validator.validate graph value) (validator.work graph tasks .empty)).1 = .ok () := by
  have present : ∀ {keyword part}, graph.field? validator.schema keyword = some part → graph.field? more keyword = some part := by
    intro keyword part found
    have other : keyword ≠ key := by
      rintro rfl
      cases lacks.symm.trans found
    rw [kept keyword other, found]
  have sharp : graph.Sharpens validator.schema more := by
    refine ⟨fun _ found => present found, ?_⟩
    by_cases either : key = "properties" ∨ key = "patternProperties"
    · exact .inl (loose either)
    · rw [not_or] at either
      exact .inr ⟨kept _ (Ne.symm either.1), kept _ (Ne.symm either.2)⟩
  obtain ⟨fuller, larger⟩ : ∃ fuller, graph.shape more = .object fuller := by
    obtain ⟨entries, shaped, _⟩ := Option.bind_eq_some_iff.mp added
    exact ⟨entries, Graph.entries?_eq_some shaped⟩
  rw [validate_work compiles_more] at passed
  rw [validate_work compiles]
  exact sharp.accepts object larger (fun allows part found => allows part (present found)) (compiles _ .refl)
    (compiles_more _ .refl) passed

/-- Arrays of some items, of which the first may be anything, and those of just one item. -/
def itemGraph : Graph :=
  let items : Entries Ref := [(.text "items", .node 2), (.text "minItems", .int 1)]
  ⟨#[.object items, .object (items.set (.text "additionalItems") (.bool false)), .array false [.bool true]]⟩

/-- An array of one item passes with `additionalItems`, and so it does without. One of no items does
not pass without, and so neither with it. -/
theorem added_keyword_never_loosens_items :
    (start (Validator.validate ⟨.node 0, .standard⟩ itemGraph (.array false [.null])) .empty).1 = .ok () ∧
    (start (Validator.validate ⟨.node 1, .standard⟩ itemGraph (.array false [])) .empty).1 ≠ .ok () := by
  have compiles : itemGraph.Compiles (.node 0) := by
    have nodes : itemGraph.preorder (.node 0) = [.node 0, .bool true] := by decide
    rw [Graph.compiles_iff, nodes, List.forall_mem_cons, List.forall_mem_singleton]
    exact ⟨⟨_, rfl⟩, ⟨_, rfl⟩⟩
  have compiles_more : itemGraph.Compiles (.node 1) := by
    have nodes : itemGraph.preorder (.node 1) = [.node 1, .bool false, .bool true] := by decide
    rw [Graph.compiles_iff, nodes, List.forall_mem_cons, List.forall_mem_cons, List.forall_mem_singleton]
    exact ⟨⟨_, rfl⟩, ⟨_, rfl⟩, ⟨_, rfl⟩⟩
  have added : itemGraph.field? (.node 1) "additionalItems" = some (.bool false) := rfl
  have kept : ∀ keyword, keyword ≠ "additionalItems" → itemGraph.field? (.node 1) keyword = itemGraph.field? (.node 0) keyword :=
    fun keyword other => (Table.get?_set _ _ _ _).trans (if_neg fun same => other (Key.text.inj same).symm)
  have tightened := fun value => added_keyword_never_loosens ⟨.node 0, .standard⟩ rfl rfl added kept (by simp) compiles compiles_more
    [] [] value
  constructor
  · apply tightened
    rw [validate_work compiles_more]
    rfl
  · intro passed
    have refused : (start (Validator.validate ⟨.node 0, .standard⟩ itemGraph (.array false [])) .empty).1 =
        .error (.violation (.tooShort "minItems")) := by
      rw [validate_empty itemGraph compiles]
      rfl
    cases refused.symm.trans (tightened _ passed)

end Validator

end LiveSchema
