import LiveSchema.Proofs.Contents
import LiveSchema.Proofs.EqualSchemas
import LiveSchema.Proofs.TypeKeyword
import Mathlib.Data.List.Nodup

/-! Which values a keyword may be declared with. The forms are said without the compiler:
an array of names, a map to schemas, a positive whole number. Compiling a keyword succeeds if
and only if it is not there or has its form, and whether it does is no matter of the others. -/

namespace LiveSchema

/-- A keyword is absent, or is declared with a part of some form. -/
def Entries.Declares (fields : Entries Ref) (keyword : String) (form : Ref → Prop) : Prop :=
  ∀ part, fields.keyword? keyword = some part → form part

def Key.IsPattern (name : Key) : Prop := ∃ source expr, name = .text source ∧ Pattern.read source = .ok expr

namespace Graph

/-- Schemas, any number of them, in an array. -/
def ListsSchemas (graph : Graph) (part : Ref) : Prop :=
  ∃ fixed items, graph.shape part = .array fixed items ∧ ∀ item ∈ items, graph.isSchema item = true

/-- Different texts in an array. -/
def ListsNames (graph : Graph) (part : Ref) : Prop :=
  ∃ fixed items, ∃ names : List String, graph.shape part = .array fixed items ∧
    items.map graph.shape = names.map .text ∧ names.Nodup

def MapsNames (graph : Graph) (name : Key → Prop) (form : Ref → Prop) (part : Ref) : Prop :=
  ∃ entries, graph.shape part = .object entries ∧ ∀ entry ∈ entries, name entry.1 ∧ form entry.2

/-- The name of a type, or an array of at least one, all different. -/
def NamesTypes (graph : Graph) (part : Ref) : Prop :=
  (∃ type : TypeName, graph.shape part = .text type.name) ∨
  ∃ fixed items, ∃ types : List TypeName, graph.shape part = .array fixed items ∧
    items.map graph.shape = types.map (fun type => .text type.name) ∧ types ≠ [] ∧ types.Nodup

/-- A number, and a whole one where only whole numbers will do. -/
def IsOperand (graph : Graph) (whole : Prop) (part : Ref) : Prop :=
  ∃ number, (graph.shape part).number? = some number ∧ (whole → number.isWhole = true)

def IsDivisor (graph : Graph) (whole : Prop) (part : Ref) : Prop :=
  ∃ number, (graph.shape part).number? = some number ∧ (whole → number.isWhole = true) ∧ Number.zero.lt number = true

def IsThreshold (graph : Graph) (part : Ref) : Prop := graph.IsDivisor True part

/-- A boolean that sharpens another bound, or a bound of its own. -/
def IsExclusive (graph : Graph) (part : Ref) : Prop :=
  (∃ flag, graph.shape part = .bool flag) ∨ ∃ number, (graph.shape part).number? = some number

end Graph

/-- An attempt comes to a result. -/
def Succeeds (made : Except ε α) : Prop := ∃ result, made = .ok result

theorem succeeds_ok (result : α) : Succeeds (.ok result : Except ε α) := ⟨result, rfl⟩

theorem not_succeeds_error (error : ε) : ¬ Succeeds (.error error : Except ε α) := by
  rintro ⟨result, made⟩
  cases made

theorem succeeds_bind {first : Except ε α} {rest : α → Except ε β} {later : Prop}
    (each : ∀ result, Succeeds (rest result) ↔ later) : Succeeds (first >>= rest) ↔ Succeeds first ∧ later := by
  cases first with
  | error error => exact iff_of_false (not_succeeds_error error) fun both => not_succeeds_error error both.1
  | ok result => exact (each result).trans (and_iff_right (succeeds_ok result)).symm

theorem succeeds_map {first : Except ε α} (change : α → β) :
    Succeeds (first >>= fun result => pure (change result)) ↔ Succeeds first := by
  cases first with
  | error error => exact iff_of_false (not_succeeds_error error) (not_succeeds_error error)
  | ok result => exact iff_of_true (succeeds_ok _) (succeeds_ok _)

theorem succeeds_mapM {f : α → Except ε β} {items : List α} :
    Succeeds (items.mapM f) ↔ ∀ item ∈ items, Succeeds (f item) := by
  refine ⟨?_, Except.mapM_succeeds⟩
  rintro ⟨results, made⟩ item member
  obtain ⟨result, _, one⟩ := exists_of_forall₂ (Except.mapM_forall₂ made) member
  exact ⟨result, one⟩

theorem succeeds_guard {accepted : Prop} [Decidable accepted] (result : α) (defect : Defect) :
    Succeeds (if accepted then .ok result else reject defect) ↔ accepted := by
  split
  next accepted => exact iff_of_true (succeeds_ok result) accepted
  next refused => exact iff_of_false (not_succeeds_error _) refused

variable {graph : Graph} {fields : Entries Ref} {part : Ref} {keyword : String}

theorem succeeds_guarded {accepted : Prop} [Decidable accepted] {defect : Defect} {rest : Unit → Except Failure α} :
    Succeeds (if accepted then rest () else reject defect >>= rest) ↔ accepted ∧ Succeeds (rest ()) := by
  split
  next accepted => exact (and_iff_right accepted).symm
  next refused => exact iff_of_false (not_succeeds_error _) fun both => refused both.1

/-- A family has its own check, only that of its type, or none. -/
theorem succeeds_chosen {settled typed : Prop} [Decidable settled] [Decidable typed] (own type none : α) :
    Succeeds (if settled then .ok own else if typed then .ok type else .ok none : Except Failure α) := by
  split
  · exact succeeds_ok own
  · split <;> exact succeeds_ok _

namespace Entries

variable {form : Ref → Prop}

theorem declares_absent (absent : fields.keyword? keyword = none) : fields.Declares keyword form := by
  intro part found
  cases absent.symm.trans found

theorem declares_found (found : fields.keyword? keyword = some part) : fields.Declares keyword form ↔ form part := by
  refine ⟨fun forms => forms part found, fun form other again => ?_⟩
  cases found.symm.trans again
  exact form

end Entries

/-- What is made of a keyword succeeds if the keyword is absent or has its form. -/
theorem succeeds_declares {compile : Ref → Except Failure α} {absent : α} {form : Ref → Prop}
    (each : ∀ part, Succeeds (compile part) ↔ form part) :
    Succeeds (match fields.keyword? keyword with
      | none => Except.ok absent
      | some part => compile part) ↔ fields.Declares keyword form := by
  cases found : fields.keyword? keyword with
  | none => exact iff_of_true (succeeds_ok absent) (Entries.declares_absent found)
  | some part => exact (each part).trans (Entries.declares_found found).symm

theorem succeeds_optional {compile : Ref → Except Failure α} {absent : α} {rest : α → Except Failure β} {form : Ref → Prop}
    {later : Prop} (each : ∀ part, Succeeds (compile part) ↔ form part) (rests : ∀ result, Succeeds (rest result) ↔ later) :
    Succeeds (match fields.keyword? keyword with
      | some part => compile part >>= rest
      | none => rest absent) ↔ fields.Declares keyword form ∧ later := by
  cases found : fields.keyword? keyword with
  | none => exact (rests absent).trans (and_iff_right (Entries.declares_absent found)).symm
  | some part => exact (succeeds_bind rests).trans (and_congr_left' ((each part).trans (Entries.declares_found found).symm))

theorem texts_iff {items : List Ref} {names : List String} :
    items.mapM (fun item => (graph.shape item).text?) = some names ↔ items.map graph.shape = names.map .text := by
  induction items generalizing names with
  | nil => cases names <;> simp
  | cons item rest ih =>
    rw [List.mapM_cons]
    constructor
    · intro read
      obtain ⟨name, text, read⟩ := Option.bind_eq_some_iff.mp read
      obtain ⟨others, texts, read⟩ := Option.bind_eq_some_iff.mp read
      cases read
      rw [List.map_cons, List.map_cons, Graph.text?_eq_some text, ih.mp texts]
    · intro same
      cases names with
      | nil => cases same
      | cons name others =>
        obtain ⟨text, texts⟩ := List.cons.inj same
        rw [text, Shape.text?, ih.mpr texts]
        rfl

namespace Keyword

theorem schemaMap?_iff {entries : Entries Ref} : schemaMap? graph part = some entries ↔
    graph.shape part = .object entries ∧ ∀ entry ∈ entries, graph.isSchema entry.2 = true := by
  refine ⟨schemaMap?_eq_some, ?_⟩
  rintro ⟨shaped, schemas⟩
  rw [schemaMap?, shaped, Shape.entries?, Option.bind_eq_bind, Option.bind_some, if_pos (List.all_eq_true.mpr schemas)]
  rfl

theorem not_mapsNames {name : Key → Prop} (unmapped : schemaMap? graph part = none) :
    ¬ graph.MapsNames name (fun schema => graph.isSchema schema = true) part := by
  rintro ⟨entries, shaped, forms⟩
  cases unmapped.symm.trans (schemaMap?_iff.mpr ⟨shaped, fun entry member => (forms entry member).2⟩)

theorem distinctTexts?_iff {names : List String} : distinctTexts? graph part = some names ↔
    ∃ fixed items, graph.shape part = .array fixed items ∧ items.map graph.shape = names.map .text ∧ names.Nodup := by
  constructor
  · intro read
    obtain ⟨items, listed, read⟩ := Option.bind_eq_some_iff.mp read
    obtain ⟨others, texts, read⟩ := Option.bind_eq_some_iff.mp read
    split at read
    next distinct =>
      cases read
      obtain ⟨fixed, shaped⟩ := Graph.items?_eq_some listed
      exact ⟨fixed, items, shaped, texts_iff.mp texts, distinct⟩
    next => cases read
  · rintro ⟨fixed, items, shaped, texts, distinct⟩
    rw [distinctTexts?, shaped, Shape.items?, Option.bind_eq_bind, Option.bind_some, texts_iff.mpr texts, Option.bind_eq_bind,
      Option.bind_some, if_pos distinct]
    rfl

theorem distinctTexts?_isSome : (distinctTexts? graph part).isSome = true ↔ graph.ListsNames part := by
  simp only [Option.isSome_iff_exists, distinctTexts?_iff, Graph.ListsNames]
  constructor
  · rintro ⟨names, fixed, items, lists⟩
    exact ⟨fixed, items, names, lists⟩
  · rintro ⟨fixed, items, names, lists⟩
    exact ⟨names, fixed, items, lists⟩

theorem compileSize_succeeds {direction : Direction} :
    Succeeds (SizeCheck.compile? graph fields keyword direction) ↔ fields.Declares keyword graph.IsThreshold := by
  unfold SizeCheck.compile?
  apply succeeds_declares
  intro part
  simp only [succeeds_map, SizeCheck.make, succeeds_guard, SizeCheck.accepts, Bool.and_eq_true, Shape.isInteger,
    Option.any_eq_true]
  constructor
  · rintro ⟨⟨number, read, whole⟩, other, again, positive⟩
    cases read.symm.trans again
    exact ⟨number, read, fun _ => whole, positive⟩
  · rintro ⟨number, read, whole, positive⟩
    exact ⟨⟨number, read, whole trivial⟩, number, read, positive⟩

section Objects

theorem compileProperties_succeeds : Succeeds (compileProperties graph fields) ↔
    fields.Declares "properties" (graph.MapsNames (fun _ => True) fun schema => graph.isSchema schema = true) := by
  unfold compileProperties
  apply succeeds_declares
  intro part
  cases mapped : schemaMap? graph part with
  | some entries =>
    obtain ⟨shaped, schemas⟩ := schemaMap?_eq_some mapped
    exact iff_of_true (succeeds_ok _) ⟨entries, shaped, fun entry member => ⟨trivial, schemas entry member⟩⟩
  | none => exact iff_of_false (not_succeeds_error _) (not_mapsNames mapped)

theorem compilePattern_succeeds {source : String} :
    Succeeds (compilePattern keyword source) ↔ ∃ expr, Pattern.read source = .ok expr := by
  have made : Succeeds (Pattern.compile source) ↔ ∃ expr, Pattern.read source = .ok expr := by
    unfold Pattern.compile
    split
    next expr reads => exact iff_of_true (succeeds_ok _) ⟨expr, reads⟩
    next refusal reads =>
      refine iff_of_false (not_succeeds_error _) ?_
      rintro ⟨expr, read⟩
      cases reads.symm.trans read
  rw [← made]
  unfold compilePattern
  cases Pattern.compile source with
  | ok pattern => exact iff_of_true (succeeds_ok _) (succeeds_ok _)
  | error refusal => cases refusal <;> exact iff_of_false (not_succeeds_error _) (not_succeeds_error _)

theorem compileEntryPattern_succeeds {name : Key} : Succeeds (compileEntryPattern name) ↔ name.IsPattern := by
  cases name with
  | text source =>
    refine compilePattern_succeeds.trans ⟨?_, ?_⟩
    · rintro ⟨expr, read⟩
      exact ⟨source, expr, rfl, read⟩
    · rintro ⟨_, expr, ⟨⟩, read⟩
      exact ⟨expr, read⟩
  | int value =>
    refine iff_of_false ?_ ?_
    · rintro ⟨pattern, compiled⟩
      obtain ⟨_, _, rejected⟩ := Except.bind_ok compiled
      cases rejected
    · rintro ⟨source, expr, ⟨⟩, _⟩

theorem compilePatternProperties_succeeds : Succeeds (compilePatternProperties graph fields) ↔
    fields.Declares "patternProperties" (graph.MapsNames Key.IsPattern fun schema => graph.isSchema schema = true) := by
  unfold compilePatternProperties
  apply succeeds_declares
  intro part
  cases mapped : schemaMap? graph part with
  | some entries =>
    obtain ⟨shaped, schemas⟩ := schemaMap?_eq_some mapped
    simp only [succeeds_map, succeeds_mapM, compileEntryPattern_succeeds]
    constructor
    · exact fun patterns => ⟨entries, shaped, fun entry member => ⟨patterns entry member, schemas entry member⟩⟩
    · rintro ⟨others, again, forms⟩ entry member
      cases shaped.symm.trans again
      exact (forms entry member).1
  | none => exact iff_of_false (not_succeeds_error _) (not_mapsNames mapped)

theorem compileAdditional_succeeds : Succeeds (compileAdditional graph fields) ↔
    fields.Declares "additionalProperties" fun part => graph.isSchema part = true := by
  unfold compileAdditional
  apply succeeds_declares
  intro part
  unfold Graph.isSchema
  cases graph.shape part with
  | object entries => exact iff_of_true (succeeds_ok _) rfl
  | bool flag => cases flag <;> exact iff_of_true (succeeds_ok _) rfl
  | null | number | text | bytes | array => exact iff_of_false (not_succeeds_error _) Bool.false_ne_true

theorem compileDependencies_succeeds : Succeeds (compileDependencies graph fields) ↔
    fields.Declares "dependencies" (graph.MapsNames (fun _ => True) fun part =>
      graph.isSchema part = true ∨ graph.ListsNames part) := by
  unfold compileDependencies
  apply succeeds_declares
  intro part
  cases listed : (graph.shape part).entries? with
  | some entries =>
    have shaped := Graph.entries?_eq_some listed
    dsimp only
    rw [succeeds_guard, List.all_eq_true]
    simp only [isDependency, Bool.or_eq_true, distinctTexts?_isSome]
    constructor
    · exact fun forms => ⟨entries, shaped, fun entry member => ⟨trivial, forms entry member⟩⟩
    · rintro ⟨others, again, forms⟩ entry member
      cases shaped.symm.trans again
      exact (forms entry member).2
  | none =>
    refine iff_of_false (not_succeeds_error _) ?_
    rintro ⟨entries, shaped, _⟩
    rw [shaped] at listed
    cases listed

theorem compilePropertyNames_succeeds : Succeeds (compilePropertyNames graph fields) ↔
    fields.Declares "propertyNames" fun part => graph.isSchema part = true := by
  unfold compilePropertyNames
  exact succeeds_declares fun part => succeeds_guard _ _

theorem compileRequired_succeeds : Succeeds (compileRequired graph fields) ↔ fields.Declares "required" graph.ListsNames := by
  unfold compileRequired
  apply succeeds_declares
  intro part
  rw [succeeds_map, ← distinctTexts?_isSome]
  unfold requiredNames distinctTexts?
  cases (graph.shape part).items? with
  | none => exact iff_of_false (not_succeeds_error _) Bool.false_ne_true
  | some items =>
    rw [Option.bind_eq_bind, Option.bind_some]
    dsimp only
    cases items.mapM fun item => (graph.shape item).text? with
    | none => exact iff_of_false (not_succeeds_error _) Bool.false_ne_true
    | some names =>
      rw [Option.bind_eq_bind, Option.bind_some]
      dsimp only
      split
      · exact iff_of_true (succeeds_ok _) rfl
      · exact iff_of_false (not_succeeds_error _) Bool.false_ne_true

/-- The keywords of objects are as they should be. -/
structure ObjectForms (graph : Graph) (fields : Entries Ref) : Prop where
  properties : fields.Declares "properties" (graph.MapsNames (fun _ => True) fun schema => graph.isSchema schema = true)
  patternProperties : fields.Declares "patternProperties" (graph.MapsNames Key.IsPattern fun schema =>
    graph.isSchema schema = true)
  additionalProperties : fields.Declares "additionalProperties" fun part => graph.isSchema part = true
  dependencies : fields.Declares "dependencies" (graph.MapsNames (fun _ => True) fun part =>
    graph.isSchema part = true ∨ graph.ListsNames part)
  propertyNames : fields.Declares "propertyNames" fun part => graph.isSchema part = true
  required : fields.Declares "required" graph.ListsNames
  maxProperties : fields.Declares "maxProperties" graph.IsThreshold
  minProperties : fields.Declares "minProperties" graph.IsThreshold

theorem compileObject_succeeds : Succeeds (compileObject graph fields) ↔ ObjectForms graph fields := by
  have all : Succeeds (compileObject graph fields) ↔ _ :=
    succeeds_bind fun properties => succeeds_bind fun patterns => succeeds_bind fun additional =>
      succeeds_bind fun dependencies => succeeds_bind fun names => succeeds_bind fun required => succeeds_bind fun longest =>
        succeeds_bind fun shortest => iff_true_intro (succeeds_chosen _ _ _)
  rw [all, compileProperties_succeeds, compilePatternProperties_succeeds, compileAdditional_succeeds,
    compileDependencies_succeeds, compilePropertyNames_succeeds, compileRequired_succeeds, compileSize_succeeds,
    compileSize_succeeds]
  constructor
  · rintro ⟨properties, patterns, additional, dependencies, names, required, longest, shortest, _⟩
    exact ⟨properties, patterns, additional, dependencies, names, required, longest, shortest⟩
  · rintro ⟨properties, patterns, additional, dependencies, names, required, longest, shortest⟩
    exact ⟨properties, patterns, additional, dependencies, names, required, longest, shortest, trivial⟩

end Objects

section Numbers

theorem isOperand_iff {whole : Bool} : isOperand whole (graph.shape part) = true ↔ graph.IsOperand (whole = true) part := by
  cases whole with
  | true => simp [isOperand, Graph.IsOperand, Shape.isInteger, Option.any_eq_true]
  | false => simp [isOperand, Graph.IsOperand, Shape.isNumber, Option.isSome_iff_exists]

theorem isExclusive_iff : ((graph.shape part).isNumber || (graph.shape part).isBool) = true ↔ graph.IsExclusive part := by
  rw [Bool.or_eq_true, or_comm]
  refine or_congr ?_ Option.isSome_iff_exists
  cases graph.shape part <;> simp [Shape.isBool]

theorem checkBound_succeeds {whole : Bool} {exclusive : String} : Succeeds (checkBound graph fields whole keyword exclusive) ↔
    fields.Declares keyword fun bound => graph.IsOperand (whole = true) bound ∧ fields.Declares exclusive graph.IsExclusive := by
  unfold checkBound
  cases found : fields.keyword? keyword with
  | none => exact iff_of_true (succeeds_ok ()) (Entries.declares_absent found)
  | some bound =>
    rw [Entries.declares_found found]
    refine succeeds_guarded.trans (and_congr isOperand_iff ?_)
    cases sharpened : fields.keyword? exclusive with
    | none => exact iff_of_true (succeeds_ok ()) (Entries.declares_absent sharpened)
    | some modifier => exact (succeeds_guard () _).trans (isExclusive_iff.trans (Entries.declares_found sharpened).symm)

theorem checkExclusive_succeeds : Succeeds (checkExclusive graph fields keyword) ↔ fields.Declares keyword graph.IsExclusive := by
  unfold checkExclusive
  cases found : fields.keyword? keyword with
  | none => exact iff_of_true (succeeds_ok ()) (Entries.declares_absent found)
  | some bound => exact (succeeds_guard () _).trans (isExclusive_iff.trans (Entries.declares_found found).symm)

theorem checkMultipleOf_succeeds {whole : Bool} : Succeeds (checkMultipleOf graph fields whole) ↔
    fields.Declares "multipleOf" (graph.IsDivisor (whole = true)) := by
  unfold checkMultipleOf
  cases found : fields.keyword? "multipleOf" with
  | none => exact iff_of_true (succeeds_ok ()) (Entries.declares_absent found)
  | some divisor =>
    rw [Entries.declares_found found]
    refine (succeeds_guarded.trans (and_congr isOperand_iff (succeeds_guard () _))).trans ?_
    rw [Option.any_eq_true]
    constructor
    · rintro ⟨⟨number, read, fits⟩, other, again, positive⟩
      cases read.symm.trans again
      exact ⟨number, read, fits, positive⟩
    · rintro ⟨number, read, fits, positive⟩
      exact ⟨⟨number, read, fits⟩, number, read, positive⟩

/-- Bounds and divisors are whole where the one type of the node is that of whole numbers. -/
structure NumberForms (graph : Graph) (fields : Entries Ref) (whole : Prop) : Prop where
  maximum : fields.Declares "maximum" (graph.IsOperand whole)
  minimum : fields.Declares "minimum" (graph.IsOperand whole)
  exclusiveMaximum : fields.Declares "exclusiveMaximum" graph.IsExclusive
  exclusiveMinimum : fields.Declares "exclusiveMinimum" graph.IsExclusive
  multipleOf : fields.Declares "multipleOf" (graph.IsDivisor whole)

theorem compileNumber_succeeds : Succeeds (compileNumber graph fields) ↔
    NumberForms graph fields (graph.hasType (fields.keyword? "type") "integer" = true) := by
  have all : Succeeds (compileNumber graph fields) ↔ _ :=
    succeeds_bind fun maximum => succeeds_bind fun minimum => succeeds_bind fun above => succeeds_bind fun below =>
      succeeds_bind fun multiple => iff_true_intro (succeeds_chosen _ _ _)
  rw [all, checkBound_succeeds, checkBound_succeeds, checkExclusive_succeeds, checkExclusive_succeeds, checkMultipleOf_succeeds]
  constructor
  · rintro ⟨maximum, minimum, above, below, multiple, _⟩
    exact ⟨fun part found => (maximum part found).1, fun part found => (minimum part found).1, above, below, multiple⟩
  · rintro ⟨maximum, minimum, above, below, multiple⟩
    exact ⟨fun part found => ⟨maximum part found, above⟩, fun part found => ⟨minimum part found, below⟩, above, below,
      multiple, trivial⟩

end Numbers

structure TextForms (graph : Graph) (fields : Entries Ref) : Prop where
  maxLength : fields.Declares "maxLength" graph.IsThreshold
  minLength : fields.Declares "minLength" graph.IsThreshold
  pattern : fields.Declares "pattern" fun part => ∃ source expr, graph.shape part = .text source ∧ Pattern.read source = .ok expr

theorem compilePatternKeyword_succeeds : Succeeds (compilePatternKeyword graph fields) ↔
    fields.Declares "pattern" fun part => ∃ source expr, graph.shape part = .text source ∧ Pattern.read source = .ok expr := by
  unfold compilePatternKeyword
  apply succeeds_declares
  intro part
  cases graph.shape part with
  | text source =>
    dsimp only
    rw [succeeds_map, compilePattern_succeeds]
    simp only [Shape.text.injEq, exists_and_left, exists_eq_left']
  | null | bool | number | bytes | array | object =>
    refine iff_of_false (not_succeeds_error _) ?_
    rintro ⟨_, _, impossible, _⟩
    cases impossible

theorem compileText_succeeds : Succeeds (compileText graph fields) ↔ TextForms graph fields := by
  have all : Succeeds (compileText graph fields) ↔ _ :=
    succeeds_bind fun longest => succeeds_bind fun shortest => succeeds_bind fun pattern =>
      iff_true_intro (succeeds_chosen _ _ _)
  rw [all, compileSize_succeeds, compileSize_succeeds, compilePatternKeyword_succeeds]
  constructor
  · rintro ⟨longest, shortest, pattern, _⟩
    exact ⟨longest, shortest, pattern⟩
  · rintro ⟨longest, shortest, pattern⟩
    exact ⟨longest, shortest, pattern, trivial⟩

section Arrays

theorem areSchemas_of_shape {fixed : Bool} {items : List Ref} (shaped : graph.shape part = .array fixed items) :
    areSchemas graph items = true ↔ graph.ListsSchemas part := by
  rw [areSchemas_iff]
  constructor
  · exact fun schemas => ⟨fixed, items, shaped, schemas⟩
  · rintro ⟨_, others, again, schemas⟩
    cases shaped.symm.trans again
    exact schemas

theorem compileItems_succeeds : Succeeds (compileItems graph part) ↔ graph.isSchema part = true ∨ graph.ListsSchemas part := by
  unfold compileItems
  split
  next single => exact iff_of_true (succeeds_ok _) (.inl single)
  next several =>
    rw [or_iff_right several]
    cases listed : (graph.shape part).items? with
    | some items =>
      obtain ⟨fixed, shaped⟩ := Graph.items?_eq_some listed
      exact (succeeds_guard _ _).trans (areSchemas_of_shape shaped)
    | none =>
      refine iff_of_false (not_succeeds_error _) ?_
      rintro ⟨fixed, items, shaped, _⟩
      rw [shaped] at listed
      cases listed

theorem compileContains_succeeds : Succeeds (compileContains graph fields) ↔
    fields.Declares "contains" fun part => graph.isSchema part = true := by
  unfold compileContains
  exact succeeds_declares fun part => succeeds_guard _ _

theorem compileUnique_succeeds : Succeeds (compileUnique graph fields) ↔
    fields.Declares "uniqueItems" fun part => ∃ flag, graph.shape part = .bool flag := by
  unfold compileUnique
  apply succeeds_declares
  intro part
  cases graph.shape part with
  | bool flag => cases flag <;> exact iff_of_true (succeeds_ok _) ⟨_, rfl⟩
  | null | number | text | bytes | array | object =>
    refine iff_of_false (not_succeeds_error _) ?_
    rintro ⟨_, impossible⟩
    cases impossible

structure ArrayForms (graph : Graph) (fields : Entries Ref) : Prop where
  items : fields.Declares "items" fun part => graph.isSchema part = true ∨ graph.ListsSchemas part
  additionalItems : fields.Declares "additionalItems" fun part => graph.isSchema part = true
  contains : fields.Declares "contains" fun part => graph.isSchema part = true
  uniqueItems : fields.Declares "uniqueItems" fun part => ∃ flag, graph.shape part = .bool flag
  maxItems : fields.Declares "maxItems" graph.IsThreshold
  minItems : fields.Declares "minItems" graph.IsThreshold

theorem compileArray_succeeds : Succeeds (compileArray graph fields) ↔ ArrayForms graph fields := by
  have all : Succeeds (compileArray graph fields) ↔ _ :=
    succeeds_guarded.trans (and_congr_right fun _ => succeeds_optional (fun part => succeeds_map some) fun items =>
      succeeds_bind fun contains => succeeds_bind fun unique => succeeds_bind fun longest => succeeds_bind fun shortest =>
        iff_true_intro (succeeds_chosen _ _ _))
  simp only [compileItems_succeeds] at all
  rw [all, compileContains_succeeds, compileUnique_succeeds, compileSize_succeeds, compileSize_succeeds, Option.all_eq_true]
  constructor
  · rintro ⟨additional, items, contains, unique, longest, shortest, _⟩
    exact ⟨items, additional, contains, unique, longest, shortest⟩
  · rintro ⟨items, additional, contains, unique, longest, shortest⟩
    exact ⟨additional, items, contains, unique, longest, shortest, trivial⟩

end Arrays

section Combinators

/-- At least one schema in an array. -/
def ListsMembers (graph : Graph) (part : Ref) : Prop :=
  ∃ fixed items, graph.shape part = .array fixed items ∧ items ≠ [] ∧ ∀ item ∈ items, graph.isSchema item = true

theorem checkMembers_succeeds : Succeeds (checkMembers graph fields keyword) ↔ fields.Declares keyword (ListsMembers graph) := by
  unfold checkMembers
  cases found : fields.keyword? keyword with
  | none => exact iff_of_true (succeeds_ok ()) (Entries.declares_absent found)
  | some members =>
    rw [Entries.declares_found found]
    dsimp only
    cases listed : (graph.shape members).items? with
    | none =>
      refine iff_of_false (not_succeeds_error _) ?_
      rintro ⟨fixed, items, shaped, _⟩
      rw [shaped] at listed
      cases listed
    | some items =>
      obtain ⟨fixed, shaped⟩ := Graph.items?_eq_some listed
      cases items with
      | nil =>
        refine iff_of_false (not_succeeds_error _) ?_
        rintro ⟨_, others, again, some, _⟩
        cases shaped.symm.trans again
        exact some rfl
      | cons first rest =>
        refine (succeeds_guard () _).trans (areSchemas_iff.trans ⟨?_, ?_⟩)
        · exact fun schemas => ⟨fixed, _, shaped, List.cons_ne_nil _ _, schemas⟩
        · rintro ⟨_, others, again, _, schemas⟩
          cases shaped.symm.trans again
          exact schemas

theorem compileNot_succeeds : Succeeds (compileNot graph fields) ↔
    fields.Declares "not" fun part => graph.isSchema part = true := by
  unfold compileNot
  exact succeeds_declares fun part => succeeds_guard _ _

structure CombinatorForms (graph : Graph) (fields : Entries Ref) : Prop where
  allOf : fields.Declares "allOf" (ListsMembers graph)
  anyOf : fields.Declares "anyOf" (ListsMembers graph)
  oneOf : fields.Declares "oneOf" (ListsMembers graph)
  not : fields.Declares "not" fun part => graph.isSchema part = true

theorem compileCombinators_succeeds : Succeeds (compileCombinators graph fields) ↔ CombinatorForms graph fields := by
  have all : Succeeds (compileCombinators graph fields) ↔ _ :=
    succeeds_bind fun all => succeeds_bind fun any => succeeds_bind fun one => succeeds_map _
  rw [all, checkMembers_succeeds, checkMembers_succeeds, checkMembers_succeeds, compileNot_succeeds]
  constructor
  · rintro ⟨all, any, one, negation⟩
    exact ⟨all, any, one, negation⟩
  · rintro ⟨all, any, one, negation⟩
    exact ⟨all, any, one, negation⟩

end Combinators

section Kinds

theorem unknownName?_iff {names : List String} :
    unknownName? names = none ↔ ∃ types : List TypeName, names = types.map TypeName.name := by
  simp only [unknownName?, List.find?_eq_none, Bool.not_eq_true, Option.isNone_eq_false_iff, Option.isSome_iff_exists]
  constructor
  · intro known
    induction names with
    | nil => exact ⟨[], rfl⟩
    | cons name rest ih =>
      obtain ⟨type, found⟩ := known name List.mem_cons_self
      obtain ⟨types, rfl⟩ := ih fun other later => known other (List.mem_cons_of_mem _ later)
      exact ⟨type :: types, by rw [List.map_cons, TypeName.name_of_ofName? found]⟩
  · rintro ⟨types, rfl⟩ name member
    obtain ⟨type, _, rfl⟩ := List.mem_map.mp member
    exact ⟨type, type.ofName?_name⟩

/-- Different names of types are names of different types. -/
theorem distinctTypes_iff : (∃ names, distinctTexts? graph part = some names ∧ names ≠ [] ∧ unknownName? names = none) ↔
    ∃ fixed items, ∃ types : List TypeName, graph.shape part = .array fixed items ∧
      items.map graph.shape = types.map (fun type => .text type.name) ∧ types ≠ [] ∧ types.Nodup := by
  simp only [distinctTexts?_iff, unknownName?_iff]
  constructor
  · rintro ⟨_, ⟨fixed, items, shaped, texts, distinct⟩, some, types, rfl⟩
    refine ⟨fixed, items, types, shaped, texts.trans List.map_map, fun none => some (congrArg _ none), distinct.of_map _⟩
  · rintro ⟨fixed, items, types, shaped, texts, some, distinct⟩
    refine ⟨types.map TypeName.name, ⟨fixed, items, shaped, texts.trans List.map_map.symm, ?_⟩, ?_, types, rfl⟩
    · exact distinct.map fun _ _ => TypeName.name_injective
    · exact fun none => some (List.map_eq_nil_iff.mp none)

theorem compileType_succeeds : Succeeds (compileType graph part) ↔ graph.NamesTypes part := by
  unfold compileType
  split
  next name shaped =>
    cases known : TypeName.ofName? name with
    | none =>
      refine iff_of_false (not_succeeds_error _) ?_
      rintro (⟨type, named⟩ | ⟨_, _, _, array, _⟩)
      · cases shaped.symm.trans named
        cases known.symm.trans type.ofName?_name
      · cases shaped.symm.trans array
    | some type =>
      refine iff_of_true ?_ (.inl ⟨type, by rw [shaped, TypeName.name_of_ofName? known]⟩)
      cases type <;> exact succeeds_ok _
  next other =>
    refine Iff.trans ?_ (or_iff_right fun ⟨type, named⟩ => other _ named).symm
    rw [← distinctTypes_iff]
    split
    next unread =>
      refine iff_of_false (not_succeeds_error _) ?_
      rintro ⟨names, read, _⟩
      cases unread.symm.trans read
    next read =>
      refine iff_of_false (not_succeeds_error _) ?_
      rintro ⟨names, again, some, _⟩
      cases read.symm.trans again
      exact some rfl
    next names some read =>
      cases known : unknownName? names with
      | none => exact iff_of_true (succeeds_ok _) ⟨names, read, some, known⟩
      | some name =>
        refine iff_of_false (not_succeeds_error _) ?_
        rintro ⟨others, again, _, all⟩
        cases read.symm.trans again
        cases known.symm.trans all

/-- At least one value in an array. -/
def ListsSome (graph : Graph) (part : Ref) : Prop := ∃ fixed items, graph.shape part = .array fixed items ∧ items ≠ []

theorem comparedForm_succeeds {value : Option Value} : Succeeds (comparedForm value) ↔ value.isSome = true := by
  cases value with
  | none => exact iff_of_false (not_succeeds_error _) Bool.false_ne_true
  | some value => exact iff_of_true (succeeds_ok _) rfl

theorem memberForms_succeeds {fixed : Bool} {items : List Ref} (shaped : graph.shape part = .array fixed items) :
    Succeeds (memberForms graph part) ↔ ∀ item ∈ items, ¬ graph.HoldsLoop item := by
  have members : graph.members part = .ok (items.map .node) := by simp only [Graph.members, shaped]
  rw [memberForms, members]
  refine succeeds_mapM.trans ?_
  simp only [List.forall_mem_map, comparedForm_succeeds, Graph.memberValue?, Graph.value?_isSome_iff]

theorem compileEnum_succeeds : Succeeds (compileEnum graph part) ↔
    ListsSome graph part ∧ ∀ member ∈ (graph.shape part).parts, ¬ graph.HoldsLoop member := by
  unfold compileEnum
  split
  next fixed first rest shaped =>
    rw [succeeds_map, memberForms_succeeds shaped, shaped]
    exact (and_iff_right ⟨fixed, _, shaped, List.cons_ne_nil _ _⟩).symm
  next other =>
    refine iff_of_false (not_succeeds_error _) ?_
    rintro ⟨⟨fixed, items, shaped, some⟩, _⟩
    obtain ⟨first, rest, rfl⟩ := List.exists_cons_of_ne_nil some
    exact other fixed first rest shaped

structure KindForms (graph : Graph) (fields : Entries Ref) : Prop where
  type : fields.Declares "type" graph.NamesTypes
  enum : fields.Declares "enum" (ListsSome graph)

theorem compileKind_succeeds : Succeeds (compileKind graph fields) ↔ KindForms graph fields ∧
    fields.Declares "enum" fun part => ∀ member ∈ (graph.shape part).parts, ¬ graph.HoldsLoop member := by
  have all : Succeeds (compileKind graph fields) ↔ _ :=
    succeeds_optional (fun part => compileType_succeeds) fun type =>
      succeeds_optional (fun part => compileEnum_succeeds) fun enum => iff_true_intro (succeeds_ok _)
  rw [all]
  constructor
  · rintro ⟨type, enum, _⟩
    exact ⟨⟨type, fun part found => (enum part found).1⟩, fun part found => (enum part found).2⟩
  · rintro ⟨⟨type, enum⟩, loopless⟩
    exact ⟨type, fun part found => ⟨enum part found, loopless part found⟩, trivial⟩

end Kinds

end Keyword
end LiveSchema
