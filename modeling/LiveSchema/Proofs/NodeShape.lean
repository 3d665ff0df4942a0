import LiveSchema.Node
import LiveSchema.Proofs.Reachability
import Mathlib.Data.List.Forall2

/-! What the checks of a node read. A node that compiles has every keyword its
checks will ask for, in a shape they can work on. -/

namespace LiveSchema

theorem Except.bind_ok {first : Except ε α} {rest : α → Except ε β} {result : β}
    (ended : first >>= rest = .ok result) : ∃ middle, first = .ok middle ∧ rest middle = .ok result := by
  cases first with
  | error failure => cases ended
  | ok middle => exact ⟨middle, rfl, ended⟩

theorem Except.mapM_forall₂ {f : α → Except ε β} {items : List α} {results : List β}
    (mapped : items.mapM f = .ok results) : List.Forall₂ (fun item result => f item = .ok result) items results := by
  induction items generalizing results with
  | nil => cases mapped; exact .nil
  | cons item rest ih =>
    rw [List.mapM_cons] at mapped
    obtain ⟨first, made, mapped⟩ := bind_ok mapped
    obtain ⟨others, rests, mapped⟩ := bind_ok mapped
    cases mapped
    exact .cons made (ih rests)

theorem Option.mapM_forall₂ {f : α → Option β} {items : List α} {results : List β}
    (mapped : items.mapM f = some results) : List.Forall₂ (fun item result => f item = some result) items results := by
  induction items generalizing results with
  | nil => cases mapped; exact .nil
  | cons item rest ih =>
    rw [List.mapM_cons] at mapped
    obtain ⟨first, made, mapped⟩ := Option.bind_eq_some_iff.mp mapped
    obtain ⟨others, rests, mapped⟩ := Option.bind_eq_some_iff.mp mapped
    cases mapped
    exact .cons made (ih rests)

theorem exists_of_forall₂ {relates : α → β → Prop} {items : List α} {results : List β}
    (related : List.Forall₂ relates items results) {item : α} (member : item ∈ items) :
    ∃ result ∈ results, relates item result := by
  induction related with
  | nil => cases member
  | cons first _ ih =>
    rcases List.mem_cons.mp member with rfl | later
    · exact ⟨_, by simp, first⟩
    · obtain ⟨result, inside, holds⟩ := ih later
      exact ⟨result, List.mem_cons_of_mem _ inside, holds⟩

namespace Graph

variable {graph : Graph} {node : Ref}

def HoldsSchema (graph : Graph) (node : Ref) (keyword : String) : Prop :=
  ∃ schema, graph.field? node keyword = some schema ∧ graph.isSchema schema = true

def HoldsItems (graph : Graph) (node : Ref) (keyword : String) (fits : Ref → Prop) : Prop :=
  ∃ part fixed items, graph.field? node keyword = some part ∧
    graph.shape part = .array fixed items ∧ ∀ item ∈ items, fits item

def HoldsEntries (graph : Graph) (node : Ref) (keyword : String) (fits : Key × Ref → Prop) : Prop :=
  ∃ part entries, graph.field? node keyword = some part ∧
    graph.shape part = .object entries ∧ ∀ entry ∈ entries, fits entry

/-- The `properties` keyword can be looked into if there is one. -/
def ReadsProperties (graph : Graph) (node : Ref) : Prop :=
  ∀ part, graph.field? node "properties" = some part → ∃ entries, graph.shape part = .object entries

theorem items?_eq_some {part : Ref} {items : List Ref} (found : (graph.shape part).items? = some items) :
    ∃ fixed, graph.shape part = .array fixed items := by
  cases shaped : graph.shape part <;> simp only [shaped, Shape.items?] at found
  case array fixed others => cases found; exact ⟨fixed, rfl⟩
  all_goals cases found

theorem entries?_eq_some {part : Ref} {entries : Entries Ref}
    (found : (graph.shape part).entries? = some entries) : graph.shape part = .object entries := by
  cases shaped : graph.shape part <;> simp only [shaped, Shape.entries?] at found
  case object others => cases found; rfl
  all_goals cases found

theorem text?_eq_some {part : Ref} {text : String} (found : (graph.shape part).text? = some text) :
    graph.shape part = .text text := by
  cases shaped : graph.shape part <;> simp only [shaped, Shape.text?] at found
  case text other => cases found; rfl
  all_goals cases found

end Graph

/-- The threshold of a check is there and can be compared. -/
def SizeCheck.Fits (graph : Graph) (node : Ref) (check : SizeCheck) : Prop :=
  ∃ threshold limit, graph.field? node check.keyword = some threshold ∧
    (graph.shape threshold).ordered? = some limit

def KeyCheck.Fits (graph : Graph) (node : Ref) : KeyCheck → Prop
  | .properties => graph.HoldsEntries node "properties" fun _ => True
  | .patternProperties _ => graph.HoldsEntries node "patternProperties" fun entry =>
      graph.isSchema entry.2 = true ∧ ∃ pattern, Keyword.compileEntryPattern entry.1 = .ok pattern
  | .additionalSchema => graph.HoldsSchema node "additionalProperties" ∧ graph.ReadsProperties node
  | .noAdditional => graph.ReadsProperties node
  | .dependencies => graph.HoldsEntries node "dependencies" fun entry =>
      Keyword.isDependency graph entry.2 = true
  | .propertyNames => graph.HoldsSchema node "propertyNames"

def TallyCheck.Fits (graph : Graph) (node : Ref) : TallyCheck → Prop
  | .required => graph.HoldsItems node "required" fun _ => True
  | .size check => check.Fits graph node

def ItemCheck.Fits (graph : Graph) (node : Ref) : ItemCheck → Prop
  | .every => graph.HoldsSchema node "items"
  | .positional => graph.HoldsItems node "items" fun item => graph.isSchema item = true

def ArrayCheck.Fits (graph : Graph) (node : Ref) : ArrayCheck → Prop
  | .contains => graph.HoldsSchema node "contains"
  | .unique => True
  | .size check => check.Fits graph node

def TextCheck.Fits (graph : Graph) (node : Ref) : TextCheck → Prop
  | .size check => check.Fits graph node
  | .pattern _ => ∃ part source pattern, graph.field? node "pattern" = some part ∧
      graph.shape part = .text source ∧ Pattern.compile source = .ok pattern

/-- The live node has what a check reads, in the shape the check wants. -/
def Check.Fits (graph : Graph) (node : Ref) : Check → Prop
  | .null | .isObject | .isText | .isArray | .isBoolean => True
  | .types => graph.HoldsItems node "type" fun item =>
      ∃ name type, graph.shape item = .text name ∧ TypeName.ofName? name = some type
  | .enum memo => graph.field? node "enum" = some memo.source ∧
      Keyword.memberForms graph memo.source = .ok memo.allowed
  | .const => ∃ part, graph.field? node "const" = some part
  | .object entries _ tally =>
    (∀ check ∈ entries, check.Fits graph node) ∧ ∀ check ∈ tally, check.Fits graph node
  | .number _ => ∀ part divisor, graph.field? node "multipleOf" = some part →
      (graph.shape part).number? = some divisor → Number.zero.lt divisor = true
  | .isNumber _ => ∃ part name, graph.field? node "type" = some part ∧ graph.shape part = .text name
  | .text checks => ∀ check ∈ checks, check.Fits graph node
  | .array items all =>
    (∀ check ∈ items, check.Fits graph node) ∧ ∀ check ∈ all, check.Fits graph node
  | .allOf => graph.HoldsItems node "allOf" fun item => graph.isSchema item = true
  | .anyOf => graph.HoldsItems node "anyOf" fun item => graph.isSchema item = true
  | .oneOf => graph.HoldsItems node "oneOf" fun item => graph.isSchema item = true
  | .not => graph.HoldsSchema node "not"

section Compile

variable {graph : Graph} {node : Ref} {fields : Entries Ref}

theorem Keyword.present_of_mem {keyword : String} {compile : Ref → Except Failure (List α)} {checks : List α}
    (compiled : (match fields.keyword? keyword with
      | none => Except.ok []
      | some part => compile part) = Except.ok checks) {check : α} (member : check ∈ checks) :
    ∃ part, fields.keyword? keyword = some part ∧ compile part = .ok checks := by
  cases found : fields.keyword? keyword with
  | none =>
    rw [found] at compiled
    cases compiled
    cases member
  | some part =>
    rw [found] at compiled
    exact ⟨part, rfl, compiled⟩

theorem SizeCheck.make_ordered {keyword : String} {direction : Direction} {threshold : Shape Ref}
    {check : SizeCheck} (made : make keyword direction threshold = .ok check) :
    check = ⟨keyword, direction⟩ ∧ ∃ limit, threshold.ordered? = some limit := by
  unfold make at made
  split at made
  next accepted =>
    cases made
    cases threshold with
    | number value => exact ⟨rfl, value, rfl⟩
    | null | bool | text | bytes | array | object => simp [accepts, Shape.isInteger, Shape.number?] at accepted
  next => cases made

theorem SizeCheck.compile?_fits {keyword : String} {direction : Direction} {checks : List SizeCheck}
    (object : graph.shape node = .object fields)
    (compiled : compile? graph fields keyword direction = .ok checks) :
    ∀ check ∈ checks, check.Fits graph node := by
  intro check member
  unfold compile? at compiled
  obtain ⟨threshold, found, compiled⟩ := Keyword.present_of_mem compiled member
  obtain ⟨made, accepted, compiled⟩ := Except.bind_ok compiled
  cases compiled
  cases List.mem_singleton.mp member
  obtain ⟨rfl, limit, ordered⟩ := make_ordered accepted
  exact ⟨threshold, limit, (Graph.field?_eq object keyword).trans found, ordered⟩

namespace Keyword

theorem distinctTexts?_eq_some {part : Ref} {names : List String} (read : distinctTexts? graph part = some names) :
    ∃ fixed items, graph.shape part = .array fixed items ∧
      List.Forall₂ (fun item name => graph.shape item = .text name) items names := by
  obtain ⟨items, listed, read⟩ := Option.bind_eq_some_iff.mp read
  obtain ⟨others, texts, read⟩ := Option.bind_eq_some_iff.mp read
  split at read
  next =>
    cases read
    obtain ⟨fixed, shaped⟩ := Graph.items?_eq_some listed
    exact ⟨fixed, items, shaped, (Option.mapM_forall₂ texts).imp fun _ _ => Graph.text?_eq_some⟩
  next => cases read

theorem compileType_fits {part : Ref} {checks : List Check} (present : graph.field? node "type" = some part)
    (compiled : compileType graph part = .ok checks) : ∀ check ∈ checks, check.Fits graph node := by
  intro check member
  unfold compileType at compiled
  split at compiled
  next name shaped =>
    split at compiled
    · cases compiled
    · cases compiled
      cases List.mem_singleton.mp member
      trivial
    · cases compiled
      cases member
  next =>
    split at compiled
    · cases compiled
    · cases compiled
    next names _ read =>
      split at compiled
      · cases compiled
      next known =>
        cases compiled
        cases List.mem_singleton.mp member
        obtain ⟨fixed, items, shaped, texts⟩ := distinctTexts?_eq_some read
        refine ⟨part, fixed, items, present, shaped, ?_⟩
        intro item inside
        obtain ⟨name, named, text⟩ := exists_of_forall₂ texts inside
        have found := List.find?_eq_none.mp known name named
        rw [Bool.not_eq_true, Option.isNone_eq_false_iff, Option.isSome_iff_exists] at found
        obtain ⟨type, same⟩ := found
        exact ⟨name, type, text, same⟩

theorem compileEnum_fits {part : Ref} {checks : List Check} (present : graph.field? node "enum" = some part)
    (compiled : compileEnum graph part = .ok checks) : ∀ check ∈ checks, check.Fits graph node := by
  intro check member
  unfold compileEnum at compiled
  split at compiled
  next =>
    obtain ⟨forms, read, compiled⟩ := Except.bind_ok compiled
    cases compiled
    cases List.mem_singleton.mp member
    exact ⟨present, read⟩
  next => cases compiled

theorem optional_ok {keyword : String} {compile : Ref → Except Failure α} {absent : α}
    {rest : α → Except Failure β} {result : β}
    (ended : (match fields.keyword? keyword with
      | some part => compile part >>= rest
      | none => rest absent) = .ok result) :
    ∃ middle, (match fields.keyword? keyword with
      | some part => compile part
      | none => .ok absent) = .ok middle ∧ rest middle = .ok result := by
  cases found : fields.keyword? keyword with
  | none => rw [found] at ended; exact ⟨absent, rfl, ended⟩
  | some part => rw [found] at ended; exact Except.bind_ok ended

theorem guarded_ok {accepted : Bool} {defect : Defect} {rest : Unit → Except Failure β} {result : β}
    (ended : (if accepted = true then rest () else reject defect >>= rest) = .ok result) : rest () = .ok result := by
  cases accepted with
  | true => exact ended
  | false => cases ended

theorem compileKind_fits {checks : List Check} (object : graph.shape node = .object fields)
    (compiled : compileKind graph fields = .ok checks) : ∀ check ∈ checks, check.Fits graph node := by
  unfold compileKind at compiled
  obtain ⟨type, typed, compiled⟩ := optional_ok compiled
  obtain ⟨enum, enumerated, compiled⟩ := optional_ok compiled
  cases compiled
  intro check member
  rcases List.mem_append.mp member with member | member
  · rcases List.mem_append.mp member with member | member
    · cases found : fields.keyword? "type" with
      | none => rw [found] at typed; cases typed; cases member
      | some part =>
        rw [found] at typed
        exact compileType_fits ((Graph.field?_eq object _).trans found) typed check member
    · cases found : fields.keyword? "enum" with
      | none => rw [found] at enumerated; cases enumerated; cases member
      | some part =>
        rw [found] at enumerated
        exact compileEnum_fits ((Graph.field?_eq object _).trans found) enumerated check member
  · split at member
    next present =>
      cases List.mem_singleton.mp member
      obtain ⟨part, found⟩ := Option.isSome_iff_exists.mp present
      exact ⟨part, (Graph.field?_eq object _).trans found⟩
    next => cases member

theorem schemaMap?_eq_some {part : Ref} {entries : Entries Ref} (mapped : schemaMap? graph part = some entries) :
    graph.shape part = .object entries ∧ ∀ entry ∈ entries, graph.isSchema entry.2 = true := by
  obtain ⟨others, shaped, mapped⟩ := Option.bind_eq_some_iff.mp mapped
  split at mapped
  next schemas =>
    cases mapped
    exact ⟨Graph.entries?_eq_some shaped, List.all_eq_true.mp schemas⟩
  next => cases mapped

theorem compileProperties_reads {checks : List KeyCheck} (object : graph.shape node = .object fields)
    (compiled : compileProperties graph fields = .ok checks) : graph.ReadsProperties node := by
  intro part present
  rw [Graph.field?_eq object] at present
  simp only [compileProperties, present] at compiled
  split at compiled
  next entries mapped => exact ⟨entries, (schemaMap?_eq_some mapped).1⟩
  next => cases compiled

theorem compileProperties_fits {checks : List KeyCheck} (object : graph.shape node = .object fields)
    (compiled : compileProperties graph fields = .ok checks) : ∀ check ∈ checks, check.Fits graph node := by
  intro check member
  unfold compileProperties at compiled
  obtain ⟨part, found, compiled⟩ := present_of_mem compiled member
  split at compiled
  next entries mapped =>
    cases compiled
    cases List.mem_singleton.mp member
    exact ⟨part, entries, (Graph.field?_eq object _).trans found, (schemaMap?_eq_some mapped).1, fun _ _ => trivial⟩
  next => cases compiled

theorem compilePatternProperties_fits {checks : List KeyCheck} (object : graph.shape node = .object fields)
    (compiled : compilePatternProperties graph fields = .ok checks) :
    ∀ check ∈ checks, check.Fits graph node := by
  intro check member
  unfold compilePatternProperties at compiled
  obtain ⟨part, found, compiled⟩ := present_of_mem compiled member
  split at compiled
  next entries mapped =>
    obtain ⟨patterns, read, compiled⟩ := Except.bind_ok compiled
    cases compiled
    cases List.mem_singleton.mp member
    obtain ⟨shaped, schemas⟩ := schemaMap?_eq_some mapped
    refine ⟨part, entries, (Graph.field?_eq object _).trans found, shaped, fun entry inside => ?_⟩
    obtain ⟨pattern, _, made⟩ := exists_of_forall₂ (Except.mapM_forall₂ read) inside
    exact ⟨schemas entry inside, pattern, made⟩
  next => cases compiled

theorem compileAdditional_fits {checks : List KeyCheck} (object : graph.shape node = .object fields)
    (reads : graph.ReadsProperties node) (compiled : compileAdditional graph fields = .ok checks) :
    ∀ check ∈ checks, check.Fits graph node := by
  intro check member
  unfold compileAdditional at compiled
  obtain ⟨part, found, compiled⟩ := present_of_mem compiled member
  split at compiled
  next entries shaped =>
    cases compiled
    cases List.mem_singleton.mp member
    refine ⟨⟨part, (Graph.field?_eq object _).trans found, ?_⟩, reads⟩
    simp [Graph.isSchema, shaped, Shape.isSchema, Shape.isObject]
  · cases compiled
    cases List.mem_singleton.mp member
    exact reads
  · cases compiled
    cases member
  · cases compiled

theorem compileDependencies_fits {checks : List KeyCheck} (object : graph.shape node = .object fields)
    (compiled : compileDependencies graph fields = .ok checks) : ∀ check ∈ checks, check.Fits graph node := by
  intro check member
  unfold compileDependencies at compiled
  obtain ⟨part, found, compiled⟩ := present_of_mem compiled member
  split at compiled
  · cases compiled
  next entries shaped =>
    split at compiled
    next dependencies =>
      cases compiled
      cases List.mem_singleton.mp member
      exact ⟨part, entries, (Graph.field?_eq object _).trans found, Graph.entries?_eq_some shaped,
        List.all_eq_true.mp dependencies⟩
    next => cases compiled

theorem compilePropertyNames_fits {checks : List KeyCheck} (object : graph.shape node = .object fields)
    (compiled : compilePropertyNames graph fields = .ok checks) : ∀ check ∈ checks, check.Fits graph node := by
  intro check member
  unfold compilePropertyNames at compiled
  obtain ⟨part, found, compiled⟩ := present_of_mem compiled member
  split at compiled
  next isSchema =>
    cases compiled
    cases List.mem_singleton.mp member
    exact ⟨part, (Graph.field?_eq object _).trans found, isSchema⟩
  next => cases compiled

theorem compileRequired_fits {compiled : List String × List TallyCheck} (object : graph.shape node = .object fields)
    (ended : compileRequired graph fields = .ok compiled) : ∀ check ∈ compiled.2, check.Fits graph node := by
  intro check member
  unfold compileRequired at ended
  cases found : fields.keyword? "required" with
  | none => rw [found] at ended; cases ended; cases member
  | some part =>
    rw [found] at ended
    obtain ⟨names, read, ended⟩ := Except.bind_ok ended
    cases ended
    cases List.mem_singleton.mp member
    unfold requiredNames at read
    split at read
    next items listed =>
      obtain ⟨fixed, shaped⟩ := Graph.items?_eq_some listed
      exact ⟨part, fixed, items, (Graph.field?_eq object _).trans found, shaped, fun _ _ => trivial⟩
    next => cases read

theorem compileObject_fits {checks : List Check} (object : graph.shape node = .object fields)
    (compiled : compileObject graph fields = .ok checks) : ∀ check ∈ checks, check.Fits graph node := by
  unfold compileObject at compiled
  obtain ⟨properties, first, compiled⟩ := Except.bind_ok compiled
  obtain ⟨patterns, second, compiled⟩ := Except.bind_ok compiled
  obtain ⟨additional, third, compiled⟩ := Except.bind_ok compiled
  obtain ⟨dependencies, fourth, compiled⟩ := Except.bind_ok compiled
  obtain ⟨names, fifth, compiled⟩ := Except.bind_ok compiled
  obtain ⟨⟨required, tally⟩, sixth, compiled⟩ := Except.bind_ok compiled
  obtain ⟨longest, seventh, compiled⟩ := Except.bind_ok compiled
  obtain ⟨shortest, eighth, compiled⟩ := Except.bind_ok compiled
  intro check member
  simp only at compiled
  split at compiled
  · cases compiled
    cases List.mem_singleton.mp member
    have reads := compileProperties_reads object first
    refine ⟨fun key inside => ?_, fun whole inside => ?_⟩
    · simp only [List.mem_append] at inside
      rcases inside with (((inside | inside) | inside) | inside) | inside
      · exact compileProperties_fits object first key inside
      · exact compilePatternProperties_fits object second key inside
      · exact compileAdditional_fits object reads third key inside
      · exact compileDependencies_fits object fourth key inside
      · exact compilePropertyNames_fits object fifth key inside
    · simp only [List.mem_append, List.mem_map] at inside
      rcases inside with inside | ⟨size, inside | inside, rfl⟩
      · exact compileRequired_fits object sixth whole inside
      · exact SizeCheck.compile?_fits object seventh size inside
      · exact SizeCheck.compile?_fits object eighth size inside
  · split at compiled
    · cases compiled
      cases List.mem_singleton.mp member
      trivial
    · cases compiled
      cases member

theorem checkMultipleOf_positive {whole : Bool} {part : Ref} {divisor : Number}
    (checked : checkMultipleOf graph fields whole = .ok ()) (present : fields.keyword? "multipleOf" = some part)
    (number : (graph.shape part).number? = some divisor) : Number.zero.lt divisor = true := by
  simp only [checkMultipleOf, present, number, Option.any_some] at checked
  cases positive : Number.zero.lt divisor with
  | true => rfl
  | false =>
    rw [positive] at checked
    split at checked <;> cases checked

theorem hasType_text {type : Option Ref} {name : String} (typed : graph.hasType type name = true) :
    ∃ part name, type = some part ∧ graph.shape part = .text name := by
  cases type with
  | none => cases typed
  | some part => exact ⟨part, name, rfl, Graph.text?_eq_some (eq_of_beq typed)⟩

theorem compileNumber_fits {checks : List Check} (object : graph.shape node = .object fields)
    (compiled : compileNumber graph fields = .ok checks) : ∀ check ∈ checks, check.Fits graph node := by
  unfold compileNumber at compiled
  obtain ⟨_, _, compiled⟩ := Except.bind_ok compiled
  obtain ⟨_, _, compiled⟩ := Except.bind_ok compiled
  obtain ⟨_, _, compiled⟩ := Except.bind_ok compiled
  obtain ⟨_, _, compiled⟩ := Except.bind_ok compiled
  obtain ⟨_, multiple, compiled⟩ := Except.bind_ok compiled
  intro check member
  simp only at compiled
  split at compiled
  · cases compiled
    cases List.mem_singleton.mp member
    intro part divisor present number
    exact checkMultipleOf_positive multiple ((Graph.field?_eq object _).symm.trans present) number
  · split at compiled
    next typed =>
      cases compiled
      cases List.mem_singleton.mp member
      have named : ∃ part name, fields.keyword? "type" = some part ∧ graph.shape part = .text name := by
        rcases Bool.or_eq_true_iff.mp typed with typed | typed <;> exact hasType_text typed
      obtain ⟨part, name, found, shaped⟩ := named
      exact ⟨part, name, (Graph.field?_eq object _).trans found, shaped⟩
    next =>
      cases compiled
      cases member

theorem compilePattern_ok {keyword source : String} {pattern : Pattern}
    (compiled : compilePattern keyword source = .ok pattern) : Pattern.compile source = .ok pattern := by
  unfold compilePattern at compiled
  split at compiled
  next found => cases compiled; exact found
  all_goals cases compiled

theorem compilePatternKeyword_fits {checks : List TextCheck} (object : graph.shape node = .object fields)
    (compiled : compilePatternKeyword graph fields = .ok checks) : ∀ check ∈ checks, check.Fits graph node := by
  intro check member
  unfold compilePatternKeyword at compiled
  obtain ⟨part, found, compiled⟩ := present_of_mem compiled member
  split at compiled
  next source shaped =>
    obtain ⟨pattern, made, compiled⟩ := Except.bind_ok compiled
    cases compiled
    cases List.mem_singleton.mp member
    exact ⟨part, source, pattern, (Graph.field?_eq object _).trans found, shaped, compilePattern_ok made⟩
  next => cases compiled

theorem compileText_fits {checks : List Check} (object : graph.shape node = .object fields)
    (compiled : compileText graph fields = .ok checks) : ∀ check ∈ checks, check.Fits graph node := by
  unfold compileText at compiled
  obtain ⟨longest, first, compiled⟩ := Except.bind_ok compiled
  obtain ⟨shortest, second, compiled⟩ := Except.bind_ok compiled
  obtain ⟨patterns, third, compiled⟩ := Except.bind_ok compiled
  intro check member
  simp only at compiled
  split at compiled
  · cases compiled
    cases List.mem_singleton.mp member
    intro text inside
    simp only [List.mem_append, List.mem_map] at inside
    rcases inside with ⟨size, inside | inside, rfl⟩ | inside
    · exact SizeCheck.compile?_fits object first size inside
    · exact SizeCheck.compile?_fits object second size inside
    · exact compilePatternKeyword_fits object third text inside
  · split at compiled
    · cases compiled
      cases List.mem_singleton.mp member
      trivial
    · cases compiled
      cases member

theorem areSchemas_iff {refs : List Ref} : areSchemas graph refs = true ↔ ∀ ref ∈ refs, graph.isSchema ref = true :=
  List.all_eq_true

theorem compileItems_fits {part : Ref} {check : ItemCheck} (present : graph.field? node "items" = some part)
    (compiled : compileItems graph part = .ok check) : check.Fits graph node := by
  unfold compileItems at compiled
  split at compiled
  next isSchema =>
    cases compiled
    exact ⟨part, present, isSchema⟩
  next =>
    split at compiled
    next members listed =>
      split at compiled
      next schemas =>
        cases compiled
        obtain ⟨fixed, shaped⟩ := Graph.items?_eq_some listed
        exact ⟨part, fixed, members, present, shaped, areSchemas_iff.mp schemas⟩
      next => cases compiled
    next => cases compiled

theorem compileContains_fits {checks : List ArrayCheck} (object : graph.shape node = .object fields)
    (compiled : compileContains graph fields = .ok checks) : ∀ check ∈ checks, check.Fits graph node := by
  intro check member
  unfold compileContains at compiled
  obtain ⟨part, found, compiled⟩ := present_of_mem compiled member
  split at compiled
  next isSchema =>
    cases compiled
    cases List.mem_singleton.mp member
    exact ⟨part, (Graph.field?_eq object _).trans found, isSchema⟩
  next => cases compiled

theorem compileUnique_fits {checks : List ArrayCheck} (compiled : compileUnique graph fields = .ok checks) :
    ∀ check ∈ checks, check.Fits graph node := by
  intro check member
  unfold compileUnique at compiled
  obtain ⟨part, found, compiled⟩ := present_of_mem compiled member
  split at compiled
  · cases compiled
    cases List.mem_singleton.mp member
    trivial
  · cases compiled
    cases member
  · cases compiled

theorem compileArray_fits {checks : List Check} (object : graph.shape node = .object fields)
    (compiled : compileArray graph fields = .ok checks) : ∀ check ∈ checks, check.Fits graph node := by
  unfold compileArray at compiled
  have compiled := guarded_ok compiled
  obtain ⟨items, itemized, compiled⟩ := optional_ok compiled
  obtain ⟨contains, first, compiled⟩ := Except.bind_ok compiled
  obtain ⟨unique, second, compiled⟩ := Except.bind_ok compiled
  obtain ⟨longest, third, compiled⟩ := Except.bind_ok compiled
  obtain ⟨shortest, fourth, compiled⟩ := Except.bind_ok compiled
  intro check member
  simp only at compiled
  split at compiled
  · cases compiled
    cases List.mem_singleton.mp member
    refine ⟨fun item inside => ?_, fun whole inside => ?_⟩
    · cases found : fields.keyword? "items" with
      | none => rw [found] at itemized; cases itemized; cases inside
      | some part =>
        simp only [found] at itemized
        cases made : compileItems graph part with
        | error failure => rw [made] at itemized; cases itemized
        | ok item =>
          rw [made] at itemized
          cases itemized
          cases inside
          exact compileItems_fits ((Graph.field?_eq object _).trans found) made
    · simp only [List.mem_append, List.mem_map] at inside
      rcases inside with (inside | inside) | ⟨size, inside | inside, rfl⟩
      · exact compileContains_fits object first whole inside
      · exact compileUnique_fits second whole inside
      · exact SizeCheck.compile?_fits object third size inside
      · exact SizeCheck.compile?_fits object fourth size inside
  · split at compiled
    · cases compiled
      cases List.mem_singleton.mp member
      trivial
    · cases compiled
      cases member

theorem checkMembers_fits {keyword : String} {part : Ref} (object : graph.shape node = .object fields)
    (checked : checkMembers graph fields keyword = .ok ()) (present : fields.keyword? keyword = some part) :
    graph.HoldsItems node keyword fun item => graph.isSchema item = true := by
  simp only [checkMembers, present] at checked
  split at checked
  next first rest listed =>
    split at checked
    next schemas =>
      obtain ⟨fixed, shaped⟩ := Graph.items?_eq_some listed
      exact ⟨part, fixed, first :: rest, (Graph.field?_eq object _).trans present, shaped, areSchemas_iff.mp schemas⟩
    next => cases checked
  next => cases checked

theorem mem_presentAs {keyword : String} {check made : Check} (member : check ∈ presentAs fields keyword made) :
    check = made ∧ ∃ part, fields.keyword? keyword = some part := by
  unfold presentAs at member
  split at member
  next present => exact ⟨List.mem_singleton.mp member, Option.isSome_iff_exists.mp present⟩
  next => cases member

theorem compileNot_fits {checks : List Check} (object : graph.shape node = .object fields)
    (compiled : compileNot graph fields = .ok checks) : ∀ check ∈ checks, check.Fits graph node := by
  intro check member
  unfold compileNot at compiled
  obtain ⟨part, found, compiled⟩ := present_of_mem compiled member
  split at compiled
  next isSchema =>
    cases compiled
    cases List.mem_singleton.mp member
    exact ⟨part, (Graph.field?_eq object _).trans found, isSchema⟩
  next => cases compiled

theorem compileCombinators_fits {checks : List Check} (object : graph.shape node = .object fields)
    (compiled : compileCombinators graph fields = .ok checks) : ∀ check ∈ checks, check.Fits graph node := by
  unfold compileCombinators at compiled
  obtain ⟨_, all, compiled⟩ := Except.bind_ok compiled
  obtain ⟨_, any, compiled⟩ := Except.bind_ok compiled
  obtain ⟨_, one, compiled⟩ := Except.bind_ok compiled
  obtain ⟨negation, negated, compiled⟩ := Except.bind_ok compiled
  cases compiled
  intro check member
  simp only [List.mem_append] at member
  rcases member with ((member | member) | member) | member
  · obtain ⟨rfl, part, present⟩ := mem_presentAs member
    exact checkMembers_fits object all present
  · obtain ⟨rfl, part, present⟩ := mem_presentAs member
    exact checkMembers_fits object any present
  · obtain ⟨rfl, part, present⟩ := mem_presentAs member
    exact checkMembers_fits object one present
  · exact compileNot_fits object negated check member

end Keyword

theorem Family.compile_fits {family : Family} {checks : List Check} (object : graph.shape node = .object fields)
    (compiled : family.compile graph fields = .ok checks) : ∀ check ∈ checks, check.Fits graph node := by
  cases family with
  | kind => exact Keyword.compileKind_fits object compiled
  | object => exact Keyword.compileObject_fits object compiled
  | number => exact Keyword.compileNumber_fits object compiled
  | text => exact Keyword.compileText_fits object compiled
  | array => exact Keyword.compileArray_fits object compiled
  | combinators => exact Keyword.compileCombinators_fits object compiled
  | boolean =>
    intro check member
    simp only [compile] at compiled
    split at compiled <;> cases compiled
    · cases List.mem_singleton.mp member
      trivial
    · cases member

theorem Family.compileAll_fits {families : List Family} {checks : List Check}
    (object : graph.shape node = .object fields) (compiled : compileAll graph fields families = .ok checks) :
    ∀ check ∈ checks, check.Fits graph node := by
  induction families generalizing checks with
  | nil =>
    cases compiled
    simp
  | cons family rest ih =>
    obtain ⟨first, made, compiled⟩ := Except.bind_ok compiled
    obtain ⟨others, rests, compiled⟩ := Except.bind_ok compiled
    cases compiled
    intro check member
    rcases List.mem_append.mp member with member | member
    · exact compile_fits object made check member
    · exact ih rests check member

theorem compileNode_object {checks : List Check} (compiled : compileNode graph node = .ok checks) :
    checks = [] ∨ ∃ fields, graph.shape node = .object fields := by
  unfold compileNode at compiled
  split at compiled
  · cases compiled
    exact .inl rfl
  next fields object => exact .inr ⟨fields, object⟩
  · cases compiled

theorem compileNode_fits {checks : List Check} (compiled : compileNode graph node = .ok checks) :
    ∀ check ∈ checks, check.Fits graph node := by
  unfold compileNode at compiled
  split at compiled
  · cases compiled
    simp
  next fields object => exact Family.compileAll_fits object compiled
  · cases compiled

end Compile
end LiveSchema
