import LiveSchema.Proofs.CheckLimits

/-! What a node settles when it is compiled. Its outline has the keywords that are
there and of a few of them the kind of value; all else a check needs it reads from
the live node. So nodes of one outline compile to checks that do the same, but for
the members of an `enum` array. -/

namespace LiveSchema

def Shape.bool? : Shape α → Option Bool
  | .bool value => some value
  | _ => none

@[ext]
structure Outline where
  present : String → Bool
  /-- The name of its one type; several types are an array. -/
  type : Option String
  required : Option (Except Failure (List String))
  unique : Option Bool
  /-- Whether additional properties are all allowed or all forbidden; a schema settles neither. -/
  additional : Option Bool
  single : Bool
  exclusiveMaximum : Bool
  exclusiveMinimum : Bool

namespace Keyword

def outline (graph : Graph) (fields : Entries Ref) : Outline where
  present keyword := (fields.keyword? keyword).isSome
  type := (fields.keyword? "type").bind fun part => (graph.shape part).text?
  required := (fields.keyword? "required").map (requiredNames graph)
  unique := (fields.keyword? "uniqueItems").bind fun part => (graph.shape part).bool?
  additional := (fields.keyword? "additionalProperties").bind fun part => (graph.shape part).bool?
  single := (fields.keyword? "items").any graph.isSchema
  exclusiveMaximum := (fields.keyword? "exclusiveMaximum").any fun part => (graph.shape part).isNumber
  exclusiveMinimum := (fields.keyword? "exclusiveMinimum").any fun part => (graph.shape part).isNumber

end Keyword

def Graph.outline (graph : Graph) (node : Ref) : Option Outline :=
  (graph.shape node).entries?.map (Keyword.outline graph)

instance : Inhabited Pattern := ⟨"", .choice [.sequence []], rfl⟩

namespace Outline

def given (outline : Outline) (keyword : String) (check : α) : List α := if outline.present keyword then [check] else []

def sizes (outline : Outline) (longest shortest : String) : List SizeCheck :=
  outline.given longest ⟨longest, .max⟩ ++ outline.given shortest ⟨shortest, .min⟩

def typeChecks (outline : Outline) : List Check :=
  if outline.present "type" then
    match outline.type with
    | some name => if TypeName.ofName? name = some .null then [.null] else []
    | none => [.types]
  else []

def additionalChecks (outline : Outline) : List KeyCheck :=
  match outline.additional with
  | some true => []
  | some false => [.noAdditional]
  | none => outline.given "additionalProperties" .additionalSchema

def requiredChecks (outline : Outline) : List String × List TallyCheck :=
  match outline.required with
  | some (.ok names) => (names, [.required])
  | _ => ([], [])

def objectChecks (outline : Outline) (known : List Pattern) : List Check :=
  let entries := outline.given "properties" .properties ++
    outline.given "patternProperties" (.patternProperties known) ++ outline.additionalChecks ++
    outline.given "dependencies" .dependencies ++ outline.given "propertyNames" .propertyNames
  let tally := outline.requiredChecks.2 ++ (outline.sizes "maxProperties" "minProperties").map TallyCheck.size
  if !entries.isEmpty || !tally.isEmpty then [.object entries outline.requiredChecks.1 tally]
  else if outline.type == some "object" then [.isObject]
  else []

/-- Bounds that are there are numbers, but for those that only sharpen others. -/
def bounded (outline : Outline) : Bool :=
  outline.present "maximum" || outline.exclusiveMaximum || outline.present "minimum" || outline.exclusiveMinimum ||
    outline.present "multipleOf"

def numberChecks (outline : Outline) : List Check :=
  let whole := outline.type == some "integer"
  if outline.bounded then [.number whole]
  else if whole || outline.type == some "number" then [.isNumber whole]
  else []

def textChecks (outline : Outline) (known : Pattern) : List Check :=
  let checks := (outline.sizes "maxLength" "minLength").map TextCheck.size ++ outline.given "pattern" (.pattern known)
  if !checks.isEmpty then [.text checks]
  else if outline.type == some "string" then [.isText]
  else []

def itemCheck (outline : Outline) : Option ItemCheck :=
  if outline.present "items" then some (if outline.single then .every else .positional) else none

def uniqueChecks (outline : Outline) : List ArrayCheck :=
  match outline.unique with
  | some true => [.unique]
  | _ => []

def arrayChecks (outline : Outline) : List Check :=
  let all := outline.given "contains" .contains ++ outline.uniqueChecks ++
    (outline.sizes "maxItems" "minItems").map ArrayCheck.size
  if outline.itemCheck.isSome || !all.isEmpty then [.array outline.itemCheck all]
  else if outline.type == some "array" then [.isArray]
  else []

/-- The checks of a family. Only what an `enum` array holds and the known patterns are left open. -/
def familyChecks (outline : Outline) (memo : Memo) (known : List Pattern) (pattern : Pattern) : Family → List Check
  | .kind => outline.typeChecks ++ outline.given "enum" (.enum memo) ++ outline.given "const" .const
  | .object => outline.objectChecks known
  | .number => outline.numberChecks
  | .text => outline.textChecks pattern
  | .array => outline.arrayChecks
  | .boolean => if outline.type == some "boolean" then [.isBoolean] else []
  | .combinators => outline.given "allOf" .allOf ++ outline.given "anyOf" .anyOf ++ outline.given "oneOf" .oneOf ++
      outline.given "not" .not

end Outline

section Alike

/-- Checks of an entry that do the same in every schema. -/
def KeyCheck.Alike (one two : KeyCheck) : Prop :=
  ∀ graph entry node matched, Keyword.runKeyCheck graph entry node matched one = Keyword.runKeyCheck graph entry node matched two

def TextCheck.Alike (one two : TextCheck) : Prop :=
  ∀ graph text node, Keyword.runTextCheck graph text node one = Keyword.runTextCheck graph text node two

/-- Checks that do the same in every schema, or look values up in an `enum` array. -/
inductive Check.Alike : Check → Check → Prop
  | run {one two : Check} (plain : two.isEnum = false)
      (same : ∀ graph mode value node, one.run graph mode value node = two.run graph mode value node) : Alike one two
  | enum (one two : Memo) : Alike (.enum one) (.enum two)

variable {graph : Graph} {node : Ref}

theorem Check.Alike.refl {check : Check} (plain : check.isEnum = false) : check.Alike check := .run plain fun _ _ _ _ => rfl

theorem KeyCheck.alike_patterns (known others : List Pattern) : Alike (.patternProperties known) (.patternProperties others) := by
  intro graph entry node matched
  have same : ∀ (name : String) (item : Value) (patterns : Entries Ref) (matched : Bool),
      Keyword.runPatterns known name item matched patterns = Keyword.runPatterns others name item matched patterns := by
    intro name item patterns
    induction patterns with
    | nil => exact fun _ => rfl
    | cons pattern rest ih =>
      intro matched
      simp only [Keyword.runPatterns, Keyword.liveEntryPattern_eq, ih]
  simp only [Keyword.runKeyCheck, Keyword.runPatternProperties, same]

theorem TextCheck.alike_pattern (known other : Pattern) : Alike (.pattern known) (.pattern other) := by
  intro graph text node
  have same : Pattern.lookUp [known] = Pattern.lookUp [other] := by
    funext source
    rw [Pattern.lookUp_eq_compile, Pattern.lookUp_eq_compile]
  simp only [Keyword.runTextCheck, Keyword.runPattern, Keyword.livePattern, same]

theorem Check.alike_object {one two : List KeyCheck} (alike : List.Forall₂ KeyCheck.Alike one two) (required : List String)
    (tally : List TallyCheck) : Check.Alike (.object one required tally) (.object two required tally) := by
  have keys : ∀ graph entry node matched,
      Keyword.runKeyChecks graph entry node matched one = Keyword.runKeyChecks graph entry node matched two := by
    intro graph entry node
    induction alike with
    | nil => exact fun _ => rfl
    | cons first _ ih =>
      intro matched
      simp only [Keyword.runKeyChecks, first graph entry node matched, ih]
  have entries : ∀ graph container node entries,
      Keyword.runEntries graph one container node entries = Keyword.runEntries graph two container node entries := by
    intro graph container node entries
    induction entries with
    | nil => rfl
    | cons entry rest ih => simp only [Keyword.runEntries, keys, ih]
  apply Check.Alike.run rfl
  intro graph mode value node
  simp only [Check.run, Keyword.runObject, entries]

theorem Check.alike_text {one two : List TextCheck} (alike : List.Forall₂ TextCheck.Alike one two) :
    Check.Alike (.text one) (.text two) := by
  have checks : ∀ graph text node,
      one.forM (Keyword.runTextCheck graph text node) = two.forM (Keyword.runTextCheck graph text node) := by
    intro graph text node
    induction alike with
    | nil => rfl
    | cons first _ ih => simp only [List.forM_eq_forM, List.forM_cons, first graph text node] at ih ⊢; rw [ih]
  apply Check.Alike.run rfl
  intro graph mode value node
  simp only [Check.run, Keyword.runText, checks]

end Alike
namespace Keyword

variable {graph : Graph} {fields : Entries Ref} {keyword : String}

theorem given_eq (fields : Entries Ref) (keyword : String) (check : α) :
    (outline graph fields).given keyword check = if (fields.keyword? keyword).isSome then [check] else [] := rfl

private theorem given_of_ok {compile : Ref → Except Failure (List α)} {checks : List α} {check : α}
    (compiled : (match fields.keyword? keyword with
      | none => Except.ok []
      | some part => compile part) = Except.ok checks)
    (each : ∀ part, compile part = .ok checks → checks = [check]) :
    checks = (outline graph fields).given keyword check := by
  rw [given_eq]
  cases found : fields.keyword? keyword with
  | none =>
    rw [found] at compiled
    cases compiled
    rfl
  | some part =>
    rw [found] at compiled
    exact each part compiled

theorem compileSize_ok {direction : Direction} {checks : List SizeCheck}
    (compiled : SizeCheck.compile? graph fields keyword direction = .ok checks) :
    checks = (outline graph fields).given keyword ⟨keyword, direction⟩ := by
  unfold SizeCheck.compile? at compiled
  apply given_of_ok compiled
  intro part made
  obtain ⟨check, accepted, made⟩ := Except.bind_ok made
  cases made
  rw [(SizeCheck.make_ordered accepted).1]

theorem compileProperties_ok {checks : List KeyCheck} (compiled : compileProperties graph fields = .ok checks) :
    checks = (outline graph fields).given "properties" .properties := by
  unfold compileProperties at compiled
  apply given_of_ok compiled
  intro part made
  split at made <;> cases made
  rfl

theorem compilePatternProperties_ok {checks : List KeyCheck}
    (compiled : compilePatternProperties graph fields = .ok checks) :
    ∃ known, checks = (outline graph fields).given "patternProperties" (.patternProperties known) := by
  unfold compilePatternProperties at compiled
  simp only [given_eq]
  split at compiled
  next absent =>
    cases compiled
    exact ⟨[], by rw [absent]; rfl⟩
  next part found =>
    split at compiled
    next =>
      obtain ⟨known, _, compiled⟩ := Except.bind_ok compiled
      cases compiled
      exact ⟨known, by rw [found]; rfl⟩
    next => cases compiled

theorem compileAdditional_ok {checks : List KeyCheck} (compiled : compileAdditional graph fields = .ok checks) :
    checks = (outline graph fields).additionalChecks := by
  have settled : (outline graph fields).additional =
      (fields.keyword? "additionalProperties").bind fun part => (graph.shape part).bool? := rfl
  unfold compileAdditional at compiled
  rw [Outline.additionalChecks, settled, given_eq]
  split at compiled
  next absent =>
    cases compiled
    rw [absent]
    rfl
  next part found =>
    rw [found, Option.bind_some]
    split at compiled
    next shaped => cases compiled; rw [shaped]; rfl
    next shaped => cases compiled; rw [shaped]; rfl
    next shaped => cases compiled; rw [shaped]; rfl
    next => cases compiled

theorem compileDependencies_ok {checks : List KeyCheck} (compiled : compileDependencies graph fields = .ok checks) :
    checks = (outline graph fields).given "dependencies" .dependencies := by
  unfold compileDependencies at compiled
  apply given_of_ok compiled
  intro part made
  split at made
  · cases made
  · split at made <;> cases made
    rfl

theorem compilePropertyNames_ok {checks : List KeyCheck} (compiled : compilePropertyNames graph fields = .ok checks) :
    checks = (outline graph fields).given "propertyNames" .propertyNames := by
  unfold compilePropertyNames at compiled
  apply given_of_ok compiled
  intro part made
  split at made <;> cases made
  rfl

theorem compileRequired_ok {required : List String × List TallyCheck} (compiled : compileRequired graph fields = .ok required) :
    required = (outline graph fields).requiredChecks := by
  unfold compileRequired at compiled
  simp only [Outline.requiredChecks, outline]
  split at compiled
  next absent =>
    cases compiled
    rw [absent]
    rfl
  next part found =>
    obtain ⟨names, listed, compiled⟩ := Except.bind_ok compiled
    cases compiled
    rw [found, Option.map_some, listed]

theorem hasType_eq_type (name : String) :
    graph.hasType (fields.keyword? "type") name = ((outline graph fields).type == some name) := by
  simp only [outline]
  cases fields.keyword? "type" with
  | none => rfl
  | some part => rfl

/-- A family has its own check, only that of its type, or none. -/
private theorem chosen_of_ok {settled typed : Bool} {own type : Check} {checks : List Check}
    (compiled : (if settled = true then pure [own] else if typed = true then pure [type] else pure []) = (.ok checks : Except Failure (List Check))) :
    checks = if settled = true then [own] else if typed = true then [type] else [] := by
  cases settled <;> cases typed <;> cases compiled <;> rfl

theorem compileObject_ok {checks : List Check} (compiled : compileObject graph fields = .ok checks) :
    ∃ known, checks = (outline graph fields).objectChecks known := by
  unfold compileObject at compiled
  obtain ⟨properties, first, compiled⟩ := Except.bind_ok compiled
  obtain ⟨patterns, second, compiled⟩ := Except.bind_ok compiled
  obtain ⟨additional, third, compiled⟩ := Except.bind_ok compiled
  obtain ⟨dependencies, fourth, compiled⟩ := Except.bind_ok compiled
  obtain ⟨names, fifth, compiled⟩ := Except.bind_ok compiled
  obtain ⟨⟨required, tally⟩, sixth, compiled⟩ := Except.bind_ok compiled
  obtain ⟨longest, seventh, compiled⟩ := Except.bind_ok compiled
  obtain ⟨shortest, eighth, compiled⟩ := Except.bind_ok compiled
  obtain ⟨known, rfl⟩ := compilePatternProperties_ok second
  cases compileProperties_ok first
  cases compileAdditional_ok third
  cases compileDependencies_ok fourth
  cases compilePropertyNames_ok fifth
  cases compileSize_ok seventh
  cases compileSize_ok eighth
  refine ⟨known, ?_⟩
  simp only [hasType_eq_type] at compiled
  simp only [Outline.objectChecks, Outline.sizes, ← compileRequired_ok sixth]
  exact chosen_of_ok compiled

theorem isNumber_of_operand {shape : Shape Ref} {whole : Bool} (operand : isOperand whole shape = true) :
    shape.isNumber = true := by
  cases whole with
  | false => exact operand
  | true =>
    cases found : shape.number? with
    | none => simp [isOperand, Shape.isInteger, found] at operand
    | some number => simp [Shape.isNumber, found]

theorem checkBound_ok {whole : Bool} {exclusive : String} (checked : checkBound graph fields whole keyword exclusive = .ok ()) :
    (fields.keyword? keyword).any (fun bound => (graph.shape bound).isNumber) = (outline graph fields).present keyword := by
  change _ = (fields.keyword? keyword).isSome
  cases found : fields.keyword? keyword with
  | none => rfl
  | some part =>
    cases operand : isOperand whole (graph.shape part) with
    | true => simp [isNumber_of_operand operand]
    | false =>
      simp only [checkBound, found, operand] at checked
      cases checked

theorem checkMultipleOf_ok {whole : Bool} (checked : checkMultipleOf graph fields whole = .ok ()) :
    (fields.keyword? "multipleOf").any (fun bound => (graph.shape bound).isNumber) =
      (outline graph fields).present "multipleOf" := by
  change _ = (fields.keyword? "multipleOf").isSome
  cases found : fields.keyword? "multipleOf" with
  | none => rfl
  | some part =>
    cases operand : isOperand whole (graph.shape part) with
    | true => simp [isNumber_of_operand operand]
    | false =>
      simp only [checkMultipleOf, found, operand] at checked
      cases checked

theorem compileNumber_ok {checks : List Check} (compiled : compileNumber graph fields = .ok checks) :
    checks = (outline graph fields).numberChecks := by
  unfold compileNumber at compiled
  obtain ⟨_, maximum, compiled⟩ := Except.bind_ok compiled
  obtain ⟨_, minimum, compiled⟩ := Except.bind_ok compiled
  obtain ⟨_, _, compiled⟩ := Except.bind_ok compiled
  obtain ⟨_, _, compiled⟩ := Except.bind_ok compiled
  obtain ⟨_, multiple, compiled⟩ := Except.bind_ok compiled
  have bounded : (boundKeywords.any fun keyword => (fields.keyword? keyword).any fun bound => (graph.shape bound).isNumber) =
      (outline graph fields).bounded := by
    simp only [boundKeywords, List.any_cons, List.any_nil, checkBound_ok maximum, checkBound_ok minimum,
      checkMultipleOf_ok multiple, Outline.bounded, Bool.or_false, Bool.or_assoc]
    rfl
  simp only [bounded, hasType_eq_type] at compiled
  simp only [Outline.numberChecks]
  exact chosen_of_ok compiled

theorem compilePatternKeyword_ok {checks : List TextCheck} (compiled : compilePatternKeyword graph fields = .ok checks) :
    ∃ known, checks = (outline graph fields).given "pattern" (.pattern known) := by
  unfold compilePatternKeyword at compiled
  simp only [given_eq]
  split at compiled
  next absent =>
    cases compiled
    exact ⟨default, by rw [absent]; rfl⟩
  next part found =>
    split at compiled
    next =>
      obtain ⟨known, _, compiled⟩ := Except.bind_ok compiled
      cases compiled
      exact ⟨known, by rw [found]; rfl⟩
    next => cases compiled

theorem compileText_ok {checks : List Check} (compiled : compileText graph fields = .ok checks) :
    ∃ known, checks = (outline graph fields).textChecks known := by
  unfold compileText at compiled
  obtain ⟨longest, first, compiled⟩ := Except.bind_ok compiled
  obtain ⟨shortest, second, compiled⟩ := Except.bind_ok compiled
  obtain ⟨pattern, third, compiled⟩ := Except.bind_ok compiled
  cases compileSize_ok first
  cases compileSize_ok second
  obtain ⟨known, rfl⟩ := compilePatternKeyword_ok third
  refine ⟨known, ?_⟩
  simp only [hasType_eq_type] at compiled
  simp only [Outline.textChecks, Outline.sizes]
  exact chosen_of_ok compiled

theorem compileItems_ok {items : Option ItemCheck}
    (compiled : (match fields.keyword? "items" with
      | some part => some <$> compileItems graph part
      | none => .ok none) = Except.ok items) : items = (outline graph fields).itemCheck := by
  have settled : (outline graph fields).single = (fields.keyword? "items").any graph.isSchema := rfl
  have present : (outline graph fields).present "items" = (fields.keyword? "items").isSome := rfl
  rw [Outline.itemCheck, settled, present]
  cases found : fields.keyword? "items" with
  | none =>
    rw [found] at compiled
    cases compiled
    rfl
  | some part =>
    simp only [found, compileItems] at compiled
    rw [Option.any_some]
    split at compiled
    next schema =>
      cases compiled
      rw [schema]
      rfl
    next other =>
      rw [if_neg other]
      split at compiled
      next =>
        split at compiled <;> cases compiled
        rfl
      next => cases compiled

theorem compileContains_ok {checks : List ArrayCheck} (compiled : compileContains graph fields = .ok checks) :
    checks = (outline graph fields).given "contains" .contains := by
  unfold compileContains at compiled
  apply given_of_ok compiled
  intro part made
  split at made <;> cases made
  rfl

theorem compileUnique_ok {checks : List ArrayCheck} (compiled : compileUnique graph fields = .ok checks) :
    checks = (outline graph fields).uniqueChecks := by
  have settled : (outline graph fields).unique =
      (fields.keyword? "uniqueItems").bind fun part => (graph.shape part).bool? := rfl
  unfold compileUnique at compiled
  rw [Outline.uniqueChecks, settled]
  split at compiled
  next absent =>
    cases compiled
    rw [absent]
    rfl
  next part found =>
    rw [found, Option.bind_some]
    split at compiled
    next shaped => cases compiled; rw [shaped]; rfl
    next shaped => cases compiled; rw [shaped]; rfl
    next => cases compiled

theorem compileArray_ok {checks : List Check} (compiled : compileArray graph fields = .ok checks) :
    checks = (outline graph fields).arrayChecks := by
  unfold compileArray at compiled
  have compiled := guarded_ok compiled
  obtain ⟨items, first, compiled⟩ := optional_ok compiled
  obtain ⟨contains, second, compiled⟩ := Except.bind_ok compiled
  obtain ⟨unique, third, compiled⟩ := Except.bind_ok compiled
  obtain ⟨longest, fourth, compiled⟩ := Except.bind_ok compiled
  obtain ⟨shortest, fifth, compiled⟩ := Except.bind_ok compiled
  cases compileItems_ok first
  cases compileContains_ok second
  cases compileUnique_ok third
  cases compileSize_ok fourth
  cases compileSize_ok fifth
  simp only [hasType_eq_type] at compiled
  simp only [Outline.arrayChecks, Outline.sizes]
  exact chosen_of_ok compiled

theorem compileType_ok {part : Ref} {checks : List Check} (found : fields.keyword? "type" = some part)
    (compiled : compileType graph part = .ok checks) : checks = (outline graph fields).typeChecks := by
  have present : (outline graph fields).present "type" = (fields.keyword? "type").isSome := rfl
  have settled : (outline graph fields).type = (fields.keyword? "type").bind fun part => (graph.shape part).text? := rfl
  rw [Outline.typeChecks, present, settled, found, Option.bind_some, Option.isSome_some, if_pos rfl]
  unfold compileType at compiled
  split at compiled
  next name shaped =>
    simp only [shaped, Shape.text?]
    split at compiled
    next => cases compiled
    next named => cases compiled; rw [if_pos named]
    next type other named => cases compiled; rw [if_neg fun null => other (Option.some.inj (named.symm.trans null))]
  next shaped =>
    have several : (graph.shape part).text? = none := by
      cases text : (graph.shape part).text? with
      | none => rfl
      | some name => exact absurd (Graph.text?_eq_some text) (shaped name)
    rw [several]
    split at compiled
    · cases compiled
    · cases compiled
    · split at compiled <;> cases compiled
      rfl

theorem compileKind_ok {checks : List Check} (compiled : compileKind graph fields = .ok checks) :
    ∃ memo, checks = (outline graph fields).typeChecks ++ (outline graph fields).given "enum" (.enum memo) ++
      (outline graph fields).given "const" .const := by
  unfold compileKind at compiled
  obtain ⟨type, typed, compiled⟩ := optional_ok compiled
  obtain ⟨enum, enumerated, compiled⟩ := optional_ok compiled
  cases compiled
  have types : type = (outline graph fields).typeChecks := by
    cases found : fields.keyword? "type" with
    | none =>
      have absent : (outline graph fields).present "type" = (fields.keyword? "type").isSome := rfl
      rw [found] at typed
      cases typed
      rw [Outline.typeChecks, absent, found]
      rfl
    | some part =>
      rw [found] at typed
      exact compileType_ok found typed
  have members : ∃ memo, enum = (outline graph fields).given "enum" (.enum memo) := by
    simp only [given_eq]
    cases found : fields.keyword? "enum" with
    | none =>
      rw [found] at enumerated
      cases enumerated
      exact ⟨⟨.null, []⟩, rfl⟩
    | some part =>
      rw [found] at enumerated
      simp only [compileEnum] at enumerated
      split at enumerated
      next =>
        obtain ⟨forms, _, enumerated⟩ := Except.bind_ok enumerated
        cases enumerated
        exact ⟨⟨part, forms⟩, rfl⟩
      next => cases enumerated
  obtain ⟨memo, rfl⟩ := members
  exact ⟨memo, types ▸ rfl⟩

theorem compileNot_ok {checks : List Check} (compiled : compileNot graph fields = .ok checks) :
    checks = (outline graph fields).given "not" .not := by
  unfold compileNot at compiled
  apply given_of_ok compiled
  intro part made
  split at made <;> cases made
  rfl

theorem compileCombinators_ok {checks : List Check} (compiled : compileCombinators graph fields = .ok checks) :
    checks = (outline graph fields).given "allOf" .allOf ++ (outline graph fields).given "anyOf" .anyOf ++
      (outline graph fields).given "oneOf" .oneOf ++ (outline graph fields).given "not" .not := by
  unfold compileCombinators at compiled
  obtain ⟨_, _, compiled⟩ := Except.bind_ok compiled
  obtain ⟨_, _, compiled⟩ := Except.bind_ok compiled
  obtain ⟨_, _, compiled⟩ := Except.bind_ok compiled
  obtain ⟨negation, negated, compiled⟩ := Except.bind_ok compiled
  cases compileNot_ok negated
  cases compiled
  rfl

end Keyword

section Nodes

variable {graph : Graph} {fields : Entries Ref}

/-- The outline determines the checks of a family, but for what was read to make them. -/
theorem Family.compile_ok {family : Family} {checks : List Check} (compiled : family.compile graph fields = .ok checks) :
    ∃ memo known pattern, checks = (Keyword.outline graph fields).familyChecks memo known pattern family := by
  cases family with
  | kind =>
    obtain ⟨memo, same⟩ := Keyword.compileKind_ok compiled
    exact ⟨memo, default, default, same⟩
  | object =>
    obtain ⟨known, same⟩ := Keyword.compileObject_ok compiled
    exact ⟨⟨.null, []⟩, known, default, same⟩
  | number => exact ⟨⟨.null, []⟩, default, default, Keyword.compileNumber_ok compiled⟩
  | text =>
    obtain ⟨pattern, same⟩ := Keyword.compileText_ok compiled
    exact ⟨⟨.null, []⟩, default, pattern, same⟩
  | array => exact ⟨⟨.null, []⟩, default, default, Keyword.compileArray_ok compiled⟩
  | boolean =>
    simp only [compile, Keyword.hasType_eq_type] at compiled
    cases compiled
    exact ⟨⟨.null, []⟩, default, default, rfl⟩
  | combinators => exact ⟨⟨.null, []⟩, default, default, Keyword.compileCombinators_ok compiled⟩

theorem Outline.alike_given {relates : α → α → Prop} (outline : Outline) (keyword : String) {check other : α}
    (related : relates check other) : List.Forall₂ relates (outline.given keyword check) (outline.given keyword other) := by
  unfold given
  split
  · exact .cons related .nil
  · exact .nil

private theorem alike_chosen {settled typed : Bool} {one two type : Check} (own : Check.Alike one two)
    (plain : type.isEnum = false) :
    List.Forall₂ Check.Alike (if settled = true then [one] else if typed = true then [type] else [])
      (if settled = true then [two] else if typed = true then [type] else []) := by
  split
  · exact .cons own .nil
  · split
    · exact .cons (.refl plain) .nil
    · exact .nil

theorem Outline.typeChecks_alike (outline : Outline) : List.Forall₂ Check.Alike outline.typeChecks outline.typeChecks := by
  apply List.forall₂_same.mpr
  intro check member
  apply Check.Alike.refl
  unfold typeChecks at member
  split at member
  · split at member
    · split at member
      · exact List.mem_singleton.mp member ▸ rfl
      · cases member
    · exact List.mem_singleton.mp member ▸ rfl
  · cases member

private theorem alike_entries {one two : List KeyCheck} (alike : List.Forall₂ KeyCheck.Alike one two)
    (required : List String) (tally : List TallyCheck) (typed : Bool) :
    List.Forall₂ Check.Alike
      (if (!one.isEmpty || !tally.isEmpty) = true then [.object one required tally]
        else if typed = true then [.isObject] else [])
      (if (!two.isEmpty || !tally.isEmpty) = true then [.object two required tally]
        else if typed = true then [.isObject] else []) := by
  cases alike with
  | nil => exact alike_chosen (.refl rfl) rfl
  | cons head tail => exact alike_chosen (Check.alike_object (.cons head tail) required tally) rfl

theorem Outline.objectChecks_alike (outline : Outline) (known others : List Pattern) :
    List.Forall₂ Check.Alike (outline.objectChecks known) (outline.objectChecks others) := by
  have same : ∀ checks : List KeyCheck, List.Forall₂ KeyCheck.Alike checks checks :=
    fun checks => List.forall₂_same.mpr fun check _ _ _ _ _ => rfl
  have patterns := outline.alike_given "patternProperties" (KeyCheck.alike_patterns known others)
  have named := List.rel_append (same (outline.given "properties" .properties)) patterns
  have entries := List.rel_append (List.rel_append (List.rel_append named (same outline.additionalChecks))
    (same (outline.given "dependencies" .dependencies))) (same (outline.given "propertyNames" .propertyNames))
  exact alike_entries entries _ _ _

private theorem alike_texts {one two : List TextCheck} (alike : List.Forall₂ TextCheck.Alike one two) (typed : Bool) :
    List.Forall₂ Check.Alike (if (!one.isEmpty) = true then [.text one] else if typed = true then [.isText] else [])
      (if (!two.isEmpty) = true then [.text two] else if typed = true then [.isText] else []) := by
  cases alike with
  | nil => exact alike_chosen (.refl rfl) rfl
  | cons head tail => exact alike_chosen (Check.alike_text (.cons head tail)) rfl

theorem Outline.textChecks_alike (outline : Outline) (known other : Pattern) :
    List.Forall₂ Check.Alike (outline.textChecks known) (outline.textChecks other) := by
  have sizes : List.Forall₂ TextCheck.Alike ((outline.sizes "maxLength" "minLength").map TextCheck.size)
      ((outline.sizes "maxLength" "minLength").map TextCheck.size) :=
    List.forall₂_same.mpr fun check _ _ _ _ => rfl
  exact alike_texts (List.rel_append sizes (outline.alike_given "pattern" (TextCheck.alike_pattern known other))) _

/-- Whatever was read to make them, the checks of one outline do the same. -/
theorem Outline.familyChecks_alike (outline : Outline) (memo other : Memo) (known others : List Pattern)
    (pattern another : Pattern) (family : Family) :
    List.Forall₂ Check.Alike (outline.familyChecks memo known pattern family)
      (outline.familyChecks other others another family) := by
  have given : ∀ (keyword : String) {check : Check}, check.isEnum = false →
      List.Forall₂ Check.Alike (outline.given keyword check) (outline.given keyword check) :=
    fun keyword check plain => outline.alike_given keyword (.refl plain)
  cases family with
  | kind =>
    have members := outline.alike_given "enum" (Check.Alike.enum memo other)
    exact List.rel_append (List.rel_append outline.typeChecks_alike members) (given "const" rfl)
  | object => exact outline.objectChecks_alike known others
  | number => exact alike_chosen (.refl rfl) rfl
  | text => exact outline.textChecks_alike pattern another
  | array => exact alike_chosen (.refl rfl) rfl
  | boolean =>
    simp only [familyChecks]
    split
    · exact .cons (.refl rfl) .nil
    · exact .nil
  | combinators =>
    exact List.rel_append (List.rel_append (List.rel_append (given "allOf" rfl) (given "anyOf" rfl)) (given "oneOf" rfl))
      (given "not" rfl)

variable {one two : Graph} {first second : Entries Ref} {node other : Ref}

theorem Family.compileAll_alike (same : Keyword.outline one first = Keyword.outline two second) {families : List Family}
    {checks others : List Check} (compiled : compileAll one first families = .ok checks)
    (again : compileAll two second families = .ok others) : List.Forall₂ Check.Alike checks others := by
  induction families generalizing checks others with
  | nil =>
    cases compiled
    cases again
    exact .nil
  | cons family rest ih =>
    obtain ⟨own, made, compiled⟩ := Except.bind_ok compiled
    obtain ⟨later, rests, compiled⟩ := Except.bind_ok compiled
    obtain ⟨own_again, made_again, again⟩ := Except.bind_ok again
    obtain ⟨later_again, rests_again, again⟩ := Except.bind_ok again
    cases compiled
    cases again
    obtain ⟨memo, known, pattern, rfl⟩ := compile_ok made
    obtain ⟨other, others, another, rfl⟩ := compile_ok made_again
    rw [← same]
    exact List.rel_append (Outline.familyChecks_alike _ _ _ _ _ _ _ _) (ih rests rests_again)

/-- Nodes of one outline compile to checks that do the same. -/
theorem compileNode_alike {checks others : List Check} (same : one.outline node = two.outline other)
    (compiled : compileNode one node = .ok checks) (again : compileNode two other = .ok others) :
    List.Forall₂ Check.Alike checks others := by
  have outlined : ∀ (graph : Graph) node checks, compileNode graph node = .ok checks → graph.outline node = none → checks = [] := by
    intro graph node checks compiled none
    rcases compileNode_object compiled with empty | ⟨fields, object⟩
    · exact empty
    · rw [Graph.outline, object] at none
      cases none
  cases outline : one.outline node with
  | none =>
    rw [outlined one node checks compiled outline, outlined two other others again (same.symm.trans outline)]
    exact .nil
  | some settled =>
    obtain ⟨first, found, rfl⟩ := Option.map_eq_some_iff.mp outline
    obtain ⟨second, found_again, settled⟩ := Option.map_eq_some_iff.mp (same.symm.trans outline)
    simp only [compileNode, Graph.entries?_eq_some found] at compiled
    simp only [compileNode, Graph.entries?_eq_some found_again] at again
    have selected : Family.selected two second = Family.selected one first := by
      have type := congrArg Outline.type settled
      simp only [Keyword.outline] at type
      simp only [Family.selected, type]
    rw [selected] at again
    exact Family.compileAll_alike settled.symm compiled again

end Nodes
end LiveSchema
