import LiveSchema.Proofs.CompileFailures
import LiveSchema.Proofs.NodeAcceptance

/-! Which violations the checks of a node report. Some are their own, and name a keyword that
the node has. Others are those of a nested schema, passed on as they are. What a combinator or
`contains` is told by its members it never passes on: it only counts who accepts. -/

namespace LiveSchema

open LiveSchema.Except (FailsAs)

/-- A failure that is no violation, or one that is owned. -/
def Failure.Owned (owns : Violation → Prop) : Failure → Prop
  | .violation found => owns found
  | _ => True

theorem Failure.OfSchema.owned {owns : Violation → Prop} {failure : Failure} (ofSchema : failure.OfSchema) :
    failure.Owned owns := by
  cases failure with
  | violation violation => exact ofSchema.elim
  | defect | fault | setting | lookup | endless => trivial

namespace Except.FailsAs

variable {owns : Violation → Prop} {violation : Violation}

theorem weaken {fails weaker : Failure → Prop} {outcome : Except Failure α} (failsAs : FailsAs fails outcome)
    (weakens : ∀ failure, fails failure → weaker failure) : FailsAs weaker outcome :=
  fun failure failed => weakens failure (failsAs failure failed)

theorem live_bind {reading : Except Fault α} {rest : α → Except Failure β}
    (continues : ∀ result, reading = .ok result → FailsAs (Failure.Owned owns) (rest result)) :
    FailsAs (Failure.Owned owns) (live reading >>= rest) := by
  cases reading with
  | ok result => exact continues result rfl
  | error fault => exact .error trivial

theorem violate_owned (owned : owns violation) : FailsAs (Failure.Owned owns) (LiveSchema.violate violation : Except Failure α) := by
  refine .error ?_
  unfold Violation.failure
  split
  · exact owned
  · trivial

theorem written_owned (value : Value) : FailsAs (Failure.Owned owns) (written value) :=
  (Keyword.written_fails value).weaken fun _ => Failure.OfSchema.owned

theorem accept_owned {condition : Prop} [Decidable condition] (owned : owns violation) :
    FailsAs (Failure.Owned owns) (if condition then .ok () else LiveSchema.violate violation) := by
  split
  · exact .ok ()
  · exact .violate_owned owned

theorem refuse_owned {condition : Prop} [Decidable condition] (owned : owns violation) :
    FailsAs (Failure.Owned owns) (if condition then LiveSchema.violate violation else .ok ()) := by
  split
  · exact .violate_owned owned
  · exact .ok ()

end Except.FailsAs

namespace Program

/-- Where the violations of a program come from. It finds them itself, or a nested schema has
found them and they surface unchanged. Nested violations that do not surface are all the same
to it. -/
def Accounts (owns : Violation → Prop) (surfaces : Ref → Prop) : Program α → Prop
  | .done _ => True
  | .fail failure => failure.Owned owns
  | .judge _ node next =>
    (next none).Accounts owns surfaces ∧
      (surfaces node ∧ (∀ violation, next (some violation) = .fail (.violation violation)) ∨
        (∀ one two, next (some one) = next (some two)) ∧ ∀ violation, (next (some violation)).Accounts owns surfaces)
  | .prepare _ next => next.Accounts owns surfaces
  | .recollect next => ∀ memo, (next memo).Accounts owns surfaces
  | .remember _ next => next.Accounts owns surfaces

/-- A program comes to find a violation itself, whatever the violations of nested schemas say. -/
inductive Raises (violation : Violation) : Program α → Prop
  | here : Raises violation (.fail (.violation violation))
  | accepted {value : Value} {node : Ref} {next : Option Violation → Program α} (later : (next none).Raises violation) :
      Raises violation (.judge value node next)
  | refused {value : Value} {node : Ref} {next : Option Violation → Program α} {nested : Violation}
      (blind : ∀ one two, next (some one) = next (some two)) (later : (next (some nested)).Raises violation) :
      Raises violation (.judge value node next)
  | prepare {node : Ref} {next : Program α} (later : next.Raises violation) : Raises violation (.prepare node next)
  | recollect {next : Option Memo → Program α} (memo : Option Memo) (later : (next memo).Raises violation) :
      Raises violation (.recollect next)
  | remember {memo : Memo} {next : Program α} (later : next.Raises violation) : Raises violation (.remember memo next)

variable {owns : Violation → Prop} {surfaces : Ref → Prop}

theorem Accounts.bind {program : Program α} {rest : α → Program β} (first : program.Accounts owns surfaces)
    (continues : ∀ result, (rest result).Accounts owns surfaces) : (program >>= rest).Accounts owns surfaces := by
  change (program.bind rest).Accounts owns surfaces
  induction program with
  | done result => exact continues result
  | fail failure => exact first
  | judge value node next ih =>
    refine ⟨ih none first.1, ?_⟩
    rcases first.2 with ⟨surfaced, handed⟩ | ⟨blind, others⟩
    · exact .inl ⟨surfaced, fun violation => congrArg (Program.bind · rest) (handed violation)⟩
    · exact .inr ⟨fun one two => congrArg (Program.bind · rest) (blind one two), fun violation => ih _ (others violation)⟩
  | prepare node next ih => exact ih first
  | recollect next ih => exact fun memo => ih memo (first memo)
  | remember memo next ih => exact ih first

theorem accounts_ofExcept {outcome : Except Failure α} (fails : FailsAs (Failure.Owned owns) outcome) :
    (ofExcept outcome).Accounts owns surfaces := by
  cases outcome with
  | ok result => trivial
  | error failure => exact fails failure rfl

/-- What a schema is to blame for is no violation. -/
theorem accounts_ofSchema {outcome : Except Failure α} (fails : FailsAs Failure.OfSchema outcome) :
    (ofExcept outcome).Accounts owns surfaces :=
  accounts_ofExcept (fails.weaken fun _ => Failure.OfSchema.owned)

theorem accounts_live_bind {reading : Except Fault α} {rest : α → Program β}
    (continues : ∀ result, reading = .ok result → (rest result).Accounts owns surfaces) :
    (live reading >>= rest).Accounts owns surfaces := by
  cases reading with
  | ok result => exact continues result rfl
  | error fault => trivial

theorem accounts_descend (value : Value) {node : Ref} (surfaced : surfaces node) :
    (descend value node).Accounts owns surfaces :=
  ⟨trivial, .inl ⟨surfaced, fun _ => rfl⟩⟩

/-- A verdict of which only its kind is looked at. -/
theorem accounts_verdict_bind {value : Value} {node : Ref} {rest : Option Violation → Program α}
    (blind : ∀ one two, rest (some one) = rest (some two)) (continues : ∀ verdict, (rest verdict).Accounts owns surfaces) :
    (verdict value node >>= rest).Accounts owns surfaces :=
  ⟨continues none, .inr ⟨blind, fun violation => continues (some violation)⟩⟩

end Program

namespace Graph

def HasKey (graph : Graph) (node : Ref) (keyword : String) : Prop := ∃ part, graph.field? node keyword = some part

/-- A node explains the violations that name one of its keys. -/
def Explains (graph : Graph) (node : Ref) (violation : Violation) : Prop := graph.HasKey node violation.report.keyword

/-- A nested schema whose violations its node passes on. The members of `anyOf`, `oneOf`, `not`
and `contains` are not among them. -/
inductive Surfaces (graph : Graph) (node inner : Ref) : Prop
  | mapped {keyword : String} {part : Ref} {entries : Entries Ref} {name : Key}
      (known : keyword ∈ ["properties", "patternProperties", "dependencies"]) (found : graph.field? node keyword = some part)
      (shaped : graph.shape part = .object entries) (member : (name, inner) ∈ entries) (schema : graph.isSchema inner = true)
  | single {keyword : String} (known : keyword ∈ ["additionalProperties", "propertyNames", "items", "additionalItems"])
      (found : graph.field? node keyword = some inner) (schema : graph.isSchema inner = true)
  | listed {keyword : String} {part : Ref} {fixed : Bool} {items : List Ref} (known : keyword ∈ ["items", "allOf"])
      (found : graph.field? node keyword = some part) (shaped : graph.shape part = .array fixed items)
      (member : inner ∈ items) (schema : graph.isSchema inner = true)

variable {graph : Graph} {node part : Ref} {keyword : String}

theorem hasKey_of_require (required : graph.require node keyword = .ok part) : graph.HasKey node keyword :=
  ⟨part, require_ok required⟩

theorem hasKey_of_read {read : Ref → Except Fault α} {result : α} (ended : (graph.require node keyword >>= read) = .ok result) :
    graph.HasKey node keyword := by
  obtain ⟨part, required, _⟩ := Except.bind_ok ended
  exact hasKey_of_require required

theorem optional_ok {found : Option Ref} (read : graph.optional node keyword = .ok found) : graph.field? node keyword = found := by
  unfold optional at read
  split at read
  next entries shaped =>
    cases read
    simp only [field?, shaped, Shape.entries?, Option.bind_some]
  next => cases read

theorem hasKey_of_optional (read : graph.optional node keyword = .ok (some part)) : graph.HasKey node keyword :=
  ⟨part, optional_ok read⟩

theorem hasKey_of_hasType {type : Option Ref} {name : String} (read : graph.optional node keyword = .ok type)
    (typed : graph.hasType type name = true) : graph.HasKey node keyword := by
  obtain ⟨part, _, rfl, _⟩ := Keyword.hasType_text typed
  exact hasKey_of_optional read

end Graph

open Program (Accounts)

variable {graph : Graph} {node : Ref} {fields : Entries Ref} {mode : MultipleMode}

theorem SizeCheck.run_owned (length : Except Fault Nat) (check : SizeCheck) :
    FailsAs (Failure.Owned (graph.Explains node)) (check.run graph node length) := by
  refine .live_bind fun count _ => .live_bind fun threshold required => ?_
  have here := Graph.hasKey_of_require required
  split
  · cases check.direction with
    | max => exact .refuse_owned here
    | min => exact .refuse_owned here
  · exact .error trivial

namespace Keyword

section Outcomes

theorem runTypes_owned (value : Value) : FailsAs (Failure.Owned (graph.Explains node)) (runTypes graph value node) := by
  refine .live_bind fun members read => .live_bind fun any _ => ?_
  have here := Graph.hasKey_of_read read
  exact .accept_owned here

theorem comparedForm_owned {owns : Violation → Prop} (value : Option Value) :
    FailsAs (Failure.Owned owns) (comparedForm value) := by
  cases value with
  | some value => exact .ok value.canon
  | none => exact .error trivial

theorem runConst_owned (value : Value) : FailsAs (Failure.Owned (graph.Explains node)) (runConst graph value node) := by
  refine .live_bind fun constant required => .bind (comparedForm_owned _) fun form _ => ?_
  exact .accept_owned (Graph.hasKey_of_require required)

theorem withNumber_owned {owns : Violation → Prop} {keyword : Option Ref} {test : Number → Except Failure Unit}
    (tests : ∀ part number, keyword = some part → FailsAs (Failure.Owned owns) (test number)) :
    FailsAs (Failure.Owned owns) (withNumber graph keyword test) := by
  unfold withNumber
  split
  next number read =>
    obtain ⟨part, found, _⟩ := Option.bind_eq_some_iff.mp read
    exact tests part number found
  next => exact .ok ()

theorem checkMultiple_owned {owns : Violation → Prop} {value divisor : Number} (owned : owns (.notMultiple divisor)) :
    FailsAs (Failure.Owned owns) (checkMultiple mode value divisor) := by
  unfold checkMultiple
  split
  · exact .ok ()
  · exact .violate_owned owned
  · exact .error trivial

theorem runBounds_owned (value : Number) : FailsAs (Failure.Owned (graph.Explains node)) (runBounds graph mode value node) := by
  refine .live_bind fun maximum first => .live_bind fun exclusiveMaximum second => ?_
  refine .live_bind fun minimum third => .live_bind fun exclusiveMinimum fourth => ?_
  refine .live_bind fun multipleOf fifth => ?_
  refine .bind (withNumber_owned fun part bound found => .refuse_owned ?_) fun _ _ => ?_
  · exact Graph.hasKey_of_optional (found ▸ first)
  refine .bind (withNumber_owned fun part bound found => .refuse_owned ?_) fun _ _ => ?_
  · exact Graph.hasKey_of_optional (found ▸ second)
  refine .bind (withNumber_owned fun part bound found => .refuse_owned ?_) fun _ _ => ?_
  · exact Graph.hasKey_of_optional (found ▸ third)
  refine .bind (withNumber_owned fun part bound found => .refuse_owned ?_) fun _ _ => ?_
  · exact Graph.hasKey_of_optional (found ▸ fourth)
  refine withNumber_owned fun part divisor found => checkMultiple_owned ?_
  exact Graph.hasKey_of_optional (found ▸ fifth)

theorem runNumber_owned (whole : Bool) (value : Value) :
    FailsAs (Failure.Owned (graph.Explains node)) (runNumber graph mode whole value node) := by
  unfold runNumber
  split
  · exact runBounds_owned _
  · refine .live_bind fun type read => ?_
    split
    next integer => exact .error (Graph.hasKey_of_hasType read integer)
    · split
      next number => exact .error (Graph.hasKey_of_hasType read number)
      · exact .ok ()

theorem runIsNumber_owned (whole : Bool) (value : Value) :
    FailsAs (Failure.Owned (graph.Explains node)) (runIsNumber graph whole value node) := by
  unfold runIsNumber
  split
  · exact .ok ()
  · refine .live_bind fun type required => .bind (.written_owned _) fun _ _ => ?_
    exact .violate_owned (Graph.hasKey_of_require required)

theorem runTextCheck_owned (text : String) (check : TextCheck) :
    FailsAs (Failure.Owned (graph.Explains node)) (runTextCheck graph text node check) := by
  cases check with
  | size check => exact check.run_owned _
  | pattern known =>
    refine .live_bind fun current required => .live_bind fun pattern _ => ?_
    exact .accept_owned (Graph.hasKey_of_require required)

theorem runText_owned (checks : List TextCheck) (value : Value) :
    FailsAs (Failure.Owned (graph.Explains node)) (runText graph checks value node) := by
  unfold runText
  split
  · exact .forM fun check _ => runTextCheck_owned _ check
  · refine .live_bind fun type read => ?_
    split
    next typed => exact .error (Graph.hasKey_of_hasType read typed)
    · exact .ok ()

theorem runUnique_owned (items : List Value) : FailsAs (Failure.Owned (graph.Explains node)) (runUnique graph items node) := by
  refine .live_bind fun unique read => ?_
  split
  next asked =>
    split
    · exact .error (Graph.hasKey_of_optional (asked ▸ read))
    · exact .ok ()
  · exact .ok ()

theorem runTallyCheck_owned (length seen : Nat) (check : TallyCheck) :
    FailsAs (Failure.Owned (graph.Explains node)) (runTallyCheck graph length seen node check) := by
  cases check with
  | size check => exact check.run_owned _
  | required =>
    refine .live_bind fun required found => ?_
    split
    · exact .error trivial
    · exact .accept_owned (Graph.hasKey_of_require found)

theorem runNameDependencies_owned (here : graph.HasKey node "dependencies") (entry : EntryContext) (names : List Ref) :
    FailsAs (Failure.Owned (graph.Explains node)) (runNameDependencies graph entry names) := by
  induction names with
  | nil => exact .ok ()
  | cons name rest ih =>
    refine .live_bind fun present _ => ?_
    split
    · exact ih
    · exact .violate_owned here

end Outcomes

section Arrays

theorem runAdditionalItem_accounts (index : Nat) (item : Value) :
    (runAdditionalItem graph index item node).Accounts (graph.Explains node) (graph.Surfaces node) := by
  refine Program.accounts_live_bind fun additional read => ?_
  split
  · exact Graph.hasKey_of_optional read
  next additional _ =>
    split
    next object =>
      refine Program.accounts_descend item (.single (by decide) (Graph.optional_ok read) ?_)
      simp [Graph.isSchema, Shape.isSchema, object]
    next => trivial
  · trivial

theorem runItem_accounts {check : ItemCheck} (fits : check.Fits graph node) (index : Nat) (item : Value) :
    (runItem graph index item node check).Accounts (graph.Explains node) (graph.Surfaces node) := by
  cases check with
  | every =>
    obtain ⟨items, found, schema⟩ := fits
    simp only [runItem, Program.live_require found]
    exact Program.accounts_descend item (.single (by decide) found schema)
  | positional =>
    obtain ⟨items, fixed, members, found, shaped, schemas⟩ := fits
    simp only [runItem, Program.live_require found, positionalSchema_eq shaped]
    cases placed : members[index]? with
    | some schema =>
      have member := List.mem_of_getElem? placed
      exact Program.accounts_descend item (.listed (by decide) found shaped member (schemas schema member))
    | none => exact runAdditionalItem_accounts index item

theorem runItems_accounts {check : ItemCheck} (fits : check.Fits graph node) (index : Nat) (items : List Value) :
    (runItems graph check node index items).Accounts (graph.Explains node) (graph.Surfaces node) := by
  induction items generalizing index with
  | nil => trivial
  | cons item rest ih => exact .bind (runItem_accounts fits index item) fun _ => ih (index + 1)

/-- An item that the schema refuses is passed over, whatever is wrong with it. -/
theorem runContains_accounts (here : graph.HasKey node "contains") (schema : Ref) (items : List Value) :
    (runContains schema items).Accounts (graph.Explains node) (graph.Surfaces node) := by
  induction items with
  | nil => exact here
  | cons item rest ih =>
    refine Program.accounts_verdict_bind (fun _ _ => rfl) fun verdict => ?_
    cases verdict with
    | none => trivial
    | some _ => exact ih

theorem runArrayCheck_accounts (items : List Value) (check : ArrayCheck) :
    (runArrayCheck graph items node check).Accounts (graph.Explains node) (graph.Surfaces node) := by
  cases check with
  | contains =>
    exact Program.accounts_live_bind fun schema required => runContains_accounts (Graph.hasKey_of_require required) schema items
  | unique => exact Program.accounts_ofExcept (runUnique_owned items)
  | size check => exact Program.accounts_ofExcept (check.run_owned _)

theorem runArrayChecks_accounts (items : List Value) (checks : List ArrayCheck) :
    (runArrayChecks graph items node checks).Accounts (graph.Explains node) (graph.Surfaces node) := by
  induction checks with
  | nil => trivial
  | cons check rest ih => exact .bind (runArrayCheck_accounts items check) fun _ => ih

/-- A value of another kind is refused by a family only if the type of the node names that family. -/
theorem guard_accounts {violation : Violation} (keyword : violation.report.keyword = "type") (name : String) :
    (Program.live (graph.optional node "type") >>= fun type =>
      if graph.hasType type name = true then Program.violate violation else pure () : Program Unit).Accounts
        (graph.Explains node) (graph.Surfaces node) := by
  refine Program.accounts_live_bind fun type read => ?_
  split
  next typed =>
    change graph.HasKey node violation.report.keyword
    exact keyword ▸ Graph.hasKey_of_hasType read typed
  next => trivial

theorem runArray_accounts {items : Option ItemCheck} (fits : ∀ check ∈ items, check.Fits graph node) (all : List ArrayCheck)
    (value : Value) : (runArray graph items all value node).Accounts (graph.Explains node) (graph.Surfaces node) := by
  unfold runArray
  split
  next parts =>
    cases items with
    | none => exact runArrayChecks_accounts parts all
    | some check => exact .bind (runItems_accounts (fits check rfl) 0 parts) fun _ => runArrayChecks_accounts parts all
  next => exact guard_accounts rfl "array"

end Arrays

section Objects

theorem runProperties_accounts (fits : KeyCheck.properties.Fits graph node) (entry : EntryContext) :
    (runProperties graph entry node).Accounts (graph.Explains node) (graph.Surfaces node) := by
  obtain ⟨part, entries, found, shaped, _⟩ := fits
  simp only [runProperties, live_entries found shaped]
  split
  next schema listed =>
    split
    next isSchema =>
      exact Program.accounts_descend entry.item (.mapped (by decide) found shaped (Table.mem_of_get? listed) isSchema)
    next => trivial
  next => trivial

theorem runPatterns_accounts (known : List Pattern) (name : String) (item : Value) {patterns : Entries Ref}
    (surfaces : ∀ entry ∈ patterns, graph.Surfaces node entry.2) (matched : Bool) :
    (runPatterns known name item matched patterns).Accounts (graph.Explains node) (graph.Surfaces node) := by
  induction patterns generalizing matched with
  | nil => trivial
  | cons entry rest ih =>
    have later := ih fun other member => surfaces other (List.mem_cons_of_mem _ member)
    rw [runPatterns, liveEntryPattern_eq]
    refine .bind (Program.accounts_ofSchema (compileEntryPattern_fails entry.1)) fun pattern => ?_
    split
    · exact .bind (Program.accounts_descend item (surfaces entry List.mem_cons_self)) fun _ => later true
    · exact later matched

theorem runPatternProperties_accounts {known : List Pattern} (fits : (KeyCheck.patternProperties known).Fits graph node)
    (entry : EntryContext) (matched : Bool) :
    (runPatternProperties graph known entry node matched).Accounts (graph.Explains node) (graph.Surfaces node) := by
  obtain ⟨part, entries, found, shaped, patterns⟩ := fits
  unfold runPatternProperties
  split
  · trivial
  next name _ =>
    simp only [live_entries found shaped]
    exact runPatterns_accounts known name entry.item
      (fun other member => .mapped (by decide) found shaped member (patterns other member).1) matched

theorem runDependencies_accounts (fits : KeyCheck.dependencies.Fits graph node) (entry : EntryContext) :
    (runDependencies graph entry node).Accounts (graph.Explains node) (graph.Surfaces node) := by
  obtain ⟨part, entries, found, shaped, dependencies⟩ := fits
  simp only [runDependencies, live_entries found shaped]
  split
  · trivial
  · trivial
  next dependency _ listed =>
    have member := Table.mem_of_get? listed
    split
    · exact Program.accounts_ofExcept (runNameDependencies_owned ⟨part, found⟩ entry _)
    next noItems =>
      exact Program.accounts_descend _
        (.mapped (by decide) found shaped member (dependency_schema (dependencies _ member) noItems))

theorem runKeyCheck_accounts {check : KeyCheck} (fits : check.Fits graph node)
    (forbids : check = .noAdditional → graph.HasKey node "additionalProperties") (entry : EntryContext) (matched : Bool) :
    (runKeyCheck graph entry node matched check).Accounts (graph.Explains node) (graph.Surfaces node) := by
  cases check with
  | properties => exact .bind (runProperties_accounts fits entry) fun _ => trivial
  | patternProperties known => exact runPatternProperties_accounts fits entry matched
  | additionalSchema =>
    obtain ⟨⟨schema, found, isSchema⟩, _⟩ := fits
    refine Program.accounts_live_bind fun additional _ => ?_
    simp only [Program.live_require found]
    split
    · exact .bind (Program.accounts_descend entry.item (.single (by decide) found isSchema)) fun _ => trivial
    · trivial
  | noAdditional =>
    refine Program.accounts_live_bind fun additional _ => ?_
    split
    · exact forbids rfl
    · trivial
  | dependencies => exact .bind (runDependencies_accounts fits entry) fun _ => trivial
  | propertyNames =>
    obtain ⟨schema, found, isSchema⟩ := fits
    simp only [runKeyCheck, Program.live_require found]
    exact .bind (Program.accounts_descend _ (.single (by decide) found isSchema)) fun _ => trivial

theorem runKeyChecks_accounts {checks : List KeyCheck} (fits : ∀ check ∈ checks, check.Fits graph node)
    (forbids : .noAdditional ∈ checks → graph.HasKey node "additionalProperties") (entry : EntryContext) (matched : Bool) :
    (runKeyChecks graph entry node matched checks).Accounts (graph.Explains node) (graph.Surfaces node) := by
  induction checks generalizing matched with
  | nil => trivial
  | cons check rest ih =>
    have own : check = .noAdditional → graph.HasKey node "additionalProperties" := by
      rintro rfl
      exact forbids List.mem_cons_self
    refine .bind (runKeyCheck_accounts (fits check List.mem_cons_self) own entry matched) fun result => ?_
    exact ih (fun other member => fits other (List.mem_cons_of_mem _ member))
      (fun member => forbids (List.mem_cons_of_mem _ member)) result

theorem runEntries_accounts {checks : List KeyCheck} (fits : ∀ check ∈ checks, check.Fits graph node)
    (forbids : .noAdditional ∈ checks → graph.HasKey node "additionalProperties") (container entries : Entries Value) :
    (runEntries graph checks container node entries).Accounts (graph.Explains node) (graph.Surfaces node) := by
  induction entries with
  | nil => trivial
  | cons entry rest ih => exact .bind (runKeyChecks_accounts fits forbids _ false) fun _ => ih

theorem runObject_accounts {entries : List KeyCheck} (fits : ∀ check ∈ entries, check.Fits graph node)
    (forbids : .noAdditional ∈ entries → graph.HasKey node "additionalProperties") (required : List String)
    (tally : List TallyCheck) (value : Value) :
    (runObject graph entries required tally value node).Accounts (graph.Explains node) (graph.Surfaces node) := by
  unfold runObject
  split
  next parts =>
    refine .bind (runEntries_accounts fits forbids parts parts) fun _ => Program.accounts_ofExcept ?_
    exact .forM fun check _ => runTallyCheck_owned _ _ check
  next => exact guard_accounts rfl "object"

end Objects

section Combinators

variable {members : List Ref}

/-- The first member that refuses speaks for all. -/
theorem runAllOf_accounts (surfaces : ∀ schema ∈ members, graph.Surfaces node schema) (value : Value) :
    (runAllOf value (members.map .node)).Accounts (graph.Explains node) (graph.Surfaces node) := by
  induction members with
  | nil => trivial
  | cons schema rest ih =>
    refine ⟨?_, .inl ⟨surfaces schema List.mem_cons_self, fun _ => rfl⟩⟩
    exact ih fun other later => surfaces other (List.mem_cons_of_mem _ later)

theorem runAnyOf_accounts (here : graph.HasKey node "anyOf") (value : Value) :
    (runAnyOf value (members.map .node)).Accounts (graph.Explains node) (graph.Surfaces node) := by
  induction members with
  | nil => exact here
  | cons schema rest ih =>
    refine Program.accounts_verdict_bind (fun _ _ => rfl) fun verdict => ?_
    cases verdict with
    | none => trivial
    | some _ => exact ih

theorem runOneOf_accounts (here : graph.HasKey node "oneOf") (value : Value) (found : Bool) :
    (runOneOf value found (members.map .node)).Accounts (graph.Explains node) (graph.Surfaces node) := by
  induction members generalizing found with
  | nil =>
    cases found with
    | true => trivial
    | false => exact here
  | cons schema rest ih =>
    cases found with
    | true =>
      refine Program.accounts_verdict_bind (fun _ _ => rfl) fun verdict => ?_
      cases verdict with
      | none => exact here
      | some _ => exact ih true
    | false =>
      refine Program.accounts_verdict_bind (fun _ _ => rfl) fun verdict => ?_
      cases verdict with
      | none => exact ih true
      | some _ => exact ih false

theorem runNot_accounts (here : graph.HasKey node "not") (value : Value) (schema : Ref) :
    (runNot value schema).Accounts (graph.Explains node) (graph.Surfaces node) := by
  refine Program.accounts_verdict_bind (fun _ _ => rfl) fun verdict => ?_
  cases verdict with
  | none => exact here
  | some _ => trivial

end Combinators

theorem membership_owned (here : graph.HasKey node "enum") (value : Value) (allowed : List Canon) :
    FailsAs (Failure.Owned (graph.Explains node)) (membership value allowed) := .accept_owned here

/-- Whatever is remembered, a value that is not allowed is refused under `enum`. -/
theorem runEnum_accounts (value : Value) (compiled : Memo) :
    (runEnum graph value node compiled).Accounts (graph.Explains node) (graph.Surfaces node) := by
  cases required : graph.require node "enum" with
  | error fault =>
    rw [runEnum, required]
    trivial
  | ok current =>
    have here := Graph.hasKey_of_require required
    rw [runEnum_eq (Graph.require_ok required)]
    intro memo
    dsimp only
    split
    · exact Program.accounts_ofExcept (membership_owned here value _)
    · refine .bind (Program.accounts_ofSchema (memberForms_fails current)) fun allowed => ?_
      exact Program.accounts_ofExcept (membership_owned here value allowed)

end Keyword

/-- A check that reads no keyword to know what it refuses was compiled because of one. -/
def Check.Grounded (graph : Graph) (node : Ref) : Check → Prop
  | .null | .isObject | .isText | .isArray | .isBoolean => graph.HasKey node "type"
  | .object entries _ _ => .noAdditional ∈ entries → graph.HasKey node "additionalProperties"
  | _ => True

section Compile

open Keyword (outline)

private theorem chosen_grounded {settled typed : Bool} {own type : Check} (settles : own.Grounded graph node)
    (types : typed = true → type.Grounded graph node) :
    ∀ check ∈ if settled = true then [own] else if typed = true then [type] else [], check.Grounded graph node := by
  split
  · exact List.forall_mem_singleton.mpr settles
  · split
    next typed => exact List.forall_mem_singleton.mpr (types typed)
    next => exact List.forall_mem_nil _

variable (object : graph.shape node = .object fields)
include object

theorem Outline.hasKey_of_present {keyword : String} (present : (outline graph fields).present keyword = true) :
    graph.HasKey node keyword := by
  obtain ⟨part, found⟩ := Option.isSome_iff_exists.mp present
  exact ⟨part, (Graph.field?_eq object _).trans found⟩

theorem Outline.hasKey_of_type {name : String} (typed : ((outline graph fields).type == some name) = true) :
    graph.HasKey node "type" := by
  obtain ⟨part, found, _⟩ := Option.bind_eq_some_iff.mp (eq_of_beq typed)
  exact ⟨part, (Graph.field?_eq object _).trans found⟩

theorem Outline.hasKey_of_forbids (forbids : .noAdditional ∈ (outline graph fields).additionalChecks) :
    graph.HasKey node "additionalProperties" := by
  cases settled : (outline graph fields).additional with
  | some allowed =>
    obtain ⟨part, found, _⟩ := Option.bind_eq_some_iff.mp settled
    exact ⟨part, (Graph.field?_eq object _).trans found⟩
  | none =>
    rw [additionalChecks, settled] at forbids
    exact hasKey_of_present object ((mem_given _).mp forbids).1

theorem Outline.objectChecks_grounded (known : List Pattern) :
    ∀ check ∈ (outline graph fields).objectChecks known, check.Grounded graph node := by
  refine chosen_grounded (fun forbids => hasKey_of_forbids object ?_) (hasKey_of_type object)
  simpa only [List.mem_append, mem_given, reduceCtorEq, and_false, false_or, or_false] using forbids

theorem Outline.typeChecks_grounded : ∀ check ∈ (outline graph fields).typeChecks, check.Grounded graph node := by
  unfold typeChecks
  split
  next present =>
    split
    · split
      · exact List.forall_mem_singleton.mpr (hasKey_of_present object present)
      · exact List.forall_mem_nil _
    · exact List.forall_mem_singleton.mpr trivial
  next => exact List.forall_mem_nil _

theorem Family.compile_grounded {family : Family} {checks : List Check} (compiled : family.compile graph fields = .ok checks) :
    ∀ check ∈ checks, check.Grounded graph node := by
  obtain ⟨memo, known, pattern, rfl⟩ := compile_ok compiled
  have given : ∀ (keyword : String) {check : Check}, check.Grounded graph node →
      ∀ other ∈ (outline graph fields).given keyword check, other.Grounded graph node :=
    fun keyword _ grounded => (Outline.forall_given_iff _).mpr fun _ => grounded
  cases family with
  | kind =>
    simp only [Outline.familyChecks, List.forall_mem_append]
    exact ⟨⟨Outline.typeChecks_grounded object, given "enum" trivial⟩, given "const" trivial⟩
  | object => exact Outline.objectChecks_grounded object known
  | number => exact chosen_grounded trivial fun _ => trivial
  | text => exact chosen_grounded trivial (Outline.hasKey_of_type object)
  | array => exact chosen_grounded trivial (Outline.hasKey_of_type object)
  | boolean =>
    simp only [Outline.familyChecks]
    split
    next typed => exact List.forall_mem_singleton.mpr (Outline.hasKey_of_type object typed)
    next => exact List.forall_mem_nil _
  | combinators =>
    simp only [Outline.familyChecks, List.forall_mem_append]
    exact ⟨⟨⟨given "allOf" trivial, given "anyOf" trivial⟩, given "oneOf" trivial⟩, given "not" trivial⟩

theorem Family.compileAll_grounded {families : List Family} {checks : List Check}
    (compiled : compileAll graph fields families = .ok checks) : ∀ check ∈ checks, check.Grounded graph node := by
  induction families generalizing checks with
  | nil =>
    cases compiled
    exact List.forall_mem_nil _
  | cons family rest ih =>
    obtain ⟨first, made, compiled⟩ := Except.bind_ok compiled
    obtain ⟨others, rests, compiled⟩ := Except.bind_ok compiled
    cases compiled
    exact List.forall_mem_append.mpr ⟨compile_grounded object made, ih rests⟩

omit object in
theorem compileNode_grounded {checks : List Check} (compiled : compileNode graph node = .ok checks) :
    ∀ check ∈ checks, check.Grounded graph node := by
  unfold compileNode at compiled
  split at compiled
  · cases compiled
    exact List.forall_mem_nil _
  next fields object => exact Family.compileAll_grounded object compiled
  · cases compiled

end Compile

open Keyword in
/-- The checks of a compiled node find violations of their own or pass on those of schemas that surface. -/
theorem Check.run_accounts {check : Check} (fits : check.Fits graph node) (grounded : check.Grounded graph node) (value : Value) :
    (check.run graph mode value node).Accounts (graph.Explains node) (graph.Surfaces node) := by
  cases check with
  | null => exact Program.accounts_ofExcept (.accept_owned grounded)
  | types => exact Program.accounts_ofExcept (runTypes_owned value)
  | enum memo => exact runEnum_accounts value memo
  | const => exact Program.accounts_ofExcept (runConst_owned value)
  | object entries required tally => exact runObject_accounts fits.1 grounded required tally value
  | isObject => exact Program.accounts_ofExcept (.accept_owned grounded)
  | number whole => exact Program.accounts_ofExcept (runNumber_owned whole value)
  | isNumber whole => exact Program.accounts_ofExcept (runIsNumber_owned whole value)
  | text checks => exact Program.accounts_ofExcept (runText_owned checks value)
  | isText => exact Program.accounts_ofExcept (.accept_owned grounded)
  | array items all => exact runArray_accounts fits.1 all value
  | isArray => exact Program.accounts_ofExcept (.accept_owned grounded)
  | isBoolean => exact Program.accounts_ofExcept (.accept_owned grounded)
  | allOf =>
    obtain ⟨part, fixed, items, found, shaped, schemas⟩ := fits
    simp only [run, liveMembers, membersOf_eq found shaped, Program.live_bind]
    exact runAllOf_accounts (fun schema member => .listed (by decide) found shaped member (schemas schema member)) value
  | anyOf =>
    obtain ⟨part, fixed, items, found, shaped, _⟩ := fits
    simp only [run, liveMembers, membersOf_eq found shaped, Program.live_bind]
    exact runAnyOf_accounts ⟨part, found⟩ value
  | oneOf =>
    obtain ⟨part, fixed, items, found, shaped, _⟩ := fits
    simp only [run, liveMembers, membersOf_eq found shaped, Program.live_bind]
    exact runOneOf_accounts ⟨part, found⟩ value false
  | not => exact Program.accounts_live_bind fun schema required => runNot_accounts (Graph.hasKey_of_require required) value schema

theorem Check.runAll_accounts {checks : List Check} (fits : ∀ check ∈ checks, check.Fits graph node)
    (grounded : ∀ check ∈ checks, check.Grounded graph node) (value : Value) :
    (runAll graph mode value node checks).Accounts (graph.Explains node) (graph.Surfaces node) := by
  induction checks with
  | nil => trivial
  | cons check rest ih =>
    rw [List.forall_mem_cons] at fits grounded
    exact .bind (check.run_accounts fits.1 grounded.1 value) fun _ => ih fits.2 grounded.2

end LiveSchema
