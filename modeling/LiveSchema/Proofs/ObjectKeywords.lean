import LiveSchema.Proofs.Enforcement
import LiveSchema.Proofs.EqualChecks

/-! What the keywords of objects mean, said keyword by keyword and without the pass over the
entries that the checks make. The entries are held to their keywords one after another and in
the order of the keywords; the object as a whole is looked at when all of them have passed, so
there is one failure that is the first. -/

namespace LiveSchema

open Keyword
open Run (start)

namespace Graph

/-- What a keyword of a node has under names. -/
def mapOf (graph : Graph) (node : Ref) (keyword : String) : Entries Ref :=
  ((graph.field? node keyword).bind fun part => (graph.shape part).entries?).getD []

/-- The schemas of the patterns that are found in a name. A whole number is not searched. -/
def patternSchemas (graph : Graph) (node : Ref) : Key → List Ref
  | .int _ => []
  | .text name => ((graph.mapOf node "patternProperties").filter fun entry => patternFound name entry.1).map Prod.snd

/-- A name is no property and no pattern is found in it. -/
def Additional (graph : Graph) (node : Ref) (name : Key) : Prop :=
  (graph.mapOf node "properties").get? name = none ∧ graph.patternSchemas node name = []

/-- An item of an array of names names an entry of an object. -/
def NamesEntry (graph : Graph) (entries : Entries Value) (item : Ref) : Prop :=
  ∃ name, graph.shape item = .text name ∧ entries.has (.text name) = true

end Graph

/-- The keywords that each entry of an object is held to. -/
inductive EntryKeyword where
  | properties
  | patternProperties
  | additionalProperties
  | dependencies
  | propertyNames

/-- The keywords that an object as a whole is held to. -/
inductive WholeKeyword where
  | required
  | maxProperties
  | minProperties

namespace EntryKeyword

def order : List EntryKeyword := [.properties, .patternProperties, .additionalProperties, .dependencies, .propertyNames]

/-- An entry meets a keyword of a node. -/
def Holds (graph : Graph) (judge : Value → Ref → Except Failure Unit) (node : Ref) (entry : EntryContext) : EntryKeyword → Prop
  | .properties => ∀ schema, (graph.mapOf node "properties").get? entry.name = some schema → judge entry.item schema = .ok ()
  | .patternProperties => ∀ schema ∈ graph.patternSchemas node entry.name, judge entry.item schema = .ok ()
  | .additionalProperties => ∀ schema, graph.field? node "additionalProperties" = some schema →
    graph.Additional node entry.name → graph.shape schema ≠ .bool false ∧
      ((graph.shape schema).isObject = true → judge entry.item schema = .ok ())
  | .dependencies => ∀ part, (graph.mapOf node "dependencies").get? entry.name = some part →
    (∀ names, (graph.shape part).items? = some names → ∀ name ∈ names, graph.NamesEntry entry.container name) ∧
      ((graph.shape part).items? = none → judge (.object entry.container) part = .ok ())
  | .propertyNames => ∀ schema, graph.field? node "propertyNames" = some schema → judge (.ofKey entry.name) schema = .ok ()

/-- The failure of an entry that does not meet a keyword. -/
def Fails (graph : Graph) (judge : Value → Ref → Except Failure Unit) (node : Ref) (entry : EntryContext) :
    EntryKeyword → Failure → Prop
  | .properties, failure => ∃ schema, (graph.mapOf node "properties").get? entry.name = some schema ∧
    judge entry.item schema = .error failure
  | .patternProperties, failure => FirstFailure (fun schema => judge entry.item schema = .ok ())
    (fun schema failure => judge entry.item schema = .error failure) (graph.patternSchemas node entry.name) failure
  | .additionalProperties, failure => ∃ schema, graph.field? node "additionalProperties" = some schema ∧
    graph.Additional node entry.name ∧
      (graph.shape schema = .bool false ∧ failure = .violation (.additionalProperty entry.name) ∨
        (graph.shape schema).isObject = true ∧ judge entry.item schema = .error failure)
  | .dependencies, failure => ∃ part, (graph.mapOf node "dependencies").get? entry.name = some part ∧
    ((∃ names, (graph.shape part).items? = some names ∧ FirstFailure (graph.NamesEntry entry.container)
      (fun name failure => ¬ graph.NamesEntry entry.container name ∧
        failure = (Violation.missingDependency entry.name (graph.value name)).failure) names failure) ∨
      (graph.shape part).items? = none ∧ judge (.object entry.container) part = .error failure)
  | .propertyNames, failure => ∃ schema, graph.field? node "propertyNames" = some schema ∧
    judge (.ofKey entry.name) schema = .error failure

end EntryKeyword

namespace WholeKeyword

def order : List WholeKeyword := [.required, .maxProperties, .minProperties]

/-- An object meets a keyword of a node. -/
def Holds (graph : Graph) (node : Ref) (entries : Entries Value) : WholeKeyword → Prop
  | .required => ∀ part, graph.field? node "required" = some part → ∀ names, (graph.shape part).items? = some names →
    ∀ name ∈ names, graph.NamesEntry entries name
  | .maxProperties => ∀ limit, graph.Threshold node "maxProperties" limit → entries.length ≤ limit
  | .minProperties => ∀ limit, graph.Threshold node "minProperties" limit → limit ≤ entries.length

def violation : WholeKeyword → Violation
  | .required => .missingRequired
  | .maxProperties => .tooLong "maxProperties"
  | .minProperties => .tooShort "minProperties"

/-- The failure of an object that does not meet a keyword. -/
def Fails (graph : Graph) (node : Ref) (entries : Entries Value) (keyword : WholeKeyword) (failure : Failure) : Prop :=
  ¬ keyword.Holds graph node entries ∧ failure = .violation keyword.violation

end WholeKeyword

namespace Graph

/-- Every entry meets the keywords of a node, and so does the object. -/
def ObjectMeets (graph : Graph) (judge : Value → Ref → Except Failure Unit) (node : Ref) (entries : Entries Value) : Prop :=
  (∀ entry ∈ entries, ∀ keyword ∈ EntryKeyword.order, keyword.Holds graph judge node ⟨entries, entry.1, entry.2⟩) ∧
    ∀ keyword ∈ WholeKeyword.order, keyword.Holds graph node entries

/-- The first failure of an object: that of its first entry that fails, and of the first keyword
which that entry does not meet; after all entries that of the first keyword for the object. -/
def ObjectFails (graph : Graph) (judge : Value → Ref → Except Failure Unit) (node : Ref) (entries : Entries Value)
    (failure : Failure) : Prop :=
  FirstFailure (fun entry => ∀ keyword ∈ EntryKeyword.order, keyword.Holds graph judge node ⟨entries, entry.1, entry.2⟩)
    (fun entry => FirstFailure (EntryKeyword.Holds graph judge node ⟨entries, entry.1, entry.2⟩)
      (EntryKeyword.Fails graph judge node ⟨entries, entry.1, entry.2⟩) EntryKeyword.order) entries failure ∨
  (∀ entry ∈ entries, ∀ keyword ∈ EntryKeyword.order, keyword.Holds graph judge node ⟨entries, entry.1, entry.2⟩) ∧
    FirstFailure (WholeKeyword.Holds graph node entries) (WholeKeyword.Fails graph node entries) WholeKeyword.order failure

/-- A value is no object and need not be one, or it is an object that meets all keywords. -/
def ObjectAccepts (graph : Graph) (judge : Value → Ref → Except Failure Unit) (node : Ref) (value : Value) : Prop :=
  value.shape.isObject = false ∧ ¬ graph.hasType (graph.field? node "type") "object" = true ∨
    ∃ entries, value = .object entries ∧ graph.ObjectMeets judge node entries

/-- The failure of a value that is no object but has to be one, or the first of an object. -/
def ObjectRefuses (graph : Graph) (judge : Value → Ref → Except Failure Unit) (node : Ref) (value : Value) (failure : Failure) : Prop :=
  value.shape.isObject = false ∧ graph.hasType (graph.field? node "type") "object" = true ∧ failure = .violation .notObject ∨
    ∃ entries, value = .object entries ∧ graph.ObjectFails judge node entries failure

end Graph

section Entries

variable {graph : Graph} {judge : Value → Ref → Except Failure Unit} {prepare : Ref → Except Failure Unit} {node : Ref}
  {entry : EntryContext} {fields : Entries Ref} {keyword : String}

/-- Checks of an entry settle a condition. What they are told about patterns, and what they
hand on, is part of it. -/
def Keyword.Enforces (graph : Graph) (judge : Value → Ref → Except Failure Unit) (prepare : Ref → Except Failure Unit) (node : Ref)
    (entry : EntryContext) (checks : List KeyCheck) (before after : Bool) (holds : Prop) (fails : Failure → Prop) : Prop :=
  ∃ own, Except.Settles own holds fails ∧ ∀ later,
    (runKeyChecks graph entry node before (checks ++ later)).evaluate judge prepare =
      own >>= fun _ => (runKeyChecks graph entry node after later).evaluate judge prepare

namespace Keyword.Enforces

variable {checks others : List KeyCheck} {check : KeyCheck} {before middle after : Bool} {holds held : Prop}
  {fails failed : Failure → Prop}
  {own : Except Failure Unit}

theorem append (one : Enforces graph judge prepare node entry checks before middle holds fails)
    (two : Enforces graph judge prepare node entry others middle after held failed) :
    Enforces graph judge prepare node entry (checks ++ others) before after (holds ∧ held)
      fun failure => fails failure ∨ holds ∧ failed failure := by
  obtain ⟨first, settles, runs⟩ := one
  obtain ⟨second, settle, run⟩ := two
  refine ⟨first >>= fun _ => second, settles.seq settle, fun later => ?_⟩
  rw [List.append_assoc, runs, bind_assoc]
  simp only [run]

theorem congr (enforces : Enforces graph judge prepare node entry checks before after holds fails) (same : holds ↔ held)
    (again : ∀ failure, fails failure ↔ failed failure) : Enforces graph judge prepare node entry checks before after held failed := by
  obtain ⟨own, settles, runs⟩ := enforces
  exact ⟨own, settles.congr same again, runs⟩

theorem nothing (settles : Except.Settles (.ok ()) holds fails) : Enforces graph judge prepare node entry [] before before holds fails :=
  ⟨.ok (), settles, fun _ => rfl⟩

theorem single (settles : Except.Settles own holds fails)
    (runs : (runKeyCheck graph entry node before check).evaluate judge prepare = own >>= fun _ => .ok after) :
    Enforces graph judge prepare node entry [check] before after holds fails := by
  refine ⟨own, settles, fun later => ?_⟩
  rw [List.singleton_append, runKeyChecks, Program.evaluate_bind, runs, bind_assoc]
  rfl

/-- A check that is there if its keyword is. -/
theorem given (settles : Except.Settles own holds fails)
    (present : ∀ part, fields.keyword? keyword = some part →
      (runKeyCheck graph entry node before check).evaluate judge prepare = own >>= fun _ => .ok after)
    (absent : fields.keyword? keyword = none → own = .ok () ∧ after = before) :
    Enforces graph judge prepare node entry ((outline graph fields).given keyword check) before after holds fails := by
  rw [given_eq]
  cases found : fields.keyword? keyword with
  | none =>
    obtain ⟨rfl, rfl⟩ := absent found
    exact nothing settles
  | some part => exact single settles (present part found)

theorem settles (enforces : Enforces graph judge prepare node entry checks before after holds fails) :
    Except.Settles ((runKeyChecks graph entry node before checks).evaluate judge prepare) holds fails := by
  obtain ⟨own, settles, runs⟩ := enforces
  have ended := runs []
  rw [List.append_nil] at ended
  have only : (own >>= fun _ => (runKeyChecks graph entry node after []).evaluate judge prepare) = own := by
    cases own <;> rfl
  rw [ended, only]
  exact settles

end Keyword.Enforces

variable (object : graph.shape node = .object fields) (forms : ObjectForms graph fields)
include object

theorem Graph.mapOf_absent (absent : fields.keyword? keyword = none) : graph.mapOf node keyword = [] := by
  rw [mapOf, field?_eq object, absent]
  rfl

theorem Graph.mapOf_eq {part : Ref} {entries : Entries Ref} (found : fields.keyword? keyword = some part)
    (shaped : graph.shape part = .object entries) : graph.mapOf node keyword = entries := by
  rw [mapOf, field?_eq object, found, Option.bind_some, shaped]
  rfl

include forms

theorem Keyword.enforces_properties (before : Bool) :
    Enforces graph judge prepare node entry ((outline graph fields).given "properties" .properties) before before
      (EntryKeyword.properties.Holds graph judge node entry) (EntryKeyword.properties.Fails graph judge node entry) := by
  refine .given (.optional fun schema _ => .itself (judge entry.item schema)) (fun part found => ?_) fun absent => ?_
  · obtain ⟨entries, shaped, schemas⟩ := forms.properties part found
    have read := entriesOf_eq ((Graph.field?_eq object "properties").trans found) shaped
    rw [runKeyCheck, Program.evaluate_bind, runProperties, read, Program.live_bind, Graph.mapOf_eq object found shaped]
    cases listed : entries.get? entry.name with
    | none => rfl
    | some schema =>
      have isSchema := (schemas _ (Table.mem_of_get? listed)).2
      dsimp only
      rw [if_pos isSchema, Program.evaluate_descend]
      rfl
  · rw [Graph.mapOf_absent object absent]
    exact ⟨rfl, rfl⟩

theorem Keyword.enforces_patterns (known : List Pattern) :
    Enforces graph judge prepare node entry ((outline graph fields).given "patternProperties" (.patternProperties known)) false
      (!(graph.patternSchemas node entry.name).isEmpty) (EntryKeyword.patternProperties.Holds graph judge node entry)
      (EntryKeyword.patternProperties.Fails graph judge node entry) := by
  refine .given (.forM fun schema _ => .itself (judge entry.item schema)) (fun part found => ?_) fun absent => ?_
  · obtain ⟨entries, shaped, patterns⟩ := forms.patternProperties part found
    have read := entriesOf_eq ((Graph.field?_eq object "patternProperties").trans found) shaped
    rw [runKeyCheck, runPatternProperties]
    cases named : entry.name with
    | int value => rfl
    | text name =>
      have compile : ∀ other ∈ entries, ∃ pattern, compileEntryPattern other.1 = .ok pattern := by
        intro other member
        exact compileEntryPattern_succeeds.mpr (patterns other member).1
      have schemas : graph.patternSchemas node (.text name) = (entries.filter fun other => patternFound name other.1).map Prod.snd := by
        rw [Graph.patternSchemas, Graph.mapOf_eq object found shaped]
      have some_found : (entries.any fun other => patternFound name other.1) = !(graph.patternSchemas node (.text name)).isEmpty := by
        rw [schemas, List.isEmpty_map, Bool.eq_iff_iff]
        simp [List.filter_eq_nil_iff]
      dsimp only
      rw [read, Program.live_bind, evaluate_runPatterns known name entry.item compile, Except.forM_filter, Bool.false_or, some_found,
        schemas, List.forM_eq_forM, List.forM_eq_forM, List.forM_map]
  · have none : graph.patternSchemas node entry.name = [] := by
      cases entry.name with
      | int value => rfl
      | text name => rw [Graph.patternSchemas, Graph.mapOf_absent object absent]; rfl
    rw [none]
    exact ⟨rfl, rfl⟩

/-- What is handed on about patterns tells whether an entry is additional. -/
theorem Keyword.isAdditional_iff (name : Key) : ∃ additional,
    isAdditional graph name node (!(graph.patternSchemas node name).isEmpty) = .ok additional ∧
      (additional = true ↔ graph.Additional node name) := by
  have unclaimed : (!!(graph.patternSchemas node name).isEmpty) = true ↔ graph.patternSchemas node name = [] := by
    rw [Bool.not_not, List.isEmpty_iff]
  simp only [isAdditional, Graph.optional_eq object, Graph.field?_eq object, Except.ok_bind]
  cases found : fields.keyword? "properties" with
  | none =>
    refine ⟨_, rfl, ?_⟩
    rw [Bool.not_false, Bool.true_and, unclaimed, Graph.Additional, Graph.mapOf_absent object found]
    exact (and_iff_right rfl).symm
  | some part =>
    obtain ⟨entries, shaped, _⟩ := forms.properties part found
    simp only [shaped, Shape.isTruthy, nameIn]
    refine ⟨!entries.has name && !!(graph.patternSchemas node name).isEmpty, ?_, ?_⟩
    · cases entries <;> rfl
    · rw [Bool.and_eq_true, unclaimed, Graph.Additional, Graph.mapOf_eq object found shaped, Table.has, Bool.not_eq_true',
        Option.isSome_eq_false_iff, Option.isNone_iff_eq_none]

omit forms in
theorem Keyword.additionalSchema_runs {part : Ref} (found : fields.keyword? "additionalProperties" = some part) {before additional : Bool}
    (read : isAdditional graph entry.name node before = .ok additional) :
    (runKeyCheck graph entry node before .additionalSchema).evaluate judge prepare =
      (if additional = true then judge entry.item part else .ok ()) >>= fun _ => .ok before := by
  rw [runKeyCheck, read, Graph.require_eq ((Graph.field?_eq object "additionalProperties").trans found), Program.live_bind]
  cases additional with
  | true =>
    dsimp only
    rw [if_pos rfl, if_pos rfl, Program.live_bind, Program.evaluate_bind, Program.evaluate_descend]
    rfl
  | false => rfl

omit object forms in
theorem Keyword.noAdditional_runs {before additional : Bool} (read : isAdditional graph entry.name node before = .ok additional) :
    (runKeyCheck graph entry node before .noAdditional).evaluate judge prepare =
      (if additional = true then violate (.additionalProperty entry.name) else .ok ()) >>= fun _ => .ok before := by
  rw [runKeyCheck, read]
  cases additional <;> rfl

/-- What is asked of an entry if there is a schema for additional ones. -/
theorem Keyword.enforces_extra {part : Ref} (found : fields.keyword? "additionalProperties" = some part) {before additional : Bool}
    (read : isAdditional graph entry.name node before = .ok additional) :
    Enforces graph judge prepare node entry (outline graph fields).additionalChecks before before
      (additional = true → graph.shape part ≠ .bool false ∧ ((graph.shape part).isObject = true → judge entry.item part = .ok ()))
      fun failure => additional = true ∧ (graph.shape part = .bool false ∧ failure = .violation (.additionalProperty entry.name) ∨
        (graph.shape part).isObject = true ∧ judge entry.item part = .error failure) := by
  have isSchema := forms.additionalProperties part found
  have settled : (outline graph fields).additional = (graph.shape part).bool? := by
    change (fields.keyword? "additionalProperties").bind (fun part => (graph.shape part).bool?) = _
    rw [found, Option.bind_some]
  rw [Outline.additionalChecks, settled]
  cases shaped : graph.shape part with
  | object parts =>
    have own := (Except.Settles.itself (judge entry.item part)).when (additional = true)
    dsimp only [Shape.bool?]
    rw [given_eq, found]
    refine (Enforces.single own (additionalSchema_runs object found read)).congr ?_ fun failure => ?_
    · simp [Shape.isObject]
    · simp [Shape.isObject]
  | bool flag =>
    cases flag with
    | true =>
      refine Enforces.nothing (Except.Settles.pass.congr (iff_of_true trivial ?_) fun failure => iff_of_false id ?_)
      · simp [Shape.isObject]
      · simp [Shape.isObject]
    | false =>
      have own : Except.Settles (if additional = true then violate (.additionalProperty entry.name) else .ok ()) (¬ additional = true)
          fun failure => additional = true ∧ failure = .violation (.additionalProperty entry.name) := Except.Settles.refuse _
      refine (Enforces.single own (noAdditional_runs read)).congr ?_ fun failure => ?_
      · simp
      · simp [Shape.isObject]
  | null | number | text | bytes | array => simp [Graph.isSchema, shaped, Shape.isSchema, Shape.isObject, Shape.isBool] at isSchema

theorem Keyword.enforces_additional :
    Enforces graph judge prepare node entry (outline graph fields).additionalChecks
      (!(graph.patternSchemas node entry.name).isEmpty) (!(graph.patternSchemas node entry.name).isEmpty)
      (EntryKeyword.additionalProperties.Holds graph judge node entry)
      (EntryKeyword.additionalProperties.Fails graph judge node entry) := by
  cases found : fields.keyword? "additionalProperties" with
  | none =>
    have absent := (Graph.field?_eq object "additionalProperties").trans found
    have unsettled : (outline graph fields).additional = none := congrArg (·.bind fun part => (graph.shape part).bool?) found
    rw [Outline.additionalChecks, unsettled]
    dsimp only
    rw [given_eq, found]
    apply Enforces.nothing
    refine Except.Settles.pass.congr (iff_of_true trivial fun part present => ?_) fun failure => iff_of_false id ?_
    · cases absent.symm.trans present
    · rintro ⟨part, present, _⟩
      cases absent.symm.trans present
  | some part =>
    have present := (Graph.field?_eq object "additionalProperties").trans found
    obtain ⟨additional, read, additional_iff⟩ := isAdditional_iff object forms entry.name
    refine (enforces_extra object forms found read).congr ?_ fun failure => ?_
    · simp only [EntryKeyword.Holds, present, Option.some.injEq, forall_eq', additional_iff]
    · simp only [EntryKeyword.Fails, present, Option.some.injEq, exists_eq_left', additional_iff]

omit object forms in
theorem Keyword.runNameDependencies_settles {names : List Ref} (texts : ∀ name ∈ names, ∃ text, graph.shape name = .text text) :
    Except.Settles (runNameDependencies graph entry names) (∀ name ∈ names, graph.NamesEntry entry.container name)
      (FirstFailure (graph.NamesEntry entry.container) (fun name failure => ¬ graph.NamesEntry entry.container name ∧
        failure = (Violation.missingDependency entry.name (graph.value name)).failure) names) := by
  induction names with
  | nil => exact Except.Settles.pass.congr (iff_of_true trivial (List.forall_mem_nil _)) fun failure => iff_of_false id firstFailure_nil
  | cons name rest ih =>
    obtain ⟨⟨text, shaped⟩, later⟩ := List.forall_mem_cons.mp texts
    have names_iff : entry.container.has (.text text) = true ↔ graph.NamesEntry entry.container name := by
      refine ⟨fun present => ⟨text, shaped, present⟩, ?_⟩
      rintro ⟨other, again, present⟩
      cases shaped.symm.trans again
      exact present
    have step : runNameDependencies graph entry (name :: rest) =
        (if entry.container.has (.text text) = true then .ok () else violate (.missingDependency entry.name (graph.value name))) >>=
          fun _ => runNameDependencies graph entry rest := by
      simp only [runNameDependencies, Graph.value_text shaped, hasEntry, live, Except.ok_bind]
      split <;> rfl
    rw [step]
    refine ((Except.Settles.accept _).seq (ih later)).congr ?_ fun failure => ?_
    · rw [names_iff, List.forall_mem_cons]
    · rw [names_iff, firstFailure_cons]

/-- What a dependency asks of the object. -/
def Keyword.dependencyOutcome (graph : Graph) (judge : Value → Ref → Except Failure Unit) (entry : EntryContext) (part : Ref) :
    Except Failure Unit :=
  match (graph.shape part).items? with
  | some names => runNameDependencies graph entry names
  | none => judge (.object entry.container) part

omit object forms in
theorem Keyword.dependencyOutcome_settles {part : Ref} (kind : isDependency graph part = true) :
    Except.Settles (dependencyOutcome graph judge entry part)
      ((∀ names, (graph.shape part).items? = some names → ∀ name ∈ names, graph.NamesEntry entry.container name) ∧
        ((graph.shape part).items? = none → judge (.object entry.container) part = .ok ()))
      fun failure => (∃ names, (graph.shape part).items? = some names ∧ FirstFailure (graph.NamesEntry entry.container)
        (fun name failure => ¬ graph.NamesEntry entry.container name ∧
          failure = (Violation.missingDependency entry.name (graph.value name)).failure) names failure) ∨
        (graph.shape part).items? = none ∧ judge (.object entry.container) part = .error failure := by
  unfold dependencyOutcome
  cases listed : (graph.shape part).items? with
  | none => refine (Except.Settles.itself _).congr ?_ fun failure => ?_ <;> simp
  | some names =>
    obtain ⟨fixed, shaped⟩ := Graph.items?_eq_some listed
    refine (runNameDependencies_settles (dependency_texts kind shaped)).congr ?_ fun failure => ?_
    · simp only [Option.some.injEq, forall_eq', reduceCtorEq, false_implies, and_true]
    · simp only [Option.some.injEq, exists_eq_left', reduceCtorEq, false_and, or_false]

theorem Keyword.enforces_dependencies (before : Bool) :
    Enforces graph judge prepare node entry ((outline graph fields).given "dependencies" .dependencies) before before
      (EntryKeyword.dependencies.Holds graph judge node entry) (EntryKeyword.dependencies.Fails graph judge node entry) := by
  have kinds : ∀ part, (graph.mapOf node "dependencies").get? entry.name = some part → isDependency graph part = true := by
    intro part listed
    cases found : fields.keyword? "dependencies" with
    | none =>
      rw [Graph.mapOf_absent object found] at listed
      cases listed
    | some map =>
      obtain ⟨entries, shaped, kinds⟩ := forms.dependencies map found
      rw [Graph.mapOf_eq object found shaped] at listed
      rw [isDependency, Bool.or_eq_true, distinctTexts?_isSome]
      exact (kinds _ (Table.mem_of_get? listed)).2
  refine .given (.optional fun part listed => dependencyOutcome_settles (kinds part listed)) (fun map found => ?_) fun absent => ?_
  · obtain ⟨entries, shaped, _⟩ := forms.dependencies map found
    have read := entriesOf_eq ((Graph.field?_eq object "dependencies").trans found) shaped
    rw [Graph.mapOf_eq object found shaped] at kinds ⊢
    rw [runKeyCheck, Program.evaluate_bind]
    cases listed : entries.get? entry.name with
    | none =>
      simp only [runDependencies, read, Program.live_bind, listed]
      rfl
    | some part =>
      rw [runDependencies_eq read listed (kinds part listed), Option.elim_some, dependencyOutcome]
      cases (graph.shape part).items? with
      | some names =>
        dsimp only
        rw [Program.evaluate_ofExcept]
        rfl
      | none =>
        dsimp only
        rw [Program.evaluate_descend]
        rfl
  · rw [Graph.mapOf_absent object absent]
    exact ⟨rfl, rfl⟩

omit forms in
theorem Keyword.enforces_names (before : Bool) :
    Enforces graph judge prepare node entry ((outline graph fields).given "propertyNames" .propertyNames) before before
      (EntryKeyword.propertyNames.Holds graph judge node entry) (EntryKeyword.propertyNames.Fails graph judge node entry) := by
  refine .given (.optional fun schema _ => .itself (judge (.ofKey entry.name) schema)) (fun part found => ?_) fun absent => ?_
  · have present := (Graph.field?_eq object "propertyNames").trans found
    rw [runKeyCheck, Program.live_require present, Program.evaluate_bind, Program.evaluate_descend, present]
    rfl
  · rw [Graph.field?_eq object, absent]
    exact ⟨rfl, rfl⟩

/-- The checks of an entry settle its keywords in their order. -/
theorem Keyword.entryChecks_settle :
    Except.Settles ((runKeyChecks graph entry node false (outline graph fields).entryChecks).evaluate judge prepare)
      (∀ keyword ∈ EntryKeyword.order, keyword.Holds graph judge node entry)
      (FirstFailure (EntryKeyword.Holds graph judge node entry) (EntryKeyword.Fails graph judge node entry) EntryKeyword.order) := by
  have all : Enforces graph judge prepare node entry _ false _ _ _ := (enforces_properties object forms false).append
    ((enforces_patterns object forms []).append ((enforces_additional object forms).append
      ((enforces_dependencies object forms _).append (enforces_names object _))))
  simp only [← List.append_assoc] at all
  refine all.settles.congr ?_ fun failure => ?_
  · simp only [EntryKeyword.order, List.forall_mem_cons, List.not_mem_nil, false_implies, implies_true, and_true]
  · simp only [EntryKeyword.order, firstFailure_cons, firstFailure_nil, and_false, or_false]

omit object forms in
theorem Graph.namesEntry_iff {items : List Ref} {names : List String} (texts : items.map graph.shape = names.map .text)
    (entries : Entries Value) :
    (∀ item ∈ items, graph.NamesEntry entries item) ↔ ∀ name ∈ names, entries.has (.text name) = true := by
  have named : (∀ item ∈ items, graph.NamesEntry entries item) ↔
      ∀ shape ∈ items.map graph.shape, ∃ name, shape = .text name ∧ entries.has (.text name) = true := by
    rw [List.forall_mem_map]
    rfl
  rw [named, texts, List.forall_mem_map]
  simp only [Shape.text.injEq, exists_eq_left']

omit forms in
theorem Keyword.required_settles (declares : fields.Declares "required" graph.ListsNames)
    {required : List String × List TallyCheck} (compiled : compileRequired graph fields = .ok required) {entries : Entries Value}
    (distinct : entries.keys.Nodup) :
    Except.Settles (required.2.forM (runTallyCheck graph entries.length (countRequired required.1 entries) node))
      (WholeKeyword.required.Holds graph node entries) (WholeKeyword.required.Fails graph node entries) := by
  cases found : fields.keyword? "required" with
  | none =>
    rw [compileRequired, found] at compiled
    cases compiled
    have met : WholeKeyword.required.Holds graph node entries := by
      intro part present
      cases ((Graph.field?_eq object "required").trans found).symm.trans present
    exact Except.Settles.pass.congr (iff_of_true trivial met) fun failure => iff_of_false id fun failed => failed.1 met
  | some part =>
    have present := (Graph.field?_eq object "required").trans found
    obtain ⟨fixed, items, names, shaped, texts, unlike⟩ := declares part found
    have read : requiredNames graph part = .ok names := by
      simp only [requiredNames, shaped, Shape.items?, texts_iff.mpr texts, if_pos unlike]
      rfl
    have made : compileRequired graph fields = .ok (names, [.required]) := by
      simp only [compileRequired, found, read]
      rfl
    cases made.symm.trans compiled
    have met : countRequired names entries = names.length ↔ WholeKeyword.required.Holds graph node entries := by
      simp only [WholeKeyword.Holds, present, Option.some.injEq, forall_eq', shaped, Shape.items?, Graph.namesEntry_iff texts]
      exact countRequired_eq_length_iff unlike distinct
    have counted : Except.Settles (runRequired graph (countRequired names entries) node) (countRequired names entries = names.length)
        fun failure => ¬ countRequired names entries = names.length ∧ failure = .violation .missingRequired := by
      rw [runRequired_eq object made]
      exact .accept .missingRequired
    refine (counted.seq .pass).congr ((and_iff_left trivial).trans met) fun failure => ?_
    rw [and_false, or_false, met]
    rfl

/-- The checks of an object as a whole settle its keywords in their order. -/
theorem Keyword.tallyChecks_settle {entries : Entries Value} (distinct : entries.keys.Nodup) :
    Except.Settles ((outline graph fields).tallyChecks.forM
        (runTallyCheck graph entries.length (countRequired (outline graph fields).requiredChecks.1 entries) node))
      (∀ keyword ∈ WholeKeyword.order, keyword.Holds graph node entries)
      (FirstFailure (WholeKeyword.Holds graph node entries) (WholeKeyword.Fails graph node entries) WholeKeyword.order) := by
  obtain ⟨required, made⟩ := compileRequired_succeeds.mpr forms.required
  have first := required_settles object forms.required made distinct
  rw [compileRequired_ok made] at first
  have all := first.seq ((SizeCheck.settles_given object forms.maxProperties .max entries.length).seq
    (SizeCheck.settles_given object forms.minProperties .min entries.length))
  simp only [Outline.tallyChecks, Outline.sizes, List.forM_eq_forM, List.map_append, List.forM_append, List.forM_map,
    runTallyCheck] at all ⊢
  refine all.congr ?_ fun failure => ?_
  · simp only [WholeKeyword.order, List.forall_mem_cons, List.not_mem_nil, false_implies, implies_true, and_true]
    rfl
  · simp only [WholeKeyword.order, firstFailure_cons, firstFailure_nil, and_false, or_false]
    rfl

theorem Keyword.runObject_settles {value : Value} (distinct : ∀ entries, value = .object entries → (Table.keys entries).Nodup) :
    Except.Settles ((runObject graph (outline graph fields).entryChecks (outline graph fields).requiredChecks.1
        (outline graph fields).tallyChecks value node).evaluate judge prepare)
      (graph.ObjectAccepts judge node value) (graph.ObjectRefuses judge node value) := by
  unfold runObject
  split
  next entries =>
    have each : ∀ entry ∈ entries, Except.Settles
        ((runKeyChecks graph ⟨entries, entry.1, entry.2⟩ node false (outline graph fields).entryChecks).evaluate judge prepare) _ _ :=
      fun entry _ => entryChecks_settle object forms
    have passes := Except.Settles.forM each
    rw [← evaluate_runEntries] at passes
    have all := passes.seq (tallyChecks_settle object forms (distinct entries rfl))
    rw [Program.evaluate_bind, Program.evaluate_ofExcept]
    refine all.congr ?_ fun failure => ?_
    · simp only [Graph.ObjectAccepts, Value.shape, Shape.isObject, Bool.true_eq_false, false_and, false_or, Value.object.injEq,
        exists_eq_left']
      rfl
    · simp only [Graph.ObjectRefuses, Value.shape, Shape.isObject, Bool.true_eq_false, false_and, false_or, Value.object.injEq,
        exists_eq_left']
      rfl
  next other =>
    have kind : value.shape.isObject = false := by
      cases value with
      | object entries => exact absurd rfl (other entries)
      | null | bool | number | text | bytes | array => rfl
    have unlike : ∀ {holds : Entries Value → Prop}, ¬ ∃ entries, value = .object entries ∧ holds entries := by
      rintro holds ⟨entries, same, _⟩
      exact other entries same
    refine (guard_settles object "object" .notObject).congr ?_ fun failure => ?_
    · rw [Graph.ObjectAccepts, and_iff_right kind, or_iff_left unlike]
    · rw [Graph.ObjectRefuses, and_iff_right kind, or_iff_left unlike]

omit object forms in
theorem Keyword.objectChecks_plain {checks : List Check} (compiled : compileObject graph fields = .ok checks) :
    ∀ check ∈ checks, check.isEnum = false := by
  obtain ⟨known, rfl⟩ := compileObject_ok compiled
  exact chosen_plain rfl rfl

omit forms in
/-- A compiled list runs like the checks of all keywords, also when some are left out. -/
theorem Keyword.evaluate_objectChecks {checks : List Check} (compiled : compileObject graph fields = .ok checks) {mode : MultipleMode}
    {value : Value} :
    (Check.runAll graph mode value node checks).evaluate judge prepare =
      (runObject graph (outline graph fields).entryChecks (outline graph fields).requiredChecks.1
        (outline graph fields).tallyChecks value node).evaluate judge prepare := by
  obtain ⟨known, rfl⟩ := compileObject_ok compiled
  rw [Check.runAll_alike (Outline.objectChecks_alike _ known []) (chosen_plain rfl rfl), Outline.objectChecks_eq]
  refine Check.evaluate_chosen fun empty => ?_
  obtain ⟨entries, tally⟩ := Bool.or_eq_false_iff.mp empty
  rw [Bool.not_eq_false', List.isEmpty_iff] at entries tally
  rw [entries, tally, ← hasType_eq_type]
  simp only [Check.run, runObject]
  split
  next parts =>
    have nothing :
        (parts.forM fun entry => (runKeyChecks graph ⟨parts, entry.1, entry.2⟩ node false []).evaluate judge prepare) = .ok () :=
      Except.Agree.forM_ok_iff.mpr fun _ _ => rfl
    rw [Program.evaluate_bind, evaluate_runEntries, nothing]
    split <;> rfl
  next other =>
    have kind : runIsObject value = violate .notObject := by
      cases value with
      | object parts => exact absurd rfl (other parts)
      | null | bool | number | text | bytes | array => rfl
    rw [Program.live_optional object, Graph.field?_eq object, kind]
    split <;> rfl

end Entries

/-- What the checks of the keywords for objects make of a value, whatever was called on the
schema before. They pass just the values that meet the keywords, and the failure of any other
value is the first there is; where its message cannot be written, that is the failure. -/
theorem object_keywords_settle {graph : Graph} {validator : Validator} {node : Ref} {fields : Entries Ref} {checks : List Check}
    (object : graph.shape node = .object fields) (compiled : compileObject graph fields = .ok checks)
    (nested : ∀ schema ∈ graph.subschemas node, graph.Compiles schema) (tasks : List Task) (identity origin : Nat) {value : Value}
    (distinct : ∀ entries, value = .object entries → (Table.keys entries).Nodup) :
    Except.Settles (start (Run.enforce graph ⟨identity, origin, validator.mode, checks⟩ value node) (validator.work graph tasks .empty)).1
      (graph.ObjectAccepts (graph.evaluate validator.mode) node value)
      (graph.ObjectRefuses (graph.evaluate validator.mode) node value) := by
  have forms := compileObject_succeeds.mp ⟨checks, compiled⟩
  have fits := compileObject_fits object compiled
  rw [Validator.enforce_work object rfl fits (objectChecks_plain compiled) nested tasks value, evaluate_objectChecks object compiled]
  exact runObject_settles object forms distinct

/-- Objects that must have one entry and may have no other. -/
def closedGraph : Graph :=
  ⟨#[.object [(.text "properties", .node 1), (.text "additionalProperties", .bool false), (.text "required", .node 2)],
    .object [(.text "a", .bool true)], .array false [.node 3], .text "a"]⟩

def closedChecker : Validator := ⟨.node 0, .standard⟩

def closedChecks : Compiled := ⟨0, 0, closedChecker.mode, [.object [.properties, .noAdditional] ["a"] [.required]]⟩

/-- An object that lacks the one and has another is refused for what it has. -/
theorem object_keywords_settle_closed :
    (∃ fields, closedGraph.shape (.node 0) = .object fields ∧ compileObject closedGraph fields = .ok closedChecks.checks) ∧
    (start (Run.enforce closedGraph closedChecks (.object [(.text "b", .null)]) (.node 0))
      (closedChecker.work closedGraph [.validate .null] .empty)).1 = .error (.violation (.additionalProperty (.text "b"))) := by
  have object : closedGraph.shape (.node 0) =
    .object [(.text "properties", .node 1), (.text "additionalProperties", .bool false), (.text "required", .node 2)] := rfl
  have compiled : compileObject closedGraph [(.text "properties", .node 1), (.text "additionalProperties", .bool false),
    (.text "required", .node 2)] = .ok closedChecks.checks := rfl
  have nested : ∀ schema ∈ closedGraph.subschemas (.node 0), closedGraph.Compiles schema := by
    rw [show closedGraph.subschemas (.node 0) = [.bool true, .bool false] from by decide]
    simp only [List.forall_mem_cons, List.not_mem_nil, false_implies, implies_true, and_true, Graph.compiles_iff]
    rw [show closedGraph.preorder (.bool true) = [.bool true] from by decide,
      show closedGraph.preorder (.bool false) = [.bool false] from by decide]
    simp only [List.forall_mem_singleton]
    exact ⟨⟨[], rfl⟩, ⟨[], rfl⟩⟩
  have distinct : ∀ entries, Value.object [(.text "b", .null)] = .object entries → (Table.keys entries).Nodup := by
    rintro _ ⟨⟩
    decide
  have settles : Except.Settles
      (start (Run.enforce closedGraph closedChecks _ _) (closedChecker.work closedGraph [.validate .null] .empty)).1 _ _ :=
    object_keywords_settle object compiled nested [.validate .null] 0 0 distinct
  refine ⟨⟨_, object, compiled⟩, (settles.error_iff _).mpr (.inr ⟨_, rfl, .inl ⟨[], _, [], rfl, List.forall_mem_nil _, ?_⟩⟩)⟩
  refine ⟨[.properties, .patternProperties], .additionalProperties, [.dependencies, .propertyNames], rfl, ?_, ?_⟩
  · simp only [List.forall_mem_cons, List.not_mem_nil, false_implies, implies_true, and_true]
    refine ⟨fun schema listed => ?_, fun schema found => ?_⟩
    · cases (show (none : Option Ref) = some schema from listed)
    · cases (show schema ∈ ([] : List Ref) from found)
  · exact ⟨.bool false, rfl, ⟨rfl, rfl⟩, .inl ⟨rfl, rfl⟩⟩

end LiveSchema
