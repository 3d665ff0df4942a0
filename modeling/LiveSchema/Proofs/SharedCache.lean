import LiveSchema.Proofs.CacheTransparency

/-! Validators of different modes on one cache. Entries are filed under their node
alone, so whoever compiles a node settles the mode in which all others use it. That
is of no account where the nodes that several of them reach ask for no multiples. -/

namespace LiveSchema

open Run (start)

variable {graph : Graph} {mode asked : MultipleMode} {node : Ref} {value : Value} {space : Workspace}
  {claims : MultipleMode → Ref → Prop} {ready : Prop}

theorem Keyword.runBounds_modeless (absent : graph.field? node "multipleOf" = none) (mode asked : MultipleMode)
    (value : Number) : runBounds graph mode value node = runBounds graph asked value node := by
  have unread : ∀ multipleOf, graph.optional node "multipleOf" = .ok multipleOf → multipleOf = none := by
    intro multipleOf read
    cases shaped : graph.shape node with
    | object fields =>
      rw [Graph.optional_eq shaped, absent] at read
      exact (Except.ok.inj read).symm
    | null | bool | number | text | bytes | array => simp only [Graph.optional, shaped] at read; cases read
  unfold runBounds
  cases read : graph.optional node "multipleOf" with
  | error fault => rfl
  | ok multipleOf =>
    cases unread multipleOf read
    rfl

theorem Check.run_modeless (absent : graph.field? node "multipleOf" = none) (mode asked : MultipleMode) (value : Value)
    (check : Check) : check.run graph mode value node = check.run graph asked value node := by
  cases check with
  | number whole =>
    simp only [run, Keyword.runNumber, Keyword.runBounds_modeless absent mode asked]
  | null | types | enum | const | object | isObject | isNumber | text | isText | array | isArray | isBoolean
  | allOf | anyOf | oneOf | not => rfl

theorem judgeNode_modeless (absent : graph.field? node "multipleOf" = none) (mode asked : MultipleMode) (checks : List Check)
    (value : Value) : judgeNode graph mode checks value node = judgeNode graph asked checks value node := by
  have all : Check.runAll graph mode value node checks = Check.runAll graph asked value node checks := by
    induction checks with
    | nil => rfl
    | cons check rest ih => simp only [Check.runAll, check.run_modeless absent mode asked, ih]
  simp only [judgeNode, all]

/-- Which nodes may be used in which mode. A node that is used in several has no multiples to look for. -/
structure Graph.Allots (graph : Graph) (claims : MultipleMode → Ref → Prop) : Prop where
  closed : ∀ mode node, claims mode node → ∀ inner ∈ graph.subschemas node, claims mode inner
  apart : ∀ one two node, claims one node → claims two node → one ≠ two → graph.field? node "multipleOf" = none

theorem Graph.Allots.judgeNode_eq (allots : graph.Allots claims) (one : claims mode node) (two : claims asked node)
    (checks : List Check) (value : Value) : judgeNode graph mode checks value node = judgeNode graph asked checks value node := by
  by_cases same : mode = asked
  · rw [same]
  · exact judgeNode_modeless (allots.apart mode asked node one two same) mode asked checks value

namespace Workspace

/-- Every list is what its node compiles to, in a mode that the node may be used in. -/
structure Shared (graph : Graph) (claims : MultipleMode → Ref → Prop) (ready : Prop) (space : Workspace) : Prop where
  distinct : space.cache.Distinct
  lists : ∀ node list, space.cache.get? node = some list → compileNode graph node = .ok list.checks ∧ claims list.mode node
  clean : ∀ origin, space.memos.get? origin = none
  flag : space.compiled = true → ready

theorem Shared.file {checks : List Check} (shared : Shared graph claims ready space) (claimed : claims mode node)
    (compiles : compileNode graph node = .ok checks) : Shared graph claims ready (space.filed graph mode node checks) where
  distinct := shared.distinct.set node _
  lists := by
    intro other list cached
    rcases cached_of_filed cached with ⟨rfl, rfl⟩ | old
    · exact ⟨compiles, claimed⟩
    · exact shared.lists other list old
  clean := shared.clean
  flag := shared.flag

theorem Shared.drop {log : List LogEntry} (shared : Shared graph claims ready space) (node : Ref) :
    Shared graph claims ready { space with cache := space.cache.erase node, log } where
  distinct := shared.distinct.erase node
  lists other list cached := shared.lists other list (Cache.get?_of_erase shared.distinct cached)
  clean := shared.clean
  flag := shared.flag

end Workspace

open Workspace (Shared)

/-- Cached or not, the checks that are found are those of the node, in some mode it may be used in. -/
theorem Run.checksFor_shared (shared : Shared graph claims ready space) (claimed : claims asked node) :
    Shared graph claims ready (start (checksFor graph asked node) space).2 ∧
      match compileNode graph node with
      | .error failure => (start (checksFor graph asked node) space).1 = .error failure
      | .ok checks => ∃ list, (start (checksFor graph asked node) space).1 = .ok list ∧ list.checks = checks ∧
          claims list.mode node := by
  cases cached : space.cache.get? node with
  | some list =>
    obtain ⟨compiles, inMode⟩ := shared.lists node list cached
    rw [start_checksFor_hit cached, compiles]
    exact ⟨shared, list, rfl, rfl, inMode⟩
  | none =>
    cases compiles : compileNode graph node with
    | error failure =>
      rw [start_checksFor_fail cached compiles]
      exact ⟨shared, rfl⟩
    | ok checks =>
      rw [start_checksFor_miss cached compiles]
      exact ⟨shared.file claimed compiles, _, rfl, rfl, claimed⟩

theorem Run.prepare_shared (claimed : claims asked node) :
    Run.Ends (Shared graph claims ready) (discard (checksFor graph asked node)) (prepareNode graph node) := by
  intro space shared
  obtain ⟨kept, found⟩ := checksFor_shared shared claimed
  rw [start_discard]
  refine ⟨?_, kept⟩
  unfold prepareNode
  cases compiles : compileNode graph node with
  | error failure =>
    rw [compiles] at found
    rw [found]
    rfl
  | ok checks =>
    rw [compiles] at found
    obtain ⟨list, found, _⟩ := found
    rw [found]
    rfl

/-- A validation asks for nested nodes in the mode of whoever compiled the node around
them, and ends as in its own mode all the same. -/
theorem validateAt_shared (allots : graph.Allots claims) (fuel : Nat) (value : Value) (claimed : claims asked node)
    (own : claims mode node) :
    Run.Ends (Shared graph claims ready) (Run.validateAt graph fuel asked value node)
      (evaluateAt graph mode fuel value node) := by
  induction fuel generalizing asked value node with
  | zero => exact fun space shared => ⟨rfl, shared⟩
  | succ fuel ih =>
    intro space shared
    obtain ⟨kept, found⟩ := Run.checksFor_shared shared claimed
    rw [Run.validateAt, evaluateAt, Run.start_bind]
    generalize start (Run.checksFor graph asked node) space = ended at kept found
    obtain ⟨outcome, after⟩ := ended
    cases compiles : compileNode graph node with
    | error failure =>
      rw [compiles] at found
      cases found
      exact ⟨rfl, kept⟩
    | ok checks =>
      rw [compiles] at found
      obtain ⟨list, found, same, used⟩ := found
      cases found
      simp only [Except.ok_bind, same, allots.judgeNode_eq used own]
      unfold judgeNode
      split
      · exact ⟨rfl, kept⟩
      · refine Check.runAll_ends (Check.agrees_fresh compiles fun space shared => shared.clean _)
          (fun part schema asks => ?_) (fun schema nested => ?_) after kept
        · exact ih part (allots.closed _ node used schema asks.1) (allots.closed mode node own schema asks.1)
        · exact Run.prepare_shared (allots.closed _ node used schema nested)

namespace Validator

variable {validator : Validator} {nodes written : List Ref}

private theorem undo_shared (written : List Ref) (shared : Shared graph claims ready space) :
    Shared graph claims ready (start (undo written) space).2 := by
  induction written generalizing space with
  | nil => exact shared
  | cons node rest ih =>
    rw [start_undo_cons, Workspace.dropping]
    split
    · exact ih (shared.drop node)
    · exact ih shared

theorem compileNodes_shared (claimed : ∀ node ∈ nodes, claims validator.mode node) :
    Run.Ends (Shared graph claims ready) (validator.compileNodes graph written nodes) (forM nodes (prepareNode graph)) := by
  induction nodes generalizing written with
  | nil => exact fun space shared => ⟨rfl, shared⟩
  | cons node rest ih =>
    have later := fun other member => claimed other (List.mem_cons_of_mem node member)
    intro space shared
    rw [List.forM_cons]
    cases cached : space.cache.get? node with
    | some list =>
      obtain ⟨compiles, _⟩ := shared.lists node list cached
      rw [start_compileNodes_hit cached, prepareNode, compiles]
      exact ih later space shared
    | none =>
      cases compiles : compileNode graph node with
      | ok checks =>
        rw [start_compileNodes_miss cached compiles, prepareNode, compiles]
        exact ih later _ (shared.file (claimed node (by simp)) compiles)
      | error failure =>
        rw [start_compileNodes_fail cached compiles, prepareNode, compiles]
        refine ⟨rfl, ?_⟩
        simp only []
        split
        · exact undo_shared written shared
        · exact shared

/-- The nodes that are compiled along with the schema. -/
def scope (validator : Validator) (graph : Graph) : List Ref :=
  if validator.settings.isEager then graph.preorder validator.schema else [validator.schema]

/-- How a validator on its own judges a value: its schema has to compile, and then decides. -/
def verdict (validator : Validator) (graph : Graph) (value : Value) : Except Failure Unit := do
  forM (validator.scope graph) (prepareNode graph)
  graph.evaluate validator.mode value validator.schema

def Ready (validator : Validator) (graph : Graph) : Prop := forM (validator.scope graph) (prepareNode graph) = .ok ()

theorem mem_scope (validator : Validator) (graph : Graph) : validator.schema ∈ validator.scope graph := by
  unfold scope
  split
  · exact Graph.mem_preorder_iff.mpr .refl
  · exact List.mem_singleton.mpr rfl

theorem reaches_of_scope (inside : node ∈ validator.scope graph) : graph.Reaches validator.schema node := by
  unfold scope at inside
  split at inside
  · exact Graph.mem_preorder_iff.mp inside
  · exact List.mem_singleton.mp inside ▸ .refl

private theorem prepared_of_forM (prepared : forM nodes (prepareNode graph) = .ok ()) (member : node ∈ nodes) :
    prepareNode graph node = .ok () := by
  induction nodes with
  | nil => cases member
  | cons first rest ih =>
    rw [List.forM_cons] at prepared
    obtain ⟨⟨⟩, made, others⟩ := Except.bind_ok prepared
    rcases List.mem_cons.mp member with rfl | later
    · exact made
    · exact ih others later

theorem compile_shared (claimed : ∀ node, graph.Reaches validator.schema node → claims validator.mode node) :
    Run.Ends (Shared graph claims (validator.Ready graph)) (discard (validator.compile graph))
      (forM (validator.scope graph) (prepareNode graph)) := by
  have nodes : Run.Ends (Shared graph claims (validator.Ready graph)) (validator.compileFrom graph validator.schema)
      (forM (validator.scope graph) (prepareNode graph)) :=
    compileNodes_shared fun node inside => claimed node (reaches_of_scope inside)
  intro space shared
  obtain ⟨same, kept⟩ := nodes space shared
  rw [Run.start_discard, compile, Run.start_bind]
  generalize start (validator.compileFrom graph validator.schema) space = ended at same kept
  obtain ⟨failure | ⟨⟩, after⟩ := ended
  · rw [← same]
    exact ⟨rfl, kept⟩
  · simp only []
    rw [Run.start_bind_ok (Run.start_setCompiled true), ← same]
    have flagged : Shared graph claims (validator.Ready graph) { after with compiled := true } :=
      ⟨kept.distinct, kept.lists, kept.clean, fun _ => same.symm⟩
    have prepares : Run.Ends (Shared graph claims (validator.Ready graph))
        (discard (validator.checksFor graph validator.schema)) (prepareNode graph validator.schema) :=
      Run.prepare_shared (claimed validator.schema .refl)
    have ends := prepares _ flagged
    rw [Run.start_discard, prepared_of_forM same.symm (mem_scope validator graph)] at ends
    exact ends

/-- On a cache that others use as well a validation ends as the validator's own schema and mode say. -/
theorem validate_shared (allots : graph.Allots claims)
    (claimed : ∀ node, graph.Reaches validator.schema node → claims validator.mode node) (value : Value) :
    Run.Ends (Shared graph claims (validator.Ready graph)) (validator.validate graph value) (validator.verdict graph value) := by
  have whole : Run.Ends (Shared graph claims (validator.Ready graph))
      (Run.validateAt graph (graph.budget value) validator.mode value validator.schema)
      (graph.evaluate validator.mode value validator.schema) :=
    validateAt_shared allots _ value (claimed _ .refl) (claimed _ .refl)
  intro space shared
  rw [validate, Run.start_bind_ok Run.start_get]
  split
  next flag =>
    rw [verdict, show forM (validator.scope graph) (prepareNode graph) = .ok () from shared.flag flag]
    exact whole space shared
  next =>
    obtain ⟨same, kept⟩ := compile_shared claimed space shared
    rw [Run.start_bind, verdict, ← same]
    generalize start (discard (validator.compile graph)) space = ended at kept
    obtain ⟨failure | ⟨⟩, after⟩ := ended
    · exact ⟨rfl, kept⟩
    · exact whole after kept

end Validator

def Run.Keeps (kept : Workspace → Prop) (step : Run α) : Prop := ∀ space, kept space → kept (start step space).2

theorem Run.Keeps.map {kept : Workspace → Prop} {step : Run α} (keeps : Keeps kept step) (change : α → β) :
    Keeps kept (step >>= fun result => pure (change result)) := by
  intro space holds
  have still := keeps space holds
  rw [start_bind]
  generalize start step space = ended at still
  obtain ⟨failure | result, after⟩ := ended
  · exact still
  · exact still

/-- Which validator a call is made to. -/
def Step.callee? : Step → Option String
  | .compile name => some name
  | .validate name _ => some name
  | _ => none

namespace Session

/-- Validators that were just made, on one cache. -/
def sharing (library : Library) (sharers : Table String Validator) : Session :=
  { idle library with
    caches := [.empty]
    tenants := sharers.map fun (name, validator) => (name, ⟨validator, 0, false⟩) }

/-- Nodes that are reached in both modes ask for no multiples. -/
def Apart (graph : Graph) (sharers : Table String Validator) : Prop :=
  ∀ name other one two, sharers.get? name = some one → sharers.get? other = some two → one.mode ≠ two.mode →
    ∀ node, graph.Reaches one.schema node → graph.Reaches two.schema node → graph.field? node "multipleOf" = none

/-- Whether a validator of a mode reaches a node. -/
def Reached (graph : Graph) (sharers : Table String Validator) (mode : MultipleMode) (node : Ref) : Prop :=
  ∃ name validator, sharers.get? name = some validator ∧ validator.mode = mode ∧ graph.Reaches validator.schema node

variable {library : Library} {sharers : Table String Validator} {session : Session} {name : String} {validator : Validator}

theorem allots_of_apart (apart : Apart graph sharers) : graph.Allots (Reached graph sharers) where
  closed := by
    rintro mode node ⟨name, validator, present, inMode, reached⟩ inner nested
    exact ⟨name, validator, present, inMode, reached.tail nested⟩
  apart := by
    rintro _ _ node ⟨name, one, present, rfl, reached⟩ ⟨other, two, found, rfl, again⟩ different
    exact apart name other one two present found different node reached again

/-- The workspaces that any of the validators may come upon. -/
abbrev Common (library : Library) (sharers : Table String Validator) (ready : Prop) : Workspace → Prop :=
  Shared library.graph (Reached library.graph sharers) ready

/-- What all calls keep. A validator takes its schema for compiled only if it compiles. -/
structure Sharing (library : Library) (sharers : Table String Validator) (session : Session) : Prop where
  unedited : session.library = library
  single : ∃ cache, session.caches = [cache]
  common : Common library sharers True (session.workspace 0 false)
  hosted : ∀ name validator, sharers.get? name = some validator → ∃ compiled,
    session.tenants.get? name = some ⟨validator, 0, compiled⟩ ∧ (compiled = true → validator.Ready library.graph)
  others : ∀ name, sharers.get? name = none → session.tenants.get? name = none

theorem get?_hosts (sharers : Table String Validator) (name : String) :
    Table.get? (sharers.map fun (name, validator) => (name, (⟨validator, 0, false⟩ : Tenant))) name =
      (sharers.get? name).map fun validator => ⟨validator, 0, false⟩ := by
  induction sharers with
  | nil => rfl
  | cons entry rest ih =>
    obtain ⟨other, validator⟩ := entry
    simp only [List.map_cons, Table.get?]
    split
    · rfl
    · exact ih

theorem sharing_start (library : Library) (sharers : Table String Validator) :
    Sharing library sharers (sharing library sharers) where
  unedited := rfl
  single := ⟨_, rfl⟩
  common := ⟨Cache.distinct_empty, (fun _ _ cached => nomatch cached), fun _ => rfl, fun _ => trivial⟩
  hosted := by
    intro name validator present
    refine ⟨false, ?_, fun impossible => nomatch impossible⟩
    rw [sharing, get?_hosts, present, Option.map_some]
  others := by
    intro name absent
    rw [sharing, get?_hosts, absent, Option.map_none]

/-- The workspace that a validator works on. -/
theorem Sharing.workspace (shares : Sharing library sharers session) {compiled : Bool} {ready : Prop}
    (flag : compiled = true → ready) : Common library sharers ready (session.workspace 0 compiled) :=
  ⟨shares.common.distinct, shares.common.lists, shares.common.clean, flag⟩

theorem Sharing.runAs (shares : Sharing library sharers session) (name : String) {step : Tenant → Run α}
    (keeps : ∀ validator compiled, sharers.get? name = some validator →
      Run.Keeps (Common library sharers (validator.Ready library.graph)) (step ⟨validator, 0, compiled⟩)) :
    Sharing library sharers (session.runAs name step).2.2 := by
  obtain ⟨cache, single⟩ := shares.single
  unfold Session.runAs
  cases present : sharers.get? name with
  | none =>
    rw [shares.others name present]
    exact shares
  | some validator =>
    obtain ⟨compiled, hosted, flag⟩ := shares.hosted name validator present
    have after := keeps validator compiled present _ (shares.workspace flag)
    rw [hosted]
    simp only [absorb, single]
    generalize Run.start (step ⟨validator, 0, compiled⟩) (session.workspace 0 compiled) = ended at after
    refine ⟨shares.unedited, ⟨_, rfl⟩, ⟨after.distinct, after.lists, after.clean, fun _ => trivial⟩, ?_, ?_⟩
    · intro other another found
      rw [Table.get?_set]
      split
      next same =>
        cases present.symm.trans (same ▸ found)
        exact ⟨_, rfl, after.flag⟩
      next => exact shares.hosted other another found
    · intro other absent
      rw [Table.get?_set, if_neg]
      · exact shares.others other absent
      · rintro rfl
        cases present.symm.trans absent

theorem Sharing.runListed (shares : Sharing library sharers session) (name : String)
    {step : Tenant → Run (Ref × Compiled)}
    (keeps : ∀ validator compiled, sharers.get? name = some validator →
      Run.Keeps (Common library sharers (validator.Ready library.graph)) (step ⟨validator, 0, compiled⟩)) :
    Sharing library sharers (session.runListed name step).session := by
  unfold Session.runListed
  generalize made : session.runAs name _ = outcome
  have ran : Sharing library sharers outcome.2.2 :=
    made ▸ shares.runAs name fun validator compiled present => (keeps validator compiled present).map _
  obtain ⟨failure | handed, log, after⟩ := outcome
  · exact ran
  · exact ⟨ran.unedited, ran.single, ran.common, ran.hosted, ran.others⟩

theorem Sharing.runAnswer (shares : Sharing library sharers session) (name : String) {step : Tenant → Run Answer}
    (keeps : ∀ validator compiled, sharers.get? name = some validator →
      Run.Keeps (Common library sharers (validator.Ready library.graph)) (step ⟨validator, 0, compiled⟩)) :
    Sharing library sharers (session.runAnswer name step).session :=
  shares.runAs name keeps

theorem Sharing.take (apart : Apart library.graph sharers) {step : Step} (calls : step.callee?.isSome = true)
    (shares : Sharing library sharers session) : Sharing library sharers (session.take step).session := by
  have same : session.graph = library.graph := congrArg Library.graph shares.unedited
  have reached : ∀ name validator, sharers.get? name = some validator → ∀ node, library.graph.Reaches validator.schema node →
      Reached library.graph sharers validator.mode node :=
    fun name validator present node reached => ⟨name, validator, present, rfl, reached⟩
  cases step with
  | compile name =>
    apply shares.runListed name
    intro validator compiled present
    rw [same]
    apply Run.Keeps.map
    intro space shared
    have kept := (Validator.compile_shared (reached name validator present) space shared).2
    rwa [Run.start_discard] at kept
  | validate name value =>
    apply shares.runAnswer name
    intro validator compiled present
    rw [same]
    apply Run.Keeps.map
    intro space shared
    exact (Validator.validate_shared (allots_of_apart apart) (reached name validator present) value space shared).2
  | newCache | newValidator | checksFor | recompile | check | isValid | has | get | put | invalidate | clear | size
  | nodes | set | link | append | delete | «show» => cases calls

theorem Sharing.run (apart : Apart library.graph sharers) {steps : List Step}
    (calls : ∀ step ∈ steps, step.callee?.isSome = true) (shares : Sharing library sharers session) :
    Sharing library sharers (session.run steps) := by
  induction steps generalizing session with
  | nil => exact shares
  | cons step rest ih =>
    exact ih (fun other later => calls other (List.mem_cons_of_mem _ later)) (shares.take apart (calls step (by simp)))

theorem answer_sharing (apart : Apart library.graph sharers) {steps : List Step}
    (calls : ∀ step ∈ steps, step.callee?.isSome = true) (present : sharers.get? name = some validator) (value : Value) :
    (((sharing library sharers).run steps).take (.validate name value)).answer =
      (validator.verdict library.graph value).map fun _ => .passed := by
  have shares := (sharing_start library sharers).run apart calls
  obtain ⟨compiled, hosted, flag⟩ := shares.hosted name validator present
  have same : ((sharing library sharers).run steps).graph = library.graph := congrArg Library.graph shares.unedited
  have ends := Validator.validate_shared (allots_of_apart apart)
    (fun node reached => ⟨name, validator, present, rfl, reached⟩) value _ (shares.workspace flag)
  rw [answer_validate hosted value, same, ends.1]

/-- Among validators of any modes on one cache, and whichever calls they make in which
order, every validation ends as it does for the validator alone with its own calls, if
the nodes that are reached in both modes ask for no multiples. -/
theorem shared_cache_private (apart : Apart library.graph sharers) {steps : List Step}
    (calls : ∀ step ∈ steps, step.callee?.isSome = true) (present : sharers.get? name = some validator) (value : Value) :
    (((sharing library sharers).run steps).take (.validate name value)).answer =
      (((sharing library [(name, validator)]).run (steps.filter fun step => step.callee? = some name)).take
        (.validate name value)).answer := by
  have single : Apart library.graph [(name, validator)] := by
    intro one two first second found again different
    cases (List.mem_singleton.mp (Table.mem_of_get? found))
    cases (List.mem_singleton.mp (Table.mem_of_get? again))
    exact absurd rfl different
  have own : ∀ step ∈ steps.filter fun step => step.callee? = some name, step.callee?.isSome = true :=
    fun step member => calls step (List.mem_of_mem_filter member)
  have alone : Table.get? [(name, validator)] name = some validator := if_pos rfl
  rw [answer_sharing apart calls present, answer_sharing single own alone]

/-- A tenth, as a double. -/
def tenth : Number := .double (.finite false 1019 2702159776422298)

def threeTenths : Number := .double (.finite false 1021 900719925474099)

def byNumerals (root : Ref) : Validator := ⟨root, ⟨.decimal, .bool true⟩⟩

def byQuotients (root : Ref) : Validator := ⟨root, ⟨.float, .bool true⟩⟩

/-- Two schemas for multiples of a tenth, or arrays of texts. The texts are one node. -/
def textsLibrary : Library :=
  ⟨⟨#[.object [(.text "multipleOf", .node 4), (.text "items", .node 2)],
      .object [(.text "multipleOf", .node 4), (.text "items", .node 2)],
      .object [(.text "type", .node 3)], .text "string", .number tenth]⟩, [("first", .node 0), ("second", .node 1)]⟩

def textsSharers : Table String Validator :=
  [("first", byNumerals (.node 0)), ("second", byQuotients (.node 1))]

theorem textsSharers_apart : Apart textsLibrary.graph textsSharers := by
  have first : textsLibrary.graph.preorder (.node 0) = [.node 0, .node 2] := by decide
  have second : textsLibrary.graph.preorder (.node 1) = [.node 1, .node 2] := by decide
  have both : ∀ node, textsLibrary.graph.Reaches (.node 0) node → textsLibrary.graph.Reaches (.node 1) node →
      textsLibrary.graph.field? node "multipleOf" = none := by
    intro node one two
    have inside := Graph.mem_preorder_iff.mpr one
    have also := Graph.mem_preorder_iff.mpr two
    rw [first] at inside
    rw [second] at also
    obtain rfl | rfl : node = .node 0 ∨ node = .node 2 := by simpa using inside
    · simp at also
    · rfl
  intro name other one two found again different node reached too
  have one_of := Table.mem_of_get? found
  have two_of := Table.mem_of_get? again
  simp only [textsSharers, List.mem_cons, Prod.mk.injEq, List.not_mem_nil, or_false] at one_of two_of
  rcases one_of with ⟨_, rfl⟩ | ⟨_, rfl⟩ <;> rcases two_of with ⟨_, rfl⟩ | ⟨_, rfl⟩
  · exact absurd rfl different
  · exact both node reached too
  · exact both node too reached
  · exact absurd rfl different

/-- Three tenths are a multiple by their numerals and not by their quotient. Each
validator goes by its own schema; that both use the one for texts does no harm. -/
theorem shared_cache_private_texts :
    ((((sharing textsLibrary textsSharers).run [.compile "first"]).take
      (.validate "second" (.number threeTenths))).answer matches .error (.violation (.notMultiple _))) = true := by
  have calls : ∀ step ∈ [Step.compile "first"], step.callee?.isSome = true := by simp [Step.callee?]
  have present : textsSharers.get? "second" = some (byQuotients (.node 1)) := rfl
  rw [shared_cache_private textsSharers_apart calls present]
  decide +kernel

/-- Multiples of a tenth. -/
def tenthsLibrary : Library :=
  ⟨⟨#[.object [(.text "multipleOf", .node 1)], .number tenth]⟩, [("tenths", .node 0)]⟩

/-- On one schema whoever compiles first settles how everyone divides. With a cache of
its own the second validator refuses three tenths, with that of the first it accepts them. -/
theorem shared_cache_tenths :
    ((((sharing tenthsLibrary [("first", byNumerals (.node 0)), ("second", byQuotients (.node 0))]).run [.compile "first"]).take
      (.validate "second" (.number threeTenths))).answer matches .ok .passed) = true ∧
    (((sharing tenthsLibrary [("second", byQuotients (.node 0))]).take
      (.validate "second" (.number threeTenths))).answer matches .error (.violation (.notMultiple _))) = true := by
  constructor <;> decide +kernel

end Session
end LiveSchema
