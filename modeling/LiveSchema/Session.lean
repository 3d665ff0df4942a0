import LiveSchema.Graph.Edit
import LiveSchema.Validator

/-! Sessions: documents that are edited while validators work on them. Validators
have caches of their own or share one, and every step is answered with what it
found and what it logged. -/

namespace LiveSchema

structure Tenant where
  validator : Validator
  cache : Nat
  compiled : Bool

inductive Holder where
  | cache (name : String)
  | validator (name : String)

inductive Step where
  | newCache (name : String)
  | newValidator (name : String) (root : List Key) (settings : Option Value) (cache : Option String)
  | compile (validator : String)
  | checksFor (validator : String) (node : List Key)
  | recompile (validator : String) (node : Option (List Key))
  | validate (validator : String) (value : Value)
  | check (validator : String) (value : Value)
  | isValid (validator : String) (value : Value)
  | has (holder : Holder) (node : List Key)
  | get (holder : Holder) (node : List Key)
  | put (holder : Holder) (node source : List Key)
  | invalidate (holder : Holder) (node : List Key)
  | clear (holder : Holder)
  | size (holder : Holder)
  | nodes (holder : Holder)
  | set (path : List Key) (value : Value)
  | link (path source : List Key)
  | append (path : List Key) (value : Value)
  | delete (path : List Key)
  | show (path : List Key)

inductive Answer where
  | nothing
  /-- A list of checks was handed out; `same` if it is the one handed out last. -/
  | listed (checks : Nat) (same : Bool)
  | passed
  | report (violation : Option Violation)
  | truth (value : Bool)
  | count (value : Option Nat)
  | value (value : Value)
  | values (values : List Value)

structure Session where
  library : Library
  caches : List Cache
  cacheNames : Table String Nat
  tenants : Table String Tenant
  memos : Table Nat Memo
  fresh : Nat
  /-- The list last handed out for a node of a cache. -/
  handed : Table (Nat × Ref) Nat

/-- How a step ended, what it logged, and what it leaves behind. -/
structure StepResult where
  answer : Except Failure Answer
  log : List LogEntry
  session : Session

namespace Session

def idle (library : Library) : Session := ⟨library, [], [], [], [], 0, []⟩

def start (documents : List (String × Value)) : Session := idle (.ofDocuments documents)

def graph (session : Session) : Graph := session.library.graph

def cacheAt (session : Session) (index : Nat) : Cache := (session.caches[index]?).getD .empty

def workspace (session : Session) (cache : Nat) (compiled : Bool) : Workspace :=
  ⟨session.cacheAt cache, session.memos, session.fresh, compiled, []⟩

def absorb (session : Session) (cache : Nat) (space : Workspace) : Session :=
  { session with
    caches := session.caches.set cache space.cache
    memos := space.memos
    fresh := space.fresh }

def runAs (session : Session) (name : String) (step : Tenant → Run α) :
    Except Failure α × List LogEntry × Session :=
  match session.tenants.get? name with
  | none => (.error (.fault .missingKey), [], session)
  | some tenant =>
    let (result, space) :=
      Run.start (step tenant) (session.workspace tenant.cache tenant.compiled)
    let tenants := session.tenants.set name { tenant with compiled := space.compiled }
    (result, space.log, { session.absorb tenant.cache space with tenants })

def handOut (session : Session) (cache : Nat) (node : Ref) (compiled : Compiled) :
    Answer × Session :=
  let same := session.handed.get? (cache, node) = some compiled.identity
  (.listed compiled.checks.length same,
    { session with handed := session.handed.set (cache, node) compiled.identity })

def runListed (session : Session) (name : String) (step : Tenant → Run (Ref × Compiled)) :
    StepResult :=
  let (result, log, session) := session.runAs name fun tenant => do
    let (node, compiled) ← step tenant
    return (tenant.cache, node, compiled)
  match result with
  | .error failure => ⟨.error failure, log, session⟩
  | .ok (cache, node, compiled) =>
    let (answer, session) := session.handOut cache node compiled
    ⟨.ok answer, log, session⟩

def runAnswer (session : Session) (name : String) (step : Tenant → Run Answer) : StepResult :=
  let (result, log, session) := session.runAs name step
  ⟨result, log, session⟩

def locate (session : Session) (path : List Key) : Run Ref :=
  match session.library.find path with
  | .ok node => return node
  | .error fault => throw (.fault fault)

def cacheOf (session : Session) : Holder → Except Failure Nat
  | .cache name =>
    match session.cacheNames.get? name with
    | some index => .ok index
    | none => .error (.fault .missingKey)
  | .validator name =>
    match session.tenants.get? name with
    | some tenant => .ok tenant.cache
    | none => .error (.fault .missingKey)

def runOn (session : Session) (holder : Holder) (step : Run Answer) : StepResult :=
  match session.cacheOf holder with
  | .error failure => ⟨.error failure, [], session⟩
  | .ok cache =>
    let (result, space) := Run.start step (session.workspace cache false)
    ⟨result, space.log, session.absorb cache space⟩

def edit (session : Session) (result : Except Fault Library) : StepResult :=
  match result with
  | .ok library => ⟨.ok .nothing, [], { session with library }⟩
  | .error fault => ⟨.error (.fault fault), [], session⟩

def addCache (session : Session) : Nat × Session :=
  (session.caches.length, { session with caches := session.caches ++ [.empty] })

def chooseCache (session : Session) (cache : Option String) : Except Failure (Nat × Session) :=
  match cache with
  | none => .ok session.addCache
  | some name =>
    match session.cacheNames.get? name with
    | some index => .ok (index, session)
    | none => .error (.fault .missingKey)

def newValidator (session : Session) (name : String) (path : List Key) (settings : Option Value)
    (cache : Option String) : StepResult :=
  let (log, settings) := Settings.ofData (settings.getD .null)
  let made : Except Failure (Tenant × Session) := do
    let root ← live (session.library.find path)
    let validator ← Validator.make session.graph root (← settings)
    let (cache, session) ← session.chooseCache cache
    return (⟨validator, cache, false⟩, session)
  match made with
  | .error failure => ⟨.error failure, log, session⟩
  | .ok (tenant, session) =>
    ⟨.ok .nothing, log, { session with tenants := session.tenants.set name tenant }⟩

/-- A copy of the checks of one node for another. Copies share what they
remember. -/
def copyChecks (source : Option Compiled) : Run Compiled := do
  match source with
  | none => Run.newList .decimal []
  | some compiled =>
    let copy ← Run.newList compiled.mode compiled.checks
    return { copy with origin := compiled.origin }

def recompile (session : Session) (tenant : Tenant) (path : Option (List Key)) :
    Run (Ref × Compiled) := do
  let node ← match path with
    | some path => session.locate path
    | none => pure .null
  if node = .null then
    return (tenant.validator.schema, ← tenant.validator.recompileAll session.graph)
  else
    return (node, ← tenant.validator.recompile session.graph node)

def take (session : Session) : Step → StepResult
  | .newCache name =>
    let (index, session) := session.addCache
    ⟨.ok .nothing, [], { session with cacheNames := session.cacheNames.set name index }⟩
  | .newValidator name root settings cache => session.newValidator name root settings cache
  | .compile name => session.runListed name fun tenant => do
    return (tenant.validator.schema, ← tenant.validator.compile session.graph)
  | .checksFor name path => session.runListed name fun tenant => do
    let node ← session.locate path
    return (node, ← tenant.validator.checksFor session.graph node)
  | .recompile name path => session.runListed name fun tenant => session.recompile tenant path
  | .validate name value => session.runAnswer name fun tenant => do
    tenant.validator.validate session.graph value
    return .passed
  | .check name value => session.runAnswer name fun tenant =>
    return .report (← tenant.validator.check session.graph value)
  | .isValid name value => session.runAnswer name fun tenant =>
    return .truth (← tenant.validator.isValid session.graph value)
  | .has holder path => session.runOn holder do
    return .truth (← Run.cached? (← session.locate path)).isSome
  | .get holder path => session.runOn holder do
    return .count ((← Run.cached? (← session.locate path)).map fun compiled => compiled.checks.length)
  | .put holder path source => session.runOn holder do
    let node ← session.locate path
    let copy ← copyChecks (← Run.cached? (← session.locate source))
    Run.store node copy
    return .nothing
  | .invalidate holder path => session.runOn holder do
    return .truth (← Run.invalidate (← session.locate path))
  | .clear holder => session.runOn holder do
    Run.clear
    return .nothing
  | .size holder => session.runOn holder do return .count (some (← get).cache.size)
  | .nodes holder => session.runOn holder do
    return .values ((← get).cache.nodes.map session.graph.value)
  | .set path value => session.edit (session.library.set path value)
  | .link path source => session.edit (session.library.link path source)
  | .append path value => session.edit (session.library.append path value)
  | .delete path => session.edit (session.library.delete path)
  | .show path =>
    match session.library.find path with
    | .ok node => ⟨.ok (.value (session.graph.value node)), [], session⟩
    | .error fault => ⟨.error (.fault fault), [], session⟩

def status? (session : Session) (name : String) : Option (Bool × Nat) :=
  (session.tenants.get? name).map fun tenant =>
    (tenant.compiled, (session.cacheAt tenant.cache).size)

end Session
end LiveSchema
