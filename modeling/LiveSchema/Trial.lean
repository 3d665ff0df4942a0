import LiveSchema.Configuration

/-! Trials: a schema and some values, tried from the beginning. -/

namespace LiveSchema

namespace Trial

abbrev Outcome := Except Failure Unit

def validateAll (validator : Validator) (graph : Graph) : List Value → Run (List Outcome)
  | [] => return []
  | value :: rest => do
    let outcome ← Run.attempt (validator.validate graph value)
    return outcome :: (← validateAll validator graph rest)

/-- What a validator made of some values: the length of its list of checks, and
the size of its cache before and after. -/
structure Summary where
  checks : Nat
  cachedBefore : Nat
  cachedAfter : Nat
  outcomes : List Outcome

def summarize (validator : Validator) (graph : Graph) (values : List Value) : Run Summary := do
  let compiled ← validator.compile graph
  let before := (← get).cache.size
  let outcomes ← validateAll validator graph values
  return ⟨compiled.checks.length, before, (← get).cache.size, outcomes⟩

def readSettings (settings : Option Value) : Run Settings := do
  let (warnings, settings) := Settings.ofData (settings.getD .null)
  warnings.forM Run.record
  settings

def validate (schema : Value) (settings : Option Value) (values : List Value) : Run Summary := do
  let settings ← readSettings settings
  let (root, graph) := Graph.empty.add schema
  let validator ← Validator.make graph root settings
  summarize validator graph values

/-- Compiles a schema with the standard settings and counts its checks. -/
def compile (schema : Value) : Run Nat := do
  let (root, graph) := Graph.empty.add schema
  let validator ← Validator.make graph root .standard
  return (← validator.compile graph).checks.length

/-- Compiles one node, whatever is nested in it. -/
def compileOne (node : Value) (settings : Option Value) : Run Nat := do
  let settings ← readSettings settings
  let (node, graph) := Graph.empty.add node
  return (← Run.compileFresh graph settings.mode node).checks.length

/-- Runs a list of checks against one value after another. Each value may bring
a node of its own that the checks read instead. -/
def runPairs (compiled : Compiled) (root : Ref) : Graph → List (Value × Option Value) →
    Run (List Outcome)
  | _, [] => return []
  | graph, (value, node) :: rest => do
    let (node, graph) := match node with
      | some node => graph.add node
      | none => (root, graph)
    let outcome ← Run.attempt (Run.enforce graph compiled value node)
    return outcome :: (← runPairs compiled root graph rest)

/-- The keywords a family looks for, in the order it does. -/
def keywordsOf : Family → List String
  | .object =>
    ["properties", "patternProperties", "additionalProperties", "dependencies", "propertyNames",
      "required", "maxProperties", "minProperties"]
  | .text => ["maxLength", "minLength", "pattern"]
  | .array =>
    ["additionalItems", "items", "contains", "uniqueItems", "maxItems", "minItems"]
  | .combinators => ["allOf", "anyOf", "oneOf", "not"]
  | .kind | .number | .boolean => []

/-- What a family makes of a node that is no object. Looking for a keyword among
the items of an array or the characters of a text succeeds, but a keyword found
there has no value; only `const` does without one until its check runs. -/
def compileForeign (mentions : String → Except Fault Bool) (family : Family) :
    Except Failure (List Check) := do
  match family with
  | .number | .boolean => live (.error .notAnObject)
  | .kind =>
    if ← live (mentions "type") then live (.error .wrongType)
    if ← live (mentions "enum") then live (.error .wrongType)
    if ← live (mentions "const") then return [.const] else return []
  | family =>
    for keyword in keywordsOf family do
      if ← live (mentions keyword) then live (.error .wrongType)
    if family = .combinators then return [] else live (.error .notAnObject)

def compileFamily (graph : Graph) (root : Ref) (family : Family) : Except Failure (List Check) :=
  match graph.shape root with
  | .object fields => family.compile graph fields
  | shape => compileForeign (fun keyword => Keyword.nameIn graph (.text keyword) shape) family

/-- Compiles the keywords of one family and runs their checks. -/
def family (family : Family) (schema : Value) (settings : Option Value)
    (pairs : List (Value × Option Value)) : Run (Nat × List Outcome) := do
  let settings ← readSettings settings
  let (root, graph) := Graph.empty.add schema
  let compiled ← Run.newList settings.mode (← compileFamily graph root family)
  return (compiled.checks.length, ← runPairs compiled root graph pairs)

def subschemas (node : Value) : List Value :=
  let (node, graph) := Graph.empty.add node
  (graph.subschemas node).map graph.value

/-- What is measured by a threshold: a value, or an object known by its length only. -/
inductive Measure where
  | ofValue (measured : Value)
  | ofLength (stated : Value)

/-- Stated lengths are whole numbers that fit a machine word. -/
def Measure.count : Measure → Except Fault Nat
  | .ofValue measured => measured.shape.count
  | .ofLength (.number (.int stated)) =>
    if stated < 0 then .error .badValue
    else if stated < 9223372036854775808 then .ok stated.toNat
    else .error .tooLarge
  | .ofLength (.bool stated) => .ok (if stated then 1 else 0)
  | .ofLength _ => .error .wrongType

def thresholds (size : Value) (keyword direction : String) (cases : List (Measure × Value)) :
    Except Failure (List Outcome) := do
  let check ← SizeCheck.ofName keyword direction size.shape
  return cases.map fun (measure, node) =>
    let (node, graph) := Graph.empty.add node
    check.run graph node measure.count

def runThresholds (value node : Value) (checks : List (Value × String × String)) :
    Except Failure Unit := do
  let checks ← checks.mapM fun (size, keyword, direction) =>
    SizeCheck.ofName keyword direction size.shape
  let (node, graph) := Graph.empty.add node
  SizeCheck.runAll graph node value checks

structure Classification where
  name : String
  types : List String
  schema : Bool
  typedArray : Bool
  enum : Bool

def classify (item : TypeName) (value : Value) : Classification :=
  let test := fun part => item.accepts part.shape
  { name := value.shape.typeName
    types := (TypeName.all.filter fun type => type.accepts value.shape).map TypeName.name
    schema := value.shape.isSchema
    typedArray := value.isTypedArray test
    enum := value.isEnum test }

/-- For every value the index of the first that equals it. -/
def firstEqual (forms : List Canon) : List Nat := forms.map fun form => forms.idxOf form

end Trial
end LiveSchema
