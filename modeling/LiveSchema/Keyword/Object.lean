import LiveSchema.Keyword.Array
import LiveSchema.Keyword.Kind
import LiveSchema.Keyword.Text

/-! The keywords of objects. One pass over the entries runs the checks of each
entry; the object as a whole is checked after it. -/

namespace LiveSchema.Keyword

def schemaMap? (graph : Graph) (ref : Ref) : Option (Entries Ref) := do
  let entries ← (graph.shape ref).entries?
  if entries.all fun entry => graph.isSchema entry.2 then return entries else none

def compileProperties (graph : Graph) (fields : Entries Ref) : Except Failure (List KeyCheck) :=
  match fields.keyword? "properties" with
  | none => .ok []
  | some properties =>
    match schemaMap? graph properties with
    | some _ => .ok [.properties]
    | none => reject (.notObject "properties")

/-- The pattern of a `patternProperties` entry; a whole number is none. -/
def compileEntryPattern : Key → Except Failure Pattern
  | .text source => compilePattern "patternProperties" source
  | .int value => do reject (.badPattern "patternProperties" (← written (.number (.int value))))

def compilePatternProperties (graph : Graph) (fields : Entries Ref) :
    Except Failure (List KeyCheck) :=
  match fields.keyword? "patternProperties" with
  | none => .ok []
  | some patterns =>
    match schemaMap? graph patterns with
    | some entries => return [.patternProperties (← entries.mapM fun entry => compileEntryPattern entry.1)]
    | none => reject (.notObject "patternProperties")

def compileAdditional (graph : Graph) (fields : Entries Ref) : Except Failure (List KeyCheck) :=
  match fields.keyword? "additionalProperties" with
  | none => .ok []
  | some additional =>
    match graph.shape additional with
    | .object _ => .ok [.additionalSchema]
    | .bool false => .ok [.noAdditional]
    | .bool true => .ok []
    | _ => reject (.notSchemaOrBoolean "additionalProperties")

/-- A dependency is a schema or an array of different names, which may be empty. -/
def isDependency (graph : Graph) (ref : Ref) : Bool :=
  graph.isSchema ref || (distinctTexts? graph ref).isSome

def compileDependencies (graph : Graph) (fields : Entries Ref) : Except Failure (List KeyCheck) :=
  match fields.keyword? "dependencies" with
  | none => .ok []
  | some dependencies =>
    match (graph.shape dependencies).entries? with
    | none => reject (.notObject "dependencies")
    | some entries =>
      if entries.all fun entry => isDependency graph entry.2 then .ok [.dependencies]
      else reject .malformedDependency

def compilePropertyNames (graph : Graph) (fields : Entries Ref) : Except Failure (List KeyCheck) :=
  match fields.keyword? "propertyNames" with
  | none => .ok []
  | some names =>
    if graph.isSchema names then .ok [.propertyNames] else reject (.notSubschema "propertyNames")

def requiredNames (graph : Graph) (required : Ref) : Except Failure (List String) := do
  let some items := (graph.shape required).items? | reject .malformedRequired
  let some names := items.mapM fun item => (graph.shape item).text? | reject .malformedRequired
  if names.Nodup then return names else reject .repeatedRequired

/-- The required names and the check that counts them. -/
def compileRequired (graph : Graph) (fields : Entries Ref) :
    Except Failure (List String × List TallyCheck) :=
  match fields.keyword? "required" with
  | none => .ok ([], [])
  | some required => return (← requiredNames graph required, [.required])

/-- Compiles the keywords of objects. The names in `required` are settled here. -/
def compileObject (graph : Graph) (fields : Entries Ref) : Except Failure (List Check) := do
  let properties ← compileProperties graph fields
  let patterns ← compilePatternProperties graph fields
  let additional ← compileAdditional graph fields
  let dependencies ← compileDependencies graph fields
  let propertyNames ← compilePropertyNames graph fields
  let entries := properties ++ patterns ++ additional ++ dependencies ++ propertyNames
  let (required, tally) ← compileRequired graph fields
  let longest ← SizeCheck.compile? graph fields "maxProperties" .max
  let shortest ← SizeCheck.compile? graph fields "minProperties" .min
  let tally := tally ++ (longest ++ shortest).map TallyCheck.size
  if !entries.isEmpty || !tally.isEmpty then return [.object entries required tally]
  else if graph.hasType (fields.keyword? "type") "object" then return [.isObject]
  else return []

structure EntryContext where
  container : Entries Value
  name : Key
  item : Value

def runProperties (graph : Graph) (entry : EntryContext) (node : Ref) : Program Unit := do
  let properties ← Program.live (graph.require node "properties" >>= graph.entriesOf)
  match properties.get? entry.name with
  | some schema => if graph.isSchema schema then Program.descend entry.item schema else pure ()
  | none => pure ()

/-- The pattern of a live entry. One that had to be compiled is kept in the table of the
check, but no check can tell (`Pattern.lookUp_eq_compile`), so the table stays as it was. -/
def liveEntryPattern (known : List Pattern) : Key → Except Failure Pattern
  | .text source =>
    match Pattern.lookUp known source with
    | .ok pattern => .ok pattern
    | .error _ => compileEntryPattern (.text source)
  | .int value => compileEntryPattern (.int value)

/-- Runs every pattern that is found in a name, and tells whether one was. -/
def runPatterns (known : List Pattern) (name : String) (item : Value) :
    (matched : Bool) → Entries Ref → Program Bool
  | matched, [] => pure matched
  | matched, (source, schema) :: rest => do
    let pattern ← Program.ofExcept (liveEntryPattern known source)
    if pattern.foundIn name then
      Program.descend item schema
      runPatterns known name item true rest
    else
      runPatterns known name item matched rest

def runPatternProperties (graph : Graph) (known : List Pattern) (entry : EntryContext) (node : Ref)
    (matched : Bool) : Program Bool := do
  match entry.name with
  | .int _ => pure matched
  | .text name =>
    let patterns ← Program.live (graph.require node "patternProperties" >>= graph.entriesOf)
    runPatterns known name entry.item matched patterns

def isInfix (part : List Char) : List Char → Bool
  | [] => part.isEmpty
  | char :: rest => part.isPrefixOf (char :: rest) || isInfix part rest

/-- Whether a scalar equals the name of an entry. A boolean equals one or zero. -/
def equalsName (name : Key) (shape : Shape Ref) : Bool :=
  match name with
  | .text text => shape.text? == some text
  | .int value =>
    match shape.ordered? with
    | some number => number.place? = some (.finite value)
    | none => false

/-- Whether a name occurs in the live `properties` keyword, whatever it has become. -/
def nameIn (graph : Graph) (name : Key) (shape : Shape Ref) : Except Fault Bool :=
  match shape, name with
  | .object entries, name => .ok (entries.has name)
  | .array _ items, name => .ok (items.any fun item => equalsName name (graph.shape item))
  | .text text, .text part => .ok (isInfix part.toList text.toList)
  | .bytes bytes, .int value =>
    if 0 ≤ value ∧ value < 256 then .ok (bytes.any fun byte => byte.toNat == value.toNat)
    else .error .badValue
  | _, _ => .error .wrongType

/-- An entry is additional if neither its name is a property nor a pattern was
found in it. An empty `properties` keyword counts as none. -/
def isAdditional (graph : Graph) (name : Key) (node : Ref) (matched : Bool) :
    Except Fault Bool := do
  let listed ← match ← graph.optional node "properties" with
    | none => pure false
    | some properties =>
      let shape := graph.shape properties
      if shape.isTruthy then nameIn graph name shape else pure false
  return !listed && !matched

def hasEntry (container : Entries Value) (name : Value) : Except Fault Bool :=
  match name with
  | .text text => .ok (container.has (.text text))
  | .number number =>
    .ok (container.any fun entry => match entry.1 with
      | .int value => number.place? = some (.finite value)
      | .text _ => false)
  | .bool value => .ok (container.has (.int (if value then 1 else 0)))
  | name => if isLookupKey name then .ok false else .error .wrongType

def runNameDependencies (graph : Graph) (entry : EntryContext) : List Ref → Except Failure Unit
  | [] => .ok ()
  | name :: rest => do
    let missing := graph.value name
    if ← live (hasEntry entry.container missing) then runNameDependencies graph entry rest
    else violate (.missingDependency entry.name missing)

def runDependencies (graph : Graph) (entry : EntryContext) (node : Ref) : Program Unit := do
  let dependencies ← Program.live (graph.require node "dependencies" >>= graph.entriesOf)
  match dependencies.get? entry.name with
  | none | some .null => pure ()
  | some dependency =>
    match (graph.shape dependency).items? with
    | some names => Program.ofExcept (runNameDependencies graph entry names)
    | none => Program.descend (.object entry.container) dependency

/-- Runs one check of an entry. Whether a pattern was found in the name is
handed on to the checks that follow. -/
def runKeyCheck (graph : Graph) (entry : EntryContext) (node : Ref) (matched : Bool) :
    KeyCheck → Program Bool
  | .properties => do
    runProperties graph entry node
    pure matched
  | .patternProperties known => runPatternProperties graph known entry node matched
  | .additionalSchema => do
    if ← Program.live (isAdditional graph entry.name node matched) then
      Program.descend entry.item (← Program.live (graph.require node "additionalProperties"))
    pure matched
  | .noAdditional => do
    if ← Program.live (isAdditional graph entry.name node matched) then
      Program.violate (.additionalProperty entry.name)
    pure matched
  | .dependencies => do
    runDependencies graph entry node
    pure matched
  | .propertyNames => do
    Program.descend (.ofKey entry.name) (← Program.live (graph.require node "propertyNames"))
    pure matched

def runKeyChecks (graph : Graph) (entry : EntryContext) (node : Ref) :
    (matched : Bool) → List KeyCheck → Program Unit
  | _, [] => pure ()
  | matched, check :: rest => do
    let matched ← runKeyCheck graph entry node matched check
    runKeyChecks graph entry node matched rest

def runEntries (graph : Graph) (checks : List KeyCheck) (container : Entries Value) (node : Ref) :
    Entries Value → Program Unit
  | [] => pure ()
  | (name, item) :: rest => do
    runKeyChecks graph ⟨container, name, item⟩ node false checks
    runEntries graph checks container node rest

def countRequired (required : List String) (entries : Entries Value) : Nat :=
  entries.countP fun entry => match entry.1 with
    | .text name => required.contains name
    | .int _ => false

def runRequired (graph : Graph) (seen : Nat) (node : Ref) : Except Failure Unit := do
  let required ← live (graph.require node "required")
  match (graph.shape required).length? with
  | none => live (.error .wrongType)
  | some length => if seen = length then return () else violate .missingRequired

def runTallyCheck (graph : Graph) (length seen : Nat) (node : Ref) : TallyCheck → Except Failure Unit
  | .required => runRequired graph seen node
  | .size check => check.run graph node (.ok length)

def runObject (graph : Graph) (checks : List KeyCheck) (required : List String)
    (tally : List TallyCheck) (value : Value) (node : Ref) : Program Unit := do
  match value with
  | .object entries =>
    runEntries graph checks entries node entries
    Program.ofExcept (tally.forM
      (runTallyCheck graph entries.length (countRequired required entries) node))
  | _ =>
    if graph.hasType (← Program.live (graph.optional node "type")) "object" then
      Program.violate .notObject
    else pure ()

def runIsObject (value : Value) : Except Failure Unit :=
  if value.shape.isObject then .ok () else violate .notObject

end LiveSchema.Keyword
