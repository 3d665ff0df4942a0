import LiveSchema.Keyword.Size

/-! The keywords of arrays. Items are checked first, in order, and the array as
a whole after them. -/

namespace LiveSchema.Keyword

def areSchemas (graph : Graph) (refs : List Ref) : Bool := refs.all graph.isSchema

def compileItems (graph : Graph) (items : Ref) : Except Failure ItemCheck :=
  if graph.isSchema items then .ok .every
  else
    match (graph.shape items).items? with
    | some members => if areSchemas graph members then .ok .positional else reject .malformedItems
    | none => reject .malformedItems

def compileUnique (graph : Graph) (fields : Entries Ref) : Except Failure (List ArrayCheck) :=
  match fields.keyword? "uniqueItems" with
  | none => .ok []
  | some unique =>
    match graph.shape unique with
    | .bool true => .ok [.unique]
    | .bool false => .ok []
    | _ => reject .uniqueNotBoolean

def compileContains (graph : Graph) (fields : Entries Ref) : Except Failure (List ArrayCheck) :=
  match fields.keyword? "contains" with
  | none => .ok []
  | some contains =>
    if graph.isSchema contains then .ok [.contains] else reject (.notSubschema "contains")

def compileArray (graph : Graph) (fields : Entries Ref) : Except Failure (List Check) := do
  unless (fields.keyword? "additionalItems").all graph.isSchema do
    reject (.notSchemaOrBoolean "additionalItems")
  let items ← match fields.keyword? "items" with
    | some items => some <$> compileItems graph items
    | none => .ok none
  let contains ← compileContains graph fields
  let unique ← compileUnique graph fields
  let longest ← SizeCheck.compile? graph fields "maxItems" .max
  let shortest ← SizeCheck.compile? graph fields "minItems" .min
  let all := contains ++ unique ++ (longest ++ shortest).map ArrayCheck.size
  if items.isSome || !all.isEmpty then return [.array items all]
  else if graph.hasType (fields.keyword? "type") "array" then return [.isArray]
  else return []

/-- The schema at a position of a live `items` keyword; none past its end. -/
def positionalSchema (graph : Graph) (items : Ref) (index : Nat) :
    Except Failure (Option Ref) := do
  let shape := graph.shape items
  let some length := shape.length? | live (.error .wrongType)
  if length ≤ index then return none
  match shape with
  | .array _ members => return members[index]?
  | .object entries =>
    match entries.get? (.int index) with
    | some member => return some member
    | none => live (.error .missingKey)
  | _ => reject .notSchema

/-- Items past the positional schemas fall to `additionalItems`. -/
def runAdditionalItem (graph : Graph) (index : Nat) (item : Value) (node : Ref) : Program Unit := do
  match ← Program.live (graph.optional node "additionalItems") with
  | some (.bool false) => Program.violate (.additionalItem index)
  | some additional =>
    if (graph.shape additional).isObject then Program.descend item additional else pure ()
  | none => pure ()

def runItem (graph : Graph) (index : Nat) (item : Value) (node : Ref) : ItemCheck → Program Unit
  | .every => do
    let items ← Program.live (graph.require node "items")
    Program.descend item items
  | .positional => do
    let items ← Program.live (graph.require node "items")
    match ← Program.ofExcept (positionalSchema graph items index) with
    | some schema => Program.descend item schema
    | none => runAdditionalItem graph index item node

def runItems (graph : Graph) (check : ItemCheck) (node : Ref) : (index : Nat) → List Value → Program Unit
  | _, [] => pure ()
  | index, item :: rest => do
    runItem graph index item node check
    runItems graph check node (index + 1) rest

def runContains (schema : Ref) : List Value → Program Unit
  | [] => Program.violate .nothingContained
  | item :: rest => do
    match ← Program.verdict item schema with
    | none => pure ()
    | some _ => runContains schema rest

def runUnique (graph : Graph) (items : List Value) (node : Ref) : Except Failure Unit := do
  if (← live (graph.optional node "uniqueItems")) = some (.bool true) then
    match firstRepeat? (items.map Value.canon) with
    | some index => violate (.duplicateItem index)
    | none => return ()

def runArrayCheck (graph : Graph) (items : List Value) (node : Ref) : ArrayCheck → Program Unit
  | .contains => do
    let schema ← Program.live (graph.require node "contains")
    Program.prepare schema (runContains schema items)
  | .unique => Program.ofExcept (runUnique graph items node)
  | .size check => Program.ofExcept (check.run graph node (.ok items.length))

def runArrayChecks (graph : Graph) (items : List Value) (node : Ref) : List ArrayCheck → Program Unit
  | [] => pure ()
  | check :: rest => do
    runArrayCheck graph items node check
    runArrayChecks graph items node rest

def runArray (graph : Graph) (perItem : Option ItemCheck) (all : List ArrayCheck) (value : Value)
    (node : Ref) : Program Unit := do
  match value with
  | .array _ items =>
    match perItem with
    | some check => runItems graph check node 0 items
    | none => pure ()
    runArrayChecks graph items node all
  | _ =>
    if graph.hasType (← Program.live (graph.optional node "type")) "array" then
      Program.violate .notArray
    else pure ()

def runIsArray (value : Value) : Except Failure Unit :=
  if value.shape.isArray then .ok () else violate .notArray

end LiveSchema.Keyword
