import LiveSchema.Keyword.Combinator
import LiveSchema.Keyword.Number
import LiveSchema.Keyword.Object

/-! A schema node as a whole: which keywords are compiled, in which order, and
how the checks that come of it are run. -/

namespace LiveSchema

/-- Keywords that are compiled together. -/
inductive Family where
  | kind
  | object
  | number
  | text
  | array
  | boolean
  | combinators
deriving DecidableEq, Repr

namespace Family

/-- The families of single types, in the order they are compiled. -/
def typed : List Family := [.object, .number, .text, .array, .boolean]

/-- The family a type name asks for. -/
def ofType : TypeName → List Family
  | .object => [.object]
  | .number | .integer => [.number]
  | .string => [.text]
  | .array => [.array]
  | .boolean => [.boolean]
  | .null => []

def compile (graph : Graph) (fields : Entries Ref) : Family → Except Failure (List Check)
  | .kind => Keyword.compileKind graph fields
  | .object => Keyword.compileObject graph fields
  | .number => Keyword.compileNumber graph fields
  | .text => Keyword.compileText graph fields
  | .array => Keyword.compileArray graph fields
  | .boolean =>
    .ok (if graph.hasType (fields.keyword? "type") "boolean" then [.isBoolean] else [])
  | .combinators => Keyword.compileCombinators graph fields

/-- The families of a node: those of its type, if it names one, or of all types. -/
def selected (graph : Graph) (fields : Entries Ref) : List Family :=
  match (fields.keyword? "type").bind fun type => (graph.shape type).text? with
  | some name => ((TypeName.ofName? name).map ofType).getD []
  | none => typed

def compileAll (graph : Graph) (fields : Entries Ref) : List Family → Except Failure (List Check)
  | [] => .ok []
  | family :: rest => return (← family.compile graph fields) ++ (← compileAll graph fields rest)

end Family

/-- Compiles a node into its checks. A boolean has none: `true` accepts
everything and `false` is refused before any check is run. -/
def compileNode (graph : Graph) (node : Ref) : Except Failure (List Check) :=
  match graph.shape node with
  | .bool _ => .ok []
  | .object fields =>
    Family.compileAll graph fields (.kind :: Family.selected graph fields ++ [.combinators])
  | _ => reject .notSchema

/-- The `type` keyword of a node as a message tells it. -/
def typeToldOf (graph : Graph) (node : Ref) : Value :=
  ((graph.field? node "type").map graph.value).getD .null

def runIsBoolean (value : Value) : Except Failure Unit :=
  if value.shape.isBool then .ok () else violate .notBoolean

namespace Check

open Keyword in
def run (graph : Graph) (mode : MultipleMode) (value : Value) (node : Ref) : Check → Program Unit
  | .null => .ofExcept (runNull value)
  | .types => .ofExcept (runTypes graph value node)
  | .enum memo => runEnum graph value node memo
  | .const => .ofExcept (runConst graph value node)
  | .object entries required tally => runObject graph entries required tally value node
  | .isObject => .ofExcept (runIsObject value)
  | .number whole => .ofExcept (runNumber graph mode whole value node)
  | .isNumber whole => .ofExcept (runIsNumber graph whole value node)
  | .text checks => .ofExcept (runText graph checks value node)
  | .isText => .ofExcept (runIsText value)
  | .array items all => runArray graph items all value node
  | .isArray => .ofExcept (runIsArray value)
  | .isBoolean => .ofExcept (runIsBoolean value)
  | .allOf => do runAllOf value (← liveMembers graph node "allOf")
  | .anyOf => do runAnyOf value (← liveMembers graph node "anyOf")
  | .oneOf => do runOneOf value false (← liveMembers graph node "oneOf")
  | .not => do runNot value (← Program.live (graph.require node "not"))

/-- Runs checks in order; the first failure ends the run. -/
def runAll (graph : Graph) (mode : MultipleMode) (value : Value) (node : Ref) :
    List Check → Program Unit
  | [] => pure ()
  | check :: rest => do
    check.run graph mode value node
    runAll graph mode value node rest

end Check

/-- The verdict of a node's checks. The schema `false` accepts nothing. -/
def judgeNode (graph : Graph) (mode : MultipleMode) (checks : List Check) (value : Value)
    (node : Ref) : Program Unit :=
  if node = .bool false then Program.violate .falseSchema
  else Check.runAll graph mode value node checks

end LiveSchema
