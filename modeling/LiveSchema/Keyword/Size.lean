import LiveSchema.Check

/-! Threshold keywords. A threshold must be a positive whole number when a node
is compiled; when its check runs the number is read anew. -/

namespace LiveSchema

def reject (defect : Defect) : Except Failure α := .error (.defect defect)

def live : Except Fault α → Except Failure α
  | .ok result => .ok result
  | .error fault => .error (.fault fault)

def violate (violation : Violation) : Except Failure α := .error violation.failure

/-- A value in a message, if it has a text. -/
def written (value : Value) : Except Failure String :=
  if value.isWritable then .ok value.plain else .error (.fault .badValue)

def Entries.keyword? (fields : Entries α) (keyword : String) : Option α :=
  fields.get? (.text keyword)

/-- What a count can be compared with: a number, or a boolean as one or zero. -/
def Shape.ordered? : Shape α → Option Number
  | .number value => some value
  | .bool value => some (.int (if value then 1 else 0))
  | _ => none

/-- The count of a value, if its parts can be counted. -/
def Shape.count (shape : Shape α) : Except Fault Nat :=
  match shape.length? with
  | some length => .ok length
  | none => .error .wrongType

def Direction.ofName? : String → Option Direction
  | "max" => some .max
  | "min" => some .min
  | _ => none

namespace SizeCheck

def accepts (threshold : Shape α) : Bool :=
  threshold.isInteger && threshold.number?.any fun number => Number.zero.lt number

def make (keyword : String) (direction : Direction) (threshold : Shape α) :
    Except Failure SizeCheck :=
  if accepts threshold then .ok ⟨keyword, direction⟩ else reject (.threshold keyword)

/-- The same with a direction by its name. -/
def ofName (keyword direction : String) (threshold : Shape α) : Except Failure SizeCheck :=
  match Direction.ofName? direction with
  | some direction => make keyword direction threshold
  | none => live (.error .badValue)

/-- The check of a threshold keyword, if the node has it. -/
def compile? (graph : Graph) (fields : Entries Ref) (keyword : String) (direction : Direction) :
    Except Failure (List SizeCheck) :=
  match fields.keyword? keyword with
  | none => .ok []
  | some threshold => return [← make keyword direction (graph.shape threshold)]

/-- Compares a count, if there is one, with the live threshold. -/
def run (graph : Graph) (node : Ref) (length : Except Fault Nat) (check : SizeCheck) :
    Except Failure Unit := do
  let count ← live length
  let threshold ← live (graph.require node check.keyword)
  let some limit := (graph.shape threshold).ordered? | live (.error .wrongType)
  let count : Number := .int count
  match check.direction with
  | .max => if limit.lt count then violate (.tooLong check.keyword)
  | .min => if count.lt limit then violate (.tooShort check.keyword)

/-- Runs threshold checks in order. The schema `false` refuses every value first. -/
def runAll (graph : Graph) (node : Ref) (value : Value) (checks : List SizeCheck) :
    Except Failure Unit :=
  if node = .bool false then violate .falseSchema
  else checks.forM (run graph node value.shape.count)

end SizeCheck
end LiveSchema
