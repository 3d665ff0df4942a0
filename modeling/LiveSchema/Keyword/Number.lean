import LiveSchema.Keyword.Size

/-! Numeric keywords. An exclusive bound is either a number of its own or a
boolean that sharpens the bound beside it. -/

namespace LiveSchema.Keyword

def boundKeywords : List String :=
  ["maximum", "exclusiveMaximum", "minimum", "exclusiveMinimum", "multipleOf"]

/-- Nodes for whole numbers only take whole numbers, as values and as bounds. -/
def isOperand (whole : Bool) (shape : Shape α) : Bool :=
  if whole then shape.isInteger else shape.isNumber

def checkBound (graph : Graph) (fields : Entries Ref) (whole : Bool) (keyword exclusive : String) :
    Except Failure Unit := do
  let some bound := fields.keyword? keyword | return ()
  unless isOperand whole (graph.shape bound) do reject (.boundType keyword)
  let some modifier := fields.keyword? exclusive | return ()
  let modifier := graph.shape modifier
  unless modifier.isNumber || modifier.isBool do reject (.exclusiveModifier exclusive)

def checkExclusive (graph : Graph) (fields : Entries Ref) (keyword : String) :
    Except Failure Unit := do
  let some bound := fields.keyword? keyword | return ()
  let bound := graph.shape bound
  unless bound.isNumber || bound.isBool do reject (.exclusiveType keyword)

def checkMultipleOf (graph : Graph) (fields : Entries Ref) (whole : Bool) :
    Except Failure Unit := do
  let some divisor := fields.keyword? "multipleOf" | return ()
  let divisor := graph.shape divisor
  unless isOperand whole divisor do reject (.boundType "multipleOf")
  unless divisor.number?.any fun number => Number.zero.lt number do reject .multipleNotPositive

/-- Compiles the numeric keywords. Without a number among them only the type is
left to check. -/
def compileNumber (graph : Graph) (fields : Entries Ref) : Except Failure (List Check) := do
  let type := fields.keyword? "type"
  let whole := graph.hasType type "integer"
  checkBound graph fields whole "maximum" "exclusiveMaximum"
  checkBound graph fields whole "minimum" "exclusiveMinimum"
  checkExclusive graph fields "exclusiveMaximum"
  checkExclusive graph fields "exclusiveMinimum"
  checkMultipleOf graph fields whole
  let bounded := boundKeywords.any fun keyword =>
    (fields.keyword? keyword).any fun bound => (graph.shape bound).isNumber
  if bounded then return [.number whole]
  else if whole || graph.hasType type "number" then return [.isNumber whole]
  else return []

def liveNumber (graph : Graph) (keyword : Option Ref) : Option Number :=
  keyword.bind fun ref => (graph.shape ref).number?

/-- Tests a value against the number under a live keyword, if there is one. -/
def withNumber (graph : Graph) (keyword : Option Ref) (test : Number → Except Failure Unit) :
    Except Failure Unit :=
  match liveNumber graph keyword with
  | some number => test number
  | none => .ok ()

/-- `value ≤ bound`, or `value < bound` when the bound is sharpened. -/
def checkMaximum (value bound : Number) (exclusive : Option Ref) : Except Failure Unit :=
  if (exclusive = some (.bool true) ∧ bound.le value) ∨ bound.lt value then
    violate (.aboveMaximum bound)
  else .ok ()

def checkMinimum (value bound : Number) (exclusive : Option Ref) : Except Failure Unit :=
  if (exclusive = some (.bool true) ∧ value.le bound) ∨ value.lt bound then
    violate (.belowMinimum bound)
  else .ok ()

def checkBelow (value bound : Number) : Except Failure Unit :=
  if bound.le value then violate (.atExclusiveMaximum bound) else .ok ()

def checkAbove (value bound : Number) : Except Failure Unit :=
  if value.le bound then violate (.atExclusiveMinimum bound) else .ok ()

def divisibility (mode : MultipleMode) (value divisor : Number) : Number.Divisibility :=
  match mode with
  | .decimal => value.numeralDivisibility divisor
  | .float => value.quotientDivisibility divisor

def checkMultiple (mode : MultipleMode) (value divisor : Number) : Except Failure Unit :=
  match divisibility mode value divisor with
  | .multiple => .ok ()
  | .other => violate (.notMultiple divisor)
  | .byZero => .error (.fault .divisionByZero)

/-- Compares a number with the live bounds, in a fixed order. -/
def runBounds (graph : Graph) (mode : MultipleMode) (value : Number) (node : Ref) :
    Except Failure Unit := do
  let maximum ← live (graph.optional node "maximum")
  let exclusiveMaximum ← live (graph.optional node "exclusiveMaximum")
  let minimum ← live (graph.optional node "minimum")
  let exclusiveMinimum ← live (graph.optional node "exclusiveMinimum")
  let multipleOf ← live (graph.optional node "multipleOf")
  withNumber graph maximum fun bound => checkMaximum value bound exclusiveMaximum
  withNumber graph exclusiveMaximum fun bound => checkBelow value bound
  withNumber graph minimum fun bound => checkMinimum value bound exclusiveMinimum
  withNumber graph exclusiveMinimum fun bound => checkAbove value bound
  withNumber graph multipleOf fun divisor => checkMultiple mode value divisor

/-- A value that is no number of the wanted kind passes unless the live node
still asks for a number. -/
def runNumber (graph : Graph) (mode : MultipleMode) (whole : Bool) (value : Value) (node : Ref) :
    Except Failure Unit := do
  match value.shape.number?.filter fun number => !whole || number.isWhole with
  | some number => runBounds graph mode number node
  | none =>
    let type ← live (graph.optional node "type")
    if graph.hasType type "integer" then violate (.notNumeric "integer")
    else if graph.hasType type "number" then violate (.notNumeric "number")
    else return ()

def runIsNumber (graph : Graph) (whole : Bool) (value : Value) (node : Ref) :
    Except Failure Unit := do
  if isOperand whole value.shape then return ()
  let type ← live (graph.require node "type")
  violate (.notNumeric (← written (graph.value type)))

end LiveSchema.Keyword
