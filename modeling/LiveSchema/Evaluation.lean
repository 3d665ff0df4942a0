import LiveSchema.Workspace

/-! Validation without a cache: every node is compiled anew each time it is
reached. This is what a cached validation is measured by. -/

namespace LiveSchema

namespace Program

/-- The result of a program whose verdicts are given by a function. Fresh checks
remember nothing. -/
def evaluate (judge : Value → Ref → Except Failure Unit) (prepare : Ref → Except Failure Unit) :
    Program α → Except Failure α
  | .done result => .ok result
  | .fail failure => .error failure
  | .judge value node next =>
    match judge value node with
    | .ok () => evaluate judge prepare (next none)
    | .error (.violation violation) => evaluate judge prepare (next (some violation))
    | .error failure => .error failure
  | .prepare node next =>
    match prepare node with
    | .ok () => evaluate judge prepare next
    | .error failure => .error failure
  | .recollect next => evaluate judge prepare (next none)
  | .remember _ next => evaluate judge prepare next

end Program

def prepareNode (graph : Graph) (node : Ref) : Except Failure Unit :=
  match compileNode graph node with
  | .ok _ => .ok ()
  | .error failure => .error failure

/-- The verdict of the schema at a node, compiled anew wherever it is reached. -/
def evaluateAt (graph : Graph) (mode : MultipleMode) : (fuel : Nat) → Value → Ref → Except Failure Unit
  | 0, _, _ => .error .endless
  | fuel + 1, value, node => do
    let checks ← compileNode graph node
    (judgeNode graph mode checks value node).evaluate (evaluateAt graph mode fuel) (prepareNode graph)

def Graph.evaluate (graph : Graph) (mode : MultipleMode) (value : Value) (node : Ref) :
    Except Failure Unit :=
  evaluateAt graph mode (graph.budget value) value node

def Graph.accepts (graph : Graph) (mode : MultipleMode) (value : Value) (node : Ref) : Bool :=
  match graph.evaluate mode value node with
  | .ok () => true
  | .error _ => false

end LiveSchema
