import LiveSchema.Failure

/-! Schema documents as graphs. A node has an identity, so it can be shared,
reached from itself and edited in place. -/

namespace LiveSchema

/-- The identity of a node. Constants are the same node wherever they stand;
other nodes are numbered. -/
inductive Ref where
  | null
  | bool (value : Bool)
  | int (value : Int)
  | node (index : Nat)
deriving DecidableEq, Repr, Inhabited

/-- The numbered nodes, each one layer deep. -/
structure Graph where
  nodes : Array (Shape Ref)
deriving Inhabited

/-- What a walk over a node meets: another node, or a name, character or byte
that is no node. -/
inductive Member where
  | node (ref : Ref)
  | loose (value : Value)

namespace Graph

def empty : Graph := ⟨#[]⟩

def size (graph : Graph) : Nat := graph.nodes.size

def shape (graph : Graph) : Ref → Shape Ref
  | .null => .null
  | .bool value => .bool value
  | .int value => .number (.int value)
  | .node index => graph.nodes.getD index .null

/-- Whole numbers from -5 to 256 are constants. -/
def isConstant (value : Int) : Bool := -5 ≤ value && value ≤ 256

def push (graph : Graph) (shape : Shape Ref) : Ref × Graph :=
  (.node graph.size, ⟨graph.nodes.push shape⟩)

mutual

def add (graph : Graph) : Value → Ref × Graph
  | .null => (.null, graph)
  | .bool value => (.bool value, graph)
  | .number (.int value) =>
    if isConstant value then (.int value, graph) else graph.push (.number (.int value))
  | .number value => graph.push (.number value)
  | .text value => graph.push (.text value)
  | .bytes value => graph.push (.bytes value)
  | .array fixed items =>
    let (refs, graph) := graph.addItems items
    graph.push (.array fixed refs)
  | .object entries =>
    let (refs, graph) := graph.addEntries entries
    graph.push (.object refs)

def addItems (graph : Graph) : List Value → List Ref × Graph
  | [] => ([], graph)
  | item :: rest =>
    let (ref, graph) := graph.add item
    let (refs, graph) := graph.addItems rest
    (ref :: refs, graph)

def addEntries (graph : Graph) : List (Key × Value) → Entries Ref × Graph
  | [] => ([], graph)
  | (name, item) :: rest =>
    let (ref, graph) := graph.add item
    let (refs, graph) := graph.addEntries rest
    ((name, ref) :: refs, graph)

end

/-- The value of a node, cut off below a depth. -/
def unfold (graph : Graph) : (depth : Nat) → Ref → Value
  | 0, _ => .null
  | depth + 1, ref =>
    match graph.shape ref with
    | .null => .null
    | .bool value => .bool value
    | .number value => .number value
    | .text value => .text value
    | .bytes value => .bytes value
    | .array fixed items => .array fixed (items.map (graph.unfold depth))
    | .object entries => .object (entries.map fun entry => (entry.1, graph.unfold depth entry.2))

/-- The value of a node. A node that does not reach itself is at most as deep
as the graph is large. -/
def value (graph : Graph) (ref : Ref) : Value := graph.unfold (graph.size + 1) ref

def read? (graph : Graph) : (depth : Nat) → Ref → Option Value
  | 0, _ => none
  | depth + 1, ref =>
    match graph.shape ref with
    | .null => some .null
    | .bool value => some (.bool value)
    | .number value => some (.number value)
    | .text value => some (.text value)
    | .bytes value => some (.bytes value)
    | .array fixed items => (items.mapM (graph.read? depth)).map (.array fixed)
    | .object entries =>
      (entries.mapM fun entry => (graph.read? depth entry.2).map (Prod.mk entry.1)).map .object

def value? (graph : Graph) (ref : Ref) : Option Value := graph.read? (graph.size + 1) ref

def isSchema (graph : Graph) (ref : Ref) : Bool := (graph.shape ref).isSchema

def field? (graph : Graph) (ref : Ref) (keyword : String) : Option Ref :=
  (graph.shape ref).entries?.bind fun entries => entries.get? (.text keyword)

/-- The keyword of a node that was compiled with it. -/
def require (graph : Graph) (ref : Ref) (keyword : String) : Except Fault Ref :=
  match graph.shape ref with
  | .object entries =>
    match entries.get? (.text keyword) with
    | some part => .ok part
    | none => .error .missingKey
  | _ => .error .wrongType

/-- The keyword of a node that may do without it. -/
def optional (graph : Graph) (ref : Ref) (keyword : String) : Except Fault (Option Ref) :=
  match graph.shape ref with
  | .object entries => .ok (entries.get? (.text keyword))
  | _ => .error .notAnObject

def entriesOf (graph : Graph) (ref : Ref) : Except Fault (Entries Ref) :=
  match graph.shape ref with
  | .object entries => .ok entries
  | _ => .error .notAnObject

/-- The members of a node in order. An object is walked by its names, a text by
its characters. -/
def members (graph : Graph) (ref : Ref) : Except Fault (List Member) :=
  match graph.shape ref with
  | .array _ items => .ok (items.map .node)
  | .object entries => .ok (entries.map fun entry => .loose (.ofKey entry.1))
  | .text value => .ok (value.toList.map fun char => .loose (.text char.toString))
  | .bytes value => .ok (value.map fun byte => .loose (.number (.int byte.toNat)))
  | _ => .error .wrongType

def memberValue (graph : Graph) : Member → Value
  | .node ref => graph.value ref
  | .loose value => value

def memberValue? (graph : Graph) : Member → Option Value
  | .node ref => graph.value? ref
  | .loose value => some value

/-- Whether the `type` keyword of a node is this one name. -/
def hasType (graph : Graph) (ref : Option Ref) (name : String) : Bool :=
  match ref with
  | some ref => (graph.shape ref).text? == some name
  | none => false

end Graph
end LiveSchema
