import LiveSchema.Graph

/-! Editing a schema graph in place. A path names a document first and then the
entries and positions below it. -/

namespace LiveSchema

/-- Documents and the graph their nodes live in. -/
structure Library where
  graph : Graph
  documents : Table String Ref

namespace Library

/-- The position an index means; negative ones count from the end. -/
def position? (length : Nat) (index : Int) : Option Nat :=
  let position := if index < 0 then index + length else index
  if 0 ≤ position ∧ position < length then some position.toNat else none

def child (graph : Graph) (node : Ref) (key : Key) : Except Fault Ref :=
  match graph.shape node, key with
  | .object entries, key =>
    match entries.get? key with
    | some part => .ok part
    | none => .error .missingKey
  | .array _ items, .int index =>
    match (position? items.length index).bind fun position => items[position]? with
    | some part => .ok part
    | none => .error .outOfRange
  | _, _ => .error .wrongType

def follow (graph : Graph) : Ref → List Key → Except Fault Ref
  | node, [] => .ok node
  | node, key :: rest => do follow graph (← child graph node key) rest

def document (library : Library) : Key → Except Fault Ref
  | .text name =>
    match library.documents.get? name with
    | some node => .ok node
    | none => .error .missingKey
  | .int _ => .error .missingKey

def find (library : Library) (path : List Key) : Except Fault Ref :=
  match path with
  | [] => .error .outOfRange
  | name :: rest => do follow library.graph (← library.document name) rest

def replace (graph : Graph) (node : Ref) (shape : Shape Ref) : Graph :=
  match node with
  | .node index => ⟨graph.nodes.setIfInBounds index shape⟩
  | _ => graph

def assigned (shape : Shape Ref) (key : Key) (part : Ref) : Except Fault (Shape Ref) :=
  match shape, key with
  | .object entries, key => .ok (.object (entries.set key part))
  | .array false items, .int index =>
    match position? items.length index with
    | some position => .ok (.array false (items.set position part))
    | none => .error .outOfRange
  | _, _ => .error .wrongType

def without (shape : Shape Ref) (key : Key) : Except Fault (Shape Ref) :=
  match shape, key with
  | .object entries, key =>
    if entries.has key then .ok (.object (entries.erase key)) else .error .missingKey
  | .array false items, .int index =>
    match position? items.length index with
    | some position => .ok (.array false (items.eraseIdx position))
    | none => .error .outOfRange
  | _, _ => .error .wrongType

def editParent (library : Library) (parent : List Key)
    (edit : Shape Ref → Except Fault (Shape Ref)) : Except Fault Library := do
  let node ← library.find parent
  let shape ← edit (library.graph.shape node)
  return { library with graph := replace library.graph node shape }

def assign (library : Library) (path : List Key) (part : Ref) : Except Fault Library :=
  match path.reverse with
  | [] => .error .outOfRange
  | [.text name] => .ok { library with documents := library.documents.set name part }
  | [.int _] => .error .missingKey
  | key :: parent => library.editParent parent.reverse fun shape => assigned shape key part

def add (library : Library) (value : Value) : Ref × Library :=
  let (node, graph) := library.graph.add value
  (node, { library with graph })

def set (library : Library) (path : List Key) (value : Value) : Except Fault Library :=
  let (node, library) := library.add value
  library.assign path node

/-- Makes the node at one path stand at another as well. -/
def link (library : Library) (path source : List Key) : Except Fault Library := do
  library.assign path (← library.find source)

def append (library : Library) (path : List Key) (value : Value) : Except Fault Library := do
  let node ← library.find path
  match library.graph.shape node with
  | .array false items =>
    let (item, library) := library.add value
    return { library with graph := replace library.graph node (.array false (items ++ [item])) }
  | _ => .error .notAnObject

def delete (library : Library) (path : List Key) : Except Fault Library :=
  match path.reverse with
  | [] => .error .outOfRange
  | [.text name] =>
    if library.documents.has name then
      .ok { library with documents := library.documents.erase name }
    else .error .missingKey
  | [.int _] => .error .missingKey
  | key :: parent => library.editParent parent.reverse fun shape => without shape key

/-- A library of documents that share no nodes. -/
def ofDocuments : List (String × Value) → Library
  | [] => ⟨.empty, []⟩
  | (name, value) :: rest =>
    let (node, library) := (ofDocuments rest).add value
    { library with documents := (name, node) :: library.documents }

end Library
end LiveSchema
