import LiveSchema.Graph

/-! The schemas nested in a node, and all schemas that can be reached from one. -/

namespace LiveSchema.Graph

def keyword? (fields : Entries Ref) (keyword : String) : Option Ref := fields.get? (.text keyword)

def schemasIn (graph : Graph) (refs : List Ref) : List Ref := refs.filter graph.isSchema

/-- The schemas of a keyword that maps names to schemas. -/
def mappedSchemas (graph : Graph) (fields : Entries Ref) (keyword : String) : List Ref :=
  match (keyword? fields keyword).bind fun ref => (graph.shape ref).entries? with
  | some entries => graph.schemasIn (entries.map Prod.snd)
  | none => []

def singleSchema (graph : Graph) (fields : Entries Ref) (keyword : String) : List Ref :=
  graph.schemasIn (keyword? fields keyword).toList

/-- The schemas of a keyword that is an array of them. -/
def listedSchemas (graph : Graph) (fields : Entries Ref) (keyword : String) : List Ref :=
  match (keyword? fields keyword).bind fun ref => (graph.shape ref).items? with
  | some items => graph.schemasIn items
  | none => []

def mapKeywords : List String := ["properties", "patternProperties", "dependencies"]

def schemaKeywords : List String :=
  ["additionalProperties", "propertyNames", "additionalItems", "contains", "not"]

def listKeywords : List String := ["allOf", "anyOf", "oneOf"]

/-- The schemas directly nested in a node. An array form of `dependencies` is
none, and `items` may be one schema or several. -/
def subschemas (graph : Graph) (node : Ref) : List Ref :=
  match graph.shape node with
  | .object fields =>
    mapKeywords.flatMap (graph.mappedSchemas fields) ++
      schemaKeywords.flatMap (graph.singleSchema fields) ++
      graph.singleSchema fields "items" ++ graph.listedSchemas fields "items" ++
      listKeywords.flatMap (graph.listedSchemas fields)
  | _ => []

/-- How often one numbered node is nested in another. -/
def edgeCount (graph : Graph) : Nat :=
  (List.range graph.size).foldl
    (fun count index => count + (graph.subschemas (.node index)).length) 0

/-- Visits the pending nodes that were not seen before, each followed by what is
nested in it. -/
def visit (graph : Graph) : (fuel : Nat) → (seen pending : List Ref) → List Ref
  | _, _, [] => []
  | 0, _, _ :: _ => []
  | fuel + 1, seen, node :: pending =>
    if node ∈ seen then graph.visit fuel seen pending
    else node :: graph.visit fuel (node :: seen) (graph.subschemas node ++ pending)

/-- The nodes reached from a root, each once, a node before what is nested in it
and the first nested node before the second. Every edge makes a node pending at
most once, which bounds the visits. -/
def preorder (graph : Graph) (root : Ref) : List Ref :=
  graph.visit (graph.edgeCount + 1) [] [root]

end LiveSchema.Graph
