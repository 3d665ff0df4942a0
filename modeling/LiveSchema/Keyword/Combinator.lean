import LiveSchema.Keyword.Array

/-! The combinators. Members are asked in order, and no further than the answer
needs. -/

namespace LiveSchema.Keyword

/-- A combinator needs an array of at least one schema. -/
def checkMembers (graph : Graph) (fields : Entries Ref) (keyword : String) :
    Except Failure Unit := do
  let some members := fields.keyword? keyword | return ()
  match (graph.shape members).items? with
  | some (first :: rest) =>
    if areSchemas graph (first :: rest) then return () else reject (.malformedMembers keyword)
  | _ => reject (.malformedMembers keyword)

def compileNot (graph : Graph) (fields : Entries Ref) : Except Failure (List Check) :=
  match fields.keyword? "not" with
  | none => .ok []
  | some schema => if graph.isSchema schema then .ok [.not] else reject (.notSubschema "not")

def presentAs (fields : Entries Ref) (keyword : String) (check : Check) : List Check :=
  if (fields.keyword? keyword).isSome then [check] else []

def compileCombinators (graph : Graph) (fields : Entries Ref) : Except Failure (List Check) := do
  checkMembers graph fields "allOf"
  checkMembers graph fields "anyOf"
  checkMembers graph fields "oneOf"
  let negation ← compileNot graph fields
  return presentAs fields "allOf" .allOf ++ presentAs fields "anyOf" .anyOf ++
    presentAs fields "oneOf" .oneOf ++ negation

/-- Every member accepts; the first that does not speaks for all. -/
def runAllOf (value : Value) : List Member → Program Unit
  | [] => pure ()
  | member :: rest => do
    match ← Program.memberVerdict value member with
    | none => runAllOf value rest
    | some violation => Program.violate violation

def runAnyOf (value : Value) : List Member → Program Unit
  | [] => Program.violate .noAlternative
  | member :: rest => do
    match ← Program.memberVerdict value member with
    | none => pure ()
    | some _ => runAnyOf value rest

/-- Exactly one member accepts. The second one that does ends the search. -/
def runOneOf (value : Value) : (found : Bool) → List Member → Program Unit
  | true, [] => pure ()
  | false, [] => Program.violate .noMatch
  | found, member :: rest => do
    match ← Program.memberVerdict value member, found with
    | none, true => Program.violate .manyMatches
    | none, false => runOneOf value true rest
    | some _, found => runOneOf value found rest

def runNot (value : Value) (schema : Ref) : Program Unit := do
  match ← Program.verdict value schema with
  | none => Program.violate .disallowed
  | some _ => pure ()

def liveMembers (graph : Graph) (node : Ref) (keyword : String) : Program (List Member) :=
  Program.live (graph.require node keyword >>= graph.members)

end LiveSchema.Keyword
