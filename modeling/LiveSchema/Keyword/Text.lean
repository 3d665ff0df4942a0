import LiveSchema.Keyword.Size

/-! The keywords of texts: two lengths, counted in code points, and a pattern
that may be found anywhere. -/

namespace LiveSchema.Keyword

/-- Compiles a pattern that belongs to a keyword. -/
def compilePattern (keyword source : String) : Except Failure Pattern :=
  match Pattern.compile source with
  | .ok pattern => .ok pattern
  | .error .malformed => reject (.badPattern keyword source)
  | .error .tooLarge => .error (.fault .tooLarge)
  | .error .conflictingFlags => .error (.fault .badValue)

def compilePatternKeyword (graph : Graph) (fields : Entries Ref) :
    Except Failure (List TextCheck) :=
  match fields.keyword? "pattern" with
  | none => .ok []
  | some pattern =>
    match graph.shape pattern with
    | .text source => return [.pattern (← compilePattern "pattern" source)]
    | _ => reject .patternNotText

def compileText (graph : Graph) (fields : Entries Ref) : Except Failure (List Check) := do
  let longest ← SizeCheck.compile? graph fields "maxLength" .max
  let shortest ← SizeCheck.compile? graph fields "minLength" .min
  let pattern ← compilePatternKeyword graph fields
  let checks := (longest ++ shortest).map TextCheck.size ++ pattern
  if !checks.isEmpty then return [.text checks]
  else if graph.hasType (fields.keyword? "type") "string" then return [.isText]
  else return []

/-- The text of a pattern; bytes are read as the first 256 characters. -/
def patternSource? : Shape α → Option String
  | .text source => some source
  | .bytes source => some (String.ofList (source.map fun byte => Char.ofNat byte.toNat))
  | _ => none

/-- A live pattern that was not there at compile time. Bytes may be a pattern,
but none that texts can be searched with. -/
def livePattern (shape : Shape Ref) (known : Pattern) : Except Fault Pattern :=
  match (patternSource? shape).map (Pattern.lookUp [known]) with
  | some (.ok pattern) => if shape.isText then .ok pattern else .error .wrongType
  | some (.error .malformed) => .error .badPattern
  | some (.error .tooLarge) => .error .tooLarge
  | some (.error .conflictingFlags) => .error .badValue
  | none => .error .wrongType

def runPattern (graph : Graph) (text : String) (node : Ref) (known : Pattern) :
    Except Failure Unit := do
  let current ← live (graph.require node "pattern")
  let pattern ← live (livePattern (graph.shape current) known)
  if pattern.foundIn text then return () else violate (.patternMismatch pattern.source)

def runTextCheck (graph : Graph) (text : String) (node : Ref) : TextCheck → Except Failure Unit
  | .size check => check.run graph node (.ok text.length)
  | .pattern known => runPattern graph text node known

def runText (graph : Graph) (checks : List TextCheck) (value : Value) (node : Ref) :
    Except Failure Unit := do
  match value with
  | .text text => checks.forM (runTextCheck graph text node)
  | _ => if graph.hasType (← live (graph.optional node "type")) "string" then violate .notText

def runIsText (value : Value) : Except Failure Unit :=
  if value.shape.isText then .ok () else violate .notText

end LiveSchema.Keyword
