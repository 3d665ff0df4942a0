import LiveSchema.Keyword.Size

/-! The keywords that apply to values of every type: `type` where no single
type's own keywords enforce it, `enum` and `const`. -/

namespace LiveSchema.Keyword

def distinctTexts? (graph : Graph) (ref : Ref) : Option (List String) := do
  let items ← (graph.shape ref).items?
  let names ← items.mapM fun item => (graph.shape item).text?
  if names.Nodup then return names else none

def unknownName? (names : List String) : Option String :=
  names.find? fun name => (TypeName.ofName? name).isNone

/-- One type name is left to the keywords of that type, but for `null`; several
are checked here. -/
def compileType (graph : Graph) (type : Ref) : Except Failure (List Check) :=
  match graph.shape type with
  | .text name =>
    match TypeName.ofName? name with
    | none => reject (.unknownType name)
    | some .null => .ok [.null]
    | some _ => .ok []
  | _ =>
    match distinctTexts? graph type with
    | none | some [] => reject .malformedType
    | some names =>
      match unknownName? names with
      | some name => reject (.unknownType name)
      | none => .ok [.types]

/-- The form of a value that is compared with others. A node that contains itself
has none. -/
def comparedForm (value : Option Value) : Except Failure Canon :=
  match value with
  | some value => .ok value.canon
  | none => .error .endless

def memberForms (graph : Graph) (ref : Ref) : Except Failure (List Canon) := do
  let members ← live (graph.members ref)
  members.mapM fun member => comparedForm (graph.memberValue? member)

def compileEnum (graph : Graph) (enum : Ref) : Except Failure (List Check) :=
  match graph.shape enum with
  | .array _ (_ :: _) => return [.enum ⟨enum, ← memberForms graph enum⟩]
  | _ => reject .malformedEnum

def compileKind (graph : Graph) (fields : Entries Ref) : Except Failure (List Check) := do
  let type ← match fields.keyword? "type" with
    | some type => compileType graph type
    | none => .ok []
  let enum ← match fields.keyword? "enum" with
    | some enum => compileEnum graph enum
    | none => .ok []
  let const := if (fields.keyword? "const").isSome then [Check.const] else []
  return type ++ enum ++ const

mutual

/-- Whether a value can be looked up: an array or object that can be edited cannot. -/
def isLookupKey : Value → Bool
  | .array fixed items => fixed && areLookupKeys items
  | .object _ => false
  | _ => true

def areLookupKeys : List Value → Bool
  | [] => true
  | item :: rest => isLookupKey item && areLookupKeys rest

end

/-- The type that a member of a live `type` keyword names. -/
def namedType (name : Value) : Except Fault TypeName :=
  match name with
  | .text name =>
    match TypeName.ofName? name with
    | some type => .ok type
    | none => .error .missingKey
  | name => if isLookupKey name then .error .missingKey else .error .wrongType

/-- Whether a value is of one of the named types. Names after the first that
fits are not looked at. -/
def isAnyType (value : Value) : List Value → Except Fault Bool
  | [] => .ok false
  | name :: rest => do
    if (← namedType name).accepts value.shape then return true else isAnyType value rest

def runTypes (graph : Graph) (value : Value) (node : Ref) : Except Failure Unit := do
  let members ← live (graph.require node "type" >>= graph.members)
  let names := members.map graph.memberValue
  if ← live (isAnyType value names) then return ()
  violate (.notAnyOf (names.map Value.plain))

def runNull (value : Value) : Except Failure Unit :=
  if value.shape.isNull then .ok () else violate .notNull

/-- Looks a value up among the members of the live `enum` array. The members are
read again when another array has taken the place of the one last looked at. -/
def runEnum (graph : Graph) (value : Value) (node : Ref) (compiled : Memo) : Program Unit := do
  let current ← Program.live (graph.require node "enum")
  let memo := (← Program.recollect .done).getD compiled
  let allowed ←
    if current = memo.source then pure memo.allowed
    else do
      Program.remember { memo with source := current } (.done ())
      let allowed ← Program.ofExcept (memberForms graph current)
      Program.remember ⟨current, allowed⟩ (.done ())
      pure allowed
  if value.canon ∈ allowed then pure () else Program.violate .notAllowed

def runConst (graph : Graph) (value : Value) (node : Ref) : Except Failure Unit := do
  let constant ← live (graph.require node "const")
  if value.canon = (← comparedForm (graph.value? constant)) then return ()
  else violate .notConstant

end LiveSchema.Keyword
