import LiveSchema.Pattern
import LiveSchema.Program
import LiveSchema.Value.TypeName

/-! Compiled checks. A check holds only what was settled when its node was
compiled; everything else it reads from the live node when it runs. -/

namespace LiveSchema

inductive Direction where
  | max
  | min
deriving DecidableEq, Repr

/-- A count compared with the threshold under a keyword. -/
structure SizeCheck where
  keyword : String
  direction : Direction
deriving DecidableEq, Repr

/-- What is checked for every entry of an object. -/
inductive KeyCheck where
  | properties
  | patternProperties (known : List Pattern)
  | additionalSchema
  | noAdditional
  | dependencies
  | propertyNames

/-- What is checked once for an object, after its entries. -/
inductive TallyCheck where
  | required
  | size (check : SizeCheck)

/-- What is checked for every item of an array. -/
inductive ItemCheck where
  | every
  | positional

/-- What is checked once for an array, after its items. -/
inductive ArrayCheck where
  | contains
  | unique
  | size (check : SizeCheck)

inductive TextCheck where
  | size (check : SizeCheck)
  | pattern (known : Pattern)

inductive Check where
  | null
  | types
  | enum (memo : Memo)
  | const
  | object (entries : List KeyCheck) (required : List String) (tally : List TallyCheck)
  | isObject
  | number (whole : Bool)
  | isNumber (whole : Bool)
  | text (checks : List TextCheck)
  | isText
  | array (items : Option ItemCheck) (all : List ArrayCheck)
  | isArray
  | isBoolean
  | allOf
  | anyOf
  | oneOf
  | not

inductive MultipleMode where
  | decimal
  | float
deriving DecidableEq, Repr, Inhabited

end LiveSchema
