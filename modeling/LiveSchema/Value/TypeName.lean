import LiveSchema.Value

/-! The seven type names a schema may ask for, and the name that a value itself
goes by. -/

namespace LiveSchema

inductive TypeName where
  | array
  | boolean
  | integer
  | null
  | number
  | object
  | string
deriving DecidableEq, Repr

namespace TypeName

/-- The types in the order of their names. -/
def all : List TypeName := [.array, .boolean, .integer, .null, .number, .object, .string]

def name : TypeName → String
  | .array => "array"
  | .boolean => "boolean"
  | .integer => "integer"
  | .null => "null"
  | .number => "number"
  | .object => "object"
  | .string => "string"

def ofName? (name : String) : Option TypeName := all.find? fun type => type.name == name

/-- Whether a value is of a type. A whole number is a number and an integer. -/
def accepts (type : TypeName) (shape : Shape α) : Bool :=
  match type with
  | .array => shape.isArray
  | .boolean => shape.isBool
  | .integer => shape.isInteger
  | .null => shape.isNull
  | .number => shape.isNumber
  | .object => shape.isObject
  | .string => shape.isText

end TypeName

/-- The name a value goes by. A double is a number even when its value is whole;
NaN and bytes are outside the seven types. -/
def Shape.typeName : Shape α → String
  | .null => "null"
  | .bool _ => "boolean"
  | .number (.int _) => "integer"
  | .number (.double value) => if value = .nan then "float" else "number"
  | .text _ => "string"
  | .bytes _ => "bytes"
  | .array .. => "array"
  | .object _ => "object"

end LiveSchema
