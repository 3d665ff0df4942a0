import LiveSchema.Number
import LiveSchema.Table

/-! Dynamic values. `Shape` is one layer of a value, with the parts left open:
finite values and the nodes of a schema graph share it, so a question about the
outermost layer is answered once for both. -/

namespace LiveSchema

/-- The name of an object entry. A whole number is never equal to a text. -/
inductive Key where
  | text (name : String)
  | int (value : Int)
deriving DecidableEq, Repr, Inhabited

/-- Entries in the order they were written. -/
abbrev Entries (α : Type) := Table Key α

/-- One layer of a value. A fixed array cannot be edited in place. -/
inductive Shape (α : Type) where
  | null
  | bool (value : Bool)
  | number (value : Number)
  | text (value : String)
  | bytes (value : List UInt8)
  | array (fixed : Bool) (items : List α)
  | object (entries : Entries α)
deriving Inhabited

inductive Value where
  | null
  | bool (value : Bool)
  | number (value : Number)
  | text (value : String)
  | bytes (value : List UInt8)
  | array (fixed : Bool) (items : List Value)
  | object (entries : List (Key × Value))
deriving Inhabited

namespace Value

def shape : Value → Shape Value
  | .null => .null
  | .bool value => .bool value
  | .number value => .number value
  | .text value => .text value
  | .bytes value => .bytes value
  | .array fixed items => .array fixed items
  | .object entries => .object entries

def ofKey : Key → Value
  | .text name => .text name
  | .int value => .number (.int value)

mutual

/-- How many arrays and objects enclose the innermost part of a value. -/
def depth : Value → Nat
  | .array _ items => depthItems items + 1
  | .object entries => depthEntries entries + 1
  | _ => 0

def depthItems : List Value → Nat
  | [] => 0
  | item :: rest => max item.depth (depthItems rest)

def depthEntries : List (Key × Value) → Nat
  | [] => 0
  | (_, item) :: rest => max item.depth (depthEntries rest)

end

end Value

namespace Shape

def isNull : Shape α → Bool
  | .null => true
  | _ => false

def isBool : Shape α → Bool
  | .bool _ => true
  | _ => false

def isText : Shape α → Bool
  | .text _ => true
  | _ => false

def isArray : Shape α → Bool
  | .array .. => true
  | _ => false

def isObject : Shape α → Bool
  | .object _ => true
  | _ => false

/-- The number in a value. NaN is not one, and neither is a boolean. -/
def number? : Shape α → Option Number
  | .number value => if value.isNaN then none else some value
  | _ => none

def text? : Shape α → Option String
  | .text value => some value
  | _ => none

def items? : Shape α → Option (List α)
  | .array _ items => some items
  | _ => none

def entries? : Shape α → Option (Entries α)
  | .object entries => some entries
  | _ => none

def isNumber (shape : Shape α) : Bool := shape.number?.isSome

/-- Whole numbers, written with a point or without. -/
def isInteger (shape : Shape α) : Bool := shape.number?.any Number.isWhole

/-- Only objects and booleans can be schema nodes. -/
def isSchema (shape : Shape α) : Bool := shape.isObject || shape.isBool

/-- How many parts a value has: code points, bytes, items or entries. -/
def length? : Shape α → Option Nat
  | .text value => some value.length
  | .bytes value => some value.length
  | .array _ items => some items.length
  | .object entries => some entries.length
  | _ => none

/-- Whether a value stands for yes where a flag is wanted: what is empty or zero
does not. -/
def isTruthy : Shape α → Bool
  | .null => false
  | .bool value => value
  | .number value => value.isTruthy
  | .text value => !value.isEmpty
  | .bytes value => !value.isEmpty
  | .array _ items => !items.isEmpty
  | .object entries => !entries.isEmpty

end Shape
end LiveSchema
