import LiveSchema.Value

/-! Equality of values as data. Every value has a canonical form in which
numbers are kept by exact value and entries in the order of their names; two
values are equal when their canonical forms are the same. -/

namespace LiveSchema

inductive Atom where
  | null
  | bool (value : Bool)
  | number (value : Extended)
  | notANumber
  | text (value : String)
  | bytes (value : List UInt8)
deriving DecidableEq

inductive Canon where
  | atom (value : Atom)
  | array (items : List Canon)
  | object (entries : List (Key × Canon))

namespace Canon

mutual

def decEq : (left right : Canon) → Decidable (left = right)
  | .atom left, .atom right =>
    if same : left = right then isTrue (by rw [same]) else isFalse (by simp [same])
  | .array left, .array right =>
    match decEqItems left right with
    | isTrue same => isTrue (by rw [same])
    | isFalse different => isFalse (by simpa using different)
  | .object left, .object right =>
    match decEqEntries left right with
    | isTrue same => isTrue (by rw [same])
    | isFalse different => isFalse (by simpa using different)
  | .atom _, .array _ | .atom _, .object _ | .array _, .atom _
  | .array _, .object _ | .object _, .atom _ | .object _, .array _ => isFalse (by simp)

def decEqItems : (left right : List Canon) → Decidable (left = right)
  | [], [] => isTrue rfl
  | [], _ :: _ | _ :: _, [] => isFalse (by simp)
  | left :: lefts, right :: rights =>
    match decEq left right, decEqItems lefts rights with
    | isTrue same, isTrue sames => isTrue (by rw [same, sames])
    | isFalse different, _ => isFalse (by simp [different])
    | _, isFalse different => isFalse (by simp [different])

def decEqEntries : (left right : List (Key × Canon)) → Decidable (left = right)
  | [], [] => isTrue rfl
  | [], _ :: _ | _ :: _, [] => isFalse (by simp)
  | (name, left) :: lefts, (other, right) :: rights =>
    match decEq left right, decEqEntries lefts rights with
    | isTrue same, isTrue sames =>
      if named : name = other then isTrue (by rw [named, same, sames])
      else isFalse (by simp [named])
    | isFalse different, _ => isFalse (by simp [different])
    | _, isFalse different => isFalse (by simp [different])

end

instance : DecidableEq Canon := decEq

end Canon

/-- Whole numbers come before texts, and each kind is in its own order. -/
def Key.before : Key → Key → Bool
  | .int left, .int right => left < right
  | .int _, .text _ => true
  | .text _, .int _ => false
  | .text left, .text right => left < right

namespace Value

/-- Puts an entry in its place; it takes the place of an entry of the same name. -/
def insertEntry (name : Key) (item : Canon) : List (Key × Canon) → List (Key × Canon)
  | [] => [(name, item)]
  | (other, old) :: rest =>
    if name = other then (name, item) :: rest
    else if name.before other then (name, item) :: (other, old) :: rest
    else (other, old) :: insertEntry name item rest

mutual

def canon : Value → Canon
  | .null => .atom .null
  | .bool value => .atom (.bool value)
  | .number value =>
    match value.place? with
    | some exact => .atom (.number exact)
    | none => .atom .notANumber
  | .text value => .atom (.text value)
  | .bytes value => .atom (.bytes value)
  | .array _ items => .array (canonItems items)
  | .object entries => .object (canonEntries entries)

def canonItems : List Value → List Canon
  | [] => []
  | item :: rest => item.canon :: canonItems rest

def canonEntries : List (Key × Value) → List (Key × Canon)
  | [] => []
  | (name, item) :: rest => insertEntry name item.canon (canonEntries rest)

end

/-- Equality of data: a boolean is no number, `1` and `1.0` are equal, and the
order of entries does not count. -/
def same (left right : Value) : Bool := left.canon = right.canon

end Value

/-- The index of the first item that equals an earlier one. -/
def firstRepeat? (items : List Canon) : Option Nat :=
  go [] 0 items
where
  go (seen : List Canon) (index : Nat) : List Canon → Option Nat
    | [] => none
    | item :: rest => if item ∈ seen then some index else go (item :: seen) (index + 1) rest

def countDistinct : List Canon → Nat
  | [] => 0
  | item :: rest => (if item ∈ rest then 0 else 1) + countDistinct rest

namespace Value

/-- An array whose items all pass a test. -/
def isTypedArray (test : Value → Bool) (value : Value) : Bool :=
  value.shape.items?.any fun items => items.all test

/-- A typed array that is not empty and has as many items as distinct ones. -/
def isEnum (test : Value → Bool) (value : Value) : Bool :=
  value.isTypedArray test && value.shape.items?.any fun items =>
    !items.isEmpty && countDistinct (items.map canon) == items.length

end Value
end LiveSchema
