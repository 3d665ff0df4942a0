import LiveSchema.Value.Text

/-! Everything that can go wrong, as causes. A defect lies in a schema, a
violation in a value, and a fault in a schema node that was edited into a shape
its compiled checks cannot read, or in a number too long for a message. `Report` is
what defects and violations say. -/

namespace LiveSchema

structure Report where
  keyword : String
  reason : String
  code : String
  context : Entries Value

namespace Report

/-- A report whose code, unless given, is made from its keyword. Circumstances
are added to the keyword and the code, and can replace them. -/
def make (keyword reason : String) (code : Option String := none) (extra : Entries Value := []) :
    Report :=
  let given := code.getD ""
  let code := if given.isEmpty then "invalid_" ++ keyword else given
  let base : Entries Value := [(.text "keyword", .text keyword), (.text "code", .text code)]
  { keyword, reason, code
    context := extra.foldl (fun context entry => context.set entry.1 entry.2) base }

def message (report : Report) : String := "#" ++ report.keyword ++ ": " ++ report.reason

end Report

/-- A keyword of a schema node is declared with a value it cannot have. -/
inductive Defect where
  | notSchema
  | missingSchema
  | unknownType (name : String)
  | malformedType
  | malformedEnum
  | threshold (keyword : String)
  | boundType (keyword : String)
  | exclusiveModifier (keyword : String)
  | exclusiveType (keyword : String)
  | multipleNotPositive
  | patternNotText
  | badPattern (keyword source : String)
  | notObject (keyword : String)
  | notSchemaOrBoolean (keyword : String)
  | malformedDependency
  | notSubschema (keyword : String)
  | malformedRequired
  | repeatedRequired
  | malformedItems
  | uniqueNotBoolean
  | malformedMembers (keyword : String)
deriving DecidableEq, Repr

def Defect.report : Defect → Report
  | .notSchema => .make "schema" "must be an Object or Boolean" (some "invalid_schema")
  | .missingSchema =>
    .make "schema" "validator configuration requires a schema" (some "missing_schema")
  | .unknownType name => .make "type" ("unknown type '" ++ name ++ "'") (some "unknown_type")
  | .malformedType => .make "type" "must be a type name or an array of unique type names"
  | .malformedEnum => .make "enum" "keyword must be a non-empty array"
  | .threshold keyword =>
    .make keyword "keyword must be a positive integer" (some "invalid_threshold")
  | .boundType keyword => .make keyword "keyword is not the right type"
  | .exclusiveModifier keyword => .make keyword "keyword is not a boolean"
  | .exclusiveType keyword => .make keyword "keyword must be a boolean or a number"
  | .multipleNotPositive => .make "multipleOf" "keyword must be greater than 0"
  | .patternNotText => .make "pattern" "keyword must be a string"
  | .badPattern keyword source =>
    .make keyword ("invalid regular expression '" ++ source ++ "'") (some "invalid_pattern")
  | .notObject keyword => .make keyword "must be an Object"
  | .notSchemaOrBoolean keyword => .make keyword "must be either a Schema or Boolean"
  | .malformedDependency =>
    .make "dependencies" "all dependencies must either be Schemas|enums"
  | .notSubschema keyword => .make keyword "must be a Schema"
  | .malformedRequired =>
    .make "required" "required properties must be defined in an array of strings"
  | .repeatedRequired => .make "required" "required properties must be unique"
  | .malformedItems => .make "items" "must be a Schema or an array of Schemas"
  | .uniqueNotBoolean => .make "uniqueItems" "keyword must be a boolean"
  | .malformedMembers keyword => .make keyword "must be a non-empty array of Schemas"

inductive Violation where
  | falseSchema
  | notNull
  | notAnyOf (names : List String)
  | notAllowed
  | notConstant
  | notObject
  | notArray
  | notText
  | notBoolean
  | notNumeric (type : String)
  | aboveMaximum (bound : Number)
  | atExclusiveMaximum (bound : Number)
  | belowMinimum (bound : Number)
  | atExclusiveMinimum (bound : Number)
  | notMultiple (divisor : Number)
  | tooLong (keyword : String)
  | tooShort (keyword : String)
  | patternMismatch (source : String)
  | missingRequired
  | additionalProperty (name : Key)
  | missingDependency (name : Key) (missing : Value)
  | additionalItem (index : Nat)
  | nothingContained
  | duplicateItem (index : Nat)
  | noAlternative
  | manyMatches
  | noMatch
  | disallowed

def Violation.report : Violation → Report
  | .falseSchema =>
    .make "schema" "'false' schema invalidates all values" (some "false_schema")
  | .notNull => .make "type" "value is not null" (some "type_mismatch")
  | .notAnyOf names =>
    .make "type" ("value is not any of " ++ ", ".intercalate names) (some "type_mismatch")
  | .notAllowed => .make "enum" "value is not one of the allowed values" (some "not_allowed")
  | .notConstant => .make "const" "value does not equal the constant" (some "not_constant")
  | .notObject => .make "type" "value is not an object" (some "type_mismatch")
  | .notArray => .make "type" "value is not an array" (some "type_mismatch")
  | .notText => .make "type" "value is not a string" (some "type_mismatch")
  | .notBoolean => .make "type" "value is not a boolean" (some "type_mismatch")
  | .notNumeric type => .make "type" ("value is not a(n) " ++ type) (some "type_mismatch")
  | .aboveMaximum bound =>
    .make "maximum" ("value is greater than or equal to " ++ bound.text) (some "above_maximum")
  | .atExclusiveMaximum bound =>
    .make "exclusiveMaximum" ("value is greater than or equal to " ++ bound.text)
      (some "above_maximum")
  | .belowMinimum bound =>
    .make "minimum" ("value is less than or equal to " ++ bound.text) (some "below_minimum")
  | .atExclusiveMinimum bound =>
    .make "exclusiveMinimum" ("value is less than or equal to " ++ bound.text)
      (some "below_minimum")
  | .notMultiple divisor =>
    .make "multipleOf" ("value is not a multiple of " ++ divisor.text) (some "not_multiple")
  | .tooLong keyword => .make keyword "value maximum exceeded" (some "above_maximum")
  | .tooShort keyword => .make keyword "value minimum not met" (some "below_minimum")
  | .patternMismatch source =>
    .make "pattern" ("value does not match pattern '" ++ source ++ "'") (some "pattern_mismatch")
  | .missingRequired =>
    .make "required" "value does not have all required properties" (some "missing_required")
  | .additionalProperty name =>
    .make "additionalProperties" "additional properties not allowed"
      (some "additional_property") [(.text "property", .ofKey name)]
  | .missingDependency name missing =>
    .make "dependencies"
      ("value does not have '" ++ missing.plain ++ "' dependency required by '" ++ name.plain ++ "'")
      (some "missing_dependency") [(.text "property", .ofKey name), (.text "missing", missing)]
  | .additionalItem index =>
    .make "additionalItems" "additional items not allowed" (some "additional_item")
      [(.text "index", .number (.int index))]
  | .nothingContained =>
    .make "contains" "value does not contain a matching item" (some "no_match")
  | .duplicateItem index =>
    .make "uniqueItems" "value contains duplicate items" (some "duplicate_item")
      [(.text "index", .number (.int index))]
  | .noAlternative => .make "anyOf" "value does not match any schema" (some "no_match")
  | .manyMatches => .make "oneOf" "value matches more than one schema" (some "multiple_matches")
  | .noMatch => .make "oneOf" "value matches no schema" (some "no_match")
  | .disallowed => .make "not" "value matches a disallowed schema" (some "disallowed_match")

/-- Whether a violation has a message. Some quote a bound or a name, which may be a
number without a text. -/
def Violation.isWritable : Violation → Bool
  | .aboveMaximum bound | .atExclusiveMaximum bound | .belowMinimum bound
  | .atExclusiveMinimum bound => bound.isWritable
  | .notMultiple divisor => divisor.isWritable
  | .missingDependency name missing => missing.isWritable && name.isWritable
  | _ => true

/-- A step met something of a kind it cannot work on. -/
inductive Fault where
  | missingKey
  | outOfRange
  /-- A length, an order, a walk or a look-up is wanted of what has none. -/
  | wrongType
  | notAnObject
  | badValue
  | divisionByZero
  | badPattern
  | tooLarge
deriving DecidableEq, Repr

inductive SettingError where
  | unknownMode (value : Value)
  | badFlag (text : String)

def SettingError.message : SettingError → String
  | .unknownMode value => "Unknown multiple_of_mode: " ++ value.plain
  | .badFlag text => "Invalid eager_compile value: " ++ text

def SettingError.isWritable : SettingError → Bool
  | .unknownMode value => value.isWritable
  | .badFlag _ => true

def SettingError.context : SettingError → Entries Value
  | .unknownMode value =>
    [(.text "setting", .text "multiple_of_mode"), (.text "value", value)]
  | .badFlag text => [(.text "setting", .text "eager_compile"), (.text "value", .text text)]

inductive LookupError where
  | noSection (type : String)
  | noName (type name : String)
  | noIndex (index : Int)
deriving DecidableEq, Repr

def LookupError.message : LookupError → String
  | .noSection type => "Type not found: " ++ type
  | .noName type name => "Configuration not found: " ++ type ++ "[" ++ name ++ "]"
  | .noIndex index => "Index out of range: " ++ toString index

/-- How a step can end early. -/
inductive Failure where
  | defect (defect : Defect)
  | violation (violation : Violation)
  | fault (fault : Fault)
  | setting (error : SettingError)
  | lookup (error : LookupError)
  /-- A schema asks for the same verdict again while it is being reached, or a
  value that is to be compared contains itself. -/
  | endless

instance decideOk [DecidableEq α] (outcome : Except Failure α) (result : α) : Decidable (outcome = .ok result) :=
  match outcome with
  | .ok other => decidable_of_iff (other = result) ⟨fun same => same ▸ rfl, Except.ok.inj⟩
  | .error _ => isFalse nofun

instance decideFault (outcome : Except Failure α) (cause : Fault) : Decidable (outcome = .error (.fault cause)) :=
  match outcome with
  | .error (.fault other) =>
    decidable_of_iff (other = cause) ⟨fun same => same ▸ rfl, fun same => Failure.fault.inj (Except.error.inj same)⟩
  | .ok _ | .error (.defect _) | .error (.violation _) | .error (.setting _) | .error (.lookup _) | .error .endless => isFalse nofun

/-- How a check ends that finds a violation. Without a message it cannot be reported, and
writing one ends in a fault. -/
def Violation.failure (violation : Violation) : Failure :=
  if violation.isWritable then .violation violation else .fault .badValue

def SettingError.failure (error : SettingError) : Failure :=
  if error.isWritable then .setting error else .fault .badValue

/-- Only a defect undoes the compilation of a tree. -/
def Failure.isDefect : Failure → Bool
  | .defect _ => true
  | _ => false

end LiveSchema
