import LiveSchema.Validator

/-! Configurations. A section holds entries, each with a name and the type of its
section; an entry gives the settings of a validator, and its schema too if it is
to make one. -/

namespace LiveSchema

namespace Configuration

def validatorType : String := "validator"

/-- An entry with its type, and with its position for a name if it has none. -/
def completed (type : String) (index : Nat) (entry : Entries Value) : Entries Value :=
  let named :=
    if entry.has (.text "name") then entry else entry.set (.text "name") (.text (toString index))
  named.set (.text "type") (.text type)

def completedAll (type : String) : (index : Nat) → List Value → Except Failure (List (Entries Value))
  | _, [] => .ok []
  | index, .object entry :: rest =>
    return completed type index entry :: (← completedAll type (index + 1) rest)
  | _, _ :: _ => .error (.fault .wrongType)

/-- The entries of a section; data that is no array is its only entry. -/
def entriesOf (type : String) (data : Value) : Except Failure (List (Entries Value)) :=
  match data with
  | .array false entries => completedAll type 0 entries
  | entry => completedAll type 0 [entry]

def hasName (entry : Entries Value) (name : String) : Bool :=
  match entry.get? (.text "name") with
  | some (.text own) => own == name
  | _ => false

def byName (type name : String) (entries : List (Entries Value)) : Except Failure (Entries Value) :=
  match entries.find? fun entry => hasName entry name with
  | some entry => .ok entry
  | none => .error (.lookup (.noName type name))

/-- Selects an entry by its position; negative ones count from the end. -/
def byIndex (index : Int) (entries : List (Entries Value)) : Except Failure (Entries Value) :=
  let position := if index < 0 then index + entries.length else index
  match if position < 0 then none else entries[position.toNat]? with
  | some entry => .ok entry
  | none => .error (.lookup (.noIndex index))

inductive Choice where
  | name (name : String)
  | index (index : Int)

def select (choice : Choice) (entries : List (Entries Value)) : Except Failure (Entries Value) :=
  match choice with
  | .name name => byName validatorType name entries
  | .index index => byIndex index entries

/-- The settings of an entry in a configuration of one section, and the warnings
reading them gives. -/
def settings (type : String) (data : Value) (choice : Choice) :
    List LogEntry × Except Failure Settings :=
  match entriesOf type data with
  | .error failure => ([], .error failure)
  | .ok entries =>
    if type ≠ validatorType then ([], .error (.lookup (.noSection validatorType)))
    else
      match select choice entries with
      | .error failure => ([], .error failure)
      | .ok entry => Settings.ofData (.object entry)

/-- Options are given by name, and one name is taken. -/
def isOption : Key → Bool
  | .text name => name != "self"
  | .int _ => false

def defaultName : Value := .text "unnamed_validator"

def build (config : Entries Value) : Run (Graph × Validator) := do
  unless config.keys.all isOption do throw (.fault .wrongType)
  let some schema := config.get? (.text "schema") | throw (.defect .missingSchema)
  let name := (config.get? (.text "name")).getD defaultName
  unless name.isWritable do throw (.fault .badValue)
  Run.record (.creating name)
  let (warnings, settings) := Settings.ofData (.object config)
  warnings.forM Run.record
  let settings ← settings
  let (root, graph) := Graph.empty.add schema
  let validator ← Validator.make graph root settings
  discard (validator.compile graph)
  return (graph, validator)

end Configuration
end LiveSchema
