import LiveSchema.Check
import LiveSchema.Log
import LiveSchema.Text.Blank
import LiveSchema.Text.Case

/-! The settings of a validator, and how they are read from data. -/

namespace LiveSchema

def MultipleMode.name : MultipleMode → String
  | .decimal => "decimal"
  | .float => "float"

def MultipleMode.ofValue? : Value → Option MultipleMode
  | .text "decimal" => some .decimal
  | .text "float" => some .float
  | _ => none

/-- What a setting can be given as: data, or a mode itself. -/
inductive Given where
  | data (value : Value)
  | mode (mode : MultipleMode)

namespace Given

abbrev bool (value : Bool) : Given := .data (.bool value)

/-- The mode that is meant. It stands for itself, or is named. -/
def mode? : Given → Option MultipleMode
  | .data value => MultipleMode.ofValue? value
  | .mode meant => some meant

def text? : Given → Option String
  | .data value => value.shape.text?
  | .mode _ => none

/-- As data a mode is its name. -/
@[coe]
def written : Given → Value
  | .data value => value
  | .mode meant => .text meant.name

instance : Coe Given Value := ⟨written⟩

end Given

/-- The second setting is kept as it was given, unless it was a text, and counts
as on when it stands for yes. -/
structure Settings where
  mode : MultipleMode
  eager : Given

namespace Settings

def standard : Settings := ⟨.decimal, .bool true⟩

/-- Whether every schema that can be reached is compiled beforehand. -/
def isEager (settings : Settings) : Bool := settings.eager.written.shape.isTruthy

def modeKey : String := "multiple_of_mode"

def eagerKey : String := "eager_compile"

/-- Names that a configuration entry may have besides the settings. -/
def metadataKeys : List String := ["type", "name", "factory", "class", "schema"]

def onWords : List String := ["1", "true", "yes", "on"]

def offWords : List String := ["0", "false", "no", "off"]

-- One letter at a time is enough here. Only a dotted capital i and a sigma at the end
-- of a word have other lower-case forms, and no word above holds an i or a sigma.
def lowered (text : String) : String :=
  String.ofList (text.toList.map fun char => Char.ofNat (lowerCode char.toNat))

/-- Reads a flag. Blanks around a word and its letter case do not count. -/
def readFlag (flag : Given) : Except SettingError Given :=
  match flag.text? with
  | some text =>
    let word := lowered (trimBlank text)
    if onWords.contains word then .ok (.bool true)
    else if offWords.contains word then .ok (.bool false)
    else .error (.badFlag text)
  | none => .ok flag

def make (mode eager : Given) : Except SettingError Settings :=
  match mode.mode? with
  | none => .error (.unknownMode mode)
  | some mode => return ⟨mode, ← readFlag eager⟩

/-- The mode that some entries ask for. -/
def modeIn (entries : Entries Given) : Given := (entries.get? (.text modeKey)).getD (.mode .decimal)

/-- The flag that some entries ask for. -/
def flagIn (entries : Entries Given) : Given := (entries.get? (.text eagerKey)).getD (.bool true)

/-- The settings among some entries; one that is missing has its standard value. -/
def ofEntries (entries : Entries Given) : Except Failure Settings :=
  match make (modeIn entries) (flagIn entries) with
  | .ok settings => .ok settings
  | .error error => .error error.failure

def isSetting (name : Key) : Bool := name = .text modeKey || name = .text eagerKey

def isMetadata (name : Key) : Bool := metadataKeys.any fun key => name = .text key

/-- What a pass over some entries has found: the settings among them, and a warning
of each name it does not know. -/
structure Findings where
  settings : Entries Given := []
  log : List LogEntry := []

def Findings.add (found : Findings) (name : Key) (given : Given) : Findings :=
  if isSetting name then { found with settings := found.settings.set name given }
  else if isMetadata name then found
  else { found with log := found.log ++ [.ignoredSetting name] }

def find (entries : Entries Given) : Findings :=
  entries.foldl (fun found entry => found.add entry.1 entry.2) {}

/-- Whether a pass gets beyond a name. One that is warned of must have a text. -/
def isPassed (name : Key) : Bool := isSetting name || isMetadata name || name.isWritable

/-- Reads settings from a mapping and warns of names it does not know. An empty one
stands for the standard settings. -/
def ofMapping (entries : Entries Given) : List LogEntry × Except Failure Settings :=
  if entries.isEmpty then ([], .ok standard)
  else
    let found := find (entries.takeWhile fun entry => isPassed entry.1)
    (found.log,
      if entries.all fun entry => isPassed entry.1 then ofEntries found.settings
      else .error (.fault .badValue))

def given (entries : Entries Value) : Entries Given :=
  entries.map fun entry => (entry.1, .data entry.2)

/-- Reads settings from data. Nothing, or something empty, stands for the standard
settings. -/
def ofData (data : Value) : List LogEntry × Except Failure Settings :=
  match data with
  | .object entries => ofMapping (given entries)
  | data =>
    if data.shape.isTruthy then ([], .error (.fault .notAnObject)) else ([], .ok standard)

def ofArguments (data : Value) : Except Failure Settings :=
  match data with
  | .object entries =>
    if (Table.keys entries).all isSetting then ofEntries (given entries)
    else .error (.fault .wrongType)
  | _ => .error (.fault .wrongType)

/-- The settings as a mapping, from which they can be read again. -/
def toEntries (settings : Settings) : Entries Given :=
  [(.text modeKey, .data (.text settings.mode.name)), (.text eagerKey, settings.eager)]

def isYes : Value → Bool
  | .bool value => value
  | .number number => number.place? = some (.finite 1)
  | _ => false

/-- Whether settings equal the standard ones; one counts as yes. -/
def isStandard (settings : Settings) : Bool :=
  settings.mode = .decimal && isYes settings.eager

end Settings
end LiveSchema
