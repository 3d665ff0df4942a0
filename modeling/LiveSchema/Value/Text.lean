import LiveSchema.Text.Printable
import LiveSchema.Value

/-! Values inside messages. A text stands for itself; inside an array or an
object it is quoted, with escapes for what cannot be printed. -/

namespace LiveSchema

def hexText (width code : Nat) : String :=
  let digits := Nat.toDigits 16 code
  String.ofList (List.replicate (width - digits.length) '0' ++ digits)

/-- Texts are quoted singly unless that would need an escape that double quotes spare. -/
def quoteFor (chars : List Char) : Char :=
  if chars.contains '\'' && !chars.contains '"' then '"' else '\''

/-- The escape of a character, if it has a short one inside the given quotes. -/
def shortEscape? (quote char : Char) : Option String :=
  if char = quote ∨ char = '\\' then some ("\\" ++ char.toString)
  else if char = '\n' then some "\\n"
  else if char = '\r' then some "\\r"
  else if char = '\t' then some "\\t"
  else none

def escapeChar (quote char : Char) : String :=
  match shortEscape? quote char with
  | some escape => escape
  | none =>
    if isPrintable char then char.toString
    else if char.toNat < 0x100 then "\\x" ++ hexText 2 char.toNat
    else if char.toNat < 0x10000 then "\\u" ++ hexText 4 char.toNat
    else "\\U" ++ hexText 8 char.toNat

def escapeByte (quote char : Char) : String :=
  match shortEscape? quote char with
  | some escape => escape
  | none =>
    if char.toNat < 0x20 ∨ 0x7f ≤ char.toNat then "\\x" ++ hexText 2 char.toNat
    else char.toString

def quoted (escape : Char → Char → String) (chars : List Char) : String :=
  let quote := quoteFor chars
  quote.toString ++ String.join (chars.map (escape quote)) ++ quote.toString

def quotedText (text : String) : String := quoted escapeChar text.toList

def Key.isWritable : Key → Bool
  | .text _ => true
  | .int value => (Number.int value).isWritable

def Key.quoted : Key → String
  | .text name => quotedText name
  | .int value => toString value

def Key.plain : Key → String
  | .text name => name
  | .int value => toString value

namespace Value

mutual

/-- Whether a value has a text: every number in it has. -/
def isWritable : Value → Bool
  | .number value => value.isWritable
  | .array _ items => areWritable items
  | .object entries => entriesWritable entries
  | _ => true

def areWritable : List Value → Bool
  | [] => true
  | item :: rest => item.isWritable && areWritable rest

def entriesWritable : List (Key × Value) → Bool
  | [] => true
  | (name, item) :: rest => name.isWritable && item.isWritable && entriesWritable rest

end

mutual

/-- A value as it stands inside another one. -/
def quoted : Value → String
  | .null => "None"
  | .bool value => if value then "True" else "False"
  | .number value => value.text
  | .text value => quotedText value
  | .bytes value => "b" ++ LiveSchema.quoted escapeByte (value.map fun byte => Char.ofNat byte.toNat)
  | .array fixed items =>
    let body := ", ".intercalate (quotedItems items)
    if fixed then "(" ++ body ++ (if items.length = 1 then ",)" else ")") else "[" ++ body ++ "]"
  | .object entries => "\x7b" ++ ", ".intercalate (quotedEntries entries) ++ "\x7d"

def quotedItems : List Value → List String
  | [] => []
  | item :: rest => item.quoted :: quotedItems rest

def quotedEntries : List (Key × Value) → List String
  | [] => []
  | (name, item) :: rest => (name.quoted ++ ": " ++ item.quoted) :: quotedEntries rest

end

/-- A value in a message: a text as it is, anything else as it is quoted. -/
def plain : Value → String
  | .text value => value
  | value => value.quoted

end Value
end LiveSchema
