import LiveSchema.Value.Text

/-! The record of what a validator did. -/

namespace LiveSchema

inductive LogEntry where
  /-- A node got so many checks; its `type` keyword is told as it is quoted. -/
  | compiled (checks : Nat) (type : Value)
  | invalidated
  | ignoredSetting (name : Key)
  | creating (name : Value)

def LogEntry.text : LogEntry → String
  | .compiled checks type =>
    "DEBUG validator: Compiled " ++ toString checks ++ " check(s) for schema node of type "
      ++ type.quoted
  | .invalidated => "DEBUG cache: Invalidated compiled checks for node <id>"
  | .ignoredSetting name =>
    "WARNING settings: Ignoring unknown validator setting: " ++ name.plain
  | .creating name => "INFO factory: Creating schema validator: " ++ name.plain

end LiveSchema
