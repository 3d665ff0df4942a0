import LiveSchema.Graph
import LiveSchema.Value.Canon

/-! A check as a program: data that asks for what it needs. It may ask for the
verdict of a sub-schema and for what it remembered about an `enum` array. A
violation of a sub-schema comes back as an answer; any other failure ends the
whole run, so no program can hide one. -/

namespace LiveSchema

/-- The array an `enum` check last looked at, and the members it found there. -/
structure Memo where
  source : Ref
  allowed : List Canon

inductive Program (α : Type) where
  | done (result : α)
  | fail (failure : Failure)
  | judge (value : Value) (node : Ref) (next : Option Violation → Program α)
  /-- Asks for the checks of a node without running them. -/
  | prepare (node : Ref) (next : Program α)
  | recollect (next : Option Memo → Program α)
  | remember (memo : Memo) (next : Program α)

namespace Program

def bind : Program α → (α → Program β) → Program β
  | .done result, rest => rest result
  | .fail failure, _ => .fail failure
  | .judge value node next, rest => .judge value node fun verdict => bind (next verdict) rest
  | .prepare node next, rest => .prepare node (bind next rest)
  | .recollect next, rest => .recollect fun memo => bind (next memo) rest
  | .remember memo next, rest => .remember memo (bind next rest)

instance : Monad Program where
  pure := .done
  bind := bind

def ofExcept : Except Failure α → Program α
  | .ok result => .done result
  | .error failure => .fail failure

def live : Except Fault α → Program α
  | .ok result => .done result
  | .error fault => .fail (.fault fault)

def violate (violation : Violation) : Program α := .fail (.violation violation)

def verdict (value : Value) (node : Ref) : Program (Option Violation) := .judge value node .done

/-- Passes on the violation of a sub-schema. -/
def descend (value : Value) (node : Ref) : Program Unit :=
  .judge value node fun
    | none => .done ()
    | some violation => violate violation

/-- The verdict of a member; one that is no node is no schema either. -/
def memberVerdict (value : Value) : Member → Program (Option Violation)
  | .node node => verdict value node
  | .loose _ => .fail (.defect .notSchema)

end Program
end LiveSchema
