import LiveSchema.Cache
import LiveSchema.Log
import LiveSchema.Node

/-! What a validator works on: its cache, what the checks remember, and the log.
A run changes them even when it fails. -/

namespace LiveSchema

structure Workspace where
  cache : Cache
  /-- What `enum` checks remember, filed under the origin of their list. -/
  memos : Table Nat Memo
  fresh : Nat
  compiled : Bool
  log : List LogEntry

def Workspace.empty : Workspace := ⟨.empty, [], 0, false, []⟩

abbrev Run := ExceptT Failure (StateM Workspace)

namespace Run

def record (entry : LogEntry) : Run Unit :=
  modify fun space => { space with log := space.log ++ [entry] }

def attempt (step : Run α) : Run (Except Failure α) := fun space =>
  let (result, space) := StateT.run (ExceptT.run step) space
  (.ok result, space)

/-- Whether a step finds a violation. Any other failure of it ends this one too. -/
def verdict (step : Run Unit) : Run (Option Violation) := do
  match ← attempt step with
  | .ok () => return none
  | .error (.violation violation) => return some violation
  | .error failure => throw failure

def start (step : Run α) (space : Workspace) : Except Failure α × Workspace :=
  StateT.run (ExceptT.run step) space

def cached? (node : Ref) : Run (Option Compiled) := return (← get).cache.get? node

def store (node : Ref) (compiled : Compiled) : Run Unit :=
  modify fun space => { space with cache := space.cache.set node compiled }

/-- Drops the entry of a node and tells whether there was one. -/
def invalidate (node : Ref) : Run Bool := do
  if (← get).cache.contains node then
    modify fun space => { space with cache := space.cache.erase node }
    record .invalidated
    return true
  else
    return false

def clear : Run Unit := modify fun space => { space with cache := .empty }

def setCompiled (compiled : Bool) : Run Unit := modify fun space => { space with compiled }

/-- A list of checks with an identity of its own. -/
def newList (mode : MultipleMode) (checks : List Check) : Run Compiled := do
  let identity := (← get).fresh
  modify fun space => { space with fresh := identity + 1 }
  return ⟨identity, identity, mode, checks⟩

def compileFresh (graph : Graph) (mode : MultipleMode) (node : Ref) : Run Compiled := do
  match compileNode graph node with
  | .error failure => throw failure
  | .ok checks =>
    if (graph.shape node).isObject then
      record (.compiled checks.length (typeToldOf graph node))
    newList mode checks

/-- The checks of a node, which is compiled and cached if it was not before. -/
def checksFor (graph : Graph) (mode : MultipleMode) (node : Ref) : Run Compiled := do
  match ← cached? node with
  | some compiled => return compiled
  | none =>
    let compiled ← compileFresh graph mode node
    store node compiled
    return compiled

end Run

/-- Performs a program: verdicts come from `judge`, and what is remembered is
filed under `origin`. -/
def Program.perform (origin : Nat) (judge : Value → Ref → Run Unit) (prepare : Ref → Run Unit) :
    Program α → Run α
  | .done result => return result
  | .fail failure => throw failure
  | .judge value node next => do
    perform origin judge prepare (next (← Run.verdict (judge value node)))
  | .prepare node next => do
    prepare node
    perform origin judge prepare next
  | .recollect next => do
    perform origin judge prepare (next ((← get).memos.get? origin))
  | .remember memo next => do
    modify fun space => { space with memos := space.memos.set origin memo }
    perform origin judge prepare next

namespace Run

/-- Validates a value at a node. Nested schemas that are not cached yet are
compiled in the mode of the list that asks for them. The fuel is the number of
schemas inside one another. -/
def validateAt (graph : Graph) : (fuel : Nat) → MultipleMode → Value → Ref → Run Unit
  | 0, _, _, _ => throw .endless
  | fuel + 1, mode, value, node => do
    let compiled ← checksFor graph mode node
    (judgeNode graph compiled.mode compiled.checks value node).perform compiled.origin
      (validateAt graph fuel compiled.mode)
      (fun node => discard (checksFor graph compiled.mode node))

end Run

/-- How many schemas can be inside one another while a value is validated: each
node once for every depth of the value. -/
def Graph.budget (graph : Graph) (value : Value) : Nat := (graph.size + 1) * (value.depth + 2)

/-- Applies a list of checks to a value at a node, within the budget of the value. -/
def Run.enforce (graph : Graph) (compiled : Compiled) (value : Value) (node : Ref) : Run Unit :=
  (judgeNode graph compiled.mode compiled.checks value node).perform compiled.origin
    (validateAt graph (graph.budget value) compiled.mode)
    (fun node => discard (checksFor graph compiled.mode node))

end LiveSchema
