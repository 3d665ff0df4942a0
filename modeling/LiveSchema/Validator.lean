import LiveSchema.Graph.Subschemas
import LiveSchema.Settings
import LiveSchema.Workspace

/-! Validators. A validator compiles the schema at its root, all nested schemas
with it if its settings say so, and validates values against it. -/

namespace LiveSchema

structure Validator where
  schema : Ref
  settings : Settings

namespace Validator

def make (graph : Graph) (schema : Ref) (settings : Settings) : Except Failure Validator :=
  if graph.isSchema schema then .ok ⟨schema, settings⟩ else .error (.defect .notSchema)

def mode (validator : Validator) : MultipleMode := validator.settings.mode

def checksFor (validator : Validator) (graph : Graph) (node : Ref) : Run Compiled :=
  Run.checksFor graph validator.mode node

def undo : List Ref → Run Unit
  | [] => return ()
  | node :: rest => do
    discard (Run.invalidate node)
    undo rest

/-- Compiles the nodes that are not cached yet. A defect undoes what was written
so far; the entries that were there before stay. -/
def compileNodes (validator : Validator) (graph : Graph) : (written : List Ref) → List Ref → Run Unit
  | _, [] => return ()
  | written, node :: rest => do
    match ← Run.cached? node with
    | some _ => compileNodes validator graph written rest
    | none =>
      match ← Run.attempt (Run.compileFresh graph validator.mode node) with
      | .ok compiled =>
        Run.store node compiled
        compileNodes validator graph (written ++ [node]) rest
      | .error failure =>
        if failure.isDefect then undo written
        throw failure

/-- Compiles what is reached from a node, or the node alone if nested schemas
are left until they are needed. -/
def compileFrom (validator : Validator) (graph : Graph) (root : Ref) : Run Unit :=
  validator.compileNodes graph []
    (if validator.settings.isEager then graph.preorder root else [root])

def compile (validator : Validator) (graph : Graph) : Run Compiled := do
  validator.compileFrom graph validator.schema
  Run.setCompiled true
  validator.checksFor graph validator.schema

/-- Forgets everything and compiles again. -/
def recompileAll (validator : Validator) (graph : Graph) : Run Compiled := do
  Run.clear
  Run.setCompiled false
  validator.compile graph

/-- Compiles one node again, and nested schemas that are not cached. -/
def recompile (validator : Validator) (graph : Graph) (node : Ref) : Run Compiled := do
  discard (Run.invalidate node)
  validator.compileFrom graph node
  validator.checksFor graph node

def validate (validator : Validator) (graph : Graph) (value : Value) : Run Unit := do
  unless (← get).compiled do discard (validator.compile graph)
  Run.validateAt graph (graph.budget value) validator.mode value validator.schema

def check (validator : Validator) (graph : Graph) (value : Value) : Run (Option Violation) :=
  Run.verdict (validator.validate graph value)

def isValid (validator : Validator) (graph : Graph) (value : Value) : Run Bool :=
  return (← validator.check graph value).isNone

end Validator
end LiveSchema
