import LiveSchema.Check

/-! The cache of compiled nodes. Entries are filed under the identity of their
node, so equal nodes at different places have entries of their own. -/

namespace LiveSchema

/-- The number by which a node is told from all others. -/
def Ref.identity : Ref → Nat
  | .null => 0
  | .bool false => 1
  | .bool true => 2
  | .int (.ofNat value) => 4 * value + 3
  | .int (.negSucc value) => 4 * value + 5
  | .node index => 2 * index + 4

/-- The checks of a node, as a list with an identity. Lists that were copied
from one another share, under their `origin`, what their checks remember. The
checks keep to the mode they were compiled in. -/
structure Compiled where
  identity : Nat
  origin : Nat
  mode : MultipleMode
  checks : List Check

/-- Every entry is filed under the identity of the node it is kept with. -/
def Table.Filed (slots : Table Nat (Ref × Compiled)) : Prop := ∀ slot ∈ slots, slot.1 = slot.2.1.identity

theorem Table.Filed.set {slots : Table Nat (Ref × Compiled)} (filed : Filed slots) (node : Ref) (compiled : Compiled) :
    Filed (slots.set node.identity (node, compiled)) := by
  intro slot member
  rcases Table.mem_set member with rfl | old
  · rfl
  · exact filed slot old

theorem Table.Filed.erase {slots : Table Nat (Ref × Compiled)} (filed : Filed slots) (identity : Nat) :
    Filed (slots.erase identity) :=
  fun slot member => filed slot (Table.mem_of_erase member)

/-- An entry keeps its node with the checks, and is filed under the identity of the node. -/
structure Cache where
  slots : Table Nat (Ref × Compiled)
  filed : slots.Filed

namespace Cache

def empty : Cache := ⟨[], List.forall_mem_nil _⟩

/-- The list of a node. An entry found under its identity that belongs to another node
does not count. -/
def get? (cache : Cache) (node : Ref) : Option Compiled :=
  match cache.slots.get? node.identity with
  | some (owner, compiled) => if owner = node then some compiled else none
  | none => none

def contains (cache : Cache) (node : Ref) : Bool := (cache.get? node).isSome

/-- An entry that is set again keeps its place. -/
def set (cache : Cache) (node : Ref) (compiled : Compiled) : Cache :=
  ⟨cache.slots.set node.identity (node, compiled), cache.filed.set node compiled⟩

def erase (cache : Cache) (node : Ref) : Cache :=
  ⟨cache.slots.erase node.identity, cache.filed.erase node.identity⟩

def size (cache : Cache) : Nat := cache.slots.length

/-- The cached nodes with their lists, in the order in which they were first set. -/
def entries (cache : Cache) : Table Ref Compiled := cache.slots.map Prod.snd

def nodes (cache : Cache) : List Ref := cache.entries.keys

end Cache
end LiveSchema
