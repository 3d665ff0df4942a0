/-! Tables in order of insertion. An entry that is set again keeps its place; one
that was erased and is set again goes to the end. -/

namespace LiveSchema

abbrev Table (κ α : Type) := List (κ × α)

namespace Table

variable {κ α : Type} [DecidableEq κ]

def get? (table : Table κ α) (key : κ) : Option α :=
  match table with
  | [] => none
  | (name, item) :: rest => if name = key then some item else get? rest key

def has (table : Table κ α) (key : κ) : Bool := (get? table key).isSome

def set (table : Table κ α) (key : κ) (item : α) : Table κ α :=
  match table with
  | [] => [(key, item)]
  | (name, old) :: rest =>
    if name = key then (name, item) :: rest else (name, old) :: set rest key item

def erase (table : Table κ α) (key : κ) : Table κ α :=
  match table with
  | [] => []
  | (name, item) :: rest => if name = key then rest else (name, item) :: erase rest key

def keys (table : Table κ α) : List κ := table.map Prod.fst

theorem mem_set {table : Table κ α} {key : κ} {item : α} {entry : κ × α} (member : entry ∈ set table key item) :
    entry = (key, item) ∨ entry ∈ table := by
  fun_induction set table key item <;> grind

theorem erase_sublist (table : Table κ α) (key : κ) : (erase table key).Sublist table := by
  fun_induction erase table key with
  | case1 => exact .slnil
  | case2 => exact List.sublist_cons_self _ _
  | case3 name item rest other ih => exact ih.cons_cons _

theorem mem_of_erase {table : Table κ α} {key : κ} {entry : κ × α} (member : entry ∈ erase table key) : entry ∈ table :=
  (erase_sublist table key).subset member

end Table
end LiveSchema
