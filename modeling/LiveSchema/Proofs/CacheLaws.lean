import LiveSchema.Cache

/-! Look-up laws of tables, and of the cache that is one. Erasing brings no older
entry to light only because the keys of a table are distinct. -/

namespace LiveSchema

namespace Table

variable {κ α : Type} [DecidableEq κ]

@[simp]
theorem get?_set (table : Table κ α) (key other : κ) (item : α) :
    get? (set table key item) other = if key = other then some item else get? table other := by
  induction table with
  | nil => rfl
  | cons entry rest ih =>
    obtain ⟨name, old⟩ := entry
    by_cases same : name = key
    · subst same
      simp only [set, get?, ite_true]
      split <;> rfl
    · simp only [set, get?, same, ite_false, ih]
      by_cases found : name = other
      · simp [found, show ¬ key = other from fun equal => same (found.trans equal.symm)]
      · simp [found]

/-- What is found after an entry was set is that entry, or was there before. -/
theorem get?_set_eq_some {table : Table κ α} {key other : κ} {item found : α} :
    get? (set table key item) other = some found ↔ key = other ∧ item = found ∨ key ≠ other ∧ get? table other = some found := by
  by_cases same : key = other <;> simp [same]

@[simp]
theorem set_set (table : Table κ α) (key : κ) (old item : α) :
    set (set table key old) key item = set table key item := by
  induction table with
  | nil => simp [set]
  | cons entry rest ih =>
    obtain ⟨name, first⟩ := entry
    by_cases same : name = key
    · simp [set, same]
    · simp only [set, same, ite_false, ih]

theorem mem_of_get? {table : Table κ α} {key : κ} {item : α} (found : get? table key = some item) :
    (key, item) ∈ table := by
  induction table with
  | nil => cases found
  | cons entry rest ih =>
    obtain ⟨name, old⟩ := entry
    simp only [get?] at found
    split at found
    next same =>
      cases found
      simp [same]
    next => exact List.mem_cons_of_mem _ (ih found)

theorem mem_keys_of_get? {table : Table κ α} {key : κ} {item : α} (found : get? table key = some item) :
    key ∈ keys table :=
  List.mem_map.mpr ⟨(key, item), mem_of_get? found, rfl⟩

theorem get?_eq_none {table : Table κ α} {key : κ} (absent : key ∉ keys table) : get? table key = none := by
  cases found : get? table key with
  | none => rfl
  | some item => exact absurd (mem_keys_of_get? found) absent

theorem get?_append (table rest : Table κ α) (key : κ) :
    get? (table ++ rest) key = (get? table key).or (get? rest key) := by
  induction table with
  | nil => rfl
  | cons entry others ih =>
    obtain ⟨name, item⟩ := entry
    simp only [List.cons_append, get?]
    split
    · rfl
    · exact ih

theorem get?_erase {table : Table κ α} (distinct : (keys table).Nodup) (key other : κ) :
    get? (erase table key) other = if key = other then none else get? table other := by
  induction table with
  | nil => simp [erase, get?]
  | cons entry rest ih =>
    obtain ⟨name, old⟩ := entry
    simp only [keys, List.map_cons, List.nodup_cons] at distinct
    by_cases same : name = key
    · subst same
      simp only [erase, get?, ite_true]
      by_cases found : name = other
      · simpa [found] using get?_eq_none (found ▸ distinct.1)
      · simp [found]
    · simp only [erase, get?, same, ite_false, ih distinct.2]
      by_cases found : name = other
      · simp [found, show ¬ key = other from fun equal => same (found.trans equal.symm)]
      · simp [found]

theorem get?_of_mem {table : Table κ α} (distinct : table.keys.Nodup) {key : κ} {item : α} (member : (key, item) ∈ table) :
    table.get? key = some item := by
  induction table with
  | nil => cases member
  | cons entry rest ih =>
    obtain ⟨name, first⟩ := entry
    simp only [keys, List.map_cons, List.nodup_cons] at distinct
    rcases List.mem_cons.mp member with same | later
    · cases same
      exact if_pos rfl
    · rw [get?, if_neg, ih distinct.2 later]
      rintro rfl
      exact distinct.1 (List.mem_map_of_mem later)

theorem mem_keys_iff {table : Table κ α} {key : κ} : key ∈ table.keys ↔ (table.get? key).isSome = true := by
  induction table with
  | nil => simp [keys, get?]
  | cons entry rest ih =>
    obtain ⟨name, item⟩ := entry
    simp only [keys, List.map_cons, List.mem_cons, get?] at ih ⊢
    split
    next same => simp [same]
    next other => rw [← ih, or_iff_right (Ne.symm other)]

theorem set_absent {table : Table κ α} {key : κ} (absent : get? table key = none) (item : α) :
    set table key item = table ++ [(key, item)] := by
  induction table with
  | nil => rfl
  | cons entry rest ih =>
    obtain ⟨name, old⟩ := entry
    by_cases same : name = key
    · simp [get?, same] at absent
    · simp only [get?, same, ite_false] at absent
      simp only [set, same, ite_false, ih absent, List.cons_append]

theorem erase_absent {table : Table κ α} {key : κ} (absent : get? table key = none) : erase table key = table := by
  induction table with
  | nil => rfl
  | cons entry others ih =>
    obtain ⟨name, old⟩ := entry
    unfold get? at absent
    split at absent
    · cases absent
    next other => rw [erase, if_neg other, ih absent]

/-- An entry behind a table that has none of its key is the one that is erased. -/
theorem erase_append {table rest : Table κ α} {key : κ} (absent : get? table key = none) (item : α) :
    erase (table ++ (key, item) :: rest) key = table ++ rest := by
  induction table with
  | nil => exact if_pos rfl
  | cons entry others ih =>
    obtain ⟨name, old⟩ := entry
    unfold get? at absent
    split at absent
    · cases absent
    next other =>
      rw [List.cons_append, erase, if_neg other, ih absent]
      rfl

theorem erase_eq_filter {table : Table κ α} (distinct : table.keys.Nodup) (key : κ) :
    table.erase key = table.filter fun entry => entry.1 ≠ key := by
  induction table with
  | nil => rfl
  | cons entry rest ih =>
    obtain ⟨name, item⟩ := entry
    simp only [keys, List.map_cons, List.nodup_cons] at distinct
    by_cases same : name = key
    · subst same
      have others : ∀ entry ∈ rest, entry.1 ≠ name := fun entry member same =>
        distinct.1 (List.mem_map.mpr ⟨entry, member, same⟩)
      simpa [erase, eq_comm (a := rest)] using others
    · simpa [erase, same] using ih distinct.2

theorem keys_set (table : Table κ α) (key : κ) (item : α) :
    keys (set table key item) = if key ∈ keys table then keys table else keys table ++ [key] := by
  induction table with
  | nil => rfl
  | cons entry rest ih =>
    obtain ⟨name, old⟩ := entry
    simp only [keys] at ih
    by_cases same : name = key
    · simp [set, keys, same]
    · simp only [set, keys, same, ite_false, List.map_cons, ih]
      by_cases member : key ∈ rest.map Prod.fst
      · simp [member]
      · simp [member, show ¬ key = name from fun equal => same equal.symm]

theorem nodup_set {table : Table κ α} (distinct : (keys table).Nodup) (key : κ) (item : α) :
    (keys (set table key item)).Nodup := by
  rw [keys_set]
  split
  · exact distinct
  next absent =>
    refine List.nodup_append.mpr ⟨distinct, by simp, ?_⟩
    intro name member other singleton same
    exact absent (List.mem_singleton.mp singleton ▸ same ▸ member)

theorem keys_erase_sublist (table : Table κ α) (key : κ) : (keys (erase table key)).Sublist (keys table) :=
  (erase_sublist table key).map Prod.fst

theorem nodup_erase {table : Table κ α} (distinct : (keys table).Nodup) (key : κ) :
    (keys (erase table key)).Nodup :=
  distinct.sublist (keys_erase_sublist table key)

end Table

theorem Ref.identity_injective {node other : Ref} (same : node.identity = other.identity) : node = other := by
  fun_cases identity node <;> fun_cases identity other <;> grind [identity]

namespace Cache

/-- Entries as they are filed under the identities of their nodes. -/
def file (entries : Table Ref Compiled) : Table Nat (Ref × Compiled) := entries.map fun entry => (entry.1.identity, entry)

section File

variable {entries : Table Ref Compiled} (node : Ref) (compiled : Compiled)

theorem file_cons (owner : Ref) : file ((owner, compiled) :: entries) = (owner.identity, owner, compiled) :: file entries := rfl

theorem get?_file : (file entries).get? node.identity = (entries.get? node).map (node, ·) := by
  induction entries with
  | nil => rfl
  | cons entry rest ih =>
    obtain ⟨owner, list⟩ := entry
    by_cases same : owner = node
    · simp [file_cons, Table.get?, same]
    · simp [file_cons, Table.get?, same, mt Ref.identity_injective same, ih]

theorem set_file : (file entries).set node.identity (node, compiled) = file (entries.set node compiled) := by
  induction entries with
  | nil => rfl
  | cons entry rest ih =>
    obtain ⟨owner, list⟩ := entry
    by_cases same : owner = node
    · simp [file_cons, Table.set, same]
    · simp [file_cons, Table.set, same, mt Ref.identity_injective same, ih]

theorem erase_file : (file entries).erase node.identity = file (entries.erase node) := by
  induction entries with
  | nil => rfl
  | cons entry rest ih =>
    obtain ⟨owner, list⟩ := entry
    by_cases same : owner = node
    · simp [file_cons, Table.erase, same]
    · simp [file_cons, Table.erase, same, mt Ref.identity_injective same, ih]

end File

section

variable (cache : Cache) (node other : Ref) (compiled : Compiled)

/-- What is filed under an identity is an entry with its node. -/
theorem slots_eq : cache.slots = file cache.entries := by
  have kept : ∀ slot ∈ cache.slots, (slot.2.1.identity, slot.2) = slot :=
    fun slot member => Prod.ext (cache.filed slot member).symm rfl
  rw [file, entries, List.map_map]
  exact (List.map_congr_left kept).trans (List.map_id' _) |>.symm

theorem entries_of_file {slots : Table Nat (Ref × Compiled)} (filed : slots.Filed) {entries : Table Ref Compiled}
    (same : slots = file entries) : (⟨slots, filed⟩ : Cache).entries = entries := by
  subst same
  exact List.map_map.trans (List.map_id' entries)

theorem ext_entries {one two : Cache} (same : one.entries = two.entries) : one = two := by
  have slots : one.slots = two.slots := by rw [slots_eq, slots_eq, same]
  cases one
  cases two
  cases slots
  rfl

/-- The entry found under an identity always belongs to the node that was asked for. -/
theorem get?_eq : cache.get? node = cache.entries.get? node := by
  rw [get?, slots_eq, get?_file]
  cases cache.entries.get? node with
  | none => rfl
  | some list => exact if_pos rfl

@[simp]
theorem entries_set : (cache.set node compiled).entries = cache.entries.set node compiled :=
  entries_of_file _ (by rw [slots_eq, set_file])

@[simp]
theorem entries_erase : (cache.erase node).entries = cache.entries.erase node :=
  entries_of_file _ (by rw [slots_eq, erase_file])

theorem size_eq : cache.size = cache.entries.length := (List.length_map ..).symm

@[simp]
theorem get?_set : (cache.set node compiled).get? other = if node = other then some compiled else cache.get? other := by
  rw [get?_eq, entries_set, Table.get?_set, get?_eq]

end

def Distinct (cache : Cache) : Prop := cache.nodes.Nodup

theorem distinct_empty : empty.Distinct := List.nodup_nil

variable {cache : Cache} {node : Ref} {compiled : Compiled}

theorem get?_erase (distinct : cache.Distinct) (node other : Ref) :
    (cache.erase node).get? other = if node = other then none else cache.get? other := by
  rw [get?_eq, entries_erase, Table.get?_erase distinct, get?_eq]

/-- Erasing brings no entry to light. -/
theorem get?_of_erase (distinct : cache.Distinct) {other : Ref} (found : (cache.erase other).get? node = some compiled) :
    cache.get? node = some compiled := by
  rw [get?_erase distinct] at found
  split at found
  · cases found
  · exact found

theorem Distinct.set (distinct : cache.Distinct) (node : Ref) (compiled : Compiled) : (cache.set node compiled).Distinct := by
  rw [Distinct, nodes, entries_set]
  exact Table.nodup_set distinct node compiled

theorem Distinct.erase (distinct : cache.Distinct) (node : Ref) : (cache.erase node).Distinct := by
  rw [Distinct, nodes, entries_erase]
  exact Table.nodup_erase distinct node

theorem contains_iff (cache : Cache) (node : Ref) : cache.contains node = true ↔ ∃ compiled, cache.get? node = some compiled :=
  Option.isSome_iff_exists

theorem nodes_erase_sublist (cache : Cache) (node : Ref) : (cache.erase node).nodes.Sublist cache.nodes := by
  rw [nodes, entries_erase]
  exact Table.keys_erase_sublist cache.entries node

theorem mem_slots_iff {identity : Nat} :
    (identity, node, compiled) ∈ cache.slots ↔ identity = node.identity ∧ (node, compiled) ∈ cache.entries := by
  constructor
  · exact fun member => ⟨cache.filed _ member, List.mem_map_of_mem member⟩
  · rintro ⟨rfl, member⟩
    obtain ⟨⟨identity, entry⟩, found, rfl⟩ := List.mem_map.mp member
    exact cache.filed _ found ▸ found

/-- No other node has an entry under the identity of this one. -/
theorem owner_eq {owner : Ref} (found : cache.slots.get? node.identity = some (owner, compiled)) : owner = node :=
  Ref.identity_injective (cache.filed _ (Table.mem_of_get? found)).symm

theorem Distinct.slots (distinct : cache.Distinct) : cache.slots.keys.Nodup := by
  have keys : cache.slots.keys = cache.nodes.map Ref.identity := by
    rw [slots_eq, file, nodes, Table.keys, Table.keys, List.map_map, List.map_map]
    rfl
  rw [keys]
  exact List.Pairwise.map _ (fun _ _ apart same => apart (Ref.identity_injective same)) distinct

theorem mem_nodes_iff (cache : Cache) {node : Ref} : node ∈ cache.nodes ↔ cache.contains node = true := by
  rw [contains, get?_eq]
  exact Table.mem_keys_iff

/-- The entry of a node that had none is put behind the others. -/
theorem entries_set_absent (absent : cache.get? node = none) (compiled : Compiled) :
    (cache.set node compiled).entries = cache.entries ++ [(node, compiled)] := by
  rw [entries_set, Table.set_absent ((get?_eq cache node).symm.trans absent)]

theorem erase_absent (absent : cache.get? node = none) : cache.erase node = cache :=
  ext_entries ((entries_erase cache node).trans (Table.erase_absent ((get?_eq cache node).symm.trans absent)))

theorem mem_entries_of_get? (found : cache.get? node = some compiled) :
    (node, compiled) ∈ cache.entries :=
  Table.mem_of_get? ((get?_eq cache node).symm.trans found)

theorem mem_nodes_of_get? (found : cache.get? node = some compiled) : node ∈ cache.nodes :=
  Table.mem_keys_of_get? ((get?_eq cache node).symm.trans found)

end Cache
end LiveSchema
