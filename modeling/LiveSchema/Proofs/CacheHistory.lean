import Mathlib.Data.Set.Card
import LiveSchema.Proofs.EqualData
import LiveSchema.Proofs.Runs

/-! What a cache holds, told from the calls that were made on it. A node is cached from the call
that sets it while it is absent up to the call that removes it, whatever was set beside it, and
its list is the one that was set last. -/

namespace LiveSchema

open Run (start)

/-- A call on a cache. -/
inductive CacheCall where
  | set (node : Ref) (compiled : Compiled)
  | find (node : Ref)
  | contains (node : Ref)
  | invalidate (node : Ref)
  | clear
  | size
  | nodes

inductive CacheAnswer where
  | nothing
  | list (found : Option Compiled)
  | truth (value : Bool)
  | count (value : Nat)
  | nodes (refs : List Ref)

namespace CacheCall

def run : CacheCall → Run CacheAnswer
  | .set node compiled => do
    Run.store node compiled
    return .nothing
  | .find node => return .list (← Run.cached? node)
  | .contains node => return .truth ((← get).cache.contains node)
  | .invalidate node => return .truth (← Run.invalidate node)
  | .clear => do
    Run.clear
    return .nothing
  | .size => return .count (← get).cache.size
  | .nodes => return .nodes (← get).cache.nodes

def runAll (calls : List CacheCall) : Run (List CacheAnswer) := calls.mapM run

def Sets (node : Ref) : CacheCall → Prop
  | .set other _ => other = node
  | _ => False

def Removes (node : Ref) : CacheCall → Prop
  | .invalidate other => other = node
  | .clear => True
  | _ => False

/-- Some call of a history began something, and no later call ended it. -/
def Since (begins : List CacheCall → CacheCall → Prop) (ends : CacheCall → Prop) (history : List CacheCall) : Prop :=
  ∃ before call later, history = before ++ call :: later ∧ begins before call ∧ ∀ other ∈ later, ¬ ends other

/-- The list that was set last for a node, if nothing has removed the node since. -/
def LastSet (history : List CacheCall) (node : Ref) (compiled : Compiled) : Prop :=
  Since (fun _ call => call = .set node compiled) (fun call => call.Sets node ∨ call.Removes node) history

def Present (history : List CacheCall) (node : Ref) : Prop := ∃ compiled, LastSet history node compiled

/-- The call that first set a node since it was last absent stands at an index of the history. -/
def Entered (history : List CacheCall) (node : Ref) (index : Nat) : Prop :=
  Since (fun before call => call.Sets node ∧ ¬ Present before node ∧ before.length = index) (Removes node) history

def EnteredBefore (history : List CacheCall) (one other : Ref) : Prop :=
  ∃ first second, Entered history one first ∧ Entered history other second ∧ first < second

/-- The cached nodes, each once, in the order in which they were first set since they were last absent. -/
structure Listed (history : List CacheCall) (refs : List Ref) : Prop where
  members : ∀ node, node ∈ refs ↔ Present history node
  distinct : refs.Nodup
  ordered : refs.Pairwise (EnteredBefore history)

/-- What a call is answered with after a history. -/
inductive Answers (history : List CacheCall) : CacheCall → CacheAnswer → Prop where
  | set {node compiled} : Answers history (.set node compiled) .nothing
  | find {node found} (lists : ∀ compiled, found = some compiled ↔ LastSet history node compiled) :
      Answers history (.find node) (.list found)
  | contains {node found} (tells : found = true ↔ Present history node) :
      Answers history (.contains node) (.truth found)
  | invalidate {node found} (tells : found = true ↔ Present history node) :
      Answers history (.invalidate node) (.truth found)
  | clear : Answers history .clear .nothing
  | size {count : Nat} (counts : (count : ENat) = Set.encard {node | Present history node}) :
      Answers history .size (.count count)
  | nodes {refs} (listed : Listed history refs) : Answers history .nodes (.nodes refs)

variable {history : List CacheCall} {call : CacheCall} {node : Ref} {compiled : Compiled}

theorem since_nil {begins : List CacheCall → CacheCall → Prop} {ends : CacheCall → Prop} : ¬ Since begins ends [] := by
  rintro ⟨before, call, later, split, -⟩
  simp at split

theorem since_append {begins : List CacheCall → CacheCall → Prop} {ends : CacheCall → Prop} :
    Since begins ends (history ++ [call]) ↔ begins history call ∨ Since begins ends history ∧ ¬ ends call := by
  constructor
  · rintro ⟨before, begun, later, split, begins, lasts⟩
    rcases List.eq_nil_or_concat later with rfl | ⟨earlier, last, rfl⟩
    · obtain ⟨rfl, same⟩ := List.append_inj' split rfl
      cases same
      exact .inl begins
    · rw [List.concat_eq_append, ← List.cons_append, ← List.append_assoc] at split
      obtain ⟨rfl, same⟩ := List.append_inj' split rfl
      cases same
      exact .inr ⟨⟨before, begun, earlier, rfl, begins, fun other member => lasts other (by simp [member])⟩,
        lasts call (by simp)⟩
  · rintro (begins | ⟨⟨before, begun, later, rfl, begins, lasts⟩, stays⟩)
    · exact ⟨history, call, [], rfl, begins, by simp⟩
    · refine ⟨before, begun, later ++ [call], by simp, begins, fun other member => ?_⟩
      rcases List.mem_append.mp member with member | member
      · exact lasts other member
      · exact List.mem_singleton.mp member ▸ stays

theorem lastSet_append :
    LastSet (history ++ [call]) node compiled ↔
      call = .set node compiled ∨ LastSet history node compiled ∧ ¬ (call.Sets node ∨ call.Removes node) :=
  since_append

theorem present_append :
    Present (history ++ [call]) node ↔ call.Sets node ∨ Present history node ∧ ¬ call.Removes node := by
  simp only [Present, lastSet_append, exists_or, exists_and_right]
  cases call with
  | set other compiled =>
    by_cases same : other = node <;> simp [Sets, Removes, same]
  | _ => simp [Sets]

theorem entered_append {index : Nat} :
    Entered (history ++ [call]) node index ↔
      (call.Sets node ∧ ¬ Present history node ∧ history.length = index) ∨
        Entered history node index ∧ ¬ call.Removes node :=
  since_append

theorem Entered.lt_length {index : Nat} (entered : Entered history node index) : index < history.length := by
  obtain ⟨before, call, later, rfl, ⟨-, -, rfl⟩, -⟩ := entered
  simp

/-- A cached node was set while it was absent. -/
theorem Present.entered (present : Present history node) : ∃ index, Entered history node index := by
  induction history using List.reverseRecOn with
  | nil =>
    obtain ⟨compiled, since⟩ := present
    exact absurd since since_nil
  | append_singleton history call ih =>
    by_cases before : Present history node
    · by_cases removed : call.Removes node
      · rcases present_append.mp present with sets | ⟨-, stays⟩
        · cases call <;> simp_all [Sets, Removes]
        · exact absurd removed stays
      · obtain ⟨index, entered⟩ := ih before
        exact ⟨index, entered_append.mpr (.inr ⟨entered, removed⟩)⟩
    · rcases present_append.mp present with sets | ⟨earlier, -⟩
      · exact ⟨history.length, entered_append.mpr (.inl ⟨sets, before, rfl⟩)⟩
      · exact absurd earlier before

theorem EnteredBefore.append {one other : Ref} (entered : EnteredBefore history one other)
    (keepsOne : ¬ call.Removes one) (keepsOther : ¬ call.Removes other) :
    EnteredBefore (history ++ [call]) one other := by
  obtain ⟨first, second, enteredOne, enteredOther, precedes⟩ := entered
  exact ⟨first, second, entered_append.mpr (.inr ⟨enteredOne, keepsOne⟩),
    entered_append.mpr (.inr ⟨enteredOther, keepsOther⟩), precedes⟩

end CacheCall

open CacheCall

/-- A cache is what the calls made on it say. -/
structure Cache.Follows (cache : Cache) (history : List CacheCall) : Prop where
  lists : ∀ node compiled, cache.get? node = some compiled ↔ LastSet history node compiled
  distinct : cache.Distinct
  ordered : cache.nodes.Pairwise (EnteredBefore history)


namespace Cache.Follows

variable {cache : Cache} {history : List CacheCall} {call : CacheCall} {node : Ref} {compiled : Compiled}

theorem empty : Cache.empty.Follows [] where
  lists _ _ := ⟨fun found => (Option.some_ne_none _ found.symm).elim, fun since => (since_nil since).elim⟩
  distinct := distinct_empty
  ordered := List.Pairwise.nil

theorem contains_iff (follows : cache.Follows history) (node : Ref) :
    cache.contains node = true ↔ Present history node := by
  rw [Cache.contains_iff]
  exact exists_congr (follows.lists node)

theorem mem_nodes (follows : cache.Follows history) (node : Ref) : node ∈ cache.nodes ↔ Present history node :=
  cache.mem_nodes_iff.trans (follows.contains_iff node)

theorem listed (follows : cache.Follows history) : Listed history cache.nodes :=
  ⟨follows.mem_nodes, follows.distinct, follows.ordered⟩

theorem mem_entries (follows : cache.Follows history) :
    (node, compiled) ∈ cache.entries ↔ LastSet history node compiled := by
  rw [← follows.lists, get?_eq]
  exact ⟨Table.get?_of_mem follows.distinct, Table.mem_of_get?⟩

/-- The table holds what was set last, filed under the identity of its node. -/
theorem mem_slots (follows : cache.Follows history) {identity : Nat} :
    (identity, node, compiled) ∈ cache.slots ↔ identity = node.identity ∧ LastSet history node compiled := by
  rw [Cache.mem_slots_iff, follows.mem_entries]

theorem size_eq (follows : cache.Follows history) : (cache.size : ENat) = Set.encard {node | Present history node} := by
  have nodes : {node | Present history node} = {node | node ∈ cache.nodes} :=
    Set.ext fun node => (follows.mem_nodes node).symm
  have once : cache.nodes.toFinset.card = cache.size := by
    rw [List.toFinset_card_of_nodup follows.distinct]
    rw [Cache.size_eq]
    exact List.length_map ..
  rw [nodes, ← List.coe_toFinset, Set.encard_coe_eq_coe_finsetCard, once]

/-- A call that neither sets nor removes a node leaves the cache as it is. -/
theorem idle (follows : cache.Follows history) (sets : ∀ node, ¬ call.Sets node) (removes : ∀ node, ¬ call.Removes node) :
    cache.Follows (history ++ [call]) where
  lists node compiled := by
    have other : call ≠ .set node compiled := fun same => sets node (same ▸ rfl)
    simp [lastSet_append, follows.lists, other, sets, removes]
  distinct := follows.distinct
  ordered := follows.ordered.imp fun entered => entered.append (removes _) (removes _)

theorem nodes_set (follows : cache.Follows history) (node : Ref) (compiled : Compiled) [Decidable (Present history node)] :
    (cache.set node compiled).nodes = if Present history node then cache.nodes else cache.nodes ++ [node] := by
  rw [nodes, entries_set, Table.keys_set]
  exact if_congr (follows.mem_nodes node) rfl rfl

theorem set (follows : cache.Follows history) (node : Ref) (compiled : Compiled) :
    (cache.set node compiled).Follows (history ++ [.set node compiled]) where
  lists other list := by
    rw [Cache.get?_set, lastSet_append]
    by_cases same : node = other
    · simp [same, Sets]
    · simp [same, Sets, Removes, follows.lists]
  distinct := follows.distinct.set node compiled
  ordered := by
    classical
    have kept : cache.nodes.Pairwise (EnteredBefore (history ++ [.set node compiled])) :=
      follows.ordered.imp fun entered => entered.append (by simp [Removes]) (by simp [Removes])
    rw [follows.nodes_set]
    split
    · exact kept
    next absent =>
      -- every other node was entered at an index of the old history, and the new one after it
      refine List.pairwise_append.mpr ⟨kept, List.pairwise_singleton _ _, fun one member other singleton => ?_⟩
      obtain rfl := List.mem_singleton.mp singleton
      obtain ⟨first, entered⟩ := ((follows.mem_nodes one).mp member).entered
      exact ⟨first, history.length, entered_append.mpr (.inr ⟨entered, by simp [Removes]⟩),
        entered_append.mpr (.inl ⟨rfl, absent, rfl⟩), entered.lt_length⟩

theorem erase (follows : cache.Follows history) (node : Ref) :
    (cache.erase node).Follows (history ++ [.invalidate node]) where
  lists other list := by
    rw [get?_erase follows.distinct, lastSet_append]
    by_cases same : node = other
    · simp [same, Removes]
    · simp [same, Sets, Removes, follows.lists]
  distinct := follows.distinct.erase node
  ordered := by
    have others : ∀ other ∈ (cache.erase node).nodes, node ≠ other := by
      intro other member same
      obtain ⟨list, found⟩ := ((cache.erase node).contains_iff other).mp ((cache.erase node).mem_nodes_iff.mp member)
      rw [get?_erase follows.distinct, if_pos same] at found
      cases found
    refine (follows.ordered.sublist (cache.nodes_erase_sublist node)).imp_of_mem ?_
    exact fun memberOne memberOther entered => entered.append (others _ memberOne) (others _ memberOther)

/-- Dropping the entry of a node that has none changes nothing. -/
theorem invalidate_absent (follows : cache.Follows history) (absent : ¬ Present history node) :
    cache.Follows (history ++ [.invalidate node]) where
  lists other list := by
    have lasting : LastSet history other list → node ≠ other := fun since same => absent ⟨list, same ▸ since⟩
    simpa [lastSet_append, follows.lists, Sets, Removes] using lasting
  distinct := follows.distinct
  ordered := by
    refine follows.ordered.imp_of_mem fun {one other} memberOne memberOther entered => ?_
    exact entered.append (fun same => absent (same ▸ (follows.mem_nodes one).mp memberOne))
      (fun same => absent (same ▸ (follows.mem_nodes other).mp memberOther))

theorem clear : Cache.empty.Follows (history ++ [.clear]) where
  lists _ _ := by
    simp [lastSet_append, Removes, Cache.empty, Cache.get?, Table.get?]
  distinct := distinct_empty
  ordered := List.Pairwise.nil

end Cache.Follows

namespace CacheCall

variable {history : List CacheCall} {space : Workspace}

theorem run_follows (call : CacheCall) (follows : space.cache.Follows history) :
    ∃ answer after, start call.run space = (.ok answer, after) ∧ Answers history call answer ∧
      after.cache.Follows (history ++ [call]) := by
  cases call with
  | set node compiled => exact ⟨.nothing, { space with cache := space.cache.set node compiled }, rfl, .set, follows.set node compiled⟩
  | find node =>
    exact ⟨_, space, rfl, .find (follows.lists node), follows.idle (fun _ => id) fun _ => id⟩
  | contains node =>
    exact ⟨_, space, rfl, .contains (follows.contains_iff node), follows.idle (fun _ => id) fun _ => id⟩
  | invalidate node =>
    simp only [run, Run.start_bind, Run.start_invalidate]
    by_cases found : space.cache.contains node = true
    · simp only [found, if_true]
      exact ⟨_, _, rfl, .invalidate (iff_of_true rfl ((follows.contains_iff node).mp found)), follows.erase node⟩
    · simp only [found]
      have absent : ¬ Present history node := fun present => found ((follows.contains_iff node).mpr present)
      exact ⟨_, _, rfl, .invalidate (iff_of_false Bool.false_ne_true absent), follows.invalidate_absent absent⟩
  | clear => exact ⟨.nothing, { space with cache := .empty }, rfl, .clear, Cache.Follows.clear⟩
  | size => exact ⟨_, space, rfl, .size follows.size_eq, follows.idle (fun _ => id) fun _ => id⟩
  | nodes => exact ⟨_, space, rfl, .nodes follows.listed, follows.idle (fun _ => id) fun _ => id⟩

theorem runAll_follows (calls : List CacheCall) (follows : space.cache.Follows history) :
    ∃ answers after, start (runAll calls) space = (.ok answers, after) ∧ answers.length = calls.length ∧
      (∀ index call, calls[index]? = some call →
        ∃ answer, answers[index]? = some answer ∧ Answers (history ++ calls.take index) call answer) ∧
      after.cache.Follows (history ++ calls) := by
  induction calls generalizing history space with
  | nil => exact ⟨[], space, rfl, rfl, by simp, by simpa using follows⟩
  | cons call rest ih =>
    obtain ⟨answer, middle, first, answered, followed⟩ := call.run_follows follows
    obtain ⟨answers, after, runs, length, each, ended⟩ := ih followed
    refine ⟨answer :: answers, after, ?_, by simp [length], ?_, by simpa using ended⟩
    · rw [runAll, List.mapM_cons, Run.start_bind_ok first]
      exact Run.start_bind_ok runs
    · intro index later found
      cases index with
      | zero =>
        cases found
        exact ⟨answer, rfl, by simpa using answered⟩
      | succ index =>
        obtain ⟨reply, replied, right⟩ := each index later (by simpa using found)
        exact ⟨reply, by simpa using replied, by simpa using right⟩

end CacheCall

open Classical in
/-- Calls on a new cache always succeed, and each is answered as the calls before it tell. In the end
an entry is filed under an identity if and only if this is the identity of the node kept with it and
its list is the one that was set last for this very node, not for another that looks the same. There
is one entry under an identity, so one that is found always belongs to the node that was asked for.
The nodes are listed in the order in which they were entered. Setting a cached node keeps its place,
setting another one puts it last, and an invalidation takes out one entry and nothing else. -/
theorem cache_follows_history (calls : List CacheCall) (space : Workspace) :
    ∃ answers after, start (runAll calls) { space with cache := .empty } = (.ok answers, after) ∧
      answers.length = calls.length ∧
      (∀ index call, calls[index]? = some call →
        ∃ answer, answers[index]? = some answer ∧ Answers (calls.take index) call answer) ∧
      (∀ identity node compiled, (identity, node, compiled) ∈ after.cache.slots ↔
        identity = node.identity ∧ LastSet calls node compiled) ∧
      after.cache.slots.keys.Nodup ∧
      (∀ node owner compiled, after.cache.slots.get? node.identity = some (owner, compiled) → owner = node) ∧
      (∀ node compiled, (node, compiled) ∈ after.cache.entries ↔ LastSet calls node compiled) ∧
      Listed calls after.cache.nodes ∧
      (∀ node compiled, (start (Run.store node compiled) after).2.cache.nodes =
        if Present calls node then after.cache.nodes else after.cache.nodes ++ [node]) ∧
      ∀ node, (start (Run.invalidate node) after).2.cache.entries =
        after.cache.entries.filter fun entry => entry.1 ≠ node := by
  have fresh : Cache.Follows { space with cache := .empty }.cache [] := .empty
  obtain ⟨answers, after, runs, length, each, follows⟩ := runAll_follows calls fresh
  rw [List.nil_append] at follows
  refine ⟨answers, after, runs, length, each, fun _ _ _ => follows.mem_slots, follows.distinct.slots,
    fun _ _ _ => Cache.owner_eq, fun _ _ => follows.mem_entries, follows.listed,
    fun node compiled => follows.nodes_set node compiled, fun node => ?_⟩
  rw [← Table.erase_eq_filter follows.distinct, Run.start_invalidate]
  split
  · exact Cache.entries_erase after.cache node
  next missing =>
    have absent : ¬ node ∈ after.cache.nodes := by rwa [follows.mem_nodes, ← follows.contains_iff]
    exact (Table.erase_absent (Table.get?_eq_none absent)).symm

end LiveSchema
