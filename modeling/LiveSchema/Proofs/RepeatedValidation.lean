import LiveSchema.Graph.Edit
import LiveSchema.Proofs.TrackedCache

/-! Validations do not disturb each other. What one of them leaves behind continues
the workspace it began with: it files lists that compile to the same at any time,
and its `enum` checks take note of arrays they would read again. Only an array that
cannot be read is another matter, since a check takes note of it before it fails. -/

namespace LiveSchema

open Relation (ReflTransGen)
open Run (start)

namespace Workspace

variable {graph : Graph} {mode asked : MultipleMode} {space middle after : Workspace} {node : Ref} {list : Compiled}
  {memo : Memo} {array : Ref}

/-- What an `enum` check of a list works with. -/
def recalled (space : Workspace) (list : Compiled) (memo : Memo) : Memo :=
  (space.memos.get? list.origin).getD memo

/-- Lists of one mode, no two of which remember anything together. -/
structure Private (mode : MultipleMode) (space : Workspace) : Prop where
  distinct : space.cache.Distinct
  modes : ∀ node list, space.cache.get? node = some list → list.mode = mode
  numbered : ∀ node list, space.cache.get? node = some list → list.origin < space.fresh
  owned : ∀ node other list listed, space.cache.get? node = some list → space.cache.get? other = some listed →
    list.origin = listed.origin → node = other
  single : ∀ node list memo other, space.cache.get? node = some list → .enum memo ∈ list.checks →
    .enum other ∈ list.checks → memo = other
  noted : ∀ origin memo, space.memos.get? origin = some memo → origin < space.fresh

theorem private_empty (mode : MultipleMode) : Private mode empty where
  distinct := Cache.distinct_empty
  modes := fun _ _ cached => nomatch cached
  numbered := fun _ _ cached => nomatch cached
  owned := fun _ _ _ _ cached => nomatch cached
  single := fun _ _ _ _ cached => nomatch cached
  noted := fun _ _ found => nomatch found

private theorem enum_single {checks : List Check} {other : Memo} (compiles : compileNode graph node = .ok checks)
    (one : .enum memo ∈ checks) (two : .enum other ∈ checks) : memo = other := by
  obtain ⟨source, forms⟩ := memo
  obtain ⟨origin, members⟩ := other
  have first := compileNode_fits compiles _ one
  have second := compileNode_fits compiles _ two
  cases first.1.symm.trans second.1
  cases first.2.symm.trans second.2
  rfl

private theorem Private.file {checks : List Check} (alone : Private mode space) (uses : space.Uses mode asked)
    (compiles : compileNode graph node = .ok checks) : Private mode (space.filed graph asked node checks) := by
  refine ⟨alone.distinct.set node _, ?_, ?_, ?_, ?_, fun origin memo found => Nat.lt_succ_of_lt (alone.noted origin memo found)⟩
  · intro other list cached
    rcases cached_of_filed cached with ⟨_, rfl⟩ | old
    · rcases uses with same | ⟨_, _, cached, used⟩
      · exact same
      · exact used.symm.trans (alone.modes _ _ cached)
    · exact alone.modes other list old
  · intro other list cached
    rcases cached_of_filed cached with ⟨_, rfl⟩ | old
    · exact Nat.lt_succ_self _
    · exact Nat.lt_succ_of_lt (alone.numbered other list old)
  · intro one two list listed cached found same
    rcases cached_of_filed cached with ⟨rfl, rfl⟩ | old <;> rcases cached_of_filed found with ⟨rfl, rfl⟩ | earlier
    · rfl
    · exact absurd (alone.numbered two listed earlier) (Nat.not_lt.mpr (Nat.le_of_eq same))
    · exact absurd (alone.numbered one list old) (Nat.not_lt.mpr (Nat.le_of_eq same.symm))
    · exact alone.owned one two list listed old earlier same
  · intro other list memo again cached one two
    rcases cached_of_filed cached with ⟨rfl, rfl⟩ | old
    · exact enum_single compiles one two
    · exact alone.single other list memo again old one two

private theorem Private.fewer {cache : Cache} (alone : Private mode space) (distinct : cache.Distinct)
    (fewer : ∀ node list, cache.get? node = some list → space.cache.get? node = some list) :
    Private mode { space with cache } where
  distinct := distinct
  modes := fun node list cached => alone.modes node list (fewer node list cached)
  numbered := fun node list cached => alone.numbered node list (fewer node list cached)
  owned := fun node other list listed cached found =>
    alone.owned node other list listed (fewer node list cached) (fewer other listed found)
  single := fun node list memo other cached => alone.single node list memo other (fewer node list cached)
  noted := alone.noted

theorem Private.move (moves : Moves graph mode space after) (alone : Private mode space) : Private mode after := by
  cases moves with
  | clear => exact alone.fewer Cache.distinct_empty fun _ _ cached => nomatch cached
  | drop node => exact alone.fewer (alone.distinct.erase node) fun _ _ => Cache.get?_of_erase alone.distinct
  | grow grows =>
    cases grows with
    | file uses _ compiles => exact alone.file uses compiles
    | note => exact ⟨alone.distinct, alone.modes, alone.numbered, alone.owned, alone.single, alone.noted⟩
    | reread cached =>
      refine ⟨alone.distinct, alone.modes, alone.numbered, alone.owned, alone.single, ?_⟩
      intro origin memo found
      rcases Table.get?_set_eq_some.mp found with ⟨same, -⟩ | ⟨-, found⟩
      · exact same ▸ alone.numbered _ _ cached
      · exact alone.noted origin memo found

theorem Private.moves (moves : ReflTransGen (Moves graph mode) space after) (alone : Private mode space) :
    Private mode after :=
  kept_of_moves (fun _ _ => Private.move) moves alone

/-- A workspace that validations have made of another one. -/
structure Continues (graph : Graph) (mode : MultipleMode) (space after : Workspace) : Prop where
  keeps : ∀ node list, space.cache.get? node = some list → after.cache.get? node = some list
  adds : ∀ node list, after.cache.get? node = some list → space.cache.get? node = some list ∨
    compileNode graph node = .ok list.checks ∧ list.mode = mode ∧ space.fresh ≤ list.origin
  later : space.fresh ≤ after.fresh
  clean : ∀ origin, space.fresh ≤ origin → after.memos.get? origin = none
  recalls : ∀ node list memo array, space.cache.get? node = some list → .enum memo ∈ list.checks →
    graph.field? node "enum" = some array → after.recalled list memo = space.recalled list memo ∨
      (space.recalled list memo).source ≠ array ∧
        after.recalled list memo = Keyword.noted graph (space.recalled list memo) array

theorem Continues.refl (graph : Graph) (alone : Private mode space) : Continues graph mode space space where
  keeps := fun _ _ cached => cached
  adds := fun _ _ cached => .inl cached
  later := Nat.le_refl _
  clean := by
    intro origin new
    cases found : space.memos.get? origin with
    | none => rfl
    | some memo => exact absurd (alone.noted origin memo found) (Nat.not_lt.mpr new)
  recalls := fun _ _ _ _ _ _ _ => .inl rfl

private theorem Continues.file {checks : List Check} (alone : Private mode space)
    (continues : Continues graph mode space middle) (uses : middle.Uses mode asked)
    (missing : middle.cache.get? node = none) (compiles : compileNode graph node = .ok checks) :
    Continues graph mode space (middle.filed graph asked node checks) := by
  refine ⟨fun other list cached => ?_, fun other list cached => ?_, Nat.le_succ_of_le continues.later, continues.clean,
    continues.recalls⟩
  · exact Grows.keeps (.file uses missing compiles) (continues.keeps other list cached)
  · rcases cached_of_filed cached with ⟨rfl, rfl⟩ | old
    · refine .inr ⟨compiles, ?_, continues.later⟩
      rcases uses with same | ⟨other, list, cached, used⟩
      · exact same
      · rcases continues.adds other list cached with old | ⟨_, inMode, _⟩
        · exact used.symm.trans (alone.modes other list old)
        · exact used.symm.trans inMode
    · exact continues.adds other list old

/-- An old list takes note of an array once; a new one already knows the array in place. -/
private theorem Continues.reread (alone : Private mode space) (continues : Continues graph mode space middle)
    (cached : middle.cache.get? node = some list) (checked : .enum memo ∈ list.checks)
    (found : graph.field? node "enum" = some array) (other : (middle.recalled list memo).source ≠ array) :
    Continues graph mode space
      (middle.noting list.origin (Keyword.noted graph (middle.recalled list memo) array)) := by
  rcases continues.adds node list cached with old | ⟨compiles, _, new⟩
  · refine ⟨continues.keeps, continues.adds, continues.later, fun origin new => ?_, ?_⟩
    · rw [noting, Table.get?_set, if_neg]
      · exact continues.clean origin new
      · rintro rfl
        exact absurd (alone.numbered node list old) (Nat.not_lt.mpr new)
    · intro one listed again current cached_one checked_one found_one
      by_cases same : list.origin = listed.origin
      · cases alone.owned node one list listed old cached_one same
        cases old.symm.trans cached_one
        cases found.symm.trans found_one
        cases alone.single node list memo again old checked checked_one
        rcases continues.recalls node list memo array old checked found with unchanged | ⟨_, noted⟩
        · rw [unchanged] at other ⊢
          refine .inr ⟨other, ?_⟩
          rw [recalled, noting, Table.get?_set, if_pos rfl, Option.getD_some]
        · rw [noted, Keyword.noted_source] at other
          exact absurd rfl other
      · have untouched : (middle.noting list.origin (Keyword.noted graph (middle.recalled list memo) array)).recalled
            listed again = middle.recalled listed again := by
          rw [recalled, noting, Table.get?_set, if_neg same, recalled]
        rw [untouched]
        exact continues.recalls one listed again current cached_one checked_one found_one
  · have known : middle.recalled list memo = memo := by rw [recalled, continues.clean _ new, Option.getD_none]
    rw [known] at other
    exact absurd (Option.some.inj ((compileNode_fits compiles _ checked).1.symm.trans found)) other

theorem Continues.missing {failure : Failure} (continues : Continues graph mode space after)
    (missing : space.cache.get? node = none) (fails : compileNode graph node = .error failure) :
    after.cache.get? node = none := by
  cases cached : after.cache.get? node with
  | none => rfl
  | some list =>
    rcases continues.adds node list cached with old | ⟨compiles, _, _⟩
    · cases missing.symm.trans old
    · cases fails.symm.trans compiles

theorem Continues.grow (alone : Private mode space) (continues : Continues graph mode space middle)
    (grows : Grows graph mode middle after) : Continues graph mode space after := by
  cases grows with
  | file uses missing compiles => exact continues.file alone uses missing compiles
  | reread cached checked found other => exact continues.reread alone cached checked found other
  | note => exact ⟨continues.keeps, continues.adds, continues.later, continues.clean, continues.recalls⟩

theorem Continues.grows (alone : Private mode space) (continues : Continues graph mode space middle)
    (grows : ReflTransGen (Grows graph mode) middle after) : Continues graph mode space after := by
  induction grows with
  | refl => exact continues
  | tail _ last ih => exact ih.grow alone last

/-- The arrays in place can be read, as far as there are lists that look at them. -/
def Readable (graph : Graph) (space : Workspace) : Prop :=
  ∀ node list memo array, space.cache.get? node = some list → .enum memo ∈ list.checks →
    graph.field? node "enum" = some array → ∃ forms, Keyword.memberForms graph array = .ok forms

theorem Readable.continues (readable : space.Readable graph) (continues : Continues graph mode space after) :
    after.Readable graph := by
  intro node list memo array cached checked found
  rcases continues.adds node list cached with old | ⟨compiles, _, _⟩
  · exact readable node list memo array old checked found
  · have fits := compileNode_fits compiles _ checked
    cases fits.1.symm.trans found
    exact ⟨_, fits.2⟩

end Workspace

open Workspace (Continues Grows Moves Private)

/-- All workspaces with a property let a run end in one way. -/
def Run.Steady (kept : Workspace → Prop) (step : Run α) : Prop := ∃ outcome, Run.Ends kept step outcome

section Steady

variable {graph : Graph} {mode : MultipleMode} {space : Workspace} {node : Ref} {list : Compiled} {value : Value}
  {judge : Value → Ref → Run Unit} {prepare : Ref → Run Unit}
  {verdict : Value → Ref → Except Failure Unit} {prepared : Ref → Except Failure Unit}

/-- Having taken note of the array in place is no different from reading it now. -/
private theorem runEnum_steady {memo : Memo} (alone : Private mode space) (readable : space.Readable graph)
    (cached : space.cache.get? node = some list) (checked : .enum memo ∈ list.checks) (value : Value) :
    Run.Steady (Continues graph mode space)
      ((Keyword.runEnum graph value node memo).perform list.origin judge prepare) := by
  cases found : graph.field? node "enum" with
  | none =>
    refine ⟨(start ((Keyword.runEnum graph value node memo).perform list.origin judge prepare) space).1, ?_⟩
    intro after continues
    refine ⟨?_, by rwa [Keyword.start_runEnum_absent found]⟩
    cases required : graph.require node "enum" with
    | error fault => simp only [Keyword.runEnum, required]; rfl
    | ok part => cases (Graph.require_ok required).symm.trans found
  | some array =>
    obtain ⟨forms, read⟩ := readable node list memo array cached checked found
    by_cases same : (space.recalled list memo).source = array
    · refine ⟨Keyword.membership value (space.recalled list memo).allowed, ?_⟩
      intro after continues
      have unchanged : after.recalled list memo = space.recalled list memo :=
        (continues.recalls node list memo array cached checked found).resolve_right fun noted => noted.1 same
      rw [← unchanged] at same ⊢
      rw [Keyword.start_runEnum_same found same]
      exact ⟨rfl, continues⟩
    · refine ⟨Keyword.membership value forms, ?_⟩
      intro after continues
      rcases continues.recalls node list memo array cached checked found with unchanged | ⟨_, noted⟩
      · rw [← unchanged] at same
        rw [Keyword.start_runEnum_other found same, read]
        exact ⟨rfl, continues.grow alone (.reread (continues.keeps node list cached) checked found same)⟩
      · rw [Keyword.noted_eq read] at noted
        have noticed : (after.recalled list memo).source = array := by rw [noted]
        rw [Keyword.start_runEnum_same found noticed]
        exact ⟨congrArg (fun memo : Memo => Keyword.membership value memo.allowed) noted, continues⟩

private theorem Check.steady {check : Check} (alone : Private mode space) (readable : space.Readable graph)
    (judges : ∀ part schema, Run.Ends (Continues graph mode space) (judge part schema) (verdict part schema))
    (prepares : ∀ schema, Run.Ends (Continues graph mode space) (prepare schema) (prepared schema))
    (cached : space.cache.get? node = some list) (member : check ∈ list.checks) (value : Value) :
    Run.Steady (Continues graph mode space) ((check.run graph mode value node).perform list.origin judge prepare) := by
  cases kind : check.isEnum with
  | false =>
    exact ⟨_, Program.perform_ends (fun part schema _ => judges part schema) (fun schema _ => prepares schema)
      (Check.run_plain kind value)⟩
  | true =>
    cases check with
    | enum memo => exact runEnum_steady alone readable cached member value
    | null | types | const | object | isObject | number | isNumber | text | isText | array | isArray | isBoolean
    | allOf | anyOf | oneOf | not => cases kind

private theorem Check.runAll_steady {checks : List Check} (alone : Private mode space) (readable : space.Readable graph)
    (judges : ∀ part schema, Run.Ends (Continues graph mode space) (judge part schema) (verdict part schema))
    (prepares : ∀ schema, Run.Ends (Continues graph mode space) (prepare schema) (prepared schema))
    (cached : space.cache.get? node = some list) (members : ∀ check ∈ checks, check ∈ list.checks) (value : Value) :
    Run.Steady (Continues graph mode space)
      ((Check.runAll graph mode value node checks).perform list.origin judge prepare) := by
  induction checks with
  | nil => exact ⟨.ok (), fun after continues => ⟨rfl, continues⟩⟩
  | cons check rest ih =>
    obtain ⟨first, begins⟩ := check.steady alone readable judges prepares cached (members check (by simp)) value
    obtain ⟨last, goes⟩ := ih fun other later => members other (List.mem_cons_of_mem _ later)
    refine ⟨first >>= fun _ => last, ?_⟩
    intro after continues
    obtain ⟨same, still⟩ := begins after continues
    simp only [runAll]
    rw [Program.start_perform_bind, ← same]
    generalize start ((check.run graph mode value node).perform list.origin judge prepare) after = ended at still
    obtain ⟨failure | ⟨⟩, further⟩ := ended
    · exact ⟨rfl, still⟩
    · exact goes further still

private theorem checksFor_steady (alone : Private mode space) (node : Ref) :
    Run.Steady (Continues graph mode space) (discard (Run.checksFor graph mode node)) := by
  have kept : ∀ after, Continues graph mode space after →
      Continues graph mode space (start (Run.checksFor graph mode node) after).2 :=
    fun after continues => continues.grows alone (Run.checksFor_grows (.inl rfl) node)
  cases compiles : compileNode graph node with
  | ok checks =>
    refine ⟨.ok (), fun after continues => ?_⟩
    obtain ⟨list, found⟩ : ∃ list, (start (Run.checksFor graph mode node) after).1 = .ok list :=
      Run.start_checksFor_ok compiles
    rw [Run.start_discard, found]
    exact ⟨rfl, kept after continues⟩
  | error failure =>
    cases cached : space.cache.get? node with
    | some list =>
      refine ⟨.ok (), fun after continues => ?_⟩
      rw [Run.start_discard]
      refine ⟨?_, kept after continues⟩
      rw [Run.start_checksFor_hit (continues.keeps node list cached)]
      rfl
    | none =>
      refine ⟨.error failure, fun after continues => ?_⟩
      rw [Run.start_discard]
      refine ⟨?_, kept after continues⟩
      rw [Run.start_checksFor_fail (continues.missing cached compiles) compiles]
      rfl

/-- The checks of a node that had none are those it compiles to, whenever that is done. -/
private theorem judge_added {checks : List Check}
    (judges : ∀ part schema, Run.Ends (Continues graph mode space) (judge part schema) (verdict part schema))
    (prepares : ∀ schema, Run.Ends (Continues graph mode space) (prepare schema) (prepared schema))
    (compiles : compileNode graph node = .ok checks) (new : space.fresh ≤ list.origin) (value : Value) :
    Run.Ends (Continues graph mode space) ((judgeNode graph mode checks value node).perform list.origin judge prepare)
      ((judgeNode graph mode checks value node).evaluate verdict prepared) := by
  unfold judgeNode
  split
  · exact fun after continues => ⟨rfl, continues⟩
  · exact Check.runAll_ends (Check.agrees_fresh compiles fun after continues => continues.clean list.origin new)
      (fun part schema _ => judges part schema) fun schema _ => prepares schema

theorem validateAt_steady (alone : Private mode space) (readable : space.Readable graph) (fuel : Nat) (value : Value)
    (node : Ref) : Run.Steady (Continues graph mode space) (Run.validateAt graph fuel mode value node) := by
  induction fuel generalizing value node with
  | zero => exact ⟨.error .endless, fun after continues => ⟨rfl, continues⟩⟩
  | succ fuel ih =>
    choose verdict judges using ih
    have prepare : ∀ schema, Run.Steady (Continues graph mode space) (discard (Run.checksFor graph mode schema)) :=
      checksFor_steady alone
    choose prepared prepares using prepare
    cases cached : space.cache.get? node with
    | some list =>
      have inMode := alone.modes node list cached
      have steady : Run.Steady (Continues graph mode space) ((judgeNode graph mode list.checks value node).perform
          list.origin (Run.validateAt graph fuel mode) fun node => discard (Run.checksFor graph mode node)) := by
        unfold judgeNode
        split
        · exact ⟨.error (.violation .falseSchema), fun after continues => ⟨rfl, continues⟩⟩
        · exact Check.runAll_steady alone readable judges prepares cached (fun _ member => member) value
      obtain ⟨outcome, ends⟩ := steady
      refine ⟨outcome, fun after continues => ?_⟩
      rw [Run.validateAt, Run.start_bind_ok (Run.start_checksFor_hit (continues.keeps node list cached)), inMode]
      exact ends after continues
    | none =>
      cases compiles : compileNode graph node with
      | error failure =>
        refine ⟨.error failure, fun after continues => ?_⟩
        rw [Run.validateAt,
          Run.start_bind_error (Run.start_checksFor_fail (continues.missing cached compiles) compiles)]
        exact ⟨rfl, continues⟩
      | ok checks =>
        refine ⟨(judgeNode graph mode checks value node).evaluate verdict prepared, fun after continues => ?_⟩
        rw [Run.validateAt]
        cases now : after.cache.get? node with
        | none =>
          rw [Run.start_bind_ok (Run.start_checksFor_miss now compiles)]
          exact judge_added judges prepares compiles continues.later value _
            (continues.grow alone (.file (.inl rfl) now compiles))
        | some list =>
          rcases continues.adds node list now with old | ⟨again, inMode, new⟩
          · cases cached.symm.trans old
          · cases compiles.symm.trans again
            rw [Run.start_bind_ok (Run.start_checksFor_hit now), inMode]
            exact judge_added judges prepares again new value after continues

end Steady

namespace Validator

variable {validator : Validator} {graph : Graph} {space after other : Workspace} {node : Ref} {failure : Failure}
  {nodes written others : List Ref} {list : Compiled}

/-- Compilation passes a node that compiles, cached or not, and leaves all other nodes as they are. -/
private theorem start_compileNodes_pass (validator : Validator) {checks : List Check} (compiles : compileNode graph node = .ok checks)
    (written rest : List Ref) (space : Workspace) :
    ∃ listed after, start (validator.compileNodes graph written (node :: rest)) space =
        start (validator.compileNodes graph listed rest) after ∧
      ∀ other, other ≠ node → after.cache.get? other = space.cache.get? other := by
  cases cached : space.cache.get? node with
  | some list => exact ⟨written, space, start_compileNodes_hit cached, fun _ _ => rfl⟩
  | none =>
    refine ⟨_, _, start_compileNodes_miss cached compiles, fun other different => ?_⟩
    rw [Workspace.get?_filed, if_neg different.symm]

/-- How a compilation ends depends on which malformed nodes are cached, and on nothing else. -/
theorem compileNodes_alike (alike : ∀ node failure, compileNode graph node = .error failure →
      other.cache.get? node = space.cache.get? node) :
    (start (validator.compileNodes graph others nodes) other).1 =
      (start (validator.compileNodes graph written nodes) space).1 := by
  induction nodes generalizing space other written others with
  | nil => rfl
  | cons node rest ih =>
    cases compiles : compileNode graph node with
    | ok checks =>
      obtain ⟨_, one, same, keeps⟩ := start_compileNodes_pass validator compiles others rest other
      obtain ⟨_, two, equal, kept⟩ := start_compileNodes_pass validator compiles written rest space
      rw [same, equal]
      apply ih
      intro refused failure fails
      have different : refused ≠ node := by
        rintro rfl
        cases fails.symm.trans compiles
      rw [keeps refused different, kept refused different, alike refused failure fails]
    | error failure =>
      have same := alike node failure compiles
      cases cached : space.cache.get? node with
      | some list =>
        rw [start_compileNodes_hit cached, start_compileNodes_hit (same.trans cached)]
        exact ih alike
      | none => rw [start_compileNodes_fail cached compiles, start_compileNodes_fail (same.trans cached) compiles]

/-- Nothing has become of the malformed nodes, and the schema does not pass for compiled. -/
structure Spares (graph : Graph) (space after : Workspace) : Prop where
  flag : after.compiled = space.compiled
  malformed : ∀ node failure, compileNode graph node = .error failure → after.cache.get? node = space.cache.get? node

theorem Spares.refl : Spares graph space space := ⟨rfl, fun _ _ _ => rfl⟩

theorem Spares.trans {middle : Workspace} (first : Spares graph space middle) (second : Spares graph middle after) :
    Spares graph space after :=
  ⟨second.flag.trans first.flag, fun node failure fails =>
    (second.malformed node failure fails).trans (first.malformed node failure fails)⟩

private theorem Spares.filed {mode : MultipleMode} {checks : List Check} (compiles : compileNode graph node = .ok checks) :
    Spares graph space (space.filed graph mode node checks) := by
  refine ⟨rfl, fun refused failure fails => ?_⟩
  rw [Workspace.get?_filed, if_neg]
  rintro rfl
  cases fails.symm.trans compiles

private theorem undo_spares (alone : Private validator.mode space)
    (made : ∀ node ∈ written, ∃ checks, compileNode graph node = .ok checks) :
    Spares graph space (start (undo written) space).2 := by
  induction written generalizing space with
  | nil => exact .refl
  | cons node rest ih =>
    have later := fun other member => made other (List.mem_cons_of_mem node member)
    obtain ⟨checks, compiles⟩ := made node (by simp)
    rw [start_undo_cons, Workspace.dropping]
    split
    · have moves : ReflTransGen (Moves graph validator.mode) space
          { space with cache := space.cache.erase node, log := space.log ++ [.invalidated] } :=
        .tail (.single (.drop node)) (.grow (.note space.compiled _))
      have first : Spares graph space { space with cache := space.cache.erase node, log := space.log ++ [.invalidated] } := by
        refine ⟨rfl, fun refused failure fails => ?_⟩
        rw [Cache.get?_erase alone.distinct, if_neg]
        rintro rfl
        cases fails.symm.trans compiles
      exact first.trans (ih (alone.moves moves) later)
    · exact ih alone later

/-- Entries that a failed compilation takes back again are entries it has made. -/
theorem compileNodes_spares (alone : Private validator.mode space)
    (made : ∀ node ∈ written, ∃ checks, compileNode graph node = .ok checks) :
    Spares graph space (start (validator.compileNodes graph written nodes) space).2 := by
  induction nodes generalizing space written with
  | nil => exact .refl
  | cons node rest ih =>
    cases cached : space.cache.get? node with
    | some list =>
      rw [start_compileNodes_hit cached]
      exact ih alone made
    | none =>
      cases compiles : compileNode graph node with
      | error failure =>
        rw [start_compileNodes_fail cached compiles]
        simp only []
        split
        · exact undo_spares alone made
        · exact .refl
      | ok checks =>
        rw [start_compileNodes_miss cached compiles]
        refine (Spares.filed compiles).trans (ih (alone.move (.grow (.file (.inl rfl) cached compiles))) ?_)
        intro other member
        rcases List.mem_append.mp member with earlier | last
        · exact made other earlier
        · exact List.mem_singleton.mp last ▸ ⟨checks, compiles⟩

/-- Once the nodes are compiled the checks of the root are there to be handed out. -/
theorem start_compile_made (ended : start (validator.compileFrom graph validator.schema) space = (.ok (), after)) :
    ReflTransGen (Grows graph validator.mode) space after ∧
      ∃ list, start (validator.compile graph) space = (.ok list, { after with compiled := true }) := by
  unfold compileFrom at ended
  obtain ⟨grows, caches⟩ := compileNodes_ok (congrArg Prod.fst ended)
  rw [ended] at grows caches
  refine ⟨grows, ?_⟩
  have root : validator.schema ∈
      if validator.settings.isEager then graph.preorder validator.schema else [validator.schema] := by
    split
    · exact Graph.mem_preorder_iff.mpr .refl
    · exact List.mem_singleton.mpr rfl
  obtain ⟨list, cached⟩ := caches validator.schema root
  refine ⟨list, ?_⟩
  rw [compile, compileFrom, Run.start_bind_ok ended, Run.start_bind_ok (Run.start_setCompiled true)]
  exact Run.start_checksFor_hit cached

end Validator

/-- What does not depend on remembered arrays is kept by a program if the runs it asks for keep it. -/
theorem Program.perform_keeps (kept : Workspace → Prop) {origin : Nat} {judge : Value → Ref → Run Unit}
    {prepare : Ref → Run Unit} (judges : ∀ value node space, kept space → kept (start (judge value node) space).2)
    (prepares : ∀ node space, kept space → kept (start (prepare node) space).2)
    (notes : ∀ space origin memo, kept space → kept (space.noting origin memo)) (program : Program α)
    {space : Workspace} (holds : kept space) : kept (start (program.perform origin judge prepare) space).2 := by
  induction program generalizing space with
  | done result => exact holds
  | fail failure => exact holds
  | judge value node next ih =>
    have first := judges value node space holds
    rw [start_judge]
    cases settle (start (judge value node) space).1 with
    | error failure => exact first
    | ok answer => exact ih answer first
  | prepare node next ih =>
    have first := prepares node space holds
    rw [start_prepare]
    generalize start (prepare node) space = ended at first
    obtain ⟨failure | ⟨⟩, after⟩ := ended
    · exact first
    · exact ih first
  | recollect next ih =>
    rw [start_recollect]
    exact ih _ holds
  | remember memo next ih =>
    rw [start_remember]
    exact ih (notes space origin memo holds)

theorem Run.validateAt_compiled {graph : Graph} {mode : MultipleMode} {space : Workspace} {compiled : Bool} (fuel : Nat)
    (value : Value) (node : Ref) (flag : space.compiled = compiled) :
    (start (validateAt graph fuel mode value node) space).2.compiled = compiled := by
  induction fuel generalizing mode value node space with
  | zero => exact flag
  | succ fuel ih =>
    rw [validateAt, start_bind]
    have first : (start (checksFor graph mode node) space).2.compiled = compiled :=
      (checksFor_compiled graph mode node space).trans flag
    generalize start (checksFor graph mode node) space = ended at first
    obtain ⟨failure | list, after⟩ := ended
    · exact first
    · refine Program.perform_keeps (fun space => space.compiled = compiled)
        (fun part schema space flag => ih part schema flag) (fun schema space flag => ?_) (fun _ _ _ flag => flag) _ first
      rw [start_discard]
      exact (checksFor_compiled graph list.mode schema space).trans flag

namespace Validator

variable {validator : Validator} {graph : Graph} {space after : Workspace} {failure : Failure}

theorem start_validate_fails (flag : space.compiled = false)
    (ended : start (validator.compileFrom graph validator.schema) space = (.error failure, after)) (value : Value) :
    start (validator.validate graph value) space = (.error failure, after) := by
  simp [validate, compile, flag, ended, Except.map]

theorem start_validate_made (flag : space.compiled = false)
    (ended : start (validator.compileFrom graph validator.schema) space = (.ok (), after)) (value : Value) :
    start (validator.validate graph value) space =
      start (Run.validateAt graph (graph.budget value) validator.mode value validator.schema) { after with compiled := true } := by
  obtain ⟨_, list, handed⟩ := start_compile_made ended
  simp [validate, flag, handed, Except.map]

private theorem undisturbed_compiled (alone : Private validator.mode space) (readable : space.Readable graph)
    (flag : space.compiled = true) (other value : Value) :
    (start (validator.validate graph value)
        (start (Run.validateAt graph (graph.budget other) validator.mode other validator.schema) space).2).1 =
      (start (Run.validateAt graph (graph.budget value) validator.mode value validator.schema) space).1 := by
  have grows : ReflTransGen (Grows graph validator.mode) space
      (start (Run.validateAt graph (graph.budget other) validator.mode other validator.schema) space).2 :=
    Run.validateAt_grows (graph.budget other) (.inl rfl) other validator.schema
  have continues := (Continues.refl graph alone).grows alone grows
  obtain ⟨outcome, ends⟩ := validateAt_steady alone readable (graph.budget value) value validator.schema
  rw [start_validate_compiled (Run.validateAt_compiled _ other _ flag)]
  exact (ends _ continues).1.trans (ends _ (.refl graph alone)).1.symm

/-- The workspace after some tasks, each on the schema as it was by then. -/
def past (validator : Validator) (history : List (Graph × Task)) : Workspace :=
  history.foldl (fun space (graph, task) => (start (validator.perform graph task) space).2) .empty

theorem past_private (validator : Validator) (history : List (Graph × Task)) :
    Private validator.mode (validator.past history) := by
  have kept : ∀ space, Private validator.mode space →
      Private validator.mode (history.foldl (fun space (graph, task) => (start (validator.perform graph task) space).2) space) := by
    induction history with
    | nil => exact fun space alone => alone
    | cons step rest ih =>
      obtain ⟨graph, task⟩ := step
      intro space alone
      exact ih _ (alone.moves (perform_moves validator graph task space))
  exact kept .empty (Workspace.private_empty validator.mode)

/-- Whatever came before and however the schema was edited, a validation ends as it
would have ended before another one, if the arrays that `enum` checks look at can be read. -/
theorem validate_undisturbed (validator : Validator) (history : List (Graph × Task)) (graph : Graph)
    (readable : (validator.past history).Readable graph) (other value : Value) :
    (start (validator.validate graph value) (start (validator.validate graph other) (validator.past history)).2).1 =
      (start (validator.validate graph value) (validator.past history)).1 := by
  have alone := validator.past_private history
  generalize validator.past history = space at readable alone
  cases flag : space.compiled with
  | true =>
    rw [start_validate_compiled flag, start_validate_compiled flag]
    exact undisturbed_compiled alone readable flag other value
  | false =>
    cases ended : start (validator.compileFrom graph validator.schema) space with | mk outcome after =>
    cases outcome with
    | ok done =>
      rw [start_validate_made flag ended, start_validate_made flag ended]
      have grows := (start_compile_made ended).1.tail (.note true after.log)
      have continues := (Continues.refl graph alone).grows alone grows
      exact undisturbed_compiled (alone.moves (Workspace.moves_of_grows grows)) (readable.continues continues) rfl other value
    | error failure =>
      have spares : Spares graph space (start (validator.compileFrom graph validator.schema) space).2 :=
        compileNodes_spares alone (by simp)
      rw [ended] at spares
      rw [start_validate_fails flag ended, start_validate_fails flag ended]
      have again : (start (validator.compileFrom graph validator.schema) after).1 = .error failure :=
        (compileNodes_alike spares.malformed).trans (congrArg Prod.fst ended)
      cases repeated : start (validator.compileFrom graph validator.schema) after with | mk outcome last =>
      rw [repeated] at again
      cases again
      rw [start_validate_fails (spares.flag.trans flag) repeated]

/-- A choice of one text, in its own array. -/
def letterGraph (array : Ref) : Graph :=
  ⟨#[.object [(.text "enum", array)], .array false [.node 2], .text "a", .array false [.node 4], .text "b"]⟩

def chooser : Validator := ⟨.node 0, .standard⟩

/-- Another array was put in the place of the first. The old choice is refused as often as it is made. -/
theorem validate_undisturbed_choice :
    (start (chooser.validate (letterGraph (.node 3)) (.text "a"))
      (start (chooser.validate (letterGraph (.node 3)) (.text "a"))
        (chooser.past [(letterGraph (.node 1), .compile)])).2).1 = .error (.violation .notAllowed) := by
  rw [validate_undisturbed chooser]
  · rfl
  · intro node list memo array cached _ found
    have nodes : (chooser.past [(letterGraph (.node 1), .compile)]).cache.nodes = [.node 0] := rfl
    have member := Cache.mem_nodes_of_get? cached
    rw [nodes] at member
    cases List.mem_singleton.mp member
    cases found
    exact ⟨_, rfl⟩

/-- There is no array any more. Looking for one fails, and the failure is forgotten: the
next validation makes do with the members of the array that was there before. -/
theorem validate_disturbed_unreadable :
    Library.set ⟨letterGraph (.node 1), [("choice", .node 0)]⟩ [.text "choice", .text "enum"] .null =
      .ok ⟨letterGraph .null, [("choice", .node 0)]⟩ ∧
    (start (chooser.validate (letterGraph .null) (.text "a")) (chooser.past [(letterGraph (.node 1), .compile)])).1 =
      .error (.fault .wrongType) ∧
    (start (chooser.validate (letterGraph .null) (.text "a"))
      (start (chooser.validate (letterGraph .null) (.text "a"))
        (chooser.past [(letterGraph (.node 1), .compile)])).2).1 = .ok () := by
  refine ⟨rfl, ?_, ?_⟩ <;> rfl

end Validator
end LiveSchema
