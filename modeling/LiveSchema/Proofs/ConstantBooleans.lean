import LiveSchema.Proofs.CacheTransparency
import LiveSchema.Proofs.LibraryEdits

/-! Booleans are constants. Some checks compare the value of a keyword with `true` or
`false` by identity, which tells the value only because no numbered node is a boolean.
That holds of documents as they are read, and every step of a session keeps it. -/

namespace LiveSchema

namespace Graph

/-- A boolean is a constant, never a numbered node. -/
def ConstantBooleans (graph : Graph) : Prop := ∀ ref flag, graph.shape ref = .bool flag → ref = .bool flag

variable {graph : Graph} {shape : Shape Ref}

theorem push_constants (constants : graph.ConstantBooleans) (plain : shape.isBool = false) :
    (graph.push shape).2.ConstantBooleans := by
  intro ref flag shaped
  cases ref with
  | null | int => cases shaped
  | bool value => exact congrArg Ref.bool (Shape.bool.inj shaped)
  | node index =>
    rw [shape_push] at shaped
    split at shaped
    · rw [shaped] at plain
      cases plain
    · exact constants _ flag shaped

mutual

theorem add_constants {graph : Graph} (constants : graph.ConstantBooleans) (value : Value) : (graph.add value).2.ConstantBooleans := by
  cases value with
  | null | bool => exact constants
  | number number =>
    cases number with
    | int value =>
      simp only [add]
      split
      · exact constants
      · exact push_constants constants rfl
    | _ => exact push_constants constants rfl
  | text | bytes => exact push_constants constants rfl
  | array fixed items => exact push_constants (addItems_constants constants items) rfl
  | object entries => exact push_constants (addEntries_constants constants entries) rfl

theorem addItems_constants {graph : Graph} (constants : graph.ConstantBooleans) (items : List Value) :
    (graph.addItems items).2.ConstantBooleans := by
  cases items with
  | nil => exact constants
  | cons item rest => exact addItems_constants (add_constants constants item) rest

theorem addEntries_constants {graph : Graph} (constants : graph.ConstantBooleans) (entries : List (Key × Value)) :
    (graph.addEntries entries).2.ConstantBooleans := by
  cases entries with
  | nil => exact constants
  | cons entry rest => exact addEntries_constants (add_constants constants entry.2) rest

end

theorem constants_empty : Graph.empty.ConstantBooleans := by
  intro ref flag shaped
  cases ref with
  | null | int => cases shaped
  | bool value => exact congrArg Ref.bool (Shape.bool.inj shaped)
  | node index => cases shaped

end Graph

namespace Library

variable {library after : Library} {shape result : Shape Ref} {path : List Key} {key : Key} {part : Ref} {value : Value}

theorem replace_constants {graph : Graph} (constants : graph.ConstantBooleans) (node : Ref) (plain : shape.isBool = false) :
    (replace graph node shape).ConstantBooleans := by
  intro ref flag shaped
  cases node with
  | null | bool | int => exact constants ref flag shaped
  | node index =>
    rw [shape_replace] at shaped
    split at shaped
    · rw [shaped] at plain
      cases plain
    · exact constants ref flag shaped

theorem editParent_constants {parent : List Key} {edit : Shape Ref → Except Fault (Shape Ref)}
    (constants : library.graph.ConstantBooleans) (edits : ∀ shape result, edit shape = .ok result → result.isBool = false)
    (edited : library.editParent parent edit = .ok after) : after.graph.ConstantBooleans := by
  obtain ⟨node, _, edited⟩ := Except.bind_ok edited
  obtain ⟨shape, made, edited⟩ := Except.bind_ok edited
  cases edited
  exact replace_constants constants node (edits _ shape made)

theorem assigned_plain (made : assigned shape key part = .ok result) : result.isBool = false := by
  unfold assigned at made
  split at made
  · cases made
    rfl
  · split at made <;> cases made
    rfl
  · cases made

theorem without_plain (made : without shape key = .ok result) : result.isBool = false := by
  unfold without at made
  split at made
  · split at made <;> cases made
    rfl
  · split at made <;> cases made
    rfl
  · cases made

theorem assign_constants (constants : library.graph.ConstantBooleans) (assigned : library.assign path part = .ok after) :
    after.graph.ConstantBooleans := by
  unfold assign at assigned
  split at assigned
  · cases assigned
  · cases assigned
    exact constants
  · cases assigned
  · exact editParent_constants constants (fun _ _ => assigned_plain) assigned

theorem set_constants (constants : library.graph.ConstantBooleans) (ended : library.set path value = .ok after) :
    after.graph.ConstantBooleans := by
  have added : (library.add value).2.graph.ConstantBooleans := Graph.add_constants constants value
  exact assign_constants added ended

theorem link_constants {source : List Key} (constants : library.graph.ConstantBooleans)
    (ended : library.link path source = .ok after) : after.graph.ConstantBooleans := by
  obtain ⟨node, _, ended⟩ := Except.bind_ok ended
  exact assign_constants constants ended

theorem append_constants (constants : library.graph.ConstantBooleans) (ended : library.append path value = .ok after) :
    after.graph.ConstantBooleans := by
  obtain ⟨node, _, ended⟩ := Except.bind_ok ended
  split at ended
  · cases ended
    exact replace_constants (Graph.add_constants constants value) node rfl
  · cases ended

theorem delete_constants (constants : library.graph.ConstantBooleans) (ended : library.delete path = .ok after) :
    after.graph.ConstantBooleans := by
  unfold delete at ended
  split at ended
  · cases ended
  · split at ended <;> cases ended
    exact constants
  · cases ended
  · exact editParent_constants constants (fun _ _ => without_plain) ended

theorem constants_ofDocuments (documents : List (String × Value)) : (ofDocuments documents).graph.ConstantBooleans := by
  induction documents with
  | nil => exact Graph.constants_empty
  | cons entry rest ih => exact Graph.add_constants ih entry.2

end Library

namespace Session

variable {session : Session}

theorem runAs_library (session : Session) (name : String) (work : Tenant → Run α) :
    (session.runAs name work).2.2.library = session.library := by
  unfold runAs
  split <;> rfl

theorem runListed_library (session : Session) (name : String) (work : Tenant → Run (Ref × Compiled)) :
    (session.runListed name work).session.library = session.library := by
  unfold runListed
  generalize ran : session.runAs name _ = outcome
  have same : outcome.2.2.library = session.library := ran ▸ runAs_library session name _
  obtain ⟨_ | ⟨cache, node, compiled⟩, log, after⟩ := outcome <;> exact same

theorem runAnswer_library (session : Session) (name : String) (work : Tenant → Run Answer) :
    (session.runAnswer name work).session.library = session.library :=
  runAs_library session name work

theorem runOn_library (session : Session) (holder : Holder) (work : Run Answer) :
    (session.runOn holder work).session.library = session.library := by
  unfold runOn
  split <;> rfl

theorem chooseCache_library {cache : Option String} {index : Nat} {after : Session}
    (chosen : session.chooseCache cache = .ok (index, after)) : after.library = session.library := by
  unfold chooseCache at chosen
  split at chosen
  · cases chosen
    rfl
  · split at chosen <;> cases chosen
    rfl

theorem newValidator_library (session : Session) (name : String) (path : List Key) (settings : Option Value) (cache : Option String) :
    (session.newValidator name path settings cache).session.library = session.library := by
  unfold newValidator
  split
  next log settings _ =>
    dsimp only
    split
    · rfl
    next tenant after made =>
      obtain ⟨root, _, made⟩ := Except.bind_ok made
      obtain ⟨chosen, _, made⟩ := Except.bind_ok made
      obtain ⟨validator, _, made⟩ := Except.bind_ok made
      obtain ⟨⟨index, other⟩, found, made⟩ := Except.bind_ok made
      cases made
      have same : other.library = session.library := chooseCache_library found
      exact same

theorem edit_constants {result : Except Fault Library} (constants : session.graph.ConstantBooleans)
    (edited : ∀ after, result = .ok after → after.graph.ConstantBooleans) : (session.edit result).session.graph.ConstantBooleans := by
  cases result with
  | ok after => exact edited after rfl
  | error fault => exact constants

/-- No step makes a numbered node of a boolean. -/
theorem take_constants (constants : session.graph.ConstantBooleans) (step : Step) :
    (session.take step).session.graph.ConstantBooleans := by
  have kept : ∀ after : Session, after.library = session.library → after.graph.ConstantBooleans :=
    fun after same => by rwa [graph, same]
  cases step with
  | newCache => exact constants
  | newValidator => exact kept _ (newValidator_library ..)
  | compile | checksFor | recompile => exact kept _ (runListed_library ..)
  | validate | check | isValid => exact kept _ (runAnswer_library ..)
  | has | get | put | invalidate | clear | size | nodes => exact kept _ (runOn_library ..)
  | set => exact edit_constants constants fun _ => Library.set_constants constants
  | link => exact edit_constants constants fun _ => Library.link_constants constants
  | append => exact edit_constants constants fun _ => Library.append_constants constants
  | delete => exact edit_constants constants fun _ => Library.delete_constants constants
  | «show» path =>
    simp only [take]
    split <;> exact constants

theorem run_constants (documents : List (String × Value)) (steps : List Step) :
    ((start documents).run steps).graph.ConstantBooleans := by
  suffices ∀ session : Session, session.graph.ConstantBooleans → (session.run steps).graph.ConstantBooleans from
    this _ (Library.constants_ofDocuments documents)
  induction steps with
  | nil => exact fun _ constants => constants
  | cons step rest ih => exact fun session constants => ih _ (take_constants constants step)

end Session
end LiveSchema
