import LiveSchema.Proofs.CacheLaws
import LiveSchema.Proofs.NodeShape
import LiveSchema.Settings
import Mathlib.Data.List.TakeWhile

/-! Settings are normal once they have been read: a mode is no longer a name and a flag no longer
a word, so reading them again changes nothing. What is read depends on the two settings alone,
wherever they stand in a mapping, and each name that is unknown there costs one warning. -/

namespace LiveSchema

theorem MultipleMode.ofValue?_name (mode : MultipleMode) : ofValue? (.text mode.name) = some mode := by
  cases mode <;> rfl

namespace Given

variable {given : Given}

theorem text?_eq_some_iff {text : String} : given.text? = some text ↔ given = .data (.text text) := by
  constructor
  · intro found
    cases given with
    | mode => cases found
    | data value =>
      cases value with
      | text _ =>
        cases found
        rfl
      | _ => cases found
  · intro same
    subst same
    rfl

theorem text?_eq_none_iff : given.text? = none ↔ ∀ text, given ≠ .data (.text text) := by
  rw [Option.eq_none_iff_forall_ne_some]
  exact forall_congr' fun text => not_congr text?_eq_some_iff

end Given

namespace Table

variable {κ α : Type} [DecidableEq κ]

theorem get?_filter {keep : κ → Bool} {key : κ} (kept : keep key = true) (table : Table κ α) :
    get? (table.filter fun entry => keep entry.1) key = get? table key := by
  induction table with
  | nil => rfl
  | cons entry rest ih =>
    obtain ⟨name, item⟩ := entry
    by_cases same : name = key
    · subst same
      simp [get?, kept]
    · simp only [List.filter_cons, get?, same, ite_false]
      split
      · simpa [get?, same] using ih
      · exact ih

theorem get?_push {table : Table κ α} {key : κ} (new : key ∉ table.keys) (item : α) (other : κ) :
    get? (table ++ [(key, item)]) other = if key = other then some item else get? table other := by
  rw [get?_append]
  by_cases same : key = other
  · subst same
    rw [get?_eq_none new]
    rfl
  · simp [get?, same]

omit [DecidableEq κ] in
theorem keys_push (table : Table κ α) (key : κ) (item : α) : keys (table ++ [(key, item)]) = keys table ++ [key] := by
  simp [keys]

end Table

namespace Settings

variable {entries other : Entries Given} {settings : Settings} {flag read : Given}

/-- What a flag is read as. A word stands for yes or no, and anything else for itself. -/
inductive Flagged : Given → Given → Prop where
  | on {text : String} : lowered (trimBlank text) ∈ onWords → Flagged (.data (.text text)) (.bool true)
  | off {text : String} : lowered (trimBlank text) ∈ offWords → Flagged (.data (.text text)) (.bool false)
  | kept {flag : Given} : (∀ text, flag ≠ .data (.text text)) → Flagged flag flag

theorem Flagged.no_text (flagged : Flagged flag read) (text : String) : read ≠ .data (.text text) := by
  intro same
  cases flagged with
  | on => cases same
  | off => cases same
  | kept other => exact other text same

theorem Flagged.again (flagged : Flagged flag read) : Flagged read read := .kept flagged.no_text

theorem not_on_of_off {word : String} (off : word ∈ offWords) : word ∉ onWords := by
  revert word
  decide

theorem readFlag_ok_iff : readFlag flag = .ok read ↔ Flagged flag read := by
  constructor
  · intro ended
    unfold readFlag at ended
    split at ended
    next text found =>
      rw [Given.text?_eq_some_iff] at found
      subst found
      simp only [List.contains_iff_mem] at ended
      split at ended
      next on =>
        cases ended
        exact .on on
      next =>
        split at ended
        next off =>
          cases ended
          exact .off off
        next => cases ended
    next other =>
      cases ended
      exact .kept (Given.text?_eq_none_iff.mp other)
  · intro flagged
    unfold readFlag
    cases flagged with
    | on on => simp [Given.text?_eq_some_iff.mpr rfl, on]
    | off off => simp [Given.text?_eq_some_iff.mpr rfl, off, not_on_of_off off]
    | kept other => rw [Given.text?_eq_none_iff.mpr other]

theorem make_ok_iff {mode eager : Given} :
    make mode eager = .ok settings ↔ mode.mode? = some settings.mode ∧ Flagged eager settings.eager := by
  rw [← readFlag_ok_iff]
  unfold make
  cases mode.mode? with
  | none => simp
  | some meant =>
    constructor
    · intro ended
      obtain ⟨read, flagged, ended⟩ := Except.bind_ok ended
      cases ended
      exact ⟨rfl, flagged⟩
    · intro made
      obtain ⟨same, flagged⟩ := made
      cases same
      simp only [flagged]
      rfl

theorem ofEntries_ok_iff : ofEntries entries = .ok settings ↔
    (modeIn entries).mode? = some settings.mode ∧ Flagged (flagIn entries) settings.eager := by
  rw [← make_ok_iff, ofEntries]
  cases make (modeIn entries) (flagIn entries) with
  | ok made => simp
  | error failure => simp

theorem isSetting_iff {name : Key} : isSetting name = true ↔ name = .text modeKey ∨ name = .text eagerKey := by
  simp [isSetting]

/-- Entries that give the two settings alike are read alike, also where they are refused. -/
theorem ofEntries_congr (alike : ∀ name, isSetting name = true → entries.get? name = other.get? name) :
    ofEntries entries = ofEntries other := by
  have modes : modeIn entries = modeIn other := by rw [modeIn, modeIn, alike _ (isSetting_iff.mpr (.inl rfl))]
  have flags : flagIn entries = flagIn other := by rw [flagIn, flagIn, alike _ (isSetting_iff.mpr (.inr rfl))]
  rw [ofEntries, ofEntries, modes, flags]

/-- Every name that is read without a warning. -/
def knownNames : List Key := (modeKey :: eagerKey :: metadataKeys).map .text

theorem mem_knownNames_iff {name : Key} : name ∈ knownNames ↔ isSetting name = true ∨ isMetadata name = true := by
  simp [knownNames, isSetting, isMetadata, or_assoc, @eq_comm _ name]

/-- The warnings that a mapping with these names deserves. -/
def warnings (names : List Key) : List LogEntry :=
  (names.filter fun name => name ∉ knownNames).map .ignoredSetting

theorem warnings_append (names rest : List Key) : warnings (names ++ rest) = warnings names ++ warnings rest := by
  simp only [warnings, List.filter_append, List.map_append]

theorem warnings_known {names : List Key} (known : ∀ name ∈ names, name ∈ knownNames) : warnings names = [] := by
  simpa [warnings] using known

theorem warnings_unknown {name : Key} (unknown : name ∉ knownNames) : warnings [name] = [.ignoredSetting name] := by
  simp [warnings, unknown]

/-- A pass that has come to the end of some entries has found what they give for the
settings, and has warned of their other names. -/
structure Findings.Covers (found : Findings) (entries : Entries Given) : Prop where
  settings : ∀ name, isSetting name = true → found.settings.get? name = entries.get? name
  log : found.log = warnings entries.keys

theorem Findings.Covers.add {found : Findings} (covers : found.Covers entries) {name : Key} (given : Given)
    (new : name ∉ entries.keys) : (found.add name given).Covers (entries ++ [(name, given)]) := by
  have passed (other : isSetting name ≠ true) :
      ∀ wanted, isSetting wanted = true → found.settings.get? wanted = Table.get? (entries ++ [(name, given)]) wanted := by
    intro wanted setting
    have apart : name ≠ wanted := fun same => other (same ▸ setting)
    rw [Table.get?_push new, if_neg apart]
    exact covers.settings wanted setting
  have logged : warnings (Table.keys (entries ++ [(name, given)])) = found.log ++ warnings [name] := by
    rw [Table.keys_push, warnings_append, covers.log]
  have quiet (known : name ∈ knownNames) : found.log = warnings (Table.keys (entries ++ [(name, given)])) := by
    rw [logged, warnings_known (by simpa using known), List.append_nil]
  unfold Findings.add
  split
  next setting =>
    refine ⟨?_, quiet (mem_knownNames_iff.mpr (.inl setting))⟩
    intro wanted isWanted
    rw [Table.get?_set, Table.get?_push new, covers.settings wanted isWanted]
  next other =>
    split
    next metadata => exact ⟨passed other, quiet (mem_knownNames_iff.mpr (.inr metadata))⟩
    next unknown =>
      refine ⟨passed other, ?_⟩
      have strange : name ∉ knownNames := by simp [mem_knownNames_iff, other, unknown]
      rw [logged, warnings_unknown strange]

/-- The pass goes over a mapping once, so no name comes a second time. -/
theorem Findings.Covers.addAll {found : Findings} {rest : Entries Given} (covers : found.Covers entries)
    (distinct : (Table.keys (entries ++ rest)).Nodup) :
    (rest.foldl (fun found entry => found.add entry.1 entry.2) found).Covers (entries ++ rest) := by
  -- On what is still ahead; the entries behind grow, and each name is new to them.
  induction rest generalizing found entries with
  | nil => simpa using covers
  | cons entry rest ih =>
    obtain ⟨name, given⟩ := entry
    have new : name ∉ entries.keys := by
      intro before
      simp only [Table.keys, List.map_append, List.map_cons, List.nodup_append] at distinct
      exact distinct.2.2 name before name List.mem_cons_self rfl
    rw [List.append_cons] at distinct ⊢
    exact ih (covers.add given new) distinct

theorem find_covers (distinct : entries.keys.Nodup) : (find entries).Covers entries := by
  have started : Findings.Covers {} [] := ⟨fun _ _ => rfl, rfl⟩
  exact started.addAll distinct

/-- Every name that has to be warned of has a text. -/
def Told (entries : Entries Given) : Prop := ∀ name ∈ entries.keys, name ∉ knownNames → name.isWritable = true

theorem isPassed_iff {name : Key} : isPassed name = true ↔ (name ∉ knownNames → name.isWritable = true) := by
  simp only [isPassed, Bool.or_eq_true, mem_knownNames_iff]
  tauto

theorem told_iff : Told entries ↔ ∀ entry ∈ entries, isPassed entry.1 = true := by
  simp only [Told, Table.keys, List.forall_mem_map, isPassed_iff]

theorem ofMapping_eq (distinct : entries.keys.Nodup) (told : Told entries) :
    ofMapping entries = (warnings entries.keys, ofEntries entries) := by
  cases entries with
  | nil => rfl
  | cons entry rest =>
    have passed := told_iff.mp told
    have covers := find_covers distinct
    simp only [ofMapping, List.isEmpty_cons, List.takeWhile_eq_self_iff.mpr passed, List.all_eq_true.mpr passed, if_true,
      Bool.false_eq_true, if_false]
    exact Prod.ext covers.log (ofEntries_congr covers.settings)

/-- A warning that cannot be written ends the reading. -/
theorem ofMapping_untold (untold : ¬ Told entries) : (ofMapping entries).2 = .error (.fault .badValue) := by
  have stopped : ¬ (entries.all fun entry => isPassed entry.1) = true := fun passed =>
    untold (told_iff.mpr (List.all_eq_true.mp passed))
  cases entries with
  | nil => exact absurd rfl stopped
  | cons entry rest => simp only [ofMapping, List.isEmpty_cons, Bool.false_eq_true, if_false, if_neg stopped]

theorem told_of_accepted {log : List LogEntry} (accepted : ofMapping entries = (log, .ok settings)) : Told entries := by
  by_contra untold
  cases (congrArg Prod.snd accepted).symm.trans (ofMapping_untold untold)

theorem told_of_known (known : ∀ name ∈ entries.keys, name ∈ knownNames) : Told entries :=
  fun name member unknown => absurd (known name member) unknown

/-- Without the entries that are no settings, a mapping is read alike and nothing is warned of. -/
theorem ofMapping_filter (distinct : entries.keys.Nodup) :
    ofMapping (entries.filter fun entry => isSetting entry.1) = ([], ofEntries entries) := by
  have names : Table.keys (entries.filter fun entry => isSetting entry.1) = entries.keys.filter isSetting := by
    rw [Table.keys, Table.keys, List.filter_map]
    rfl
  have known : ∀ name ∈ entries.keys.filter isSetting, name ∈ knownNames := by
    intro name member
    exact mem_knownNames_iff.mpr (.inl (List.mem_filter.mp member).2)
  rw [ofMapping_eq (names ▸ distinct.filter _) (told_of_known (names ▸ known)), names, warnings_known known,
    ofEntries_congr fun name setting => Table.get?_filter setting entries]

/-- Settings that came from a flag are read again from their own mapping. -/
theorem ofMapping_toEntries (flagged : Flagged flag settings.eager) :
    ofMapping settings.toEntries = ([], .ok settings) := by
  have names : Table.keys settings.toEntries = [.text modeKey, .text eagerKey] := rfl
  have made : ofEntries settings.toEntries = .ok settings :=
    ofEntries_ok_iff.mpr ⟨MultipleMode.ofValue?_name settings.mode, flagged.again⟩
  have known : ∀ name ∈ Table.keys settings.toEntries, name ∈ knownNames := names ▸ by decide
  rw [ofMapping_eq (names ▸ by decide) (told_of_known known), warnings_known known, made]

/-- Settings that were read are normal: written as a mapping and read again they are the same, with
nothing to warn of, and their flag is no text. They are what the two settings of the mapping mean,
whatever other entries it has and in whatever order, as long as names that are warned of have a
text, which is what makes the reading succeed. There is one warning for each name that is
neither a setting nor one a configuration entry may have besides, in the order of the mapping. -/
theorem reading_normalizes (distinct : entries.keys.Nodup) {log : List LogEntry}
    (accepted : ofMapping entries = (log, .ok settings)) :
    ofMapping settings.toEntries = ([], .ok settings) ∧
      (∀ text, settings.eager ≠ .data (.text text)) ∧
      (modeIn entries).mode? = some settings.mode ∧ Flagged (flagIn entries) settings.eager ∧
      ofMapping (entries.filter fun entry => isSetting entry.1) = ([], .ok settings) ∧
      (∀ other : Entries Given, other.keys.Nodup →
        (∀ name, isSetting name = true → other.get? name = entries.get? name) →
        ((ofMapping other).2 = .ok settings ↔
          ∀ name ∈ other.keys, name ∉ knownNames → name.isWritable = true)) ∧
      log = (entries.keys.filter fun name => name ∉ knownNames).map .ignoredSetting := by
  rw [ofMapping_eq distinct (told_of_accepted accepted)] at accepted
  obtain ⟨logged, made⟩ := Prod.mk.inj accepted
  obtain ⟨meant, flagged⟩ := ofEntries_ok_iff.mp made
  refine ⟨ofMapping_toEntries flagged, flagged.no_text, meant, flagged, ?_, ?_, logged.symm⟩
  · rw [ofMapping_filter distinct, made]
  · intro other distincts alike
    constructor
    · exact fun read => told_of_accepted (Prod.ext rfl read)
    · intro told
      rw [ofMapping_eq distincts told, ofEntries_congr alike, made]

/-- A mode given as such, a shouted flag and names of every kind between them. -/
def shouted : Entries Given :=
  [(.text "name", .data (.text "x")), (.text "strictness", .data (.number (.int 3))),
    (.text "eager_compile", .data (.text " OFF\t")), (.int 5, .data .null), (.text "multiple_of_mode", .mode .float)]

theorem reading_normalizes_shouted :
    ofMapping shouted = ([.ignoredSetting (.text "strictness"), .ignoredSetting (.int 5)], .ok ⟨.float, .bool false⟩) ∧
      ofMapping (toEntries ⟨.float, .bool false⟩) = ([], .ok ⟨.float, .bool false⟩) ∧
      ofMapping (shouted.filter fun entry => isSetting entry.1) = ([], .ok ⟨.float, .bool false⟩) := by
  have distinct : shouted.keys.Nodup := by decide
  have accepted : ofMapping shouted =
      ([.ignoredSetting (.text "strictness"), .ignoredSetting (.int 5)], .ok ⟨.float, .bool false⟩) := rfl
  obtain ⟨again, _, _, _, alone, _⟩ := reading_normalizes distinct accepted
  exact ⟨accepted, again, alone⟩

end Settings
end LiveSchema
