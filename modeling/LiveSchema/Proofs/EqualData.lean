import LiveSchema.Proofs.CacheLaws
import LiveSchema.Proofs.Contents

/-! Data that are equal, one layer at a time. Two shapes are twins if they differ in
nothing but the order of entries, the kind of an array and the spelling of a number,
and if their parts are related pairwise. Equal values are twins of this kind, and so
are the nodes of two graphs that read as equal values. -/

namespace LiveSchema

/-- Related options are both empty or have related contents. -/
theorem Option.rel_cases {relates : α → β → Prop} {one : Option α} {two : Option β} (related : Option.Rel relates one two) :
    (one = none ∧ two = none) ∨ ∃ item other, one = some item ∧ two = some other ∧ relates item other := by
  cases related with
  | some holds => exact .inr ⟨_, _, rfl, rfl, holds⟩
  | none => exact .inl ⟨rfl, rfl⟩

namespace Number

variable {one two : Number}

theorem isNaN_eq (number : Number) : number.isNaN = number.place?.isNone := by
  rcases number with value | (_ | negative | ⟨negative, exponent, fraction⟩) <;> rfl

theorem isWhole_eq (number : Number) :
    number.isWhole = number.place?.any fun place => match place with
      | .finite rational => rational.den == 1
      | _ => false := by
  rcases number with value | (_ | negative | ⟨negative, exponent, fraction⟩)
  · simp [isWhole, place?]
  · rfl
  · cases negative <;> rfl
  · rfl

theorem isWhole_congr (same : one.place? = two.place?) : one.isWhole = two.isWhole := by
  rw [isWhole_eq, isWhole_eq, same]

theorem lt_congr {left right : Number} (same : one.place? = two.place?) (again : left.place? = right.place?) :
    one.lt left = two.lt right := by
  simp only [lt, same, again]

theorem le_congr {left right : Number} (same : one.place? = two.place?) (again : left.place? = right.place?) :
    one.le left = two.le right := by
  simp only [le, same, again]

end Number

namespace Table

variable {κ α β γ : Type} [DecidableEq κ]

/-- Tables with distinct keys that have related items under the same keys, in any order. -/
structure Twin (relates : α → β → Prop) (one : Table κ α) (two : Table κ β) : Prop where
  distinct : one.keys.Nodup
  distincts : two.keys.Nodup
  items : ∀ key, Option.Rel relates (one.get? key) (two.get? key)

variable {relates : α → β → Prop} {others : β → γ → Prop} {one : Table κ α} {two : Table κ β} {three : Table κ γ}

/-- What is under a key on one side is there on the other as well. -/
theorem Twin.lookup (twin : Twin relates one two) (key : κ) :
    (one.get? key = none ∧ two.get? key = none) ∨
      ∃ item other, one.get? key = some item ∧ two.get? key = some other ∧ relates item other :=
  Option.rel_cases (twin.items key)

theorem Twin.symm (twin : Twin relates one two) : Twin (fun item other => relates other item) two one := by
  refine ⟨twin.distincts, twin.distinct, fun key => ?_⟩
  rcases twin.lookup key with ⟨absent, missing⟩ | ⟨_, _, found, again, holds⟩
  · rw [absent, missing]
    exact .none
  · rw [found, again]
    exact .some holds

theorem Twin.mono {weaker : α → β → Prop} (twin : Twin relates one two) (implies : ∀ item other, relates item other → weaker item other) :
    Twin weaker one two := by
  refine ⟨twin.distinct, twin.distincts, fun key => ?_⟩
  rcases twin.lookup key with ⟨absent, missing⟩ | ⟨_, _, found, again, holds⟩
  · rw [absent, missing]
    exact .none
  · rw [found, again]
    exact .some (implies _ _ holds)

theorem Twin.comp (first : Twin relates one two) (second : Twin others two three) :
    Twin (fun item other => ∃ middle, relates item middle ∧ others middle other) one three := by
  refine ⟨first.distinct, second.distincts, fun key => ?_⟩
  rcases first.lookup key with ⟨absent, missing⟩ | ⟨_, _, found, again, holds⟩ <;>
    rcases second.lookup key with ⟨gone, none⟩ | ⟨_, _, there, last, holds_too⟩
  · rw [absent, none]
    exact .none
  · cases missing.symm.trans there
  · cases gone.symm.trans again
  · cases again.symm.trans there
    rw [found, last]
    exact .some ⟨_, holds, holds_too⟩

theorem Twin.perm (twin : Twin relates one two) : one.keys.Perm two.keys := by
  refine (List.perm_ext_iff_of_nodup twin.distinct twin.distincts).mpr fun key => ?_
  rw [mem_keys_iff, mem_keys_iff]
  rcases twin.lookup key with ⟨absent, missing⟩ | ⟨_, _, found, again, _⟩
  · simp [absent, missing]
  · simp [found, again]

theorem Twin.length_eq (twin : Twin relates one two) : one.length = two.length := by
  have same := twin.perm.length_eq
  simpa only [keys, List.length_map] using same

theorem Twin.exists_of_mem (twin : Twin relates one two) {key : κ} {other : β} (member : (key, other) ∈ two) :
    ∃ item, (key, item) ∈ one ∧ relates item other := by
  rcases twin.lookup key with ⟨_, missing⟩ | ⟨item, found, present, again, holds⟩
  · cases missing.symm.trans (get?_of_mem twin.distincts member)
  · cases again.symm.trans (get?_of_mem twin.distincts member)
    exact ⟨item, mem_of_get? present, holds⟩

theorem Twin.all_eq (twin : Twin relates one two) {test : κ × α → Bool} {tests : κ × β → Bool}
    (agree : ∀ key item other, relates item other → test (key, item) = tests (key, other)) : one.all test = two.all tests := by
  rw [Bool.eq_iff_iff, List.all_eq_true, List.all_eq_true]
  constructor
  · rintro all ⟨key, other⟩ member
    obtain ⟨item, inside, holds⟩ := twin.exists_of_mem member
    exact agree key item other holds ▸ all _ inside
  · rintro all ⟨key, item⟩ member
    obtain ⟨other, inside, holds⟩ := twin.symm.exists_of_mem member
    exact agree key item other holds ▸ all _ inside

theorem Twin.any_eq (twin : Twin relates one two) {test : κ × α → Bool} {tests : κ × β → Bool}
    (agree : ∀ key item other, relates item other → test (key, item) = tests (key, other)) : one.any test = two.any tests := by
  rw [List.any_eq_not_all_not, List.any_eq_not_all_not, twin.all_eq fun key item other related => ?_]
  rw [agree key item other related]

theorem Twin.has_eq (twin : Twin relates one two) (key : κ) : one.has key = two.has key := by
  unfold has
  rcases twin.lookup key with ⟨absent, missing⟩ | ⟨_, _, found, again, _⟩
  · rw [absent, missing]
    rfl
  · rw [found, again]
    rfl

omit [DecidableEq κ] in
theorem keys_eq_of_forall₂ (related : List.Forall₂ (fun item other => item.1 = other.1 ∧ relates item.2 other.2) one two) :
    one.keys = two.keys := by
  induction related with
  | nil => rfl
  | cons first _ ih => exact congrArg₂ List.cons first.1 ih

theorem twin_of_forall₂ (related : List.Forall₂ (fun item other => item.1 = other.1 ∧ relates item.2 other.2) one two)
    (distincts : two.keys.Nodup) : Twin relates one two := by
  refine ⟨keys_eq_of_forall₂ related ▸ distincts, distincts, fun key => ?_⟩
  clear distincts
  induction related with
  | nil => exact .none
  | @cons first second _ _ head _ ih =>
    obtain ⟨name, item⟩ := first
    obtain ⟨_, other⟩ := second
    obtain ⟨rfl, holds⟩ := head
    simp only [get?]
    split
    · exact .some holds
    · exact ih

end Table

namespace Shape

variable {α β γ : Type}

inductive Twin (relates : α → β → Prop) : Shape α → Shape β → Prop
  | null : Twin relates .null .null
  | bool (value : Bool) : Twin relates (.bool value) (.bool value)
  | number {one two : Number} (place : one.place? = two.place?) : Twin relates (.number one) (.number two)
  | text (value : String) : Twin relates (.text value) (.text value)
  | bytes (value : List UInt8) : Twin relates (.bytes value) (.bytes value)
  | array {fixed other : Bool} {ones : List α} {twos : List β} (items : List.Forall₂ relates ones twos) :
      Twin relates (.array fixed ones) (.array other twos)
  | object {ones : Entries α} {twos : Entries β} (entries : Table.Twin relates ones twos) :
      Twin relates (.object ones) (.object twos)

variable {relates : α → β → Prop} {others : β → γ → Prop} {one : Shape α} {two : Shape β} {three : Shape γ}

theorem Twin.symm (twin : Twin relates one two) : Twin (fun item other => relates other item) two one := by
  cases twin with
  | null => exact .null
  | bool value => exact .bool value
  | number place => exact .number place.symm
  | text value => exact .text value
  | bytes value => exact .bytes value
  | array items => exact .array items.flip
  | object entries => exact .object entries.symm

private theorem forall₂_comp {ones : List α} {twos : List β} {threes : List γ} (first : List.Forall₂ relates ones twos)
    (second : List.Forall₂ others twos threes) :
    List.Forall₂ (fun item other => ∃ middle, relates item middle ∧ others middle other) ones threes := by
  induction first generalizing threes with
  | nil => cases second; exact .nil
  | cons head _ ih => cases second with | cons again rest => exact .cons ⟨_, head, again⟩ (ih rest)

theorem Twin.comp (first : Twin relates one two) (second : Twin others two three) :
    Twin (fun item other => ∃ middle, relates item middle ∧ others middle other) one three := by
  cases first with
  | null => cases second with | null => exact .null
  | bool value => cases second with | bool => exact .bool value
  | number place => cases second with | number again => exact .number (place.trans again)
  | text value => cases second with | text => exact .text value
  | bytes value => cases second with | bytes => exact .bytes value
  | array items => cases second with | array again => exact .array (forall₂_comp items again)
  | object entries => cases second with | object again => exact .object (entries.comp again)

theorem Twin.mono {weaker : α → β → Prop} (twin : Twin relates one two) (implies : ∀ item other, relates item other → weaker item other) :
    Twin weaker one two := by
  cases twin with
  | null => exact .null
  | bool value => exact .bool value
  | number place => exact .number place
  | text value => exact .text value
  | bytes value => exact .bytes value
  | array items => exact .array (items.imp implies)
  | object entries => exact .object (entries.mono implies)

theorem Twin.isNull_eq (twin : Twin relates one two) : one.isNull = two.isNull := by cases twin <;> rfl

theorem Twin.isBool_eq (twin : Twin relates one two) : one.isBool = two.isBool := by cases twin <;> rfl

theorem Twin.isText_eq (twin : Twin relates one two) : one.isText = two.isText := by cases twin <;> rfl

theorem Twin.isArray_eq (twin : Twin relates one two) : one.isArray = two.isArray := by cases twin <;> rfl

theorem Twin.isObject_eq (twin : Twin relates one two) : one.isObject = two.isObject := by cases twin <;> rfl

theorem Twin.isSchema_eq (twin : Twin relates one two) : one.isSchema = two.isSchema := by cases twin <;> rfl

theorem Twin.text?_eq (twin : Twin relates one two) : one.text? = two.text? := by cases twin <;> rfl

theorem Twin.length?_eq (twin : Twin relates one two) : one.length? = two.length? := by
  cases twin with
  | array items => exact congrArg some items.length_eq
  | object entries => exact congrArg some entries.length_eq
  | null | bool | number | text | bytes => rfl

/-- Both have a number, at the same place, or neither has one. -/
theorem Twin.number? (twin : Twin relates one two) :
    Option.Rel (fun number other => number.place? = other.place?) one.number? two.number? := by
  cases twin with
  | number place =>
    simp only [Shape.number?, Number.isNaN_eq, place]
    split
    · exact .none
    · exact .some place
  | null | bool | text | bytes | array | object => exact .none

theorem Twin.ordered? (twin : Twin relates one two) :
    Option.Rel (fun number other => number.place? = other.place?) one.ordered? two.ordered? := by
  cases twin with
  | number place => exact .some place
  | bool value => exact .some rfl
  | null | text | bytes | array | object => exact .none

theorem Twin.isNumber_eq (twin : Twin relates one two) : one.isNumber = two.isNumber := by
  unfold isNumber
  rcases Option.rel_cases twin.number? with ⟨absent, missing⟩ | ⟨_, _, found, again, _⟩
  · rw [absent, missing]
  · rw [found, again]
    rfl

theorem Twin.isInteger_eq (twin : Twin relates one two) : one.isInteger = two.isInteger := by
  unfold isInteger
  rcases Option.rel_cases twin.number? with ⟨absent, missing⟩ | ⟨_, _, found, again, place⟩
  · rw [absent, missing]
  · rw [found, again]
    exact Number.isWhole_congr place

end Shape

namespace Value

/-- No object in a value has two entries of one name. -/
inductive Distinct : Value → Prop
  | intro (value : Value) (names : ∀ entries, value.shape = .object entries → entries.keys.Nodup)
      (parts : ∀ part ∈ value.shape.parts, Distinct part) : Distinct value

theorem Distinct.names {value : Value} {entries : Entries Value} (distinct : value.Distinct) (shaped : value.shape = .object entries) :
    entries.keys.Nodup := by
  cases distinct with | intro _ names _ => exact names entries shaped

theorem Distinct.part {value part : Value} (distinct : value.Distinct) (inside : part ∈ value.shape.parts) : part.Distinct := by
  cases distinct with | intro _ _ parts => exact parts part inside

theorem distinct_array {fixed : Bool} {items : List Value} : (array fixed items).Distinct ↔ ∀ item ∈ items, item.Distinct := by
  constructor
  · exact fun distinct _ => distinct.part
  · exact .intro (array fixed items) fun _ shaped => nomatch shaped

theorem distinct_object {entries : List (Key × Value)} :
    (object entries).Distinct ↔ (Table.keys entries).Nodup ∧ ∀ entry ∈ entries, entry.2.Distinct := by
  constructor
  · exact fun distinct => ⟨distinct.names rfl, fun entry member => distinct.part (List.mem_map_of_mem member)⟩
  · rintro ⟨names, parts⟩
    refine .intro _ (fun _ shaped => ?_) fun part inside => ?_
    · cases shaped
      exact names
    · obtain ⟨entry, member, rfl⟩ := List.mem_map.mp inside
      exact parts entry member

mutual

def decideDistinct : (value : Value) → Decidable value.Distinct
  | .null | .bool _ | .number _ | .text _ | .bytes _ =>
    isTrue (.intro _ (fun _ shaped => nomatch shaped) fun _ inside => nomatch inside)
  | .array _ items =>
    have := decideItems items
    decidable_of_iff _ distinct_array.symm
  | .object entries =>
    have := decideEntries entries
    decidable_of_iff _ distinct_object.symm

def decideItems : (items : List Value) → Decidable (∀ item ∈ items, item.Distinct)
  | [] => isTrue fun _ member => nomatch member
  | item :: rest =>
    have := decideDistinct item
    have := decideItems rest
    decidable_of_iff (item.Distinct ∧ ∀ other ∈ rest, other.Distinct) List.forall_mem_cons.symm

def decideEntries : (entries : List (Key × Value)) → Decidable (∀ entry ∈ entries, entry.2.Distinct)
  | [] => isTrue fun _ member => nomatch member
  | (_, item) :: rest =>
    have := decideDistinct item
    have := decideEntries rest
    decidable_of_iff (item.Distinct ∧ ∀ entry ∈ rest, entry.2.Distinct) (by simp only [List.forall_mem_cons])

end

instance (value : Value) : Decidable value.Distinct := decideDistinct value

theorem distinct_ofKey (name : Key) : (ofKey name).Distinct := by
  cases name <;> exact .intro _ (fun _ shaped => nomatch shaped) (fun _ inside => nomatch inside)

/-- Equal as data. -/
structure Twin (one two : Value) : Prop where
  distinct : one.Distinct
  distincts : two.Distinct
  same : one.canon = two.canon

theorem Twin.refl {value : Value} (distinct : value.Distinct) : Twin value value := ⟨distinct, distinct, rfl⟩

theorem Twin.symm {one two : Value} (twin : Twin one two) : Twin two one := ⟨twin.distincts, twin.distinct, twin.same.symm⟩

theorem canonItems_eq (items : List Value) : canonItems items = items.map canon := by
  induction items with
  | nil => rfl
  | cons item rest ih => rw [canonItems, ih, List.map_cons]

theorem get?_insertEntry (name : Key) (item : Canon) (entries : Table Key Canon) (key : Key) :
    Table.get? (insertEntry name item entries) key = if name = key then some item else entries.get? key := by
  induction entries with
  | nil => rfl
  | cons entry rest ih =>
    obtain ⟨other, old⟩ := entry
    simp only [insertEntry]
    split
    next same =>
      subst same
      simp only [Table.get?]
      split <;> rfl
    next different =>
      split
      · rfl
      · simp only [Table.get?, ih]
        by_cases found : other = key
        · subst found
          simp [different]
        · simp [found]

/-- The canonical entries are found under the same names. -/
theorem get?_canonEntries (entries : Entries Value) (key : Key) :
    Table.get? (canonEntries entries) key = (entries.get? key).map canon := by
  induction entries with
  | nil => rfl
  | cons entry rest ih =>
    obtain ⟨name, item⟩ := entry
    rw [canonEntries, get?_insertEntry, ih, Table.get?]
    split <;> rfl

def placeForm : Option Extended → Canon
  | some exact => .atom (.number exact)
  | none => .atom .notANumber

theorem canon_number (number : Number) : canon (.number number) = placeForm number.place? := by
  unfold canon
  cases number.place? <;> rfl

theorem placeForm_injective : Function.Injective placeForm := by
  rintro (_ | one) (_ | two) same <;> cases same <;> rfl

theorem number_of_canon {number : Number} {value : Value} (same : canon (.number number) = value.canon) :
    ∃ other, value = .number other ∧ number.place? = other.place? := by
  rw [canon_number] at same
  cases value with
  | number other =>
    rw [canon_number] at same
    exact ⟨other, rfl, placeForm_injective same⟩
  | null | bool | text | bytes | array | object => cases place : number.place? <;> simp [place, placeForm, canon] at same

private theorem parts_of_canon {one two : List Value} (same : one.map canon = two.map canon)
    (distinct : ∀ item ∈ one, item.Distinct) (distincts : ∀ item ∈ two, item.Distinct) : List.Forall₂ Twin one two := by
  have pairs : List.Forall₂ (fun item other => canon item = canon other) one two := by
    rwa [← List.forall₂_map_right_iff, ← List.forall₂_map_left_iff, List.forall₂_eq_eq_eq]
  exact List.forall₂_iff_zip.mpr ⟨pairs.length_eq, fun inside =>
    ⟨distinct _ (List.of_mem_zip inside).1, distincts _ (List.of_mem_zip inside).2, List.forall₂_zip pairs inside⟩⟩

private theorem entries_of_canon {one two : Entries Value} (same : canonEntries one = canonEntries two)
    (names : one.keys.Nodup) (others : two.keys.Nodup)
    (distinct : ∀ item ∈ one.map Prod.snd, item.Distinct) (distincts : ∀ item ∈ two.map Prod.snd, item.Distinct) :
    Table.Twin Twin one two := by
  refine ⟨names, others, fun key => ?_⟩
  have found := get?_canonEntries one key
  rw [same, get?_canonEntries two key] at found
  cases first : one.get? key with
  | none =>
    cases second : two.get? key with
    | none => exact .none
    | some other => rw [first, second] at found; cases found
  | some item =>
    cases second : two.get? key with
    | none => rw [first, second] at found; cases found
    | some other =>
      rw [first, second] at found
      exact .some ⟨distinct _ (List.mem_map_of_mem (Table.mem_of_get? first)),
        distincts _ (List.mem_map_of_mem (Table.mem_of_get? second)), (Option.some.inj found).symm⟩

/-- Values that are equal as data have the same shape, with parts that are equal as data. -/
theorem Twin.shape {one two : Value} (twin : Twin one two) : Shape.Twin Twin one.shape two.shape := by
  have same := twin.same
  cases one with
  | number number =>
    obtain ⟨other, rfl, place⟩ := number_of_canon same
    exact .number place
  | null =>
    cases two with
    | null => exact .null
    | number other => obtain ⟨_, mixed, _⟩ := number_of_canon same.symm; cases mixed
    | bool | text | bytes | array | object => simp [canon] at same
  | bool value =>
    cases two with
    | bool other => simp only [canon, Canon.atom.injEq, Atom.bool.injEq] at same; exact same ▸ .bool value
    | number other => obtain ⟨_, mixed, _⟩ := number_of_canon same.symm; cases mixed
    | null | text | bytes | array | object => simp [canon] at same
  | text value =>
    cases two with
    | text other => simp only [canon, Canon.atom.injEq, Atom.text.injEq] at same; exact same ▸ .text value
    | number other => obtain ⟨_, mixed, _⟩ := number_of_canon same.symm; cases mixed
    | null | bool | bytes | array | object => simp [canon] at same
  | bytes value =>
    cases two with
    | bytes other => simp only [canon, Canon.atom.injEq, Atom.bytes.injEq] at same; exact same ▸ .bytes value
    | number other => obtain ⟨_, mixed, _⟩ := number_of_canon same.symm; cases mixed
    | null | bool | text | array | object => simp [canon] at same
  | array fixed items =>
    cases two with
    | array other others =>
      simp only [canon, canonItems_eq, Canon.array.injEq] at same
      exact .array (parts_of_canon same (fun _ => twin.distinct.part) fun _ => twin.distincts.part)
    | number other => obtain ⟨_, mixed, _⟩ := number_of_canon same.symm; cases mixed
    | null | bool | text | bytes | object => simp [canon] at same
  | object entries =>
    cases two with
    | object others =>
      simp only [canon, Canon.object.injEq] at same
      exact .object (entries_of_canon same (twin.distinct.names rfl) (twin.distincts.names rfl)
        (fun _ => twin.distinct.part) fun _ => twin.distincts.part)
    | number other => obtain ⟨_, mixed, _⟩ := number_of_canon same.symm; cases mixed
    | null | bool | text | bytes | array => simp [canon] at same

variable {copy : Value}

theorem Twin.text {text : String} (twin : Twin (.text text) copy) : copy = .text text := by
  have layer := twin.shape
  cases copy with
  | text other => cases layer; rfl
  | null | bool | number | bytes | array | object => cases layer

theorem Twin.array {fixed : Bool} {items : List Value} (twin : Twin (.array fixed items) copy) :
    ∃ kind others, copy = .array kind others ∧ List.Forall₂ Twin items others := by
  have layer := twin.shape
  cases copy with
  | array kind others => cases layer with | array items => exact ⟨kind, others, rfl, items⟩
  | null | bool | number | text | bytes | object => cases layer

theorem Twin.object {entries : Entries Value} (twin : Twin (.object entries) copy) :
    ∃ others, copy = .object others ∧ Table.Twin Twin entries others := by
  have layer := twin.shape
  cases copy with
  | object others => cases layer with | object entries => exact ⟨others, rfl, entries⟩
  | null | bool | number | text | bytes | array => cases layer

theorem Twin.canons_eq {items others : List Value} (twins : List.Forall₂ Twin items others) :
    items.map canon = others.map canon := by
  induction twins with
  | nil => rfl
  | cons first _ ih => rw [List.map_cons, List.map_cons, first.same, ih]

end Value

namespace Graph

variable {graph : Graph} {ref : Ref} {value : Value}

private theorem reads_items {items : List Ref} {values : List Value} (read : items.mapM (graph.read? graph.size) = some values) :
    List.Forall₂ (fun item value => graph.value? item = some value) items values :=
  (Option.mapM_forall₂ read).imp fun _ _ made => value?_of_read made

/-- A node that can be read has the shape of its value. -/
theorem shape_of_value? (read : graph.value? ref = some value) (distinct : value.Distinct) :
    Shape.Twin (fun item value => graph.value? item = some value) (graph.shape ref) value.shape := by
  have layer := read
  simp only [value?, read?] at layer
  cases shaped : graph.shape ref with
  | null => rw [shaped] at layer; cases layer; exact .null
  | bool flag => rw [shaped] at layer; cases layer; exact .bool flag
  | number number => rw [shaped] at layer; cases layer; exact .number rfl
  | text text => rw [shaped] at layer; cases layer; exact .text text
  | bytes bytes => rw [shaped] at layer; cases layer; exact .bytes bytes
  | array fixed items =>
    rw [shaped] at layer
    obtain ⟨values, made, rfl⟩ := Option.map_eq_some_iff.mp layer
    exact .array (reads_items made)
  | object entries =>
    rw [shaped] at layer
    obtain ⟨values, made, rfl⟩ := Option.map_eq_some_iff.mp layer
    have related : List.Forall₂ (fun (entry : Key × Ref) (item : Key × Value) =>
        entry.1 = item.1 ∧ graph.value? entry.2 = some item.2) entries values := by
      refine (Option.mapM_forall₂ made).imp fun entry item read => ?_
      obtain ⟨value, found, rfl⟩ := Option.map_eq_some_iff.mp read
      exact ⟨rfl, value?_of_read found⟩
    exact .object (Table.twin_of_forall₂ related (distinct.names rfl))

/-- Nodes of two graphs that read as equal data. -/
def Twin (one two : Graph) (node other : Ref) : Prop :=
  ∃ value again, one.value? node = some value ∧ two.value? other = some again ∧ value.Twin again

variable {one two : Graph} {node other : Ref}

theorem Twin.symm (twin : Twin one two node other) : Twin two one other node := by
  obtain ⟨value, again, read, reread, same⟩ := twin
  exact ⟨again, value, reread, read, same.symm⟩

theorem Twin.shape (twin : Twin one two node other) : Shape.Twin (Twin one two) (one.shape node) (two.shape other) := by
  obtain ⟨value, again, read, reread, same⟩ := twin
  have first := shape_of_value? read same.distinct
  have last := (shape_of_value? reread same.distincts).symm
  refine ((first.comp same.shape).comp last).mono ?_
  rintro item part ⟨middle, ⟨found, made, equal⟩, remade⟩
  exact ⟨found, middle, made, remade, equal⟩

end Graph
end LiveSchema
