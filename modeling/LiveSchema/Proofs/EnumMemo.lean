import LiveSchema.Proofs.CheckLimits

/-! What `enum` checks remember, and that no other check remembers anything. A
check that looked at the array that is still in place answers from memory;
otherwise it reads the array anew and remembers that, also when the reading
fails halfway. -/

namespace LiveSchema

variable {graph : Graph} {node current : Ref} {value : Value} {compiled : Memo}

theorem Graph.require_ok {keyword : String} {part : Ref} (required : graph.require node keyword = .ok part) :
    graph.field? node keyword = some part := by
  unfold require at required
  unfold field?
  split at required
  next entries shaped =>
    split at required
    next found =>
      cases required
      simpa only [shaped, Shape.entries?, Option.bind_some] using found
    next => cases required
  next => cases required

namespace Keyword

def membership (value : Value) (allowed : List Canon) : Except Failure Unit :=
  if value.canon ∈ allowed then .ok () else violate .notAllowed

private theorem ofExcept_membership (value : Value) (allowed : List Canon) :
    (if value.canon ∈ allowed then pure () else Program.violate .notAllowed) =
      Program.ofExcept (membership value allowed) := by
  unfold membership
  split <;> rfl

theorem runEnum_eq (found : graph.field? node "enum" = some current) :
    runEnum graph value node compiled = .recollect fun memo =>
      if current = (memo.getD compiled).source then
        Program.ofExcept (membership value (memo.getD compiled).allowed)
      else .remember { memo.getD compiled with source := current }
        (Program.ofExcept (memberForms graph current) >>= fun allowed =>
          .remember ⟨current, allowed⟩ (Program.ofExcept (membership value allowed))) := by
  simp only [runEnum, Program.live_require found, ofExcept_membership]
  rfl

theorem evaluate_runEnum {judge : Value → Ref → Except Failure Unit} {prepare : Ref → Except Failure Unit}
    {memo : Memo} (fits : (Check.enum memo).Fits graph node) (value : Value) :
    (runEnum graph value node memo).evaluate judge prepare = membership value memo.allowed := by
  rw [runEnum_eq fits.1, Program.evaluate, Option.getD_none, if_pos rfl, Program.evaluate_ofExcept]

section Perform

variable {origin : Nat} {judge : Value → Ref → Run Unit} {prepare : Ref → Run Unit} {space : Workspace}

theorem start_runEnum_same (found : graph.field? node "enum" = some current)
    (same : ((space.memos.get? origin).getD compiled).source = current) :
    Run.start ((runEnum graph value node compiled).perform origin judge prepare) space =
      (membership value ((space.memos.get? origin).getD compiled).allowed, space) := by
  rw [runEnum_eq found, Program.start_recollect, if_pos same.symm, Program.start_ofExcept]

/-- What is remembered after another array was looked at, whether or not it could be read. -/
def noted (graph : Graph) (memo : Memo) (current : Ref) : Memo :=
  match memberForms graph current with
  | .ok allowed => ⟨current, allowed⟩
  | .error _ => { memo with source := current }

theorem noted_source (memo : Memo) : (noted graph memo current).source = current := by
  unfold noted
  split <;> rfl

theorem noted_eq {memo : Memo} {allowed : List Canon} (read : memberForms graph current = .ok allowed) :
    noted graph memo current = ⟨current, allowed⟩ := by
  simp only [noted, read]

/-- Another array is in place. The check takes note of it before it reads it. -/
theorem start_runEnum_other (found : graph.field? node "enum" = some current)
    (other : ((space.memos.get? origin).getD compiled).source ≠ current) :
    Run.start ((runEnum graph value node compiled).perform origin judge prepare) space =
      (memberForms graph current >>= membership value,
        space.noting origin (noted graph ((space.memos.get? origin).getD compiled) current)) := by
  rw [runEnum_eq found, Program.start_recollect, if_neg fun equal => other equal.symm, Program.start_remember,
    Program.start_perform_bind, Program.start_ofExcept]
  unfold noted Workspace.noting
  cases memberForms graph current with
  | error failure => rfl
  | ok allowed =>
    simp only [Program.start_remember, Program.start_ofExcept, Table.set_set]
    rfl

theorem start_runEnum_absent (absent : graph.field? node "enum" = none) :
    (Run.start ((runEnum graph value node compiled).perform origin judge prepare) space).2 = space := by
  cases required : graph.require node "enum" with
  | error fault => simp only [runEnum, required]; rfl
  | ok part => cases (Graph.require_ok required).symm.trans absent

end Perform

section Plain

open Program (Within)

private theorem plain_ofExcept (outcome : Except Failure α) : (Program.ofExcept outcome).Within .free :=
  Program.within_ofExcept fun _ _ => trivial

private theorem plain_live (reading : Except Fault α) : (Program.live reading).Within .free :=
  Program.within_live fun _ _ => trivial

private theorem plain_descend (value : Value) (node : Ref) : (Program.descend value node).Within .free :=
  Program.within_descend trivial fun _ => trivial

private theorem plain_member (value : Value) (member : Member) : (Program.memberVerdict value member).Within .free := by
  cases member with
  | node ref => exact Program.within_verdict trivial
  | loose _ => trivial

theorem runAdditionalItem_plain (index : Nat) (item : Value) :
    (runAdditionalItem graph index item node).Within .free := by
  apply Program.Within.bind (plain_live _)
  intro additional
  split
  · trivial
  · split
    · exact plain_descend _ _
    · trivial
  · trivial

theorem runItem_plain (check : ItemCheck) (index : Nat) (item : Value) :
    (runItem graph index item node check).Within .free := by
  cases check with
  | every => exact .bind (plain_live _) fun items => plain_descend _ _
  | positional =>
    apply Program.Within.bind (plain_live _)
    intro items
    apply Program.Within.bind (plain_ofExcept _)
    intro schema
    cases schema with
    | some schema => exact plain_descend _ _
    | none => exact runAdditionalItem_plain index item

theorem runItems_plain (check : ItemCheck) (index : Nat) (items : List Value) :
    (runItems graph check node index items).Within .free := by
  induction items generalizing index with
  | nil => trivial
  | cons item rest ih => exact .bind (runItem_plain check index item) fun _ => ih (index + 1)

theorem runContains_plain (schema : Ref) (items : List Value) : (runContains schema items).Within .free := by
  induction items with
  | nil => trivial
  | cons item rest ih =>
    apply Program.Within.bind (Program.within_verdict trivial)
    intro verdict
    cases verdict with
    | none => trivial
    | some _ => exact ih

theorem runArrayChecks_plain (items : List Value) (checks : List ArrayCheck) :
    (runArrayChecks graph items node checks).Within .free := by
  induction checks with
  | nil => trivial
  | cons check rest ih =>
    refine .bind ?_ fun _ => ih
    cases check with
    | contains => exact .bind (plain_live _) fun schema => ⟨trivial, runContains_plain schema items⟩
    | unique => exact plain_ofExcept _
    | size check => exact plain_ofExcept _

theorem runArray_plain (items : Option ItemCheck) (all : List ArrayCheck) (value : Value) :
    (runArray graph items all value node).Within .free := by
  unfold runArray
  split
  next parts =>
    cases items with
    | none => exact runArrayChecks_plain parts all
    | some check => exact .bind (runItems_plain check 0 parts) fun _ => runArrayChecks_plain parts all
  next =>
    apply Program.Within.bind (plain_live _)
    intro type
    split <;> trivial

theorem runPatterns_plain (known : List Pattern) (name : String) (item : Value) (patterns : Entries Ref)
    (matched : Bool) : (runPatterns known name item matched patterns).Within .free := by
  induction patterns generalizing matched with
  | nil => trivial
  | cons entry rest ih =>
    apply Program.Within.bind (plain_ofExcept _)
    intro pattern
    split
    · exact .bind (plain_descend _ _) fun _ => ih true
    · exact ih matched

theorem runKeyCheck_plain (entry : EntryContext) (check : KeyCheck) (matched : Bool) :
    (runKeyCheck graph entry node matched check).Within .free := by
  cases check with
  | properties =>
    refine .bind (.bind (plain_live _) fun properties => ?_) fun _ => trivial
    split
    · split
      · exact plain_descend _ _
      · trivial
    · trivial
  | patternProperties known =>
    simp only [runKeyCheck, runPatternProperties]
    split
    · trivial
    · exact .bind (plain_live _) fun patterns => runPatterns_plain known _ _ patterns matched
  | additionalSchema =>
    apply Program.Within.bind (plain_live _)
    intro additional
    split
    · exact .bind (plain_live _) fun schema => .bind (plain_descend _ _) fun _ => trivial
    · trivial
  | noAdditional =>
    apply Program.Within.bind (plain_live _)
    intro additional
    split <;> trivial
  | dependencies =>
    refine .bind (.bind (plain_live _) fun dependencies => ?_) fun _ => trivial
    split
    · trivial
    · trivial
    · split
      · exact plain_ofExcept _
      · exact plain_descend _ _
  | propertyNames => exact .bind (plain_live _) fun schema => .bind (plain_descend _ _) fun _ => trivial

theorem runEntries_plain (checks : List KeyCheck) (container entries : Entries Value) :
    (runEntries graph checks container node entries).Within .free := by
  have keys : ∀ (entry : EntryContext) (checks : List KeyCheck) (matched : Bool),
      (runKeyChecks graph entry node matched checks).Within .free := by
    intro entry checks
    induction checks with
    | nil => exact fun _ => trivial
    | cons check rest ih => exact fun matched => .bind (runKeyCheck_plain entry check matched) ih
  induction entries with
  | nil => trivial
  | cons entry rest ih => exact .bind (keys _ checks false) fun _ => ih

theorem runObject_plain (entries : List KeyCheck) (required : List String) (tally : List TallyCheck) (value : Value) :
    (runObject graph entries required tally value node).Within .free := by
  unfold runObject
  split
  · exact .bind (runEntries_plain entries _ _) fun _ => plain_ofExcept _
  · apply Program.Within.bind (plain_live _)
    intro type
    split <;> trivial

theorem runAllOf_plain (value : Value) (members : List Member) : (runAllOf value members).Within .free := by
  induction members with
  | nil => trivial
  | cons member rest ih =>
    apply Program.Within.bind (plain_member value member)
    intro verdict
    cases verdict with
    | none => exact ih
    | some _ => trivial

theorem runAnyOf_plain (value : Value) (members : List Member) : (runAnyOf value members).Within .free := by
  induction members with
  | nil => trivial
  | cons member rest ih =>
    apply Program.Within.bind (plain_member value member)
    intro verdict
    cases verdict with
    | none => trivial
    | some _ => exact ih

theorem runOneOf_plain (value : Value) (members : List Member) (found : Bool) :
    (runOneOf value found members).Within .free := by
  induction members generalizing found with
  | nil => cases found <;> trivial
  | cons member rest ih =>
    simp only [runOneOf]
    apply Program.Within.bind (plain_member value member)
    intro verdict
    cases verdict with
    | none =>
      cases found with
      | true => trivial
      | false => exact ih true
    | some _ => exact ih found

end Plain
end Keyword

/-- Whatever has become of the schema, only the checks of `enum` remember something. -/
theorem Check.run_plain {mode : MultipleMode} {check : Check} (plain : check.isEnum = false) (value : Value) :
    (check.run graph mode value node).Within .free := by
  cases check with
  | enum memo => cases plain
  | null | types | const | isObject | number | isNumber | text | isText | isArray | isBoolean =>
    exact Program.within_ofExcept fun _ _ => trivial
  | object entries required tally => exact Keyword.runObject_plain entries required tally value
  | array items all => exact Keyword.runArray_plain items all value
  | allOf => exact .bind (Program.within_live fun _ _ => trivial) fun members => Keyword.runAllOf_plain value members
  | anyOf => exact .bind (Program.within_live fun _ _ => trivial) fun members => Keyword.runAnyOf_plain value members
  | oneOf => exact .bind (Program.within_live fun _ _ => trivial) fun members => Keyword.runOneOf_plain value members false
  | not =>
    apply Program.Within.bind (Program.within_live fun _ _ => trivial)
    intro schema
    apply Program.Within.bind (Program.within_verdict trivial)
    intro verdict
    cases verdict <;> trivial

end LiveSchema
