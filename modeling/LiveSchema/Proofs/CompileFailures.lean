import LiveSchema.Proofs.CheckLimits

/-! How a compilation fails. It looks at no value, so what it reports is about the schema: a
defect, an edit that left a keyword in a shape that cannot be read, or a node that contains
itself and has no end. A violation is never among it. -/

namespace LiveSchema

/-- A failure that says something about a schema. -/
def Failure.OfSchema : Failure → Prop
  | .defect _ | .fault _ | .endless => True
  | _ => False

namespace Except.FailsAs

variable {fails : Failure → Prop} {fields : Entries Ref} {keyword : String}

theorem reject (defect : Defect) : FailsAs Failure.OfSchema (LiveSchema.reject defect : Except Failure α) := .error trivial

theorem guard {condition : Prop} [Decidable condition] (result : α) (defect : Defect) :
    FailsAs Failure.OfSchema (if condition then .ok result else LiveSchema.reject defect) := by
  split
  · exact .ok _
  · exact .reject _

theorem guarded {condition : Prop} [Decidable condition] {defect : Defect} {rest : Unit → Except Failure α}
    (continues : FailsAs Failure.OfSchema (rest ())) :
    FailsAs Failure.OfSchema (if condition then rest () else LiveSchema.reject defect >>= rest) := by
  split
  · exact continues
  · exact .reject _

theorem mapM {f : α → Except Failure β} {items : List α} (each : ∀ item ∈ items, FailsAs fails (f item)) :
    FailsAs fails (items.mapM f) := by
  induction items with
  | nil => exact .ok []
  | cons item rest ih =>
    rw [List.mapM_cons]
    refine .bind (each item List.mem_cons_self) fun _ _ => .bind ?_ fun _ _ => .ok _
    exact ih fun other member => each other (List.mem_cons_of_mem _ member)

/-- What is made of a keyword, if it is there. -/
theorem present {compile : Ref → Except Failure α} {absent : α} (each : ∀ part, FailsAs fails (compile part)) :
    FailsAs fails (match fields.keyword? keyword with
      | none => .ok absent
      | some part => compile part) := by
  split
  · exact .ok absent
  · exact each _

theorem optional {compile : Ref → Except Failure α} {absent : α} {rest : α → Except Failure β}
    (each : ∀ part, FailsAs fails (compile part)) (continues : ∀ result, FailsAs fails (rest result)) :
    FailsAs fails (match fields.keyword? keyword with
      | some part => compile part >>= rest
      | none => rest absent) := by
  split
  · exact .bind (each _) fun result _ => continues result
  · exact continues absent

end Except.FailsAs

open LiveSchema.Except (FailsAs)

variable {graph : Graph} {fields : Entries Ref}

theorem SizeCheck.compile?_fails (keyword : String) (direction : Direction) :
    FailsAs Failure.OfSchema (compile? graph fields keyword direction) :=
  .present fun _ => .bind (.guard _ _) fun _ _ => .ok _

namespace Keyword

theorem memberForms_fails (part : Ref) : FailsAs Failure.OfSchema (memberForms graph part) := by
  unfold memberForms
  refine .bind ?_ fun members _ => .mapM fun member _ => ?_
  · cases graph.members part with
    | ok members => exact .ok members
    | error fault => exact .error trivial
  · cases graph.memberValue? member with
    | some value => exact .ok value.canon
    | none => exact .error trivial

theorem compileType_fails (part : Ref) : FailsAs Failure.OfSchema (compileType graph part) := by
  unfold compileType
  split
  · split
    · exact .reject _
    · exact .ok _
    · exact .ok _
  · split
    · exact .reject _
    · exact .reject _
    · split
      · exact .reject _
      · exact .ok _

theorem compileEnum_fails (part : Ref) : FailsAs Failure.OfSchema (compileEnum graph part) := by
  unfold compileEnum
  split
  · exact .bind (memberForms_fails part) fun _ _ => .ok _
  · exact .reject _

theorem compileKind_fails : FailsAs Failure.OfSchema (compileKind graph fields) :=
  .optional compileType_fails fun _ => .optional compileEnum_fails fun _ => .ok _

theorem compilePattern_fails (keyword source : String) : FailsAs Failure.OfSchema (compilePattern keyword source) := by
  unfold compilePattern
  split
  · exact .ok _
  · exact .reject _
  · exact .error trivial
  · exact .error trivial

theorem written_fails (value : Value) : FailsAs Failure.OfSchema (written value) := by
  unfold written
  split
  · exact .ok _
  · exact .error trivial

theorem compileEntryPattern_fails (name : Key) : FailsAs Failure.OfSchema (compileEntryPattern name) := by
  cases name with
  | text source => exact compilePattern_fails _ _
  | int value => exact .bind (written_fails _) fun _ _ => .reject _

theorem compileProperties_fails : FailsAs Failure.OfSchema (compileProperties graph fields) := by
  refine .present fun part => ?_
  split
  · exact .ok _
  · exact .reject _

theorem compilePatternProperties_fails : FailsAs Failure.OfSchema (compilePatternProperties graph fields) := by
  refine .present fun part => ?_
  split
  · exact .bind (.mapM fun entry _ => compileEntryPattern_fails entry.1) fun _ _ => .ok _
  · exact .reject _

theorem compileAdditional_fails : FailsAs Failure.OfSchema (compileAdditional graph fields) := by
  refine .present fun part => ?_
  split
  · exact .ok _
  · exact .ok _
  · exact .ok _
  · exact .reject _

theorem compileDependencies_fails : FailsAs Failure.OfSchema (compileDependencies graph fields) := by
  refine .present fun part => ?_
  split
  · exact .reject _
  · exact .guard _ _

theorem compileRequired_fails : FailsAs Failure.OfSchema (compileRequired graph fields) := by
  refine .present fun part => .bind ?_ fun _ _ => .ok _
  unfold requiredNames
  split
  · split
    · exact .guard _ _
    · exact .reject _
  · exact .reject _

/-- A family has its own check, only that of its type, or none. -/
private theorem chosen_fails {fails : Failure → Prop} {settled typed : Prop} [Decidable settled] [Decidable typed]
    (own type none : α) : FailsAs fails (if settled then .ok own else if typed then .ok type else .ok none) := by
  split
  · exact .ok _
  · split <;> exact .ok _

theorem compileObject_fails : FailsAs Failure.OfSchema (compileObject graph fields) := by
  refine .bind compileProperties_fails fun _ _ => .bind compilePatternProperties_fails fun _ _ => ?_
  refine .bind compileAdditional_fails fun _ _ => .bind compileDependencies_fails fun _ _ => ?_
  refine .bind (.present fun _ => .guard _ _) fun _ _ => .bind compileRequired_fails fun _ _ => ?_
  refine .bind (SizeCheck.compile?_fails _ _) fun _ _ => .bind (SizeCheck.compile?_fails _ _) fun _ _ => ?_
  exact chosen_fails _ _ _

theorem checkBound_fails (whole : Bool) (keyword exclusive : String) :
    FailsAs Failure.OfSchema (checkBound graph fields whole keyword exclusive) := by
  unfold checkBound
  split
  · refine .guarded ?_
    split
    · exact .guard _ _
    · exact .ok ()
  · exact .ok ()

theorem checkExclusive_fails (keyword : String) : FailsAs Failure.OfSchema (checkExclusive graph fields keyword) := by
  unfold checkExclusive
  split
  · exact .guard _ _
  · exact .ok ()

theorem checkMultipleOf_fails (whole : Bool) : FailsAs Failure.OfSchema (checkMultipleOf graph fields whole) := by
  unfold checkMultipleOf
  split
  · exact .guarded (.guard _ _)
  · exact .ok ()

theorem compileNumber_fails : FailsAs Failure.OfSchema (compileNumber graph fields) := by
  refine .bind (checkBound_fails _ _ _) fun _ _ => .bind (checkBound_fails _ _ _) fun _ _ => ?_
  refine .bind (checkExclusive_fails _) fun _ _ => .bind (checkExclusive_fails _) fun _ _ => ?_
  exact .bind (checkMultipleOf_fails _) fun _ _ => chosen_fails _ _ _

theorem compilePatternKeyword_fails : FailsAs Failure.OfSchema (compilePatternKeyword graph fields) := by
  refine .present fun part => ?_
  split
  · exact .bind (compilePattern_fails _ _) fun _ _ => .ok _
  · exact .reject _

theorem compileText_fails : FailsAs Failure.OfSchema (compileText graph fields) := by
  refine .bind (SizeCheck.compile?_fails _ _) fun _ _ => .bind (SizeCheck.compile?_fails _ _) fun _ _ => ?_
  exact .bind compilePatternKeyword_fails fun _ _ => chosen_fails _ _ _

theorem compileItems_fails (part : Ref) : FailsAs Failure.OfSchema (compileItems graph part) := by
  unfold compileItems
  split
  · exact .ok _
  · split
    · exact .guard _ _
    · exact .reject _

theorem compileUnique_fails : FailsAs Failure.OfSchema (compileUnique graph fields) := by
  refine .present fun part => ?_
  split
  · exact .ok _
  · exact .ok _
  · exact .reject _

theorem compileArray_fails : FailsAs Failure.OfSchema (compileArray graph fields) := by
  refine .guarded (.optional (fun part => ?_) fun _ => ?_)
  · exact .bind (compileItems_fails part) fun _ _ => .ok _
  refine .bind (.present fun _ => .guard _ _) fun _ _ => .bind compileUnique_fails fun _ _ => ?_
  refine .bind (SizeCheck.compile?_fails _ _) fun _ _ => .bind (SizeCheck.compile?_fails _ _) fun _ _ => ?_
  exact chosen_fails _ _ _

theorem checkMembers_fails (keyword : String) : FailsAs Failure.OfSchema (checkMembers graph fields keyword) := by
  unfold checkMembers
  split
  · split
    · exact .guard _ _
    · exact .reject _
  · exact .ok ()

theorem compileCombinators_fails : FailsAs Failure.OfSchema (compileCombinators graph fields) := by
  refine .bind (checkMembers_fails _) fun _ _ => .bind (checkMembers_fails _) fun _ _ => ?_
  exact .bind (checkMembers_fails _) fun _ _ => .bind (.present fun _ => .guard _ _) fun _ _ => .ok _

end Keyword

open Keyword

theorem Family.compile_fails (family : Family) : FailsAs Failure.OfSchema (family.compile graph fields) := by
  cases family with
  | kind => exact compileKind_fails
  | object => exact compileObject_fails
  | number => exact compileNumber_fails
  | text => exact compileText_fails
  | array => exact compileArray_fails
  | boolean => exact .ok _
  | combinators => exact compileCombinators_fails

theorem Family.compileAll_fails (families : List Family) : FailsAs Failure.OfSchema (compileAll graph fields families) := by
  induction families with
  | nil => exact .ok []
  | cons family rest ih => exact .bind family.compile_fails fun _ _ => .bind ih fun _ _ => .ok _

theorem compileNode_fails (graph : Graph) (node : Ref) : FailsAs Failure.OfSchema (compileNode graph node) := by
  unfold compileNode
  split
  · exact .ok []
  · exact Family.compileAll_fails _
  · exact .reject _

end LiveSchema
