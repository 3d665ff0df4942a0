import LiveSchema.Pattern.Matcher
import LiveSchema.Pattern.Reader

/-! Compiled patterns. A pattern carries its source and the proof that it is what
the source reads as, so looking one up by its source is as good as compiling anew. -/

namespace LiveSchema

structure Pattern where
  source : String
  expr : Pattern.Expr
  reads : Pattern.read source = .ok expr

namespace Pattern

def compile (source : String) : Except Refusal Pattern :=
  match reads : read source with
  | .ok expr => .ok ⟨source, expr, reads⟩
  | .error refusal => .error refusal

def foundIn (pattern : Pattern) (text : String) : Bool := pattern.expr.foundIn text

/-- A known pattern of this source, or a new one. Whether a new one is known from then on
makes no difference: by `lookUp_eq_compile` the answer depends on the source alone. -/
def lookUp (known : List Pattern) (source : String) : Except Refusal Pattern :=
  match known.find? fun pattern => pattern.source == source with
  | some pattern => .ok pattern
  | none => compile source

theorem compile_source (pattern : Pattern) : compile pattern.source = .ok pattern := by
  unfold compile
  split
  · next expr reads =>
    have same : pattern.expr = expr := by simpa [pattern.reads] using reads
    cases pattern
    cases same
    rfl
  · next refusal reads => simp [pattern.reads] at reads

/-- Knowing patterns changes nothing but the work. -/
theorem lookUp_eq_compile (known : List Pattern) (source : String) :
    lookUp known source = compile source := by
  unfold lookUp
  split
  · next pattern found =>
    have same : pattern.source = source := by
      simpa using List.find?_some found
    rw [← same, compile_source]
  · rfl

end Pattern
end LiveSchema
