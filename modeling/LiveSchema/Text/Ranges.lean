/-! Sets of characters as ascending ranges of code points. -/

namespace LiveSchema

/-- Ranges of code points, both ends included, in ascending order. -/
structure CodeRanges where
  bounds : Array (Nat × Nat)

namespace CodeRanges

/-- Looks for a code point between two positions by halving, at most `steps` times. -/
def search (ranges : CodeRanges) (code : Nat) : (steps low high : Nat) → Bool
  | 0, _, _ => false
  | steps + 1, low, high =>
    if high ≤ low then false
    else
      let middle := (low + high) / 2
      match ranges.bounds[middle]? with
      | none => false
      | some (first, last) =>
        if code < first then search ranges code steps low middle
        else if last < code then search ranges code steps (middle + 1) high
        else true

/-- Membership. Twenty halvings are enough for any set of code points. -/
def contains (ranges : CodeRanges) (code : Nat) : Bool :=
  ranges.search code 21 0 ranges.bounds.size

end CodeRanges
end LiveSchema
