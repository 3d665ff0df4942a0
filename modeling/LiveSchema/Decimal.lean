import LiveSchema.Double

/-! Decimal numerals, and the shortest one that identifies a double. The
numerals that round to a double form an interval around its value; of the
numerals inside with the fewest digits the one nearest to the value is chosen. -/

namespace LiveSchema

structure Decimal where
  digits : Nat
  exponent : Int
deriving DecidableEq, Repr, Inhabited

namespace Decimal

def toRat (decimal : Decimal) : Rat :=
  if decimal.exponent < 0 then mkRat decimal.digits (powerOfTen decimal.exponent.natAbs)
  else ((decimal.digits * powerOfTen decimal.exponent.natAbs : Nat) : Rat)

/-- Moves trailing zeros of the digits into the exponent, at most `limit` of them. -/
def stripZeros (limit : Nat) (decimal : Decimal) : Decimal :=
  match limit with
  | 0 => decimal
  | limit + 1 =>
    if decimal.digits ≠ 0 ∧ decimal.digits % 10 = 0 then
      stripZeros limit ⟨decimal.digits / 10, decimal.exponent + 1⟩
    else decimal

/-- Compares a decimal with the fraction `numerator / denominator`. -/
def compareFraction (decimal : Decimal) (numerator denominator : Nat) : Ordering :=
  if decimal.exponent < 0 then
    compare (decimal.digits * denominator) (numerator * powerOfTen decimal.exponent.natAbs)
  else
    compare (decimal.digits * powerOfTen decimal.exponent.natAbs * denominator) numerator

/-- The least power of ten above a positive fraction. Binary logarithms give it
up to two places, and the comparison settles which. -/
def scale (numerator denominator : Nat) : Int :=
  let estimate := ((numerator.log2 : Int) - denominator.log2 - 1) * 1233 / 4096 - 1
  let above (step : Nat) : Bool :=
    (⟨1, estimate + step⟩ : Decimal).compareFraction numerator denominator == .gt
  estimate + ((List.range 8).find? above).getD 8

end Decimal

namespace Double

/-- The numerals that round to a double, as numbers of quarter units: the ends
lie halfway to the neighbours and count when the significand is even. Below a
power of two the neighbour is nearer. -/
structure Neighbourhood where
  low : Nat
  centre : Nat
  high : Nat
  closed : Bool

def neighbourhood (exponent : Fin 2047) (fraction : Fin fractionCount) : Neighbourhood :=
  let significand := significand exponent fraction
  let step := powerOfTwo (unit exponent)
  let below := if fraction.val = 0 ∧ 1 < exponent.val then 1 else 2
  { low := (4 * significand - below) * step
    centre := 4 * significand * step
    high := (4 * significand + 2) * step
    closed := significand % 2 = 0 }

def quarters : Nat := powerOfTwo 1076

namespace Neighbourhood

def contains (hood : Neighbourhood) (decimal : Decimal) : Bool :=
  let low := decimal.compareFraction hood.low quarters
  let high := decimal.compareFraction hood.high quarters
  if hood.closed then low != .lt && high != .gt else low == .gt && high == .lt

/-- The numeral with `count` digits nearest to the centre, if one with so few
digits lies inside. Two equally near numerals are settled by the even digit. -/
def select? (hood : Neighbourhood) (scale : Int) (count : Nat) : Option Decimal :=
  let exponent := scale - count
  let floor :=
    if exponent < 0 then hood.centre * powerOfTen exponent.natAbs / quarters
    else hood.centre / (quarters * powerOfTen exponent.natAbs)
  let down : Decimal := ⟨floor, exponent⟩
  let up : Decimal := ⟨floor + 1, exponent⟩
  match hood.contains down, hood.contains up with
  | true, true =>
    match (⟨2 * floor + 1, exponent⟩ : Decimal).compareFraction (2 * hood.centre) quarters with
    | .gt => some down
    | .lt => some up
    | .eq => some (if floor % 2 = 0 then down else up)
  | true, false => some down
  | false, true => some up
  | false, false => none

end Neighbourhood

/-- The shortest numeral that reads back as a finite double, without its sign.
Seventeen digits always suffice; the exact value stands behind them. -/
def shortest (exponent : Fin 2047) (fraction : Fin fractionCount) : Decimal :=
  if magnitude exponent fraction = 0 then ⟨0, 0⟩
  else
    let hood := neighbourhood exponent fraction
    let scale := Decimal.scale hood.centre quarters
    match (List.range 17).findSome? fun index => hood.select? scale (index + 1) with
    | some decimal => decimal.stripZeros 17
    | none => ⟨magnitude exponent fraction * Nat.pow 5 1074, -1074⟩

end Double
end LiveSchema
