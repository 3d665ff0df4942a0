/-! Double-precision numbers and their exact values. A finite double is a whole
multiple of `2 ^ -1074`, so its value is a rational, and rounding a rational to
the nearest double needs whole numbers only. -/

namespace LiveSchema

def powerOfTwo (exponent : Nat) : Nat := Nat.pow 2 exponent

def powerOfTen (exponent : Nat) : Nat := Nat.pow 10 exponent

/-- How many fractions there are: two to the power of fifty-two. -/
abbrev fractionCount : Nat := 4503599627370496

/-- A double-precision number: eleven exponent bits, fifty-two fraction bits.
The exponent field of an infinity or of NaN is not in range, so every double
but NaN has one representation. -/
inductive Double where
  | nan
  | infinite (negative : Bool)
  | finite (negative : Bool) (exponent : Fin 2047) (fraction : Fin fractionCount)
deriving DecidableEq, Repr, Inhabited

namespace Double

/-- The whole number whose scaled value a finite double is: a leading one is
implied unless the exponent field is zero. -/
def significand (exponent : Fin 2047) (fraction : Fin fractionCount) : Nat :=
  if exponent.val = 0 then fraction.val else fraction.val + fractionCount

/-- Finite doubles of one exponent are `2 ^ unit` apart, counted in `2 ^ -1074`. -/
def unit (exponent : Fin 2047) : Nat := exponent.val - 1

/-- The number of units of `2 ^ -1074` in a finite double, without its sign. -/
def magnitude (exponent : Fin 2047) (fraction : Fin fractionCount) : Nat :=
  significand exponent fraction * powerOfTwo (unit exponent)

/-- The value of a finite double; `none` for NaN and the infinities. -/
def toRat? : Double → Option Rat
  | .finite negative exponent fraction =>
    let size : Int := magnitude exponent fraction
    some (mkRat (if negative then -size else size) (powerOfTwo 1074))
  | _ => none

def isFinite : Double → Bool
  | .finite .. => true
  | _ => false

def bounded? : Double → Option Double
  | .infinite _ => none
  | value => some value

def isZero : Double → Bool
  | .finite _ exponent fraction => magnitude exponent fraction = 0
  | _ => false

/-- The double of a sign, a significand below `2 ^ 53` and a unit. Beyond the
largest unit there is only infinity. -/
def ofUnits (negative : Bool) (significand unit : Nat) : Double :=
  let field := if significand < fractionCount then 0 else unit + 1
  if inRange : field < 2047 then
    .finite negative ⟨field, inRange⟩ ⟨significand % fractionCount, Nat.mod_lt _ (by decide)⟩
  else
    .infinite negative

/-- The whole number nearest to a quotient, the even one when two are equally near. -/
def divideToEven (numerator denominator : Nat) : Nat :=
  let quotient := numerator / denominator
  let twice := 2 * (numerator % denominator)
  if twice < denominator then quotient
  else if denominator < twice then quotient + 1
  else quotient + quotient % 2

/-- The double nearest to a quotient of whole numbers; a tie goes to the even
significand, and a quotient beyond every finite double to infinity. -/
def nearest (negative : Bool) (numerator denominator : Nat) : Double :=
  let scaled := numerator * powerOfTwo 1074
  let unit := (scaled / denominator).log2 - 52
  let rounded := divideToEven scaled (denominator * powerOfTwo unit)
  if rounded = 2 * fractionCount then ofUnits negative fractionCount (unit + 1)
  else ofUnits negative rounded unit

def ofRat (value : Rat) : Double := nearest (value.num < 0) value.num.natAbs value.den

/-- The double that a decimal numeral denotes. Numerals far outside the range of
doubles are settled by their size alone. -/
def ofDecimal (negative : Bool) (digits : Nat) (exponent : Int) : Double :=
  let size : Int := (toString digits).length + exponent
  if digits = 0 ∨ size < -330 then nearest negative 0 1
  else if 310 < size then .infinite negative
  else if exponent < 0 then nearest negative digits (powerOfTen exponent.natAbs)
  else nearest negative (digits * powerOfTen exponent.natAbs) 1

end Double
end LiveSchema
