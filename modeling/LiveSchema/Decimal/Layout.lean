import LiveSchema.Decimal

/-! How a decimal numeral is laid out: positional notation near one, an
exponent elsewhere. -/

namespace LiveSchema

structure Layout where
  /-- Numerals whose first digit has a place from here on are positional. -/
  firstPlace : Int
  /-- Numerals whose first digit has this place or a higher one are not. -/
  placeLimit : Int
  /-- A positional numeral without a fraction gets this ending. -/
  wholeEnding : String
  /-- An exponent has at least so many digits. -/
  exponentWidth : Nat

namespace Layout

/-- Positional from `0.0001` to below `10 ^ 16`, with `.0` after a whole number,
and a signed exponent of two digits elsewhere. -/
def standard : Layout := ⟨-4, 16, ".0", 2⟩

def zeros (count : Nat) : String := String.ofList (List.replicate count '0')

def padded (width value : Nat) : String :=
  let digits := toString value
  zeros (width - digits.length) ++ digits

def positional (layout : Layout) (digits : List Char) (point : Int) : String :=
  if point ≤ 0 then "0." ++ zeros point.natAbs ++ String.ofList digits
  else if digits.length ≤ point.natAbs then
    String.ofList digits ++ zeros (point.natAbs - digits.length) ++ layout.wholeEnding
  else
    String.ofList (digits.take point.natAbs) ++ "." ++ String.ofList (digits.drop point.natAbs)

def scientific (layout : Layout) (digits : List Char) (place : Int) : String :=
  let lead := String.ofList (digits.take 1)
  let rest := digits.drop 1
  let mantissa := if rest.isEmpty then lead else lead ++ "." ++ String.ofList rest
  let sign := if place < 0 then "-" else "+"
  mantissa ++ "e" ++ sign ++ padded layout.exponentWidth place.natAbs

def render (layout : Layout) (decimal : Decimal) : String :=
  let digits := (toString decimal.digits).toList
  let place : Int := digits.length + decimal.exponent - 1
  if layout.firstPlace ≤ place ∧ place < layout.placeLimit then
    layout.positional digits (place + 1)
  else
    layout.scientific digits place

end Layout

namespace Double

def text : Double → String
  | .nan => "nan"
  | .infinite negative => if negative then "-inf" else "inf"
  | .finite negative exponent fraction =>
    let body := Layout.standard.render (shortest exponent fraction)
    if negative then "-" ++ body else body

end Double
end LiveSchema
