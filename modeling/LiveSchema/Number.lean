import LiveSchema.Decimal.Layout

/-! Numbers: whole numbers of any size and doubles, compared by exact value.
Divisibility has two tests, one on decimal numerals and one on rounded
quotients. -/

namespace LiveSchema

inductive Number where
  | int (value : Int)
  | double (value : Double)
deriving DecidableEq, Repr, Inhabited

/-- A point of the number line with its two ends. -/
inductive Extended where
  | bottom
  | finite (value : Rat)
  | top
deriving DecidableEq, Inhabited

namespace Extended

def le : Extended → Extended → Bool
  | .bottom, _ => true
  | _, .top => true
  | .finite left, .finite right => left ≤ right
  | _, _ => false

def lt (left right : Extended) : Bool := !le right left

end Extended

namespace Number

def zero : Number := .int 0

/-- The place of a number on the number line; NaN has none. -/
def place? : Number → Option Extended
  | .int value => some (.finite value)
  | .double .nan => none
  | .double (.infinite negative) => some (if negative then .bottom else .top)
  | .double value => value.toRat?.map .finite

def isNaN : Number → Bool
  | .double .nan => true
  | _ => false

/-- Whole numbers and doubles whose value is whole. -/
def isWhole : Number → Bool
  | .int _ => true
  | .double value => value.toRat?.any fun rational => rational.den == 1

/-- `left < right`; nothing is below or above NaN. -/
def lt (left right : Number) : Bool :=
  match left.place?, right.place? with
  | some left, some right => left.lt right
  | _, _ => false

def le (left right : Number) : Bool :=
  match left.place?, right.place? with
  | some left, some right => left.le right
  | _, _ => false

/-- Whether a number differs from zero; NaN does. -/
def isTruthy : Number → Bool
  | .int value => value != 0
  | .double value => !value.isZero

/-- The most digits that a whole number is written with. -/
def digitLimit : Nat := 4300

/-- Whether a number has a text. A whole number of too many digits has none; its sign is
not counted. -/
def isWritable : Number → Bool
  | .int value => (Nat.toDigits 10 value.natAbs).length ≤ digitLimit
  | .double _ => true

/-- The text of a number that has one. -/
def text : Number → String
  | .int value => toString value
  | .double value => value.text

/-- The number that a numeral stands for: a whole number itself, a double the
value of its shortest numeral. Infinities and NaN have no numeral. -/
def numeral? : Number → Option Rat
  | .int value => some value
  | .double (.finite negative exponent fraction) =>
    let size := (Double.shortest exponent fraction).toRat
    some (if negative then -size else size)
  | .double _ => none

inductive Divisibility where
  | multiple
  | other
  | byZero
deriving DecidableEq, Repr

def Divisibility.ofBool (isMultiple : Bool) : Divisibility :=
  if isMultiple then .multiple else .other

/-- What is left of a fraction once it is divided and the quotient rounded down. -/
def remainder (value divisor : Rat) : Rat := value - divisor * (value / divisor).floor

/-- Divisibility of the numerals as fractions: nothing is left. -/
def ratioDivisibility (value divisor : Number) : Divisibility :=
  match value.numeral?, divisor.numeral? with
  | some value, some divisor =>
    if divisor = 0 then .byZero else .ofBool (remainder value divisor = 0)
  | _, _ => .other

/-- Divisibility of the numerals. Two whole numbers are divided as they are. -/
def numeralDivisibility (value divisor : Number) : Divisibility :=
  match value, divisor with
  | .int value, .int divisor =>
    if divisor = 0 then .byZero else .ofBool (value % divisor = 0)
  | value, divisor => value.ratioDivisibility divisor

def toDouble? : Number → Option Double
  | .double value => some value
  | .int value => (Double.ofRat value).bounded?

/-- Whether the rounded quotient of two doubles is whole. A finite number over
an infinite one rounds to zero. -/
def doubleDivisibility (value divisor : Double) : Divisibility :=
  if divisor.isZero then .byZero
  else
    match value.toRat?, divisor with
    | some value, .finite .. =>
      .ofBool (divisor.toRat?.any fun divisor =>
        (Number.double (Double.ofRat (value / divisor))).isWhole)
    | some _, .infinite _ => .multiple
    | _, _ => .other

/-- Divisibility of rounded quotients. Whole numbers are divided exactly before
rounding; otherwise both operands are rounded to doubles first, and an operand
too large for that is no multiple. -/
def quotientDivisibility (value divisor : Number) : Divisibility :=
  match value, divisor with
  | .int value, .int divisor =>
    if divisor = 0 then .byZero
    else .ofBool (Number.double (Double.ofRat ((value : Rat) / divisor))).isWhole
  | value, divisor =>
    match value.toDouble?, divisor.toDouble? with
    | some value, some divisor => doubleDivisibility value divisor
    | _, _ => .other

end Number
end LiveSchema
