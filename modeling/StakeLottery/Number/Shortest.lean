import StakeLottery.Number.Binary64
import StakeLottery.Number.Decimal

/-!
The shortest decimal that reads back to the same floating point number, and its layout as text.
-/

namespace StakeLottery

structure ShortDecimal where
  digits : Nat
  power : Int
  deriving DecidableEq, Repr

namespace ShortDecimal

/-- A positive number with the interval of reals that round to it. All three are numerators
over one denominator, and the ends belong to the interval when `closed` is set. -/
structure Neighbourhood where
  low : Nat
  value : Nat
  high : Nat
  denominator : Nat
  closed : Bool

/-- The reals that round to a positive number `significand` times a power of two: half a step to
either side, but a quarter step down where the step itself halves there. -/
def neighbourhood (significand : Nat) (exponent : Int) : Neighbourhood :=
  let below := if significand = Binary64.fractionValues ∧ -1074 < exponent then 1 else 2
  let step := Nat.pow 2 exponent.toNat
  { low := (4 * significand - below) * step
    value := 4 * significand * step
    high := (4 * significand + 2) * step
    denominator := 4 * Nat.pow 2 (-exponent).toNat
    closed := significand % 2 = 0 }

def leadingPower (numerator denominator : Nat) : Int :=
  if denominator ≤ numerator then
    ((Decimal.digits (numerator / denominator)).length : Int) - 1
  else
    -((Decimal.digits ((denominator - 1) / numerator)).length : Int)

def candidates (around : Neighbourhood) (power : Int) : List Nat :=
  let up := Nat.pow 10 (-power).toNat
  let unit := around.denominator * Nat.pow 10 power.toNat
  let floor := around.value * up / unit
  let inside (multiple : Nat) : Bool :=
    if around.closed then around.low * up ≤ multiple * unit && multiple * unit ≤ around.high * up
    else around.low * up < multiple * unit && multiple * unit < around.high * up
  let fromFloor := around.value * up - floor * unit
  let toCeiling := (floor + 1) * unit - around.value * up
  let nearFloor := fromFloor < toCeiling || (fromFloor = toCeiling && floor % 2 = 0)
  (if nearFloor then [floor, floor + 1] else [floor + 1, floor]).filter inside

/-- The decimal with the fewest digits that rounds to `significand` times a power of two, and of
those the nearest. Seventeen digits always suffice. -/
def ofScaled (significand : Nat) (exponent : Int) : ShortDecimal :=
  let around := neighbourhood significand exponent
  let leading := leadingPower around.value around.denominator
  let places := (List.range 17).map fun (count : Nat) => leading - count
  let found := places.findSome? fun power =>
    (candidates around power).head?.map fun digits => ShortDecimal.mk digits power
  found.getD ⟨significand, exponent⟩

def strippedDigits (decimal : ShortDecimal) : List Char :=
  ((Decimal.digits decimal.digits).reverse.dropWhile (· = '0')).reverse

def firstPower (decimal : ShortDecimal) : Int :=
  decimal.power + (Decimal.digits decimal.digits).length - 1

end ShortDecimal

structure RealLayout where
  leastPositional : Int
  mostPositional : Int
  exponentDigits : Nat

namespace RealLayout

def padZeros (width : Nat) (text : List Char) : List Char :=
  List.replicate (width - text.length) '0' ++ text

def positional (digits : List Char) (power : Int) : List Char :=
  if power < 0 then
    '0' :: '.' :: (List.replicate (-power - 1).toNat '0' ++ digits)
  else
    let width := power.toNat + 1
    let fraction := digits.drop width
    digits.take width ++ List.replicate (width - digits.length) '0' ++
      '.' :: (if fraction.isEmpty then ['0'] else fraction)

def scientific (layout : RealLayout) (digits : List Char) (power : Int) : List Char :=
  let others := digits.drop 1
  digits.take 1 ++ (if others.isEmpty then [] else '.' :: others) ++
    'e' :: (if power < 0 then '-' else '+') ::
      padZeros layout.exponentDigits (Decimal.digits power.natAbs)

def render (layout : RealLayout) (decimal : ShortDecimal) : List Char :=
  let digits := decimal.strippedDigits
  let power := decimal.firstPower
  if layout.leastPositional ≤ power ∧ power ≤ layout.mostPositional then positional digits power
  else layout.scientific digits power

end RealLayout

namespace Binary64

def layout : RealLayout := ⟨-4, 15, 2⟩

def magnitudeText (number : Binary64) : List Char :=
  if number.isInfinite then ['i', 'n', 'f']
  else if number.isZero then ['0', '.', '0']
  else layout.render (ShortDecimal.ofScaled number.significand number.exponent)

def render (number : Binary64) : String :=
  if number.isNaN then "nan"
  else String.ofList ((if number.isNegative then ['-'] else []) ++ number.magnitudeText)

end Binary64

end StakeLottery
