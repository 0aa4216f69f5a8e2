/-!
Binary floating point of 64 bits. A value is its bits; a finite one is an exact dyadic rational,
and every comparison and conversion goes through that rational.
-/

namespace StakeLottery

structure Binary64 where
  bits : UInt64
  deriving DecidableEq, Repr, Inhabited

namespace Binary64

def fractionValues : Nat := 0x10000000000000

def magnitudeValues : Nat := 0x8000000000000000

def isNegative (number : Binary64) : Bool :=
  magnitudeValues ≤ number.bits.toNat

def exponentField (number : Binary64) : Nat :=
  number.bits.toNat / fractionValues % 2048

def fractionField (number : Binary64) : Nat :=
  number.bits.toNat % fractionValues

def isNaN (number : Binary64) : Bool :=
  number.exponentField = 2047 && number.fractionField ≠ 0

def isInfinite (number : Binary64) : Bool :=
  number.exponentField = 2047 && number.fractionField = 0

def isFinite (number : Binary64) : Bool :=
  number.exponentField ≠ 2047

/-- The integer that the magnitude of a finite number is a power of two times of. -/
def significand (number : Binary64) : Nat :=
  if number.exponentField = 0 then number.fractionField else fractionValues + number.fractionField

def exponent (number : Binary64) : Int :=
  if number.exponentField = 0 then -1074 else (number.exponentField : Int) - 1075

def scale (significand : Nat) (exponent : Int) : Rat :=
  match exponent with
  | .ofNat power => ((significand * Nat.pow 2 power : Nat) : Rat)
  | .negSucc power => mkRat significand (Nat.pow 2 (power + 1))

def value? (number : Binary64) : Option Rat :=
  if number.isFinite then
    let magnitude := scale number.significand number.exponent
    some (if number.isNegative then -magnitude else magnitude)
  else none

def isZero (number : Binary64) : Bool :=
  number.exponentField = 0 && number.fractionField = 0

def truncate? (number : Binary64) : Option Int :=
  number.value?.map fun value => value.num.tdiv value.den

def ofMagnitudeBits (negative : Bool) (magnitude : Nat) : Binary64 :=
  ⟨UInt64.ofNat (if negative then magnitudeValues + magnitude else magnitude)⟩

def infinityBits : Nat := 2047 * fractionValues

def infinity (negative : Bool) : Binary64 :=
  ofMagnitudeBits negative infinityBits

def notANumber : Binary64 :=
  ofMagnitudeBits false (infinityBits + fractionValues / 2)

end Binary64

end StakeLottery
