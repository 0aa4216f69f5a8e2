import StakeLottery.Number.Binary64

/-!
Rounding a rational to the nearest floating point number, a tie to the even one, in exact
integer arithmetic.
-/

namespace StakeLottery

def roundHalfEven (numerator denominator : Nat) : Nat :=
  let quotient := numerator / denominator
  let twice := 2 * (numerator % denominator)
  if twice < denominator then quotient
  else if denominator < twice then quotient + 1
  else quotient + quotient % 2

namespace Binary64

def spacing (numerator denominator : Nat) : Int :=
  let estimate : Int := (numerator.log2 : Int) - denominator.log2
  let reached : Bool :=
    match estimate with
    | .ofNat power => denominator * Nat.pow 2 power ≤ numerator
    | .negSucc power => denominator ≤ numerator * Nat.pow 2 (power + 1)
  max (if reached then estimate - 52 else estimate - 53) (-1074)

/-- The lower 63 bits of the number nearest to a positive quotient. The significand that rounds
up to 2^53 carries into the exponent bits, which is the number it stands for. -/
def magnitudeBits (numerator denominator : Nat) : Nat :=
  let power := spacing numerator denominator
  let significand :=
    match power with
    | .ofNat power => roundHalfEven numerator (denominator * Nat.pow 2 power)
    | .negSucc power => roundHalfEven (numerator * Nat.pow 2 (power + 1)) denominator
  if significand < fractionValues then significand
  else min ((power + 1075).toNat * fractionValues + (significand - fractionValues)) infinityBits

def ofQuotient (negative : Bool) (numerator denominator : Nat) : Binary64 :=
  ofMagnitudeBits negative (if numerator = 0 then 0 else magnitudeBits numerator denominator)

/-- The number nearest to a decimal, given by its digits as one integer and its power of ten.
Magnitudes from 10^310 up are infinite and those below 10^-330 are zero, so that no power of ten
larger than that is ever formed. -/
def ofDecimal (negative : Bool) (digits : Nat) (power : Int) : Binary64 :=
  let leading : Int := power + (Nat.toDigits 10 digits).length
  if digits = 0 ∨ leading < -330 then ofQuotient negative 0 1
  else if 310 < leading then infinity negative
  else
    match power with
    | .ofNat power => ofQuotient negative (digits * Nat.pow 10 power) 1
    | .negSucc power => ofQuotient negative digits (Nat.pow 10 (power + 1))

end Binary64

end StakeLottery
