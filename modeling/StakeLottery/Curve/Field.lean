import StakeLottery.Number.DoubleAndAdd

/-!
The coordinate field of secp256k1: the integers modulo the prime 2^256 - 2^32 - 977. Since that
prime is one below a multiple of four, a square root is a power.
-/

namespace StakeLottery.Curve

def fieldPrime : Nat := 0xfffffffffffffffffffffffffffffffffffffffffffffffffffffffefffffc2f

abbrev Fp := Fin fieldPrime

-- The zero is written out as the one that `Fin` is stated with.
instance : @NeZero Nat (@Zero.ofOfNat0 Nat (instOfNatNat 0)) fieldPrime := ⟨Nat.succ_ne_zero _⟩

namespace Fp

def ofNat (value : Nat) : Fp :=
  Fin.ofNat fieldPrime value

def power (base : Fp) (exponent : Nat) : Fp :=
  doubleAndAdd (fun value => value * value) (fun value => value * base) 1 exponent

/-- The multiplicative inverse, zero for zero. -/
def inverse (value : Fp) : Fp :=
  power value (fieldPrime - 2)

def sqrt? (value : Fp) : Option Fp :=
  let root := power value ((fieldPrime + 1) / 4)
  if root * root = value then some root else none

def isOdd (value : Fp) : Bool :=
  value.val % 2 = 1

end Fp

end StakeLottery.Curve
