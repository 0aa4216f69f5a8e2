import StakeLottery.Key.Der.Fields
import StakeLottery.Key.Der.Value
import StakeLottery.Number.Primality

/-!
RSA private keys: a modulus of two primes, a public and a private exponent, and what speeds up
computing with the latter.
-/

namespace StakeLottery

open Der

/-- The numbers of an RSA private key. The exponents of the primes are the private exponent modulo
each prime less one, and the coefficient is the inverse of the second prime modulo the first. -/
structure RsaKey where
  modulus : Nat
  publicExponent : Nat
  privateExponent : Nat
  firstPrime : Nat
  secondPrime : Nat
  firstExponent : Nat
  secondExponent : Nat
  coefficient : Nat
  deriving DecidableEq, Repr

namespace RsaKey

def fields : Fields RsaKey := do
  let version ← Fields.next Element.natural?
  guard (version = 0)
  return {
    modulus := ← Fields.next Element.natural?
    publicExponent := ← Fields.next Element.natural?
    privateExponent := ← Fields.next Element.natural?
    firstPrime := ← Fields.next Element.natural?
    secondPrime := ← Fields.next Element.natural?
    firstExponent := ← Fields.next Element.natural?
    secondExponent := ← Fields.next Element.natural?
    coefficient := ← Fields.next Element.natural? }

def isOddPrime (number : Nat) : Bool :=
  number % 2 = 1 && Primality.isProbablePrime number

def isConsistent (key : RsaKey) : Bool :=
  let p := key.firstPrime
  let q := key.secondPrime
  key.publicExponent % 2 = 1 && key.publicExponent ≠ 1 &&
    p ≠ q && p * q = key.modulus && isOddPrime p && isOddPrime q &&
    key.publicExponent * key.privateExponent % Nat.lcm (p - 1) (q - 1) = 1 &&
    key.firstExponent = key.privateExponent % (p - 1) &&
    key.secondExponent = key.privateExponent % (q - 1) &&
    key.coefficient < p && key.coefficient * q % p = 1

def ofBytes? (bytes : Bytes) : Option RsaKey := do
  let key ← (← onlyElement? bytes).sequence? fields
  guard key.isConsistent
  return key

end RsaKey

end StakeLottery
