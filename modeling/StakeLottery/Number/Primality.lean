import StakeLottery.Digest.Sha256
import StakeLottery.Number.DoubleAndAdd

/-!
Primality by strong tests: for an odd prime, the chain of squares that leads from a power of a base
to one passes through minus one, unless it starts with one. At most a quarter of the bases of a
composite number behave so.
-/

namespace StakeLottery.Primality

def power (modulus base exponent : Nat) : Nat :=
  let base := base % modulus
  doubleAndAdd (fun value => value * value % modulus) (fun value => value * base % modulus)
    (1 % modulus) exponent

def twos (number : Nat) : Nat :=
  ((List.range number.log2).takeWhile fun place => !number.testBit place).length

def reachesMinusOne (modulus : Nat) : Nat → Nat → Bool
  | 0, _ => false
  | length + 1, value =>
    value = modulus - 1 || reachesMinusOne modulus length (value * value % modulus)

def looksPrime (number base : Nat) : Bool :=
  let squarings := twos (number - 1)
  let start := power number base ((number - 1) / Nat.pow 2 squarings)
  start = 1 || reachesMinusOne number squarings start

def smallPrimes : List Nat := [2, 3, 5, 7, 11, 13, 17, 19, 23, 29, 31, 37]

def digests : Nat → Bytes → List Bytes
  | 0, _ => []
  | count + 1, start =>
    let digest := Sha256.hash start
    digest :: digests count digest

/-- The bases for a number above 4, each at least two and at most the number less two. They are
drawn from digests of the number, so that no composite number can be made to suit them. -/
def bases (number : Nat) : List Nat :=
  let written := Bytes.ofNat (number.log2 / 8 + 1) number
  (digests 10 written).map fun digest => 2 + Bytes.toNat digest % (number - 3)

def isProbablePrime (number : Nat) : Bool :=
  if number ≤ 37 then smallPrimes.contains number
  else smallPrimes.all (fun prime => number % prime ≠ 0) && (bases number).all (looksPrime number)

end StakeLottery.Primality
