import StakeLottery.Key.ModularGroup.Standard
import StakeLottery.Key.SecretKey
import StakeLottery.Number.Primality

/-!
Whether keys can be agreed on in a group of powers: its numbers are of sizes that are computed with,
and its generator has a prime order.
-/

namespace StakeLottery.ModularGroup

open Primality

def leastBits : Nat := 512

def mostBits : Nat := 10000

def isComputable (group : ModularGroup) : Bool :=
  let isShort (number : Nat) := number.log2 < mostBits
  group.modulus % 2 = 1 && isShort group.modulus &&
    group.order.all fun order => order ≠ 0 && isShort order

def knownOrder? (group : ModularGroup) : Option Nat :=
  group.order <|> do
    let standard ← standard.find? fun standard =>
      standard.modulus = group.modulus ∧ standard.generator = group.generator
    standard.order

/-- Whether the generator is neither one nor minus one and generates a group of prime order. Where
the order is not known the modulus is one more than twice a prime. -/
def isSound (group : ModularGroup) : Bool :=
  1 < group.generator && group.generator < group.modulus - 1 &&
    match group.knownOrder? with
    | none => isProbablePrime (group.modulus / 2) && isProbablePrime group.modulus
    | some order =>
      order < group.modulus && group.modulus % order = 1 &&
        power group.modulus group.generator order = 1 &&
        isProbablePrime order && isProbablePrime group.modulus

def check (group : ModularGroup) : Except LoadError Unit :=
  if group.modulus.log2 + 1 < leastBits then .error .malformed
  else if !group.isComputable then .error .unusable
  else if !group.isSound then .error .malformed
  else .ok ()

end StakeLottery.ModularGroup
