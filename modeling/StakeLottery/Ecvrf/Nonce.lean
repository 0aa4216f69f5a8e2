import StakeLottery.Curve.Point
import StakeLottery.Digest.Hmac

/-!
Deterministic nonces after RFC 6979, with SHA-256: a generator seeded from the private scalar and
a digest, whose first value between one and the group order is the nonce.
-/

namespace StakeLottery.Ecvrf.Nonce

open Curve

structure Generator where
  key : Bytes
  value : Bytes

def Generator.mix (generator : Generator) (marker : UInt8) (data : Bytes) : Generator :=
  let key := Hmac.digest generator.key (generator.value ++ [marker] ++ data)
  ⟨key, Hmac.digest key generator.value⟩

def Generator.seeded (scalar : Nat) (digest : Bytes) : Generator :=
  let number := digest.toNat
  let reduced := if groupOrder ≤ number then number - groupOrder else number
  let data := Bytes.ofNat 32 scalar ++ Bytes.ofNat 32 reduced
  let start : Generator := ⟨List.replicate 32 0, List.replicate 32 1⟩
  (start.mix 0 data).mix 1 data

def Generator.draw? (generator : Generator) : Nat → Option Nat
  | 0 => none
  | draws + 1 =>
    let value := Hmac.digest generator.key generator.value
    let number := value.toNat
    if 1 ≤ number ∧ number < groupOrder then some number
    else (Generator.mix ⟨generator.key, value⟩ 0 []).draw? draws

/-- How many draws are made. A draw is out of range with a probability below 2^-127. -/
def maxDraws : Nat := 256

def nonce? (scalar : Nat) (digest : Bytes) : Option Nat :=
  (Generator.seeded scalar digest).draw? maxDraws

end StakeLottery.Ecvrf.Nonce
