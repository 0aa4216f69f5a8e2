import StakeLottery.Key.Der.Fields
import StakeLottery.Key.Der.Value

/-!
Groups of powers modulo a prime, as DSA and Diffie-Hellman keys use them.
-/

namespace StakeLottery

open Der

structure ModularGroup where
  modulus : Nat
  generator : Nat
  order : Option Nat
  deriving DecidableEq, Repr

namespace ModularGroup

/-! The written forms. -/

def signatureFields : Fields ModularGroup := do
  let modulus ← Fields.next Element.natural?
  let order ← Fields.next Element.natural?
  let generator ← Fields.next Element.natural?
  return ⟨modulus, generator, some order⟩

def agreementFields : Fields ModularGroup := do
  let modulus ← Fields.next Element.natural?
  let generator ← Fields.next Element.natural?
  discard (Fields.optional integerTag (Element.naturalOfWidth? 4))
  return ⟨modulus, generator, none⟩

def agreementFieldsWithOrder : Fields ModularGroup := do
  let modulus ← Fields.next Element.natural?
  let generator ← Fields.next Element.natural?
  let order ← Fields.next Element.natural?
  discard (Fields.optional integerTag Element.natural?)
  discard (Fields.optional sequenceTag some)
  return ⟨modulus, generator, some order⟩

/-! Powers. -/

/-- Whether an exponent has a power of the generator. Modulo zero only the exponent zero has. -/
def hasPower (group : ModularGroup) (exponent : Nat) : Bool :=
  group.modulus ≠ 0 || exponent = 0

end ModularGroup

end StakeLottery
