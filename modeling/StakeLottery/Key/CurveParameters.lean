import StakeLottery.Curve.NamedCurve
import StakeLottery.Key.Der.Fields
import StakeLottery.Key.Der.Value

/-!
How a key tells its curve: by the curve's object identifier, by the domain parameters in full, or
by the null value where the curve is taken as agreed.
-/

namespace StakeLottery.CurveParameters

open Curve Der

def primeField : Element := identifier [1, 2, 840, 10045, 1, 1]

def binaryField : Element := identifier [1, 2, 840, 10045, 1, 2]

/-! Writing. -/

def explicit (domain : Domain) (seed : Option Bytes) : Element :=
  let coordinate (value : Nat) := Bytes.ofNat domain.coordinateLength value
  let coefficients := [domain.a, domain.b].map fun value => ⟨octetStringTag, coordinate value⟩
  let seed := seed.toList.map fun bytes => ⟨bitStringTag, 0 :: bytes⟩
  sequence
    [positive 1, sequence [primeField, positive domain.prime], sequence (coefficients ++ seed),
      ⟨octetStringTag, 4 :: (coordinate domain.generatorX ++ coordinate domain.generatorY)⟩,
      positive domain.order, positive 1]

def elementsFor (curve : NamedCurve) : List Element :=
  let name := identifier curve.arcs
  match curve.seed? with
  | none => [name]
  | some seed => [name, explicit curve.domain (some seed), explicit curve.domain none]

/-! Reading. -/

def field : Fields Unit := do
  let kind ← Fields.next Element.identifier?
  if kind = primeField then discard (Fields.next Element.natural?)
  else
    guard (kind = binaryField)
    discard (Fields.next fun element => guard (element.tag = sequenceTag))

def coefficients : Fields Unit := do
  discard (Fields.next Element.octets?)
  discard (Fields.next Element.octets?)
  discard (Fields.optional bitStringTag Element.bits?)

/-- Reads past domain parameters in full: a version, the field, the coefficients, the generator,
its order, and the cofactor, which may be left out. -/
def fullDomain : Fields Unit := do
  discard (Fields.next (Element.naturalOfWidth? 1))
  Fields.next (Element.sequence? field)
  Fields.next (Element.sequence? coefficients)
  discard (Fields.next Element.octets?)
  discard (Fields.next Element.natural?)
  discard (Fields.optional integerTag (Element.naturalOfWidth? 1))

def ofElement? (element : Element) : Option Element := do
  guard (element.isIdentifier || element = null || (element.sequence? fullDomain).isSome)
  return element

def curve? (element : Element) : Option NamedCurve :=
  NamedCurve.all.find? fun curve => (elementsFor curve).contains element

end StakeLottery.CurveParameters
