import StakeLottery.Key.CurveParameters
import StakeLottery.Key.Material

/-!
Private keys on a curve in the form of SEC 1.
-/

namespace StakeLottery

open Curve Der

structure CurveKeyForm where
  scalar : Bytes
  parameters : Option Element
  publicPoint : Option Bits
  deriving DecidableEq, Repr

namespace CurveKeyForm

def fields : Fields CurveKeyForm := do
  let version ← Fields.next Element.natural?
  guard (version = 1)
  return {
    scalar := ← Fields.next Element.octets?
    parameters := ← Fields.optional (fieldTag 0) (Element.field? 0 CurveParameters.ofElement?)
    publicPoint := ← Fields.optional (fieldTag 1) (Element.field? 1 Element.bits?) }

def ofBytes? (bytes : Bytes) : Option CurveKeyForm := do
  (← onlyElement? bytes).sequence? fields

def curveElement? (form : CurveKeyForm) (outer : Option Element) : Option Element := do
  let element ← outer <|> form.parameters
  guard (form.parameters.all (· = element))
  return element

def onCurve? (form : CurveKeyForm) (curve : NamedCurve) : Option LoadedKey := do
  let scalar := Bytes.toNat form.scalar
  guard (form.scalar.length = curve.domain.scalarLength)
  guard (form.publicPoint.all fun point =>
    point.unused = 0 && (curve.domain.publicForms scalar).contains point.bytes)
  LoadedKey.onCurve? curve scalar

end CurveKeyForm

/-- The private key of a SEC 1 byte string. Whether its curve is supported comes before whether the
numbers on it are right. -/
def LoadedKey.ofSec1 (outer : Option Element) (bytes : Bytes) : Except LoadError LoadedKey :=
  let told := do
    let form ← CurveKeyForm.ofBytes? bytes
    return (form, ← form.curveElement? outer)
  match told with
  | none => .error .malformed
  | some (form, element) =>
    match CurveParameters.curve? element with
    | none => .error .unsupported
    | some curve => orMalformed (form.onCurve? curve)

end StakeLottery
