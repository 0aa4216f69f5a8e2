import StakeLottery.Key.Algorithm
import StakeLottery.Key.CurveKeyForm
import StakeLottery.Key.ModularGroup.Soundness
import StakeLottery.Key.Rsa

/-!
Private keys in DER: RSA and DSA keys in forms of their own, and PKCS #8, which tells the kind of a
key beside it, with the key hidden by a password or not.
-/

namespace StakeLottery

open Der

namespace LoadedKey

def ofRsa (bytes : Bytes) : Except LoadError LoadedKey :=
  orMalformed ((RsaKey.ofBytes? bytes).map fun _ => otherKind)

def dsaFields : Fields Unit := do
  let version ← Fields.next Element.natural?
  guard (version = 0)
  discard ModularGroup.signatureFields
  discard (Fields.next Element.natural?)
  discard (Fields.next Element.natural?)

def ofDsa (bytes : Bytes) : Except LoadError LoadedKey :=
  orMalformed do
    (← onlyElement? bytes).sequence? dsaFields
    return otherKind

def ofSeed (length : Nat) (bytes : Bytes) : Except LoadError LoadedKey :=
  match (onlyElement? bytes).bind Element.octets? with
  | none => .error .malformed
  | some seed => if seed.length = length then .ok otherKind else .error .unusable

/-- The private key of a seed of a lattice, in the first of the forms between which such keys
choose. -/
def ofLatticeSeed (length : Nat) (bytes : Bytes) : Except LoadError LoadedKey :=
  orMalformed do
    let element ← onlyElement? bytes
    guard (element.tag = [0x80] && element.content.length = length)
    return otherKind

def ofAlgorithm (algorithm : Algorithm) (bytes : Bytes) : Except LoadError LoadedKey :=
  let exponent? := (onlyElement? bytes).bind Element.natural?
  match algorithm with
  | .rsa => ofRsa bytes
  | .onCurve parameters => ofSec1 (some parameters) bytes
  | .signature group => orMalformed do
    guard (group.hasPower (← exponent?))
    return otherKind
  | .agreement group =>
    match exponent? with
    | none => .error .malformed
    | some _ => group.check.map fun _ => otherKind
  | .seed length => ofSeed length bytes
  | .latticeSeed length => ofLatticeSeed length bytes
  | _ => .error .unsupported

end LoadedKey

/-! PKCS #8. -/

def attributeFields : Fields Unit := do
  discard (Fields.next Element.identifier?)
  discard (Fields.next (Element.members? setTag))

def attributes? (field : Element) : Option Unit := do
  for member in ← field.members? (fieldTag 0) do
    member.sequence? attributeFields

structure PrivateKeyInfo where
  algorithm : Algorithm
  key : Bytes
  deriving DecidableEq, Repr

namespace PrivateKeyInfo

def fields : Fields PrivateKeyInfo := do
  let version ← Fields.next Element.natural?
  guard (version = 0)
  let algorithm ← Fields.next Algorithm.ofElement?
  let key ← Fields.next Element.octets?
  discard (Fields.optional (fieldTag 0) attributes?)
  return ⟨algorithm, key⟩

def encryptedFields : Fields PrivateKeyInfo := do
  let algorithm ← Fields.next Algorithm.ofElement?
  let key ← Fields.next Element.octets?
  return ⟨algorithm, key⟩

def ofBytes? (fields : Fields PrivateKeyInfo) (bytes : Bytes) : Option PrivateKeyInfo := do
  (← onlyElement? bytes).sequence? fields

end PrivateKeyInfo

namespace LoadedKey

def ofPkcs8 (bytes : Bytes) : Except LoadError LoadedKey :=
  match PrivateKeyInfo.ofBytes? PrivateKeyInfo.fields bytes with
  | none => .error .malformed
  | some info => ofAlgorithm info.algorithm info.key

/-- Why there is no private key in a PKCS #8 byte string that hides it. What is hidden is not read,
so that with a password too there is none. -/
def encryptedError (bytes : Bytes) (password : Option String) : LoadError :=
  match PrivateKeyInfo.ofBytes? PrivateKeyInfo.encryptedFields bytes with
  | none => .malformed
  | some info =>
    if password.all String.isEmpty ∨ info.algorithm = .encryption then .malformed
    else .unsupported

end LoadedKey

end StakeLottery
