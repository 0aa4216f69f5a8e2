import StakeLottery.Curve.NamedCurve
import StakeLottery.Key.SecretKey

/-!
The forms in which a key store hands out a private key.
-/

namespace StakeLottery

inductive LoadedKey where
  | secp256k1 (key : SecretKey)
  | otherKind
  deriving DecidableEq

def LoadedKey.onCurve? (curve : Curve.NamedCurve) (scalar : Nat) : Option LoadedKey :=
  if curve = .secp256k1 then (SecretKey.ofScalar scalar).toOption.map secp256k1
  else if 0 < scalar ∧ scalar < curve.domain.order then some otherKind
  else none

def LoadedKey.orMalformed (key : Option LoadedKey) : Except LoadError LoadedKey :=
  key.elim (.error .malformed) .ok

def LoadedKey.secretKey : LoadedKey → Except KeyError SecretKey
  | secp256k1 key => .ok key
  | otherKind => .error .otherKind

/-- What a key store hands out: nothing, the bytes of a scalar, a loaded key, a key that is ready
for use, or something that is no key. -/
inductive KeyMaterial where
  | absent
  | raw (bytes : Bytes)
  | loaded (key : LoadedKey)
  | ready (key : SecretKey)
  | unrelated
  deriving DecidableEq

namespace KeyMaterial

def secretKey : KeyMaterial → Except KeyError SecretKey
  | absent => .error .missing
  | raw bytes => SecretKey.ofBytes bytes
  | loaded key => key.secretKey
  | ready key => .ok key
  | unrelated => .error .otherKind

end KeyMaterial

/-- The private key of a loaded key, or of bytes where there is none. Where both are given the
bytes are not looked at, and no other form will do. -/
def SecretKey.ofLoadedOrBytes (material : KeyMaterial) (bytes : Option Bytes) :
    Except KeyError SecretKey :=
  match material, bytes with
  | .loaded key, _ => key.secretKey
  | .absent, some bytes => SecretKey.ofBytes bytes
  | .absent, none => .error .missing
  | _, _ => .error .otherKind

end StakeLottery
