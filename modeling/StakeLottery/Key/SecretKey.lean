import StakeLottery.Curve.Compressed
import StakeLottery.Curve.Jacobian

/-!
Private keys on secp256k1: scalars from one to below the group order.
-/

namespace StakeLottery

open Curve

/-- Why no key is loaded from a file: it holds no valid key, or one of a kind that is not supported,
or one whose sizes or modulus the computations of its kind do not take. -/
inductive LoadError where
  | malformed
  | unsupported
  | unusable
  deriving DecidableEq, Repr

def LoadError.message : LoadError → String
  | malformed => "Cannot load PEM private key"
  | unsupported => "Unsupported kind of private key"
  | unusable => "Private key beyond the computations of its kind"

inductive KeyError where
  | wrongLength (length : Nat)
  | zeroScalar
  | scalarTooLarge
  | missing
  | otherKind
  | notLoaded (error : LoadError)
  deriving DecidableEq, Repr

def KeyError.message : KeyError → String
  | wrongLength length => s!"Private key must be 32 bytes, got {length}"
  | zeroScalar => "Invalid private scalar: private_value must be a positive integer."
  | scalarTooLarge =>
    "Invalid private scalar: Invalid EC key (key out of range, infinity, etc.)"
  | missing => "Either private_key or private_key_bytes must be provided"
  | otherKind => "VRF requires a secp256k1 private key"
  | notLoaded error => error.message

structure SecretKey where
  scalar : Nat
  positive : 0 < scalar
  below_order : scalar < groupOrder
  deriving DecidableEq

namespace SecretKey

def ofScalar (scalar : Nat) : Except KeyError SecretKey :=
  if positive : 0 < scalar then
    if below : scalar < groupOrder then .ok ⟨scalar, positive, below⟩
    else .error .scalarTooLarge
  else .error .zeroScalar

def ofBytes (bytes : Bytes) : Except KeyError SecretKey :=
  if bytes.length = 32 then ofScalar bytes.toNat else .error (.wrongLength bytes.length)

def toBytes (key : SecretKey) : Bytes :=
  Bytes.ofNat 32 key.scalar

def publicPoint (key : SecretKey) : Point :=
  generator.times key.scalar

def publicKey (key : SecretKey) : Bytes :=
  match key.publicPoint with
  | .infinity => []
  | .affine x y => Point.compress x y

end SecretKey

end StakeLottery
