import StakeLottery.Ecvrf.Nonce
import StakeLottery.Ecvrf.Transcript
import StakeLottery.Key.SecretKey

/-!
Evaluation of the verifiable random function with a private key: an output, and a proof of 81
bytes that the output belongs to the public key and the input.
-/

namespace StakeLottery.Ecvrf

open Curve

structure Evaluation where
  output : Bytes
  proof : Bytes
  deriving DecidableEq, Repr

/-- Why an evaluation ends without an output. None of these is ever met in practice. -/
inductive EvaluationError where
  | noInputPoint
  | noNonce
  | point (error : PointError)
  deriving DecidableEq, Repr

def scalarLength : Nat := 32

def proofLength : Nat := Point.compressedLength + challengeLength + scalarLength

def evaluateAt (key : SecretKey) (inputPoint : Point) (nonce : Nat) :
    Except PointError Evaluation := do
  let gamma := inputPoint.times key.scalar
  let challenge ← challenge [key.publicPoint, inputPoint, gamma, generator.times nonce,
    inputPoint.times nonce]
  let response := (nonce + Bytes.toNat challenge * key.scalar) % groupOrder
  let encodedGamma ← gamma.encode
  return ⟨outputOf encodedGamma, encodedGamma ++ challenge ++ Bytes.ofNat scalarLength response⟩

def evaluate (key : SecretKey) (input : Bytes) : Except EvaluationError Evaluation := do
  let inputPoint ← (inputPoint? key.publicKey input).elim (.error .noInputPoint) .ok
  let encodedInput ← inputPoint.encode.mapError .point
  let nonce ← (Nonce.nonce? key.scalar (Sha256.hash encodedInput)).elim (.error .noNonce) .ok
  (evaluateAt key inputPoint nonce).mapError .point

end StakeLottery.Ecvrf
