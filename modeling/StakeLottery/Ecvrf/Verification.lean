import StakeLottery.Curve.Jacobian
import StakeLottery.Ecvrf.Evaluation

/-!
Verification of outputs of the verifiable random function against a public key. The checks run in
one fixed order, and the first that fails names the error.
-/

namespace StakeLottery.Ecvrf

open Curve

inductive ProofError where
  | keyForm
  | keyPoint
  | length (given : Nat)
  | scalarRange
  | gamma (error : PointError)
  | noInputPoint
  | degenerate (error : PointError)
  | challenge
  | output
  deriving DecidableEq, Repr

def ProofError.message : ProofError → String
  | keyForm => "Public key must be a 33-byte SEC1 compressed point"
  | keyPoint => "Invalid public key: Invalid EC key."
  | length given => s!"Invalid proof length: {given}, expected {proofLength}"
  | scalarRange => "Proof scalar out of range"
  | gamma error => s!"Invalid proof point: {error.message}"
  | noInputPoint => "Invalid proof point: hash_to_curve failed to find a valid point"
  | degenerate error => s!"Degenerate proof: {error.message}"
  | challenge => "VRF proof challenge mismatch"
  | output => "Invalid VRF hash"

def publicKeyPoint (publicKey : Bytes) : Except ProofError Point :=
  if Point.hasCompressedForm publicKey then
    (Point.decode publicKey).mapError fun _ => .keyPoint
  else .error .keyForm

structure ProofParts where
  gamma : Bytes
  challenge : Bytes
  response : Nat

def ProofParts.read (proof : Bytes) : Except ProofError ProofParts :=
  if proof.length = proofLength then
    let tail := proof.drop Point.compressedLength
    let response := Bytes.toNat (tail.drop challengeLength)
    if response < groupOrder then
      .ok ⟨proof.take Point.compressedLength, tail.take challengeLength, response⟩
    else .error .scalarRange
  else .error (.length proof.length)

/-- A multiple of one point less a multiple of another: the point that the prover committed to,
as the response and the challenge give it back. -/
def commitment (response : Nat) (base : Point) (challenge : Nat) (image : Point) : Point :=
  (base.times response).add (image.times ((groupOrder - challenge) % groupOrder))

def provenOutput (publicKey input proof : Bytes) : Except ProofError Bytes := do
  let keyPoint ← publicKeyPoint publicKey
  let parts ← ProofParts.read proof
  let gamma ← (Point.decode parts.gamma).mapError .gamma
  let inputPoint ← (inputPoint? publicKey input).elim (.error .noInputPoint) .ok
  let multiplier := Bytes.toNat parts.challenge
  let expected ← (challenge [keyPoint, inputPoint, gamma,
    commitment parts.response generator multiplier keyPoint,
    commitment parts.response inputPoint multiplier gamma]).mapError .degenerate
  if expected = parts.challenge then return outputOf parts.gamma else throw .challenge

def verify (publicKey input : Bytes) (evaluation : Evaluation) : Except ProofError Unit := do
  let proven ← provenOutput publicKey input evaluation.proof
  if proven = evaluation.output then return () else throw .output

def accepts (publicKey input : Bytes) (evaluation : Evaluation) : Bool :=
  (verify publicKey input evaluation).toBool

end StakeLottery.Ecvrf
