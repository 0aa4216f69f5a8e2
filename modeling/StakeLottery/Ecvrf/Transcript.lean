import StakeLottery.Curve.Compressed
import StakeLottery.Digest.Sha256

/-!
What the verifiable random function hashes. Each of its three hash inputs opens with the suite
byte and a byte of its own and closes with a zero byte, so no input of one is an input of
another.
-/

namespace StakeLottery.Ecvrf

open Curve

def suite : UInt8 := 0xfe

def candidateTranscript (publicKey input : Bytes) (counter : Nat) : Bytes :=
  [suite, 1] ++ publicKey ++ input ++ [UInt8.ofNat counter, 0]

def candidate (publicKey input : Bytes) (counter : Nat) : Bytes :=
  2 :: Sha256.hash (candidateTranscript publicKey input counter)

/-- The point of a VRF input under a public key: that of the first of 256 attempts whose
candidate is on the curve. -/
def inputPoint? (publicKey input : Bytes) : Option Point :=
  (List.range 256).findSome? fun counter =>
    match Point.decode (candidate publicKey input counter) with
    | .ok point => some point
    | .error _ => none

def challengeTranscript (points : List Point) : Except PointError Bytes := do
  let encoded ← points.mapM Point.encode
  return [suite, 2] ++ encoded.flatten ++ [0]

def challengeLength : Nat := 16

def challenge (points : List Point) : Except PointError Bytes := do
  let transcript ← challengeTranscript points
  return (Sha256.hash transcript).take challengeLength

def outputTranscript (gamma : Bytes) : Bytes :=
  [suite, 3] ++ gamma ++ [0]

def outputOf (gamma : Bytes) : Bytes :=
  Sha256.hash (outputTranscript gamma)

end StakeLottery.Ecvrf
