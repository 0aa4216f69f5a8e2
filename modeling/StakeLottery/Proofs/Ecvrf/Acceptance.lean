import Mathlib
import StakeLottery.Proofs.Ecvrf.Completeness

/-!
What an accepted proof holds: a key point, an input point and a point of its own, a challenge and
a response, and the challenge is the one over the five points that these give. The bytes of the
proof are those of its parts and nothing else.
-/

namespace StakeLottery.Ecvrf

open Curve

theorem ProofParts.read_cut {proof : Bytes} {parts : ProofParts}
    (read : ProofParts.read proof = .ok parts) :
    proof.length = proofLength ∧ parts.response < groupOrder ∧
      parts = ⟨proof.take Point.compressedLength,
        (proof.drop Point.compressedLength).take challengeLength,
        Bytes.toNat ((proof.drop Point.compressedLength).drop challengeLength)⟩ := by
  unfold ProofParts.read at read
  split at read
  case isFalse => cases read
  rename_i length
  dsimp only at read
  split at read
  case isFalse => cases read
  rename_i below
  cases read
  exact ⟨length, below, rfl⟩

theorem ProofParts.challenge_eq {proof : Bytes} {parts : ProofParts}
    (read : ProofParts.read proof = .ok parts) :
    parts.challenge = (proof.drop Point.compressedLength).take challengeLength := by
  obtain ⟨-, -, rfl⟩ := ProofParts.read_cut read
  rfl

theorem ProofParts.read_ok {proof : Bytes} {parts : ProofParts}
    (read : ProofParts.read proof = .ok parts) :
    parts.challenge.length = challengeLength ∧ parts.response < groupOrder ∧
      proof = parts.gamma ++ parts.challenge ++ Bytes.ofNat scalarLength parts.response := by
  obtain ⟨length, below, rfl⟩ := ProofParts.read_cut read
  have tailLength : (proof.drop Point.compressedLength).length =
      challengeLength + scalarLength := by
    rw [List.length_drop, length]
    rfl
  have responseLength : ((proof.drop Point.compressedLength).drop challengeLength).length =
      scalarLength := by
    rw [List.length_drop, tailLength]
    rfl
  refine ⟨?_, below, ?_⟩
  · rw [List.length_take, tailLength]
    rfl
  · rw [← responseLength, Bytes.ofNat_toNat, List.append_assoc, List.take_append_drop,
      List.take_append_drop]

theorem decode_of_publicKeyPoint {publicKey : Bytes} {keyPoint : Point}
    (parsed : publicKeyPoint publicKey = .ok keyPoint) :
    Point.decode publicKey = .ok keyPoint := by
  unfold publicKeyPoint at parsed
  split at parsed
  case isFalse => cases parsed
  exact Except.mapError_eq_ok.mp parsed

theorem onCurve_inputPoint {publicKey input : Bytes} {inputPoint : Point}
    (found : inputPoint? publicKey input = some inputPoint) : inputPoint.onCurve = true := by
  obtain ⟨point, -, rfl⟩ := exists_of_inputPoint? found
  exact Point.onCurve_ofGroup point

/-- The five points that the verifier takes the challenge over. -/
def challengePoints (keyPoint inputPoint gamma : Point) (parts : ProofParts) : List Point :=
  [keyPoint, inputPoint, gamma,
    commitment parts.response generator parts.challenge.toNat keyPoint,
    commitment parts.response inputPoint parts.challenge.toNat gamma]

theorem onCurve_commitment {base image : Point} (onBase : base.onCurve = true)
    (onImage : image.onCurve = true) (response challenge : Nat) :
    (commitment response base challenge image).onCurve = true := by
  obtain ⟨baseElement, rfl⟩ := Point.exists_ofGroup onBase
  obtain ⟨imageElement, rfl⟩ := Point.exists_ofGroup onImage
  rw [commitment_ofGroup]
  exact Point.onCurve_ofGroup _

theorem onCurve_challengePoints {keyPoint inputPoint gamma : Point}
    (onKey : keyPoint.onCurve = true) (onInput : inputPoint.onCurve = true)
    (onGamma : gamma.onCurve = true) (parts : ProofParts) :
    ∀ point ∈ challengePoints keyPoint inputPoint gamma parts, point.onCurve = true := by
  simp only [challengePoints, List.forall_mem_cons, List.not_mem_nil, IsEmpty.forall_iff,
    implies_true, and_true]
  exact ⟨onKey, onInput, onGamma, onCurve_commitment Point.onCurve_generator onKey _ _,
    onCurve_commitment onInput onGamma _ _⟩

structure AcceptedProof (publicKey input proof : Bytes) where
  keyPoint : Point
  inputPoint : Point
  gamma : Point
  parts : ProofParts
  transcript : Bytes
  parsed : publicKeyPoint publicKey = .ok keyPoint
  found : inputPoint? publicKey input = some inputPoint
  read : ProofParts.read proof = .ok parts
  decoded : Point.decode parts.gamma = .ok gamma
  transcribed : challengeTranscript (challengePoints keyPoint inputPoint gamma parts) =
    .ok transcript
  matched : (Sha256.hash transcript).take challengeLength = parts.challenge

theorem challenge_ok {points : List Point} {bytes : Bytes} :
    challenge points = .ok bytes ↔ ∃ transcript, challengeTranscript points = .ok transcript ∧
      (Sha256.hash transcript).take challengeLength = bytes := by
  rw [challenge, Except.bind_eq_ok]
  exact exists_congr fun _ => and_congr_right fun _ => ⟨Except.ok.inj, congrArg Except.ok⟩

theorem provenOutput_ok {publicKey input proof output : Bytes} :
    provenOutput publicKey input proof = .ok output ↔
      ∃ accepted : AcceptedProof publicKey input proof,
        outputOf accepted.parts.gamma = output := by
  simp only [provenOutput, Except.bind_eq_ok, Except.mapError_eq_ok, Except.elim_eq_ok,
    challenge_ok]
  constructor
  · rintro ⟨keyPoint, parsed, parts, read, gamma, decoded, inputPoint, found, expected,
      ⟨transcript, transcribed, hashed⟩, ended⟩
    split at ended
    case isFalse => cases ended
    rename_i same
    exact ⟨⟨keyPoint, inputPoint, gamma, parts, transcript, parsed, found, read, decoded,
      transcribed, hashed.trans same⟩, Except.ok.inj ended⟩
  · rintro ⟨accepted, isOutput⟩
    exact ⟨accepted.keyPoint, accepted.parsed, accepted.parts, accepted.read, accepted.gamma,
      accepted.decoded, accepted.inputPoint, accepted.found, accepted.parts.challenge,
      ⟨accepted.transcript, accepted.transcribed, accepted.matched⟩,
      (if_pos rfl).trans (congrArg Except.ok isOutput)⟩

theorem verify_of_other_output {publicKey input proof output other : Bytes}
    (verified : verify publicKey input ⟨output, proof⟩ = .ok ()) (different : other ≠ output) :
    verify publicKey input ⟨other, proof⟩ = .error .output := by
  obtain ⟨proven, proves, ended⟩ := Except.bind_eq_ok.mp verified
  split at ended
  case isFalse => cases ended
  rename_i isProven
  rw [verify, proves]
  refine if_neg fun isOther => different ?_
  exact isOther.symm.trans isProven

namespace AcceptedProof

variable {publicKey input proof : Bytes}

theorem response_below (accepted : AcceptedProof publicKey input proof) :
    accepted.parts.response < groupOrder :=
  (ProofParts.read_ok accepted.read).2.1

theorem challenge_below (accepted : AcceptedProof publicKey input proof) :
    accepted.parts.challenge.toNat < 2 ^ 128 := by
  have bound := Bytes.toNat_lt accepted.parts.challenge
  rw [(ProofParts.read_ok accepted.read).1] at bound
  exact bound.trans_eq (by decide)

theorem challenged (accepted : AcceptedProof publicKey input proof) :
    challenge (challengePoints accepted.keyPoint accepted.inputPoint accepted.gamma
      accepted.parts) = .ok accepted.parts.challenge :=
  challenge_ok.mpr ⟨accepted.transcript, accepted.transcribed, accepted.matched⟩

theorem exists_elements (accepted : AcceptedProof publicKey input proof) :
    ∃ image point element : Group, Point.ofGroup image = accepted.keyPoint ∧
      Point.ofGroup point = accepted.inputPoint ∧ Point.ofGroup element = accepted.gamma := by
  obtain ⟨image, isImage⟩ := Point.exists_ofGroup
    (Point.onCurve_decode (decode_of_publicKeyPoint accepted.parsed))
  obtain ⟨point, -, isPoint⟩ := exists_of_inputPoint? accepted.found
  obtain ⟨element, isElement⟩ := Point.exists_ofGroup (Point.onCurve_decode accepted.decoded)
  exact ⟨image, point, element, isImage, isPoint, isElement⟩

end AcceptedProof

theorem complement_nsmul {challenge : Nat} (small : challenge ≤ groupOrder) (image : Group) :
    ((groupOrder - challenge) % groupOrder) • image = -(challenge • image) := by
  have cancels : (groupOrder - challenge) • image + challenge • image = 0 := by
    rw [← add_nsmul, Nat.sub_add_cancel small, Point.groupOrder_nsmul]
  rw [Point.mod_nsmul]
  exact eq_neg_of_add_eq_zero_left cancels

theorem commitment_ofGroup_sub (response : Nat) (base : Group) {challenge : Nat}
    (small : challenge ≤ groupOrder) (image : Group) :
    commitment response (.ofGroup base) challenge (.ofGroup image) =
      .ofGroup (response • base - challenge • image) := by
  rw [commitment_ofGroup, complement_nsmul small, sub_eq_add_neg]

end StakeLottery.Ecvrf
