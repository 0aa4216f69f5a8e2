import Mathlib
import StakeLottery.Proofs.Ecvrf.Acceptance

/-!
No part of an accepted proof can be changed for another. Two accepted proofs with one challenge
are one proof, or the transcripts of their challenges collide.
-/

namespace StakeLottery.Ecvrf

open Curve

theorem encoded_injective {first second : List Point}
    (onFirst : ∀ point ∈ first, point.onCurve = true)
    (onSecond : ∀ point ∈ second, point.onCurve = true)
    (sameLength : first.length = second.length) {encodedFirst encodedSecond : List Bytes}
    (encodesFirst : first.mapM Point.encode = .ok encodedFirst)
    (encodesSecond : second.mapM Point.encode = .ok encodedSecond)
    (sameBytes : encodedFirst.flatten = encodedSecond.flatten) : first = second := by
  induction first generalizing second encodedFirst encodedSecond with
  | nil => exact (List.length_eq_zero_iff.mp sameLength.symm).symm
  | cons point rest ih =>
      cases second with
      | nil => cases sameLength
      | cons other others =>
          rw [List.mapM_cons, Except.bind_eq_ok] at encodesFirst encodesSecond
          obtain ⟨bytes, encodesPoint, encodesFirst⟩ := encodesFirst
          obtain ⟨otherBytes, encodesOther, encodesSecond⟩ := encodesSecond
          rw [Except.bind_eq_ok] at encodesFirst encodesSecond
          obtain ⟨restBytes, encodesRest, madeFirst⟩ := encodesFirst
          obtain ⟨othersBytes, encodesOthers, madeSecond⟩ := encodesSecond
          cases madeFirst
          cases madeSecond
          rw [List.flatten_cons, List.flatten_cons] at sameBytes
          -- The forms have one length, so that the bytes fall apart at the same places.
          have sameWidth : bytes.length = otherBytes.length :=
            (Point.length_encode encodesPoint).trans (Point.length_encode encodesOther).symm
          obtain ⟨sameHead, sameTail⟩ := List.append_inj sameBytes sameWidth
          subst sameHead
          have decoded := Point.decode_encode (onFirst point List.mem_cons_self) encodesPoint
          have decodedToo := Point.decode_encode (onSecond other List.mem_cons_self) encodesOther
          have samePoint : point = other := Except.ok.inj (decoded.symm.trans decodedToo)
          have sameRest : rest = others :=
            ih (fun member inRest => onFirst member (List.mem_cons_of_mem _ inRest))
              (fun member inOthers => onSecond member (List.mem_cons_of_mem _ inOthers))
              (Nat.succ.inj sameLength) encodesRest encodesOthers sameTail
          rw [samePoint, sameRest]

theorem challengeTranscript_injective {first second : List Point}
    (onFirst : ∀ point ∈ first, point.onCurve = true)
    (onSecond : ∀ point ∈ second, point.onCurve = true)
    (sameLength : first.length = second.length) {transcript : Bytes}
    (transcribesFirst : challengeTranscript first = .ok transcript)
    (transcribesSecond : challengeTranscript second = .ok transcript) : first = second := by
  rw [challengeTranscript, Except.bind_eq_ok] at transcribesFirst transcribesSecond
  obtain ⟨encodedFirst, encodesFirst, madeFirst⟩ := transcribesFirst
  obtain ⟨encodedSecond, encodesSecond, madeSecond⟩ := transcribesSecond
  have same := Except.ok.inj (madeFirst.trans madeSecond.symm)
  rw [List.append_left_inj, List.append_right_inj] at same
  exact encoded_injective onFirst onSecond sameLength encodesFirst encodesSecond same

theorem response_eq_of_commitment {keyPoint : Point} (on : keyPoint.onCurve = true)
    {challenge first second : Nat} (firstBelow : first < groupOrder)
    (secondBelow : second < groupOrder)
    (same : commitment first generator challenge keyPoint =
      commitment second generator challenge keyPoint) : first = second := by
  obtain ⟨base, generates, nonzero⟩ := Point.exists_generator
  obtain ⟨image, rfl⟩ := Point.exists_ofGroup on
  rw [← generates, commitment_ofGroup, commitment_ofGroup] at same
  exact Point.eq_of_nsmul_eq nonzero firstBelow secondBelow
    (add_right_cancel (Point.ofGroup_injective same))

namespace AcceptedProof

variable {publicKey input one other : Bytes}

theorem onCurve_challengePoints (accepted : AcceptedProof publicKey input one) :
    ∀ point ∈ challengePoints accepted.keyPoint accepted.inputPoint accepted.gamma
      accepted.parts, point.onCurve = true := by
  have onKey := Point.onCurve_decode (decode_of_publicKeyPoint accepted.parsed)
  have onGamma := Point.onCurve_decode accepted.decoded
  exact Ecvrf.onCurve_challengePoints onKey (onCurve_inputPoint accepted.found) onGamma _

theorem eq_of_same_parts (first : AcceptedProof publicKey input one)
    (second : AcceptedProof publicKey input other) (sameGamma : first.gamma = second.gamma)
    (sameChallenge : first.parts.challenge.toNat = second.parts.challenge.toNat)
    (sameResponse : first.parts.response = second.parts.response) : one = other := by
  obtain ⟨firstLength, -, isOne⟩ := ProofParts.read_ok first.read
  obtain ⟨secondLength, -, isOther⟩ := ProofParts.read_ok second.read
  have gammaBytes : first.parts.gamma = second.parts.gamma := by
    have encodes := Point.encode_decode first.decoded
    rw [sameGamma, Point.encode_decode second.decoded] at encodes
    exact (Except.ok.inj encodes).symm
  have challengeBytes : first.parts.challenge = second.parts.challenge := by
    rw [← Bytes.ofNat_toNat first.parts.challenge, firstLength, sameChallenge, ← secondLength,
      Bytes.ofNat_toNat]
  rw [isOne, isOther, gammaBytes, challengeBytes, sameResponse]

theorem eq_of_same_transcript (first : AcceptedProof publicKey input one)
    (second : AcceptedProof publicKey input other)
    (sameChallenge : first.parts.challenge = second.parts.challenge)
    (sameTranscript : first.transcript = second.transcript) : one = other := by
  have transcribed := second.transcribed
  rw [← sameTranscript] at transcribed
  have samePoints := challengeTranscript_injective first.onCurve_challengePoints
    second.onCurve_challengePoints rfl first.transcribed transcribed
  simp only [challengePoints, List.cons.injEq, and_true] at samePoints
  obtain ⟨sameKey, -, sameGamma, sameCommitment, -⟩ := samePoints
  -- The transcript has the commitment in place of the response, which it determines.
  rw [sameKey, sameChallenge] at sameCommitment
  have onKey := Point.onCurve_decode (decode_of_publicKeyPoint second.parsed)
  have sameResponse := response_eq_of_commitment onKey first.response_below
    second.response_below sameCommitment
  exact first.eq_of_same_parts second sameGamma (congrArg _ sameChallenge) sameResponse

end AcceptedProof

/-- Two accepted proofs with one challenge are the same, or their transcripts have digests that
begin alike. -/
theorem shared_challenge_collides {publicKey input one other oneOutput otherOutput : Bytes}
    (oneProven : provenOutput publicKey input one = .ok oneOutput)
    (otherProven : provenOutput publicKey input other = .ok otherOutput) :
    ∃ (first : AcceptedProof publicKey input one) (second : AcceptedProof publicKey input other),
      (one ≠ other →
        (one.drop Point.compressedLength).take challengeLength =
          (other.drop Point.compressedLength).take challengeLength →
        first.transcript ≠ second.transcript ∧
        (Sha256.hash first.transcript).take 16 = (Sha256.hash second.transcript).take 16) ∧
      (first.gamma = second.gamma →
        first.parts.challenge.toNat = second.parts.challenge.toNat →
        first.parts.response = second.parts.response → one = other) := by
  obtain ⟨first, -⟩ := provenOutput_ok.mp oneProven
  obtain ⟨second, -⟩ := provenOutput_ok.mp otherProven
  refine ⟨first, second, ?_, first.eq_of_same_parts second⟩
  intro different sameField
  have sameChallenge : first.parts.challenge = second.parts.challenge := by
    rw [ProofParts.challenge_eq first.read, sameField, ProofParts.challenge_eq second.read]
  constructor
  · intro sameTranscript
    exact different (first.eq_of_same_transcript second sameChallenge sameTranscript)
  · exact first.matched.trans (sameChallenge.trans second.matched.symm)

theorem plain_proofs_differ :
    (evaluateAt unitKey (.affine plainX plainY) 1).toOption.map Evaluation.proof ≠
      (evaluateAt unitKey (.affine plainX plainY) 2).toOption.map Evaluation.proof := by
  decide +kernel

theorem shared_challenge_collides_plain :
    ∃ (one other oneOutput otherOutput : Bytes),
      provenOutput unitKey.publicKey plainInput.toBytes one = .ok oneOutput ∧
      provenOutput unitKey.publicKey plainInput.toBytes other = .ok otherOutput ∧
      ∃ (first : AcceptedProof unitKey.publicKey plainInput.toBytes one)
        (second : AcceptedProof unitKey.publicKey plainInput.toBytes other),
        ¬(first.gamma = second.gamma ∧
          first.parts.challenge.toNat = second.parts.challenge.toNat ∧
          first.parts.response = second.parts.response) := by
  obtain ⟨one, oneMade, -, -, oneProven⟩ :=
    provenOutput_evaluateAt inputPoint?_plain Nat.one_pos (by decide)
  obtain ⟨other, otherMade, -, -, otherProven⟩ :=
    provenOutput_evaluateAt inputPoint?_plain Nat.two_pos (by decide)
  have different : one.proof ≠ other.proof := by
    have differ := plain_proofs_differ
    rw [oneMade, otherMade] at differ
    exact fun same => differ (congrArg some same)
  obtain ⟨first, second, -, spelling⟩ := shared_challenge_collides oneProven otherProven
  refine ⟨_, _, _, _, oneProven, otherProven, first, second, ?_⟩
  rintro ⟨sameGamma, sameChallenge, sameResponse⟩
  exact different (spelling sameGamma sameChallenge sameResponse)

end StakeLottery.Ecvrf
