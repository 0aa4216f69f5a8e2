import Mathlib
import StakeLottery.Proofs.Ecvrf.Malleability
import StakeLottery.Proofs.Ecvrf.Relation

/-!
What the random function hashes determines what it was made of. No bytes are hashed for two
purposes, and those of one purpose are taken apart in one way only; so a transcript that the
verifier hashes belongs to one key and one list of points.
-/

namespace StakeLottery.Ecvrf

open Curve

inductive HashPurpose where
  | candidate
  | challenge
  | output
  deriving DecidableEq

/-- What is hashed: an attempt at the point of an input, the points of a challenge, or the
compressed point of an output. -/
inductive HashInput where
  | candidate (publicKey input : Bytes) (counter : Nat)
  | challenge (points : List Point)
  | output (gamma : Bytes)

namespace HashInput

def purpose : HashInput → HashPurpose
  | candidate .. => .candidate
  | challenge _ => .challenge
  | output _ => .output

def toBytes : HashInput → Except PointError Bytes
  | candidate publicKey input counter => .ok (candidateTranscript publicKey input counter)
  | challenge points => challengeTranscript points
  | output gamma => .ok (outputTranscript gamma)

/-- Keys have the length of a compressed point, counters fit a byte, points lie on the curve. -/
def IsProper : HashInput → Prop
  | candidate publicKey _ counter => publicKey.length = 33 ∧ counter < 256
  | challenge points => ∀ point ∈ points, point.onCurve = true
  | output _ => True

end HashInput

theorem exists_encoded_of_transcript {points : List Point} {transcript : Bytes}
    (transcribed : challengeTranscript points = .ok transcript) :
    ∃ encoded, points.mapM Point.encode = .ok encoded ∧
      transcript = suite :: 2 :: (encoded.flatten ++ [0]) := by
  rw [challengeTranscript, Except.bind_eq_ok] at transcribed
  obtain ⟨encoded, encodes, made⟩ := transcribed
  exact ⟨encoded, encodes, (Except.ok.inj made).symm⟩

def HashPurpose.mark : HashPurpose → UInt8
  | candidate => 1
  | challenge => 2
  | output => 3

theorem HashPurpose.mark_injective : Function.Injective mark := by
  intro first second
  cases first <;> cases second <;> decide

theorem HashInput.exists_body {hashed : HashInput} {bytes : Bytes}
    (written : hashed.toBytes = .ok bytes) :
    ∃ body, bytes = suite :: hashed.purpose.mark :: body := by
  cases hashed with
  | candidate publicKey input counter => exact ⟨_, (Except.ok.inj written).symm⟩
  | challenge points =>
      obtain ⟨encoded, -, rfl⟩ := exists_encoded_of_transcript written
      exact ⟨_, rfl⟩
  | output gamma => exact ⟨_, (Except.ok.inj written).symm⟩

theorem HashInput.purpose_eq {first second : HashInput} {bytes : Bytes}
    (firstWritten : first.toBytes = .ok bytes) (secondWritten : second.toBytes = .ok bytes) :
    first.purpose = second.purpose := by
  obtain ⟨body, rfl⟩ := exists_body firstWritten
  obtain ⟨other, same⟩ := exists_body secondWritten
  simp only [List.cons.injEq, true_and] at same
  exact HashPurpose.mark_injective same.1

theorem candidateTranscript_injective {publicKey otherKey input otherInput : Bytes}
    {counter otherCounter : Nat} (sameWidth : publicKey.length = otherKey.length)
    (below : counter < 256) (otherBelow : otherCounter < 256)
    (same : candidateTranscript publicKey input counter =
      candidateTranscript otherKey otherInput otherCounter) :
    publicKey = otherKey ∧ input = otherInput ∧ counter = otherCounter := by
  simp only [candidateTranscript, List.append_assoc, List.append_cancel_left_eq] at same
  obtain ⟨sameKey, sameRest⟩ := List.append_inj same sameWidth
  -- The counter and the zero are cut off from behind, as the input may have any length.
  obtain ⟨sameInput, sameEnd⟩ := List.append_inj' sameRest rfl
  have sameByte : UInt8.ofNat counter = UInt8.ofNat otherCounter := (List.cons.inj sameEnd).1
  have sameCounter := congrArg UInt8.toNat sameByte
  rw [UInt8.toNat_ofNat_of_lt' below, UInt8.toNat_ofNat_of_lt' otherBelow] at sameCounter
  exact ⟨sameKey, sameInput, sameCounter⟩

theorem length_flatten_of_encode {points : List Point} {encoded : List Bytes}
    (encodes : points.mapM Point.encode = .ok encoded) :
    encoded.flatten.length = Point.compressedLength * points.length := by
  induction points generalizing encoded with
  | nil =>
      cases encodes
      rfl
  | cons point rest ih =>
      rw [List.mapM_cons, Except.bind_eq_ok] at encodes
      obtain ⟨bytes, encodesPoint, encodes⟩ := encodes
      rw [Except.bind_eq_ok] at encodes
      obtain ⟨others, encodesRest, made⟩ := encodes
      cases made
      rw [List.flatten_cons, List.length_append, Point.length_encode encodesPoint,
        ih encodesRest, List.length_cons, Nat.mul_succ, Nat.add_comm]

theorem length_eq_of_transcript {first second : List Point} {transcript : Bytes}
    (firstTranscribed : challengeTranscript first = .ok transcript)
    (secondTranscribed : challengeTranscript second = .ok transcript) :
    first.length = second.length := by
  obtain ⟨encoded, encodes, rfl⟩ := exists_encoded_of_transcript firstTranscribed
  obtain ⟨others, encodesOthers, same⟩ := exists_encoded_of_transcript secondTranscribed
  have lengths := congrArg List.length same
  simp only [List.length_cons, List.length_append, List.length_nil,
    length_flatten_of_encode encodes, length_flatten_of_encode encodesOthers] at lengths
  unfold Point.compressedLength at lengths
  omega

theorem HashInput.eq_of_toBytes {first second : HashInput} {bytes : Bytes}
    (firstProper : first.IsProper) (secondProper : second.IsProper)
    (firstWritten : first.toBytes = .ok bytes) (secondWritten : second.toBytes = .ok bytes) :
    first = second := by
  have samePurpose := purpose_eq firstWritten secondWritten
  match first, second with
  | candidate publicKey input counter, candidate otherKey otherInput otherCounter =>
      obtain ⟨width, below⟩ := firstProper
      obtain ⟨otherWidth, otherBelow⟩ := secondProper
      obtain ⟨rfl, rfl, rfl⟩ := candidateTranscript_injective (width.trans otherWidth.symm) below
        otherBelow (Except.ok.inj (firstWritten.trans secondWritten.symm))
      rfl
  | challenge points, challenge others =>
      rw [challengeTranscript_injective firstProper secondProper
        (length_eq_of_transcript firstWritten secondWritten) firstWritten secondWritten]
  | output gamma, output otherGamma =>
      have same := Except.ok.inj (firstWritten.trans secondWritten.symm)
      simp only [outputTranscript, List.append_assoc, List.append_cancel_left_eq,
        List.append_cancel_right_eq] at same
      rw [same]

/-- A run of the verifier that comes to the challenge, with the transcript it hashes there. -/
structure TranscribedProof (publicKey input proof transcript : Bytes) where
  keyPoint : Point
  inputPoint : Point
  gamma : Point
  parts : ProofParts
  parsed : publicKeyPoint publicKey = .ok keyPoint
  found : inputPoint? publicKey input = some inputPoint
  read : ProofParts.read proof = .ok parts
  decoded : Point.decode parts.gamma = .ok gamma
  transcribed : challengeTranscript (challengePoints keyPoint inputPoint gamma parts) =
    .ok transcript

namespace TranscribedProof

variable {publicKey input proof transcript : Bytes}

def generatorCommitment (run : TranscribedProof publicKey input proof transcript) : Point :=
  commitment run.parts.response generator run.parts.challenge.toNat run.keyPoint

def inputCommitment (run : TranscribedProof publicKey input proof transcript) : Point :=
  commitment run.parts.response run.inputPoint run.parts.challenge.toNat run.gamma

theorem provenOutput_eq (run : TranscribedProof publicKey input proof transcript) :
    provenOutput publicKey input proof =
      if (Sha256.hash transcript).take challengeLength = run.parts.challenge then
        .ok (outputOf run.parts.gamma)
      else .error .challenge := by
  have challenged : challenge (challengePoints run.keyPoint run.inputPoint run.gamma run.parts) =
      .ok ((Sha256.hash transcript).take challengeLength) :=
    challenge_ok.mpr ⟨transcript, run.transcribed, rfl⟩
  rw [challengePoints] at challenged
  simp only [provenOutput, run.parsed, run.read, run.decoded, run.found, challenged,
    Except.mapError, Option.elim, bind, Except.bind]
  rfl

theorem exists_of_mismatch (mismatched : provenOutput publicKey input proof = .error .challenge) :
    ∃ transcript, Nonempty (TranscribedProof publicKey input proof transcript) := by
  simp only [provenOutput, Except.bind_eq_error, Except.mapError_eq_error] at mismatched
  rcases mismatched with keyError | ⟨keyPoint, parsed, rest⟩
  · rcases publicKeyPoint_error_iff.mp keyError with ⟨-, other⟩ | ⟨-, -, other⟩ <;> cases other
  rcases rest with readError | ⟨parts, read, rest⟩
  · rcases ProofParts.read_error_iff.mp readError with ⟨-, other⟩ | ⟨-, -, other⟩ <;> cases other
  rcases rest with ⟨_, -, other⟩ | ⟨gamma, decoded, rest⟩
  · cases other
  rw [Except.mapError_eq_ok] at decoded
  cases found : inputPoint? publicKey input with
  | none =>
      rw [found] at rest
      rcases rest with other | ⟨_, other, -⟩ <;> cases other
  | some inputPoint =>
      rw [found] at rest
      rcases rest with other | ⟨_, same, rest⟩
      · cases other
      cases same
      rcases rest with ⟨_, -, other⟩ | ⟨expected, challenged, -⟩
      · cases other
      rw [Except.mapError_eq_ok] at challenged
      obtain ⟨transcript, transcribed, -⟩ := challenge_ok.mp challenged
      exact ⟨transcript, ⟨⟨keyPoint, inputPoint, gamma, parts, parsed, found, read, decoded,
        transcribed⟩⟩⟩

theorem exists_iff :
    (∃ transcript, Nonempty (TranscribedProof publicKey input proof transcript)) ↔
      (∃ output, provenOutput publicKey input proof = .ok output) ∨
        provenOutput publicKey input proof = .error .challenge := by
  constructor
  · rintro ⟨transcript, ⟨run⟩⟩
    rw [run.provenOutput_eq]
    split
    · exact .inl ⟨_, rfl⟩
    · exact .inr rfl
  · rintro (⟨output, proven⟩ | mismatched)
    · obtain ⟨accepted, -⟩ := provenOutput_ok.mp proven
      exact ⟨accepted.transcript, ⟨⟨_, _, _, _, accepted.parsed, accepted.found, accepted.read,
        accepted.decoded, accepted.transcribed⟩⟩⟩
    · exact exists_of_mismatch mismatched

theorem onCurve_points (run : TranscribedProof publicKey input proof transcript) :
    ∀ point ∈ challengePoints run.keyPoint run.inputPoint run.gamma run.parts,
      point.onCurve = true :=
  onCurve_challengePoints (Point.onCurve_decode (decode_of_publicKeyPoint run.parsed))
    (onCurve_inputPoint run.found) (Point.onCurve_decode run.decoded) run.parts

theorem eq_of_transcript {otherKey otherInput otherProof : Bytes}
    (first : TranscribedProof publicKey input proof transcript)
    (second : TranscribedProof otherKey otherInput otherProof transcript) :
    publicKey = otherKey ∧ first.inputPoint = second.inputPoint ∧ first.gamma = second.gamma ∧
      first.generatorCommitment = second.generatorCommitment ∧
      first.inputCommitment = second.inputCommitment := by
  have samePoints := challengeTranscript_injective first.onCurve_points second.onCurve_points rfl
    first.transcribed second.transcribed
  simp only [challengePoints, List.cons.injEq, and_true] at samePoints
  obtain ⟨sameKeyPoint, sameRest⟩ := samePoints
  have encoded := Point.encode_decode (decode_of_publicKeyPoint first.parsed)
  rw [sameKeyPoint, Point.encode_decode (decode_of_publicKeyPoint second.parsed)] at encoded
  exact ⟨(Except.ok.inj encoded).symm, sameRest⟩

end TranscribedProof

/-- What is hashed is of one purpose and, if it is proper, made in one way. -/
theorem hash_inputs_determined :
    (∀ (first second : HashInput) (bytes : Bytes),
      first.toBytes = .ok bytes → second.toBytes = .ok bytes →
        first.purpose = second.purpose ∧
          (first.IsProper → second.IsProper → first = second)) ∧
    (∀ points error, challenge points = .error error ↔
      .infinity ∈ points ∧ error = .infinity) ∧
    (∀ publicKey input proof,
      (∃ transcript, Nonempty (TranscribedProof publicKey input proof transcript)) ↔
        (∃ output, provenOutput publicKey input proof = .ok output) ∨
          provenOutput publicKey input proof = .error .challenge) ∧
    ∀ {publicKey input proof otherKey otherInput otherProof transcript : Bytes}
      (first : TranscribedProof publicKey input proof transcript)
      (second : TranscribedProof otherKey otherInput otherProof transcript),
        publicKey = otherKey ∧ first.inputPoint = second.inputPoint ∧
          first.gamma = second.gamma ∧
          first.generatorCommitment = second.generatorCommitment ∧
          first.inputCommitment = second.inputCommitment := by
  refine ⟨?_, ?_, ?_, ?_⟩
  · intro first second bytes firstWritten secondWritten
    refine ⟨HashInput.purpose_eq firstWritten secondWritten, ?_⟩
    intro firstProper secondProper
    exact HashInput.eq_of_toBytes firstProper secondProper firstWritten secondWritten
  · exact fun points error => challenge_error_iff
  · exact fun publicKey input proof => TranscribedProof.exists_iff
  · exact fun first second => first.eq_of_transcript second

theorem hash_inputs_determined_twice :
    ∃ bytes, challengeTranscript [generator, generator] = .ok bytes ∧
      (∀ points, (∀ point ∈ points, point.onCurve = true) →
        challengeTranscript points = .ok bytes → points = [generator, generator]) ∧
      ∀ gamma, outputTranscript gamma ≠ bytes := by
  obtain ⟨determined, -⟩ := hash_inputs_determined
  have proper : (HashInput.challenge [generator, generator]).IsProper := by
    intro point member
    rw [List.mem_pair, or_self] at member
    rw [member]
    exact Point.onCurve_generator
  refine ⟨_, rfl, ?_, ?_⟩
  · intro points on transcribed
    have same := (determined (.challenge points) (.challenge [generator, generator]) _
      transcribed rfl).2 on proper
    exact HashInput.challenge.inj same
  · intro gamma same
    have samePurpose := (determined (.output gamma) (.challenge [generator, generator]) _
      (congrArg Except.ok same) rfl).1
    cases samePurpose

end StakeLottery.Ecvrf
