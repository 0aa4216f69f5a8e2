import Mathlib
import StakeLottery.Proofs.Curve.Decoding
import StakeLottery.Proofs.Ecvrf.Acceptance

/-!
What verification decides. It accepts an output exactly when key and proof are well-formed, the
challenge of the proof is the hash of the five points that they give, and the output is the one that
the proof commits to. It refuses all others, with the text of the first check that fails.
-/

namespace StakeLottery.Ecvrf

open Curve

def difference (response : Nat) (base : Point) (challenge : Nat) (image : Point) : Point :=
  (Point.multiple response base).add (Point.multiple challenge image).neg

/-- What a well-formed key and a well-formed proof are made of. -/
structure Opening (publicKey proof : Bytes) where
  key : Point
  gamma : Point
  encodedGamma : Bytes
  challengeBytes : Bytes
  response : Nat
  isKey : Point.Compresses publicKey key
  isGamma : Point.Compresses encodedGamma gamma
  width : challengeBytes.length = 16
  below : response < groupOrder
  spelled : proof = encodedGamma ++ challengeBytes ++ Bytes.ofNat 32 response

namespace Opening

variable {publicKey proof : Bytes}

def first (opening : Opening publicKey proof) : Point :=
  difference opening.response generator opening.challengeBytes.toNat opening.key

def second (opening : Opening publicKey proof) (inputPoint : Point) : Point :=
  difference opening.response inputPoint opening.challengeBytes.toNat opening.gamma

def points (opening : Opening publicKey proof) (inputPoint : Point) : List Point :=
  [opening.key, inputPoint, opening.gamma, opening.first, opening.second inputPoint]

def IsFinite (opening : Opening publicKey proof) (inputPoint : Point) : Prop :=
  opening.first ≠ .infinity ∧ opening.second inputPoint ≠ .infinity

def Matches (opening : Opening publicKey proof) (inputPoint : Point) : Prop :=
  ∃ forms, List.Forall₂ Point.Compresses forms (opening.points inputPoint) ∧
    opening.challengeBytes = (Sha256.hash ([0xfe, 2] ++ forms.flatten ++ [0])).take 16

def output (opening : Opening publicKey proof) : Bytes :=
  Sha256.hash ([0xfe, 3] ++ opening.encodedGamma ++ [0])

end Opening

/-- The relation between a key, the point of an input, and an output with its proof. -/
def Related (publicKey : Bytes) (inputPoint : Point) (evaluation : Evaluation) : Prop :=
  ∃ opening : Opening publicKey evaluation.proof, opening.IsFinite inputPoint ∧
    opening.Matches inputPoint ∧ evaluation.output = opening.output

/-- The text of the first check that fails. Each check is made of what passes those before it. -/
inductive Refused (publicKey : Bytes) (inputPoint : Point) (evaluation : Evaluation) :
    String → Prop
  | keyForm (malformed : ¬Point.HasForm publicKey) :
      Refused publicKey inputPoint evaluation
        "Public key must be a 33-byte SEC1 compressed point"
  | keyPoint (form : Point.HasForm publicKey) (pointless : ∀ key, ¬Point.Compresses publicKey key) :
      Refused publicKey inputPoint evaluation "Invalid public key: Invalid EC key."
  | proofLength {key : Point} (isKey : Point.Compresses publicKey key)
      (wrong : evaluation.proof.length ≠ 81) :
      Refused publicKey inputPoint evaluation
        s!"Invalid proof length: {evaluation.proof.length}, expected 81"
  | scalarRange {key : Point} (isKey : Point.Compresses publicKey key)
      (length : evaluation.proof.length = 81)
      (beyond : groupOrder ≤ Bytes.toNat (evaluation.proof.drop 49)) :
      Refused publicKey inputPoint evaluation "Proof scalar out of range"
  | gamma {key : Point} {error : PointError} (isKey : Point.Compresses publicKey key)
      (length : evaluation.proof.length = 81)
      (below : Bytes.toNat (evaluation.proof.drop 49) < groupOrder)
      (undecodable : Point.Undecodable (evaluation.proof.take 33) error) :
      Refused publicKey inputPoint evaluation s!"Invalid proof point: {error.message}"
  | degenerate (opening : Opening publicKey evaluation.proof)
      (infinite : opening.first = .infinity ∨ opening.second inputPoint = .infinity) :
      Refused publicKey inputPoint evaluation
        "Degenerate proof: Cannot encode the point at infinity"
  | challenge (opening : Opening publicKey evaluation.proof) (finite : opening.IsFinite inputPoint)
      (mismatch : ¬opening.Matches inputPoint) :
      Refused publicKey inputPoint evaluation "VRF proof challenge mismatch"
  | output (opening : Opening publicKey evaluation.proof) (finite : opening.IsFinite inputPoint)
      (matching : opening.Matches inputPoint) (different : evaluation.output ≠ opening.output) :
      Refused publicKey inputPoint evaluation "Invalid VRF hash"

theorem publicKeyPoint_ok_iff {publicKey : Bytes} {key : Point} :
    publicKeyPoint publicKey = .ok key ↔ Point.Compresses publicKey key := by
  constructor
  · intro parsed
    exact Point.decode_ok_iff.mp (decode_of_publicKeyPoint parsed)
  · intro compressed
    have form := Point.hasCompressedForm_iff.mpr (Point.hasForm_of_compresses compressed)
    rw [publicKeyPoint, if_pos form, Point.decode_ok_iff.mpr compressed]
    rfl

theorem publicKeyPoint_error_iff {publicKey : Bytes} {error : ProofError} :
    publicKeyPoint publicKey = .error error ↔
      (¬Point.HasForm publicKey ∧ error = .keyForm) ∨
        (Point.HasForm publicKey ∧ (∀ key, ¬Point.Compresses publicKey key) ∧
          error = .keyPoint) := by
  unfold publicKeyPoint
  by_cases form : Point.HasForm publicKey
  · rw [if_pos (Point.hasCompressedForm_iff.mpr form), Except.mapError_eq_error]
    simp only [form, not_true_eq_false, false_and, false_or, true_and]
    constructor
    · rintro ⟨pointError, refused, rfl⟩
      refine ⟨fun key compressed => ?_, rfl⟩
      cases refused.symm.trans (Point.decode_ok_iff.mpr compressed)
    · rintro ⟨pointless, rfl⟩
      cases decoded : Point.decode publicKey with
      | error pointError => exact ⟨pointError, rfl, rfl⟩
      | ok key => exact absurd (Point.decode_ok_iff.mp decoded) (pointless key)
  · rw [if_neg (mt Point.hasCompressedForm_iff.mp form)]
    simp [form, eq_comm]

theorem ProofParts.read_error_iff {proof : Bytes} {error : ProofError} :
    ProofParts.read proof = .error error ↔
      (proof.length ≠ 81 ∧ error = .length proof.length) ∨
        (proof.length = 81 ∧ groupOrder ≤ Bytes.toNat (proof.drop 49) ∧
          error = .scalarRange) := by
  have isTail : (proof.drop Point.compressedLength).drop challengeLength = proof.drop 49 := by
    rw [List.drop_drop]
    rfl
  have isLength : proofLength = 81 := rfl
  unfold ProofParts.read
  dsimp only
  rw [isTail, isLength]
  by_cases length : proof.length = 81
  · by_cases below : Bytes.toNat (proof.drop 49) < groupOrder
    · simp [length, below]
    · simp [length, below, Nat.not_lt.mp below, eq_comm]
  · simp [length, eq_comm]

theorem ProofParts.read_ok_iff {proof : Bytes} {parts : ProofParts} :
    ProofParts.read proof = .ok parts ↔
      parts.gamma.length = 33 ∧ parts.challenge.length = 16 ∧ parts.response < groupOrder ∧
        proof = parts.gamma ++ parts.challenge ++ Bytes.ofNat 32 parts.response := by
  constructor
  · intro read
    obtain ⟨challengeWidth, below, spelled⟩ := ProofParts.read_ok read
    have length := congrArg List.length spelled
    rw [(ProofParts.read_cut read).1, List.length_append, List.length_append, challengeWidth,
      Bytes.length_ofNat] at length
    refine ⟨?_, challengeWidth, below, spelled⟩
    unfold proofLength Point.compressedLength at length
    omega
  · rintro ⟨gammaWidth, challengeWidth, below, spelled⟩
    rw [spelled]
    exact ProofParts.read_append gammaWidth challengeWidth below

theorem ProofParts.exists_read {proof : Bytes} (length : proof.length = 81)
    (below : Bytes.toNat (proof.drop 49) < groupOrder) :
    ∃ parts, ProofParts.read proof = .ok parts ∧ parts.gamma = proof.take 33 := by
  cases read : ProofParts.read proof with
  | ok parts =>
      obtain ⟨-, -, rfl⟩ := ProofParts.read_cut read
      exact ⟨_, rfl, rfl⟩
  | error error =>
      rcases ProofParts.read_error_iff.mp read with ⟨wrong, -⟩ | ⟨-, beyond, -⟩
      · exact absurd length wrong
      · omega

theorem mapM_encode_ok_iff {points : List Point} (on : ∀ point ∈ points, point.onCurve = true)
    {forms : List Bytes} :
    points.mapM Point.encode = .ok forms ↔ List.Forall₂ Point.Compresses forms points := by
  induction points generalizing forms with
  | nil => simp [pure, Except.pure, eq_comm]
  | cons point rest ih =>
      have onPoint := on point List.mem_cons_self
      have onRest := fun other member => on other (List.mem_cons_of_mem point member)
      simp only [List.mapM_cons, Except.bind_eq_ok, ih onRest, Point.encode_ok_iff onPoint]
      constructor
      · rintro ⟨form, isForm, others, areForms, made⟩
        cases made
        exact .cons isForm areForms
      · intro areForms
        cases areForms with
        | cons isForm others => exact ⟨_, isForm, _, others, rfl⟩

theorem mapM_encode_error_iff {points : List Point} {error : PointError} :
    points.mapM Point.encode = .error error ↔ .infinity ∈ points ∧ error = .infinity := by
  induction points with
  | nil => simp [pure, Except.pure]
  | cons point rest ih =>
      simp only [List.mapM_cons, Except.bind_eq_error, ih]
      cases point with
      | infinity => simp [Point.encode, eq_comm]
      | affine x y => simp [Point.encode, pure, Except.pure]

theorem challenge_ok_iff {points : List Point} (on : ∀ point ∈ points, point.onCurve = true)
    {bytes : Bytes} :
    challenge points = .ok bytes ↔ ∃ forms, List.Forall₂ Point.Compresses forms points ∧
      bytes = (Sha256.hash ([0xfe, 2] ++ forms.flatten ++ [0])).take 16 := by
  simp only [challenge_ok, challengeTranscript, Except.bind_eq_ok, mapM_encode_ok_iff on]
  constructor
  · rintro ⟨_, ⟨forms, areForms, made⟩, rfl⟩
    cases made
    exact ⟨forms, areForms, rfl⟩
  · rintro ⟨forms, areForms, rfl⟩
    exact ⟨_, ⟨forms, areForms, rfl⟩, rfl⟩

theorem challenge_error_iff {points : List Point} {error : PointError} :
    challenge points = .error error ↔ .infinity ∈ points ∧ error = .infinity := by
  rw [challenge, Except.bind_eq_error, challengeTranscript, Except.bind_eq_error,
    mapM_encode_error_iff]
  simp [pure, Except.pure]

theorem commitment_eq_difference {base image : Point} (onBase : base.onCurve = true)
    (onImage : image.onCurve = true) (response : Nat) {challenge : Nat}
    (small : challenge ≤ groupOrder) :
    commitment response base challenge image = difference response base challenge image := by
  rw [difference, ← Point.times_eq_multiple onBase, ← Point.times_eq_multiple onImage]
  obtain ⟨baseElement, rfl⟩ := Point.exists_ofGroup onBase
  obtain ⟨imageElement, rfl⟩ := Point.exists_ofGroup onImage
  rw [commitment_ofGroup_sub response baseElement small, sub_eq_add_neg, Point.ofGroup_add,
    Point.ofGroup_neg, Point.ofGroup_nsmul, Point.ofGroup_nsmul]

theorem inputPoint_ne_infinity {publicKey input : Bytes} {inputPoint : Point}
    (found : inputPoint? publicKey input = some inputPoint) : inputPoint ≠ .infinity := by
  obtain ⟨element, nonzero, rfl⟩ := exists_of_inputPoint? found
  intro isInfinity
  exact nonzero (Point.ofGroup_injective isInfinity)

namespace Opening

variable {publicKey input proof : Bytes} {inputPoint : Point} {evaluation : Evaluation}

theorem parsed (opening : Opening publicKey proof) :
    publicKeyPoint publicKey = .ok opening.key :=
  publicKeyPoint_ok_iff.mpr opening.isKey

theorem read (opening : Opening publicKey proof) :
    ProofParts.read proof =
      .ok ⟨opening.encodedGamma, opening.challengeBytes, opening.response⟩ :=
  ProofParts.read_ok_iff.mpr ⟨(Point.hasForm_of_compresses opening.isGamma).1, opening.width,
    opening.below, opening.spelled⟩

theorem decoded (opening : Opening publicKey proof) :
    Point.decode opening.encodedGamma = .ok opening.gamma :=
  Point.decode_ok_iff.mpr opening.isGamma

theorem nonempty_of_read {key gamma : Point} {parts : ProofParts}
    (isKey : Point.Compresses publicKey key) (read : ProofParts.read proof = .ok parts)
    (isGamma : Point.Compresses parts.gamma gamma) : Nonempty (Opening publicKey proof) := by
  obtain ⟨-, width, below, spelled⟩ := ProofParts.read_ok_iff.mp read
  exact ⟨⟨key, gamma, parts.gamma, parts.challenge, parts.response, isKey, isGamma, width, below,
    spelled⟩⟩

theorem onCurve_key (opening : Opening publicKey proof) : opening.key.onCurve = true :=
  (Point.compresses_iff.mp opening.isKey).1

theorem onCurve_gamma (opening : Opening publicKey proof) : opening.gamma.onCurve = true :=
  (Point.compresses_iff.mp opening.isGamma).1

theorem challenge_le (opening : Opening publicKey proof) :
    opening.challengeBytes.toNat ≤ groupOrder :=
  challenge_le_groupOrder opening.width

theorem challengePoints_eq (opening : Opening publicKey proof)
    (onInput : inputPoint.onCurve = true) :
    challengePoints opening.key inputPoint opening.gamma
      ⟨opening.encodedGamma, opening.challengeBytes, opening.response⟩ =
        opening.points inputPoint := by
  simp only [challengePoints, points, first, second]
  rw [commitment_eq_difference Point.onCurve_generator opening.onCurve_key _ opening.challenge_le,
    commitment_eq_difference onInput opening.onCurve_gamma _ opening.challenge_le]

theorem onCurve_points (opening : Opening publicKey proof) (onInput : inputPoint.onCurve = true) :
    ∀ point ∈ opening.points inputPoint, point.onCurve = true := by
  rw [← opening.challengePoints_eq onInput]
  exact onCurve_challengePoints opening.onCurve_key onInput opening.onCurve_gamma _

theorem infinity_mem_points_iff (opening : Opening publicKey proof)
    (finite : inputPoint ≠ .infinity) :
    .infinity ∈ opening.points inputPoint ↔
      opening.first = .infinity ∨ opening.second inputPoint = .infinity := by
  have keyFinite := Point.ne_infinity_of_compresses opening.isKey
  have gammaFinite := Point.ne_infinity_of_compresses opening.isGamma
  simp only [points, List.mem_cons, List.not_mem_nil, or_false, keyFinite.symm, finite.symm,
    gammaFinite.symm, false_or]
  exact or_congr eq_comm eq_comm

theorem verify_eq (opening : Opening publicKey evaluation.proof)
    (found : inputPoint? publicKey input = some inputPoint) :
    verify publicKey input evaluation =
      (challenge (opening.points inputPoint)).mapError ProofError.degenerate >>= fun expected =>
        if expected = opening.challengeBytes then
          if opening.output = evaluation.output then .ok () else .error .output
        else .error .challenge := by
  rw [← opening.challengePoints_eq (onCurve_inputPoint found)]
  simp only [verify, provenOutput, challengePoints, opening.parsed, opening.read, opening.decoded,
    found, Except.mapError, Option.elim, bind, Except.bind]
  cases challenge _ with
  | error error => rfl
  | ok expected =>
      dsimp only
      by_cases same : expected = opening.challengeBytes
      · rw [if_pos same, if_pos same]
        rfl
      · rw [if_neg same, if_neg same]
        rfl

theorem verify_of_infinite (opening : Opening publicKey evaluation.proof)
    (found : inputPoint? publicKey input = some inputPoint)
    (infinite : opening.first = .infinity ∨ opening.second inputPoint = .infinity) :
    verify publicKey input evaluation = .error (.degenerate .infinity) := by
  have member := (opening.infinity_mem_points_iff (inputPoint_ne_infinity found)).mpr infinite
  rw [opening.verify_eq found, challenge_error_iff.mpr ⟨member, rfl⟩]
  rfl

theorem exists_challenge (opening : Opening publicKey proof)
    (finiteInput : inputPoint ≠ .infinity) (finite : opening.IsFinite inputPoint) :
    ∃ expected, challenge (opening.points inputPoint) = .ok expected := by
  cases challenged : challenge (opening.points inputPoint) with
  | ok expected => exact ⟨expected, rfl⟩
  | error error =>
      have member := (challenge_error_iff.mp challenged).1
      rcases (opening.infinity_mem_points_iff finiteInput).mp member with first | second
      · exact absurd first finite.1
      · exact absurd second finite.2

theorem challenge_eq_iff (opening : Opening publicKey proof)
    (onInput : inputPoint.onCurve = true) :
    challenge (opening.points inputPoint) = .ok opening.challengeBytes ↔
      opening.Matches inputPoint :=
  challenge_ok_iff (opening.onCurve_points onInput)

theorem verify_of_mismatch (opening : Opening publicKey evaluation.proof)
    (found : inputPoint? publicKey input = some inputPoint) (finite : opening.IsFinite inputPoint)
    (mismatch : ¬opening.Matches inputPoint) :
    verify publicKey input evaluation = .error .challenge := by
  obtain ⟨expected, challenged⟩ :=
    opening.exists_challenge (inputPoint_ne_infinity found) finite
  have different : expected ≠ opening.challengeBytes := by
    rintro rfl
    exact mismatch ((opening.challenge_eq_iff (onCurve_inputPoint found)).mp challenged)
  rw [opening.verify_eq found, challenged]
  exact if_neg different

theorem verify_of_matches (opening : Opening publicKey evaluation.proof)
    (found : inputPoint? publicKey input = some inputPoint)
    (matching : opening.Matches inputPoint) :
    verify publicKey input evaluation =
      if opening.output = evaluation.output then .ok () else .error .output := by
  rw [opening.verify_eq found,
    (opening.challenge_eq_iff (onCurve_inputPoint found)).mpr matching]
  exact if_pos rfl

end Opening

section

variable {publicKey input : Bytes} {inputPoint : Point} {evaluation : Evaluation}

theorem verify_of_keyError {error : ProofError} (failed : publicKeyPoint publicKey = .error error) :
    verify publicKey input evaluation = .error error := by
  rw [verify, provenOutput, failed]
  rfl

theorem verify_of_readError {key : Point} {error : ProofError}
    (isKey : Point.Compresses publicKey key)
    (failed : ProofParts.read evaluation.proof = .error error) :
    verify publicKey input evaluation = .error error := by
  simp only [verify, provenOutput, publicKeyPoint_ok_iff.mpr isKey, failed, bind, Except.bind]

theorem verify_of_gammaError {key : Point} {parts : ProofParts} {error : PointError}
    (isKey : Point.Compresses publicKey key)
    (read : ProofParts.read evaluation.proof = .ok parts)
    (undecodable : Point.Undecodable parts.gamma error) :
    verify publicKey input evaluation = .error (.gamma error) := by
  simp only [verify, provenOutput, publicKeyPoint_ok_iff.mpr isKey, read,
    Point.decode_error_iff.mpr undecodable, Except.mapError, bind, Except.bind]

theorem ProofError.message_length (given : Nat) :
    (ProofError.length given).message = s!"Invalid proof length: {given}, expected 81" := by
  have spelled : ", expected " ++ toString proofLength = ", expected 81" := rfl
  exact (String.append_assoc ..).trans (congrArg _ spelled)

theorem related_or_refused (publicKey : Bytes) (inputPoint : Point) (evaluation : Evaluation) :
    Related publicKey inputPoint evaluation ∨
      ∃ text, Refused publicKey inputPoint evaluation text := by
  -- The cases follow the order of the checks: each is split once those before it hold.
  by_cases form : Point.HasForm publicKey
  case neg => exact .inr ⟨_, .keyForm form⟩
  by_cases pointed : ∃ key, Point.Compresses publicKey key
  case neg => exact .inr ⟨_, .keyPoint form (not_exists.mp pointed)⟩
  obtain ⟨key, isKey⟩ := pointed
  cases read : ProofParts.read evaluation.proof with
  | error error =>
      rcases ProofParts.read_error_iff.mp read with ⟨wrong, -⟩ | ⟨length, beyond, -⟩
      · exact .inr ⟨_, .proofLength isKey wrong⟩
      · exact .inr ⟨_, .scalarRange isKey length beyond⟩
  | ok parts =>
      cases decoded : Point.decode parts.gamma with
      | error error =>
          obtain ⟨length, below, rfl⟩ := ProofParts.read_cut read
          rw [List.drop_drop] at below
          exact .inr ⟨_, .gamma isKey length below (Point.decode_error_iff.mp decoded)⟩
      | ok gamma =>
          obtain ⟨opening⟩ :=
            Opening.nonempty_of_read isKey read (Point.decode_ok_iff.mp decoded)
          by_cases first : opening.first = .infinity
          case pos => exact .inr ⟨_, .degenerate opening (.inl first)⟩
          by_cases second : opening.second inputPoint = .infinity
          case pos => exact .inr ⟨_, .degenerate opening (.inr second)⟩
          have finite : opening.IsFinite inputPoint := ⟨first, second⟩
          by_cases matching : opening.Matches inputPoint
          case neg => exact .inr ⟨_, .challenge opening finite matching⟩
          by_cases same : evaluation.output = opening.output
          case neg => exact .inr ⟨_, .output opening finite matching same⟩
          exact .inl ⟨opening, finite, matching, same⟩

theorem verify_of_related (found : inputPoint? publicKey input = some inputPoint)
    (related : Related publicKey inputPoint evaluation) :
    verify publicKey input evaluation = .ok () := by
  obtain ⟨opening, -, matching, same⟩ := related
  rw [opening.verify_of_matches found matching]
  exact if_pos same.symm

theorem verify_of_refused (found : inputPoint? publicKey input = some inputPoint) {text : String}
    (refused : Refused publicKey inputPoint evaluation text) :
    ∃ error : ProofError, verify publicKey input evaluation = .error error ∧
      error.message = text := by
  cases refused with
  | keyForm malformed =>
      exact ⟨_, verify_of_keyError (publicKeyPoint_error_iff.mpr (.inl ⟨malformed, rfl⟩)), rfl⟩
  | keyPoint form pointless =>
      exact ⟨_, verify_of_keyError (publicKeyPoint_error_iff.mpr (.inr ⟨form, pointless, rfl⟩)),
        rfl⟩
  | proofLength isKey wrong =>
      exact ⟨_, verify_of_readError isKey (ProofParts.read_error_iff.mpr (.inl ⟨wrong, rfl⟩)),
        ProofError.message_length _⟩
  | scalarRange isKey length beyond =>
      exact ⟨_, verify_of_readError isKey
        (ProofParts.read_error_iff.mpr (.inr ⟨length, beyond, rfl⟩)), rfl⟩
  | gamma isKey length below undecodable =>
      obtain ⟨parts, read, isGamma⟩ := ProofParts.exists_read length below
      rw [← isGamma] at undecodable
      exact ⟨_, verify_of_gammaError isKey read undecodable, rfl⟩
  | degenerate opening infinite =>
      exact ⟨_, opening.verify_of_infinite found infinite, rfl⟩
  | challenge opening finite mismatch =>
      exact ⟨_, opening.verify_of_mismatch found finite mismatch, rfl⟩
  | output opening finite matching different =>
      refine ⟨.output, ?_, rfl⟩
      rw [opening.verify_of_matches found matching]
      exact if_neg different.symm

/-- Verification is total, so that what is related and what each check refuses decide it. -/
theorem verify_decides_relation (found : inputPoint? publicKey input = some inputPoint) :
    (verify publicKey input evaluation = .ok () ↔ Related publicKey inputPoint evaluation) ∧
      (accepts publicKey input evaluation = true ↔ Related publicKey inputPoint evaluation) ∧
      (∀ text, (∃ error : ProofError, verify publicKey input evaluation = .error error ∧
        error.message = text) ↔ Refused publicKey inputPoint evaluation text) ∧
      (accepts publicKey input evaluation = false ↔
        ∃ text, Refused publicKey inputPoint evaluation text) := by
  rcases related_or_refused publicKey inputPoint evaluation with related | ⟨reason, refused⟩
  · have verified := verify_of_related found related
    have unrefused : ∀ text, ¬Refused publicKey inputPoint evaluation text := by
      intro text refused
      obtain ⟨error, failed, -⟩ := verify_of_refused found refused
      cases failed.symm.trans verified
    simp [accepts, verified, related, unrefused, Except.toBool]
  · obtain ⟨error, failed, isReason⟩ := verify_of_refused found refused
    have unrelated : ¬Related publicKey inputPoint evaluation := by
      intro related
      cases failed.symm.trans (verify_of_related found related)
    have only : ∀ text, error.message = text ↔ Refused publicKey inputPoint evaluation text := by
      intro text
      constructor
      · rintro rfl
        rwa [isReason]
      · intro other
        obtain ⟨_, failedAlso, isText⟩ := verify_of_refused found other
        cases failed.symm.trans failedAlso
        exact isText
    have someRefused : ∃ text, Refused publicKey inputPoint evaluation text := ⟨reason, refused⟩
    simp [accepts, failed, unrelated, only, someRefused, Except.toBool]

end

theorem verify_decides_relation_plain :
    ∃ evaluation, evaluate unitKey plainInput.toBytes = .ok evaluation ∧
      Related unitKey.publicKey (.affine plainX plainY) evaluation ∧
      accepts unitKey.publicKey plainInput.toBytes ⟨evaluation.output, []⟩ = false := by
  obtain ⟨evaluation, evaluated, -⟩ := exists_evaluate inputPoint?_plain nonce?_plain_of_encode
  have related := (verify_decides_relation inputPoint?_plain).1.mp (verify_of_evaluate evaluated)
  obtain ⟨opening, -⟩ := id related
  exact ⟨evaluation, evaluated, related, (verify_decides_relation inputPoint?_plain).2.2.2.mpr
    ⟨_, .proofLength opening.isKey (by simp)⟩⟩

end StakeLottery.Ecvrf
