import Mathlib
import StakeLottery.Ecvrf.Verification
import StakeLottery.Proofs.Curve.Compressed
import StakeLottery.Proofs.Digest.Sha256
import StakeLottery.Proofs.Outcome
import StakeLottery.Record.RoundInput

/-!
Every evaluation of the random function verifies. The response is the nonce plus the challenge
times the scalar, so that the commitments the verifier computes are the nonce's multiples that the
prover hashed; all points in question are other than infinity, as the group has prime order.
-/

namespace StakeLottery

open Curve
open scoped Curve.Fp

theorem SecretKey.exists_publicPoint (key : SecretKey) :
    ∃ base : Group, Point.ofGroup base = generator ∧ base ≠ 0 ∧
      key.publicPoint = Point.ofGroup (key.scalar • base) := by
  obtain ⟨base, generates, nonzero⟩ := Point.exists_generator
  refine ⟨base, generates, nonzero, ?_⟩
  rw [Point.ofGroup_nsmul, generates, publicPoint]

theorem SecretKey.onCurve_publicPoint (key : SecretKey) : key.publicPoint.onCurve = true := by
  obtain ⟨base, -, -, isMultiple⟩ := key.exists_publicPoint
  rw [isMultiple]
  exact Point.onCurve_ofGroup _

theorem SecretKey.encode_publicPoint (key : SecretKey) :
    key.publicPoint.encode = .ok key.publicKey := by
  obtain ⟨base, -, nonzero, isMultiple⟩ := key.exists_publicPoint
  have imageNonzero := Point.nsmul_ne_zero nonzero key.positive key.below_order
  cases image : key.scalar • base with
  | zero => exact absurd image imageNonzero
  | some x y nonsingular =>
      rw [publicKey, isMultiple, image]
      rfl

namespace Ecvrf

theorem publicKeyPoint_publicKey (key : SecretKey) :
    publicKeyPoint key.publicKey = .ok key.publicPoint := by
  have on := key.onCurve_publicPoint
  have encodes := key.encode_publicPoint
  generalize key.publicPoint = point at on encodes ⊢
  cases point with
  | infinity => cases encodes
  | affine x y =>
      rw [← Except.ok.inj encodes, publicKeyPoint, if_pos (Point.hasCompressedForm_compress x y),
        Point.decode_compress on]
      rfl

theorem Nonce.draw?_bounds {generator : Nonce.Generator} {draws nonce : Nat}
    (drawn : generator.draw? draws = some nonce) : 0 < nonce ∧ nonce < groupOrder := by
  induction draws generalizing generator with
  | zero => cases drawn
  | succ draws ih =>
      simp only [Generator.draw?] at drawn
      split at drawn
      · rename_i bounds
        cases drawn
        exact bounds
      · exact ih drawn

theorem commitment_ofGroup (response challenge : Nat) (base image : Group) :
    commitment response (.ofGroup base) challenge (.ofGroup image) =
      .ofGroup (response • base + ((groupOrder - challenge) % groupOrder) • image) := by
  rw [commitment, ← Point.ofGroup_nsmul, ← Point.ofGroup_nsmul, ← Point.ofGroup_add]

theorem commitment_honest (scalar nonce : Nat) {challenge : Nat} (small : challenge ≤ groupOrder)
    (base : Group) :
    commitment ((nonce + challenge * scalar) % groupOrder) (.ofGroup base) challenge
      (.ofGroup (scalar • base)) = .ofGroup (nonce • base) := by
  -- The challenge is taken off modulo the order, so that one of zero is no special case.
  have cancels : challenge * scalar + (groupOrder - challenge) * scalar = groupOrder * scalar := by
    rw [← Nat.add_mul, Nat.add_sub_cancel' small]
  rw [commitment_ofGroup, Point.mod_nsmul, Point.mod_nsmul, ← mul_nsmul', add_nsmul, add_assoc,
    ← add_nsmul, cancels, mul_comm, mul_nsmul', Point.groupOrder_nsmul, nsmul_zero, add_zero]

theorem challengeTranscript_ofGroup {elements : List Group}
    (nonzero : ∀ element ∈ elements, element ≠ 0) :
    ∃ transcript, challengeTranscript (elements.map Point.ofGroup) = .ok transcript := by
  have encodes : ∃ encoded, (elements.map Point.ofGroup).mapM Point.encode = .ok encoded := by
    induction elements with
    | nil => exact ⟨[], rfl⟩
    | cons element rest ih =>
        obtain ⟨first, encodesFirst, -, -⟩ :=
          Point.exists_encode (nonzero element List.mem_cons_self)
        obtain ⟨others, encodesOthers⟩ :=
          ih fun other member => nonzero other (List.mem_cons_of_mem _ member)
        refine ⟨first :: others, ?_⟩
        rw [List.map_cons, List.mapM_cons, encodesFirst, encodesOthers]
        rfl
  obtain ⟨encoded, encodes⟩ := encodes
  refine ⟨[suite, 2] ++ encoded.flatten ++ [0], ?_⟩
  rw [challengeTranscript, encodes]
  rfl

theorem challenge_ofGroup {elements : List Group}
    (nonzero : ∀ element ∈ elements, element ≠ 0) :
    ∃ bytes, challenge (elements.map Point.ofGroup) = .ok bytes ∧
      bytes.length = challengeLength := by
  obtain ⟨transcript, transcribed⟩ := challengeTranscript_ofGroup nonzero
  refine ⟨(Sha256.hash transcript).take challengeLength, ?_, ?_⟩
  · rw [challenge, transcribed]
    rfl
  · rw [List.length_take, Sha256.length_hash]
    rfl

theorem challenge_le_groupOrder {bytes : Bytes} (length : bytes.length = challengeLength) :
    Bytes.toNat bytes ≤ groupOrder := by
  have bound := Bytes.toNat_lt bytes
  rw [length] at bound
  exact Nat.le_of_lt (Nat.lt_trans bound (by decide))

theorem exists_of_inputPoint? {publicKey input : Bytes} {point : Point}
    (found : inputPoint? publicKey input = some point) :
    ∃ element : Group, element ≠ 0 ∧ Point.ofGroup element = point := by
  obtain ⟨counter, -, proposed⟩ := List.exists_of_findSome?_eq_some found
  split at proposed
  · rename_i decoded
    cases proposed
    obtain ⟨x, y, rfl, on⟩ := Point.onCurve_of_decode decoded
    obtain ⟨element, same⟩ := Point.exists_ofGroup on
    refine ⟨element, ?_, same⟩
    rintro rfl
    cases same
  · cases proposed

theorem evaluateAt_ok (key : SecretKey) {point : Group} (nonzero : point ≠ 0) {nonce : Nat}
    (positive : 0 < nonce) (below : nonce < groupOrder) :
    ∃ gamma bytes base,
      Point.ofGroup base = generator ∧
      Point.decode gamma = .ok (.ofGroup (key.scalar • point)) ∧
      gamma.length = Point.compressedLength ∧
      challenge [key.publicPoint, .ofGroup point, .ofGroup (key.scalar • point),
        .ofGroup (nonce • base), .ofGroup (nonce • point)] = .ok bytes ∧
      bytes.length = challengeLength ∧
      evaluateAt key (.ofGroup point) nonce = .ok ⟨outputOf gamma, gamma ++ bytes ++
        Bytes.ofNat scalarLength ((nonce + Bytes.toNat bytes * key.scalar) % groupOrder)⟩ := by
  obtain ⟨base, generates, baseNonzero, isMultiple⟩ := key.exists_publicPoint
  have gammaNonzero := Point.nsmul_ne_zero nonzero key.positive key.below_order
  obtain ⟨gamma, encodes, lengthGamma, decodes⟩ := Point.exists_encode gammaNonzero
  -- None of the five points of the challenge is infinity, as no multiplier is one of the order.
  have allNonzero : ∀ element ∈ [key.scalar • base, point, key.scalar • point, nonce • base,
      nonce • point], element ≠ 0 := by
    simp only [List.forall_mem_cons, List.not_mem_nil, IsEmpty.forall_iff, implies_true, and_true]
    exact ⟨Point.nsmul_ne_zero baseNonzero key.positive key.below_order, nonzero, gammaNonzero,
      Point.nsmul_ne_zero baseNonzero positive below, Point.nsmul_ne_zero nonzero positive below⟩
  obtain ⟨bytes, challenged, lengthBytes⟩ := challenge_ofGroup allNonzero
  simp only [List.map_cons, List.map_nil, ← isMultiple] at challenged
  refine ⟨gamma, bytes, base, generates, decodes, lengthGamma, challenged, lengthBytes, ?_⟩
  rw [evaluateAt, ← generates, ← Point.ofGroup_nsmul, ← Point.ofGroup_nsmul,
    ← Point.ofGroup_nsmul, challenged, encodes]
  rfl

theorem ProofParts.read_append {gamma bytes : Bytes}
    (lengthGamma : gamma.length = Point.compressedLength)
    (lengthBytes : bytes.length = challengeLength) {response : Nat}
    (below : response < groupOrder) :
    ProofParts.read (gamma ++ bytes ++ Bytes.ofNat scalarLength response) =
      .ok ⟨gamma, bytes, response⟩ := by
  have length : (gamma ++ bytes ++ Bytes.ofNat scalarLength response).length = proofLength := by
    rw [List.length_append, List.length_append, lengthGamma, lengthBytes, Bytes.length_ofNat]
    rfl
  have isSmall : response < Bytes.capacity scalarLength := Nat.lt_trans below (by decide)
  rw [read, if_pos length]
  simp only [List.append_assoc, ← lengthGamma, List.drop_left, List.take_left, ← lengthBytes,
    Bytes.toNat_ofNat _ _ isSmall, if_pos below]

theorem provenOutput_evaluateAt {key : SecretKey} {input : Bytes} {inputPoint : Point}
    (found : inputPoint? key.publicKey input = some inputPoint) {nonce : Nat}
    (positive : 0 < nonce) (below : nonce < groupOrder) :
    ∃ evaluation, evaluateAt key inputPoint nonce = .ok evaluation ∧
      evaluation.proof.length = proofLength ∧ evaluation.output.length = 32 ∧
      provenOutput key.publicKey input evaluation.proof = .ok evaluation.output := by
  obtain ⟨point, nonzero, rfl⟩ := exists_of_inputPoint? found
  obtain ⟨gamma, bytes, base, generates, decodes, lengthGamma, challenged, lengthBytes,
    evaluated⟩ := evaluateAt_ok key nonzero positive below
  have isMultiple : key.publicPoint = .ofGroup (key.scalar • base) := by
    rw [Point.ofGroup_nsmul, generates, SecretKey.publicPoint]
  have responseBelow : (nonce + Bytes.toNat bytes * key.scalar) % groupOrder < groupOrder :=
    Nat.mod_lt _ (by decide)
  refine ⟨_, evaluated, ?_, Sha256.length_hash _, ?_⟩
  · rw [List.length_append, List.length_append, lengthGamma, lengthBytes, Bytes.length_ofNat]
    rfl
  · have small := challenge_le_groupOrder lengthBytes
    have first := commitment_honest key.scalar nonce small base
    have second := commitment_honest key.scalar nonce small point
    rw [← isMultiple, generates] at first
    refine Except.bind_eq_ok.mpr ⟨_, publicKeyPoint_publicKey key, ?_⟩
    refine Except.bind_eq_ok.mpr
      ⟨_, ProofParts.read_append lengthGamma lengthBytes responseBelow, ?_⟩
    refine Except.bind_eq_ok.mpr ⟨_, Except.mapError_eq_ok.mpr decodes, ?_⟩
    refine Except.bind_eq_ok.mpr ⟨_, Except.elim_eq_ok.mpr found, ?_⟩
    simp only [first, second]
    exact Except.bind_eq_ok.mpr ⟨_, Except.mapError_eq_ok.mpr challenged, if_pos rfl⟩

theorem verify_of_provenOutput {publicKey input : Bytes} {evaluation : Evaluation}
    (proves : provenOutput publicKey input evaluation.proof = .ok evaluation.output) :
    verify publicKey input evaluation = .ok () := by
  exact Except.bind_eq_ok.mpr ⟨_, proves, if_pos rfl⟩

theorem exists_nonce_of_evaluate {key : SecretKey} {input : Bytes} {evaluation : Evaluation}
    (evaluated : evaluate key input = .ok evaluation) :
    ∃ inputPoint nonce, inputPoint? key.publicKey input = some inputPoint ∧ 0 < nonce ∧
      nonce < groupOrder ∧ evaluateAt key inputPoint nonce = .ok evaluation := by
  rw [evaluate, Except.bind_eq_ok] at evaluated
  obtain ⟨inputPoint, found, evaluated⟩ := evaluated
  rw [Except.bind_eq_ok] at evaluated
  obtain ⟨encoded, -, evaluated⟩ := evaluated
  rw [Except.bind_eq_ok] at evaluated
  obtain ⟨nonce, drawn, evaluated⟩ := evaluated
  rw [Except.elim_eq_ok] at found drawn
  obtain ⟨positive, below⟩ := Nonce.draw?_bounds drawn
  exact ⟨inputPoint, nonce, found, positive, below, Except.mapError_eq_ok.mp evaluated⟩

theorem verify_of_evaluate {key : SecretKey} {input : Bytes} {evaluation : Evaluation}
    (evaluated : evaluate key input = .ok evaluation) :
    verify key.publicKey input evaluation = .ok () := by
  obtain ⟨inputPoint, nonce, found, positive, below, made⟩ := exists_nonce_of_evaluate evaluated
  obtain ⟨honest, honestMade, -, -, proves⟩ := provenOutput_evaluateAt found positive below
  rw [made] at honestMade
  cases honestMade
  exact verify_of_provenOutput proves

/-- The output commits to the scalar's multiple of the input's point and to nothing else. -/
theorem output_of_evaluate {key : SecretKey} {input : Bytes} {evaluation : Evaluation}
    (evaluated : evaluate key input = .ok evaluation) :
    ∃ inputPoint gamma, inputPoint? key.publicKey input = some inputPoint ∧
      (inputPoint.times key.scalar).encode = .ok gamma ∧ evaluation.output = outputOf gamma := by
  obtain ⟨inputPoint, nonce, found, -, -, made⟩ := exists_nonce_of_evaluate evaluated
  rw [evaluateAt, Except.bind_eq_ok] at made
  obtain ⟨challenge, -, made⟩ := made
  rw [Except.bind_eq_ok] at made
  obtain ⟨gamma, encodes, made⟩ := made
  refine ⟨inputPoint, gamma, found, encodes, ?_⟩
  rw [← Except.ok.inj made]

theorem exists_evaluate {key : SecretKey} {input : Bytes} {inputPoint : Point}
    (found : inputPoint? key.publicKey input = some inputPoint)
    (drawn : ∀ encoded, inputPoint.encode = .ok encoded →
      (Nonce.nonce? key.scalar (Sha256.hash encoded)).isSome) :
    ∃ evaluation, evaluate key input = .ok evaluation ∧
      evaluation.proof.length = proofLength ∧ evaluation.output.length = 32 ∧
      provenOutput key.publicKey input evaluation.proof = .ok evaluation.output := by
  obtain ⟨point, nonzero, rfl⟩ := exists_of_inputPoint? found
  obtain ⟨encoded, encodes, -, -⟩ := Point.exists_encode nonzero
  obtain ⟨nonce, isNonce⟩ := Option.isSome_iff_exists.mp (drawn encoded encodes)
  obtain ⟨positive, below⟩ := Nonce.draw?_bounds isNonce
  obtain ⟨evaluation, made, lengthProof, lengthOutput, proves⟩ :=
    provenOutput_evaluateAt found positive below
  refine ⟨evaluation, ?_, lengthProof, lengthOutput, proves⟩
  refine Except.bind_eq_ok.mpr ⟨_, Except.elim_eq_ok.mpr found, ?_⟩
  refine Except.bind_eq_ok.mpr ⟨_, Except.mapError_eq_ok.mpr encodes, ?_⟩
  exact Except.bind_eq_ok.mpr ⟨_, Except.elim_eq_ok.mpr isNonce, Except.mapError_eq_ok.mpr made⟩

/-- An evaluation has an output of 32 bytes and a proof of 81 bytes, and no check of the verifier
rejects them. -/
theorem evaluation_accepted (key : SecretKey) (input : Bytes) {inputPoint : Point}
    (found : inputPoint? key.publicKey input = some inputPoint)
    (drawn : ∀ encoded, inputPoint.encode = .ok encoded →
      (Nonce.nonce? key.scalar (Sha256.hash encoded)).isSome) :
    ∃ evaluation, evaluate key input = .ok evaluation ∧ evaluation.proof.length = 81 ∧
      evaluation.output.length = 32 ∧
      provenOutput key.publicKey input evaluation.proof = .ok evaluation.output ∧
      verify key.publicKey input evaluation = .ok () ∧
      accepts key.publicKey input evaluation = true := by
  obtain ⟨evaluation, evaluated, lengthProof, lengthOutput, proves⟩ :=
    exists_evaluate found drawn
  have verified := verify_of_provenOutput proves
  refine ⟨evaluation, evaluated, lengthProof, lengthOutput, proves, verified, ?_⟩
  rw [accepts, verified]
  rfl

def unitKey : SecretKey := ⟨1, by decide, by decide⟩

def plainInput : RoundInput := ⟨[], 11, 0, 0⟩

def plainX : Fp := 10208423439128435682318166671635826892808439173798610669726694632862902076504

def plainY : Fp := 82345113105286000898549243967699182666724176613819449444097118937481548019074

theorem inputPoint?_plain :
    inputPoint? unitKey.publicKey plainInput.toBytes = some (.affine plainX plainY) := by
  decide +kernel

theorem nonce?_plain :
    (Nonce.nonce? unitKey.scalar (Sha256.hash (Point.compress plainX plainY))).isSome = true := by
  decide +kernel

theorem nonce?_plain_of_encode (encoded : Bytes)
    (encodes : (Point.affine plainX plainY).encode = .ok encoded) :
    (Nonce.nonce? unitKey.scalar (Sha256.hash encoded)).isSome := by
  obtain rfl := Except.ok.inj encodes
  exact nonce?_plain

theorem evaluation_accepted_plain :
    ∃ evaluation, evaluate unitKey plainInput.toBytes = .ok evaluation ∧
      accepts unitKey.publicKey plainInput.toBytes evaluation = true := by
  obtain ⟨evaluation, evaluated, -, -, -, -, accepted⟩ :=
    evaluation_accepted unitKey plainInput.toBytes inputPoint?_plain nonce?_plain_of_encode
  exact ⟨evaluation, evaluated, accepted⟩

theorem times_unitKey :
    (Point.affine plainX plainY).times unitKey.scalar = .affine plainX plainY := by
  decide +kernel

theorem output_plain {evaluation : Evaluation}
    (evaluated : evaluate unitKey plainInput.toBytes = .ok evaluation) :
    evaluation.output = outputOf (Point.compress plainX plainY) := by
  obtain ⟨inputPoint, gamma, found, encodes, isOutput⟩ := output_of_evaluate evaluated
  rw [inputPoint?_plain, Option.some.injEq] at found
  rw [← found, times_unitKey] at encodes
  rw [isOutput, ← Except.ok.inj encodes]

end Ecvrf

end StakeLottery
