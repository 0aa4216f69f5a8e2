import StakeLottery.Proofs.Ecvrf.Acceptance

/-!
Which outputs a key can prove for an input. A proof whose point is not the scalar's multiple of the
input's point fits one challenge at most, and the five points that are hashed determine it before
they are hashed.
-/

namespace StakeLottery

open Curve

theorem Ecvrf.exists_secretKey {publicKey : Bytes} {keyPoint : Point}
    (parsed : Ecvrf.publicKeyPoint publicKey = .ok keyPoint) :
    ∃ key : SecretKey, key.publicKey = publicKey ∧ key.publicPoint = keyPoint := by
  have decoded := Ecvrf.decode_of_publicKeyPoint parsed
  obtain ⟨x, y, rfl, on⟩ := Point.onCurve_of_decode decoded
  obtain ⟨element, isElement⟩ := Point.exists_ofGroup on
  obtain ⟨base, generates, baseNonzero⟩ := Point.exists_generator
  -- The generator reaches every point, and with zero only the one that has no compressed form.
  obtain ⟨scalar, below, isMultiple⟩ := Point.exists_nsmul_eq baseNonzero element
  have positive : 0 < scalar := by
    refine Nat.pos_of_ne_zero ?_
    rintro rfl
    rw [zero_nsmul] at isMultiple
    rw [← isMultiple] at isElement
    cases isElement
  have publicPoint : (⟨scalar, positive, below⟩ : SecretKey).publicPoint = .affine x y := by
    rw [SecretKey.publicPoint, ← generates, ← Point.ofGroup_nsmul, isMultiple, isElement]
  refine ⟨⟨scalar, positive, below⟩, ?_, publicPoint⟩
  rw [SecretKey.publicKey, publicPoint]
  exact Except.ok.inj (Point.encode_decode decoded)

namespace Ecvrf

/-- Two commitments are what a response and a challenge leave of them. -/
def Answers (keyPoint inputPoint gamma first second : Point) (challenge response : Nat) : Prop :=
  first = (generator.times response).add (keyPoint.times challenge).neg ∧
    second = (inputPoint.times response).add (gamma.times challenge).neg

def Answerable (keyPoint inputPoint gamma first second : Point) (challenge : Nat) : Prop :=
  challenge < 2 ^ 128 ∧ ∃ response, response < groupOrder ∧
    Answers keyPoint inputPoint gamma first second challenge response

theorem answers_ofGroup (base image point gamma : Group) (first second : Point)
    (challenge response : Nat) (generates : Point.ofGroup base = generator) :
    Answers (.ofGroup image) (.ofGroup point) (.ofGroup gamma) first second challenge response ↔
      first = .ofGroup (response • base - challenge • image) ∧
        second = .ofGroup (response • point - challenge • gamma) := by
  simp only [Answers, ← generates, ← Point.ofGroup_nsmul, ← Point.ofGroup_neg,
    ← Point.ofGroup_add, sub_eq_add_neg]

theorem challenge_eq_of_commitments {base point gamma : Group} {scalar : Nat}
    (baseNonzero : base ≠ 0) (foreign : gamma ≠ scalar • point)
    {challenge₁ response₁ challenge₂ response₂ : Nat}
    (below₁ : challenge₁ < groupOrder) (below₂ : challenge₂ < groupOrder)
    (first : response₁ • base - challenge₁ • scalar • base =
      response₂ • base - challenge₂ • scalar • base)
    (second : response₁ • point - challenge₁ • gamma =
      response₂ • point - challenge₂ • gamma) :
    challenge₁ = challenge₂ := by
  -- The responses differ by the scalar times what the challenges differ by.
  have tied : (groupOrder : Int) ∣
      (response₁ - response₂) - (challenge₁ - challenge₂) * scalar := by
    rw [← Point.zsmul_eq_zero_iff baseNonzero, ← sub_eq_zero.mpr first]
    module
  have vanishes : ((response₁ - response₂ : Int) - (challenge₁ - challenge₂) * scalar) • point
      = 0 := by
    obtain ⟨factor, isMultiple⟩ := tied
    rw [isMultiple, mul_zsmul, natCast_zsmul, Point.groupOrder_nsmul]
  have multiple : (challenge₁ - challenge₂ : Int) • (gamma - scalar • point) = 0 := by
    calc (challenge₁ - challenge₂ : Int) • (gamma - scalar • point)
        = ((response₁ - response₂ : Int) - (challenge₁ - challenge₂) * scalar) • point -
            (response₁ • point - challenge₁ • gamma -
              (response₂ • point - challenge₂ • gamma)) := by module
      _ = 0 := by rw [vanishes, second, sub_self, sub_zero]
  rw [Point.zsmul_eq_zero_iff (sub_ne_zero.mpr foreign)] at multiple
  have close : |(challenge₁ - challenge₂ : Int)| < groupOrder := by
    rw [abs_lt]
    omega
  have equal := Int.eq_zero_of_abs_lt_dvd multiple close
  omega

theorem answerable_unique {key : SecretKey} {inputPoint gamma first second : Point}
    (onInput : inputPoint.onCurve = true) (on : gamma.onCurve = true)
    (foreign : gamma ≠ inputPoint.times key.scalar) {challenge₁ challenge₂ : Nat}
    (answerable₁ : Answerable key.publicPoint inputPoint gamma first second challenge₁)
    (answerable₂ : Answerable key.publicPoint inputPoint gamma first second challenge₂) :
    challenge₁ = challenge₂ := by
  obtain ⟨base, generates, baseNonzero, isMultiple⟩ := key.exists_publicPoint
  obtain ⟨point, rfl⟩ := Point.exists_ofGroup onInput
  obtain ⟨element, rfl⟩ := Point.exists_ofGroup on
  rw [← Point.ofGroup_nsmul] at foreign
  have foreignElement : element ≠ key.scalar • point := fun same => foreign (congrArg _ same)
  obtain ⟨small₁, response₁, -, answers₁⟩ := answerable₁
  obtain ⟨small₂, response₂, -, answers₂⟩ := answerable₂
  rw [isMultiple, answers_ofGroup base _ _ _ _ _ _ _ generates] at answers₁ answers₂
  have capacity : 2 ^ 128 < groupOrder := by decide
  exact challenge_eq_of_commitments baseNonzero foreignElement (small₁.trans capacity)
    (small₂.trans capacity)
    (Point.ofGroup_injective (answers₁.1.symm.trans answers₂.1))
    (Point.ofGroup_injective (answers₁.2.symm.trans answers₂.2))

theorem AcceptedProof.keyPoint_eq {key : SecretKey} {input proof : Bytes}
    (accepted : AcceptedProof key.publicKey input proof) :
    accepted.keyPoint = key.publicPoint :=
  Except.ok.inj (accepted.parsed.symm.trans (publicKeyPoint_publicKey key))

theorem AcceptedProof.answerable {publicKey input proof : Bytes}
    (accepted : AcceptedProof publicKey input proof) :
    Answerable accepted.keyPoint accepted.inputPoint accepted.gamma
      (commitment accepted.parts.response generator accepted.parts.challenge.toNat
        accepted.keyPoint)
      (commitment accepted.parts.response accepted.inputPoint accepted.parts.challenge.toNat
        accepted.gamma)
      accepted.parts.challenge.toNat := by
  refine ⟨accepted.challenge_below, accepted.parts.response, accepted.response_below, ?_⟩
  obtain ⟨base, generates, -⟩ := Point.exists_generator
  obtain ⟨image, point, element, isImage, isPoint, isElement⟩ := accepted.exists_elements
  have small : accepted.parts.challenge.toNat ≤ groupOrder :=
    Nat.le_of_lt (accepted.challenge_below.trans (by decide))
  rw [← isImage, ← isPoint, ← isElement, answers_ofGroup base _ _ _ _ _ _ _ generates,
    ← generates]
  exact ⟨commitment_ofGroup_sub _ _ small _, commitment_ofGroup_sub _ _ small _⟩

theorem exists_evaluateAt_output {key : SecretKey} {input gamma : Bytes} {inputPoint : Point}
    (found : inputPoint? key.publicKey input = some inputPoint)
    (decoded : Point.decode gamma = .ok (inputPoint.times key.scalar)) {nonce : Nat}
    (positive : 0 < nonce) (below : nonce < groupOrder) :
    ∃ evaluation, evaluateAt key inputPoint nonce = .ok evaluation ∧
      evaluation.output = outputOf gamma := by
  obtain ⟨point, nonzero, rfl⟩ := exists_of_inputPoint? found
  obtain ⟨honest, bytes, base, -, honestDecoded, -, -, -, evaluated⟩ :=
    evaluateAt_ok key nonzero positive below
  rw [Point.ofGroup_nsmul] at honestDecoded
  -- The nonce is in the challenge and the response, and the output is the hash of neither.
  have same : honest = gamma := Except.ok.inj
    ((Point.encode_decode honestDecoded).symm.trans (Point.encode_decode decoded))
  refine ⟨_, evaluated, ?_⟩
  rw [same]

theorem evaluate_output {key : SecretKey} {input gamma : Bytes} {inputPoint : Point}
    (found : inputPoint? key.publicKey input = some inputPoint)
    (decoded : Point.decode gamma = .ok (inputPoint.times key.scalar))
    {evaluation : Evaluation} (evaluated : evaluate key input = .ok evaluation) :
    evaluation.output = outputOf gamma := by
  obtain ⟨evaluatedPoint, nonce, foundAgain, positive, below, made⟩ :=
    exists_nonce_of_evaluate evaluated
  obtain rfl := Option.some.inj (foundAgain.symm.trans found)
  obtain ⟨again, madeAgain, isOutput⟩ := exists_evaluateAt_output found decoded positive below
  obtain rfl := Except.ok.inj (made.symm.trans madeAgain)
  exact isOutput

theorem AcceptedProof.answerable_iff {key : SecretKey} {input proof : Bytes}
    (accepted : AcceptedProof key.publicKey input proof)
    (foreign : accepted.gamma ≠ accepted.inputPoint.times key.scalar) (number : Nat) :
    Answerable key.publicPoint accepted.inputPoint accepted.gamma
      (commitment accepted.parts.response generator accepted.parts.challenge.toNat
        key.publicPoint)
      (commitment accepted.parts.response accepted.inputPoint accepted.parts.challenge.toNat
        accepted.gamma) number ↔
      number = accepted.parts.challenge.toNat := by
  have own := accepted.answerable
  rw [accepted.keyPoint_eq] at own
  constructor
  · intro other
    exact answerable_unique (onCurve_inputPoint accepted.found)
      (Point.onCurve_decode accepted.decoded) foreign other own
  · rintro rfl
    exact own

/-- An accepted proof is for the scalar's multiple, or its challenge is the only one that answers
the commitments it was hashed with. -/
theorem challenge_determined_unless_honest {publicKey : Bytes} {keyPoint : Point}
    (parsed : publicKeyPoint publicKey = .ok keyPoint) (input : Bytes) {inputPoint : Point}
    (found : inputPoint? publicKey input = some inputPoint) :
    (∃ key : SecretKey, key.publicKey = publicKey) ∧
    ∀ key : SecretKey, key.publicKey = publicKey →
      keyPoint = generator.times key.scalar ∧
      (∀ gamma first second : Point, gamma.onCurve = true →
        gamma ≠ inputPoint.times key.scalar → ∀ challenge₁ challenge₂,
          Answerable keyPoint inputPoint gamma first second challenge₁ →
          Answerable keyPoint inputPoint gamma first second challenge₂ →
          challenge₁ = challenge₂) ∧
      ∀ proof output, provenOutput publicKey input proof = .ok output →
        ∃ parts gamma, ProofParts.read proof = .ok parts ∧
          Point.decode parts.gamma = .ok gamma ∧
          ((gamma = inputPoint.times key.scalar ∧
            (∀ nonce, 0 < nonce → nonce < groupOrder → ∃ evaluation,
              evaluateAt key inputPoint nonce = .ok evaluation ∧ evaluation.output = output) ∧
            ∀ evaluation, evaluate key input = .ok evaluation → evaluation.output = output) ∨
          (gamma ≠ inputPoint.times key.scalar ∧ ∃ first second bytes,
            first = commitment parts.response generator parts.challenge.toNat keyPoint ∧
            second = commitment parts.response inputPoint parts.challenge.toNat gamma ∧
            challenge [keyPoint, inputPoint, gamma, first, second] = .ok bytes ∧
            ∀ number, Answerable keyPoint inputPoint gamma first second number ↔
              number = bytes.toNat)) := by
  obtain ⟨known, isKnown, -⟩ := exists_secretKey parsed
  refine ⟨⟨known, isKnown⟩, ?_⟩
  rintro key rfl
  rw [publicKeyPoint_publicKey, Except.ok.injEq] at parsed
  subst parsed
  refine ⟨rfl, ?_, ?_⟩
  · intro gamma first second on foreign challenge₁ challenge₂ answerable₁ answerable₂
    exact answerable_unique (onCurve_inputPoint found) on foreign answerable₁ answerable₂
  · intro proof output proven
    obtain ⟨accepted, rfl⟩ := provenOutput_ok.mp proven
    obtain rfl := Option.some.inj (accepted.found.symm.trans found)
    refine ⟨accepted.parts, accepted.gamma, accepted.read, accepted.decoded, ?_⟩
    by_cases honest : accepted.gamma = accepted.inputPoint.times key.scalar
    · left
      have decoded := accepted.decoded
      rw [honest] at decoded
      refine ⟨honest, ?_, ?_⟩
      · intro nonce positive below
        exact exists_evaluateAt_output found decoded positive below
      · intro evaluation evaluated
        exact evaluate_output found decoded evaluated
    · right
      have challenged := accepted.challenged
      rw [accepted.keyPoint_eq] at challenged
      exact ⟨honest, _, _, _, rfl, rfl, challenged, accepted.answerable_iff honest⟩

theorem challenge_determined_unless_honest_plain :
    ∃ first second,
      Answerable unitKey.publicPoint (.affine plainX plainY) generator first second 5 ∧
      ∀ number, Answerable unitKey.publicPoint (.affine plainX plainY) generator first second
        number → number = 5 := by
  obtain ⟨-, determined⟩ := challenge_determined_unless_honest
    (publicKeyPoint_publicKey unitKey) plainInput.toBytes inputPoint?_plain
  obtain ⟨-, unique, -⟩ := determined unitKey rfl
  have foreign : generator ≠ (Point.affine plainX plainY).times unitKey.scalar := by
    rw [times_unitKey]
    decide
  have own : Answerable unitKey.publicPoint (.affine plainX plainY) generator _ _ 5 :=
    ⟨by decide, 7, by decide, rfl, rfl⟩
  refine ⟨_, _, own, ?_⟩
  intro number other
  exact unique _ _ _ Point.onCurve_generator foreign number 5 other own

end Ecvrf

end StakeLottery
