import Mathlib
import StakeLottery.Proofs.Participation
import StakeLottery.Proofs.Record.RoundInput
import StakeLottery.Proofs.Verification.Reasons

/-!
An announcement is for one context. The verifier compares each field of the announced input with
its own, and it checks the proof over the encoding of its own context and the announced round, which
encodes nothing else.
-/

namespace StakeLottery

theorem LocalContext.eq_of_roundInput_eq {first second : LocalContext}
    {firstRound secondRound : Int}
    (same : first.roundInput firstRound = second.roundInput secondRound) : first = second := by
  cases first
  cases second
  cases same
  rfl

namespace Verification

variable {Failure : Type} {chain : Chain Failure} {settings : Settings} {context : LocalContext}
  {announcement : Option Announcement}

theorem context_unique {OtherFailure : Type} {otherChain : Chain OtherFailure}
    {otherSettings : Settings} {other : LocalContext}
    (above : settings.bootstrapHeight < context.height)
    (otherAbove : otherSettings.bootstrapHeight < other.height)
    (accepted : (verify chain settings context announcement).outcome = .ok ())
    (alsoAccepted : (verify otherChain otherSettings other announcement).outcome = .ok ()) :
    other = context := by
  obtain ⟨message, complete, passes⟩ := (verify_ok_iff above).mp accepted
  obtain ⟨otherMessage, otherComplete, otherPasses⟩ := (verify_ok_iff otherAbove).mp alsoAccepted
  cases complete.symm.trans otherComplete
  exact LocalContext.eq_of_roundInput_eq (otherPasses.inContext.symm.trans passes.inContext)

/-- An announcement that is accepted in one context is accepted in no other one, by no verifier. -/
theorem accepted_in_one_context (above : settings.bootstrapHeight < context.height)
    (accepted : (verify chain settings context announcement).outcome = .ok ()) :
    (∀ {OtherFailure : Type} (otherChain : Chain OtherFailure) (otherSettings : Settings)
      (other : LocalContext), otherSettings.bootstrapHeight < other.height →
      (verify otherChain otherSettings other announcement).outcome = .ok () →
      other = context) ∧
    ∃ message encoded, announcement.bind Announcement.complete? = some message ∧
      (context.roundInput message.input.round).encode? = some encoded ∧
      Ecvrf.verify message.credential.publicKey encoded
        ⟨message.credential.output, message.credential.proof⟩ = .ok () ∧
      (∀ claimed : CompleteAnnouncement, claimed.input.round = message.input.round →
        (checkOutput context claimed : Check Failure Unit).outcome =
          (Ecvrf.verify claimed.credential.publicKey encoded
            ⟨claimed.credential.output, claimed.credential.proof⟩).mapError
              fun error => .rejected (.proof error) error.message) ∧
      (∀ input : RoundInput, input.encode? = some encoded ↔
        input = context.roundInput message.input.round) ∧
      ∀ (key : SecretKey) (input : RoundInput) (evaluation : Ecvrf.Evaluation),
        key.evaluateInput input = .ok evaluation →
        input ≠ context.roundInput message.input.round →
        ∃ bytes, input.encode? = some bytes ∧ Ecvrf.evaluate key bytes = .ok evaluation ∧
          bytes ≠ encoded := by
  refine ⟨fun _ _ _ otherAbove alsoAccepted =>
    context_unique above otherAbove accepted alsoAccepted, ?_⟩
  obtain ⟨message, complete, passes⟩ := (verify_ok_iff above).mp accepted
  obtain ⟨encoded, encodes, proven⟩ := passes.proven
  refine ⟨message, encoded, complete, encodes, proven, ?_, ?_, ?_⟩
  · intro claimed sameRound
    rw [← sameRound] at encodes
    exact checkOutput_of_encode? encodes
  · intro input
    constructor
    · intro alsoEncodes
      exact RoundInput.eq_of_encode?_eq alsoEncodes encodes
    · rintro rfl
      exact encodes
  · intro key input evaluation evaluated different
    obtain ⟨bytes, inputEncodes, evaluates⟩ := SecretKey.evaluateInput_ok.mp evaluated
    refine ⟨bytes, inputEncodes, evaluates, ?_⟩
    rintro rfl
    exact different (RoundInput.eq_of_encode?_eq inputEncodes encodes)

theorem accepted_in_one_context_single :
    ∃ evaluation, Ecvrf.unitKey.evaluateInput Ecvrf.plainInput = .ok evaluation ∧
      ∀ other : LocalContext, 10 < other.height →
        (verify (Participant.single (.integer 1)).chain .standard other
          (some ((Ecvrf.unitKey.credential Ecvrf.plainInput evaluation).announce 0 0))).outcome =
            .ok () → other = ⟨11, 0, []⟩ := by
  obtain ⟨evaluation, evaluated⟩ := Participant.exists_evaluateInput_plain
  obtain ⟨unique, -⟩ :=
    accepted_in_one_context (by decide) (Participant.verify_single_one evaluated)
  exact ⟨evaluation, evaluated, unique _ .standard⟩

end Verification

end StakeLottery
