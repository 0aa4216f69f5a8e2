import Mathlib
import StakeLottery.Proofs.Participation
import StakeLottery.Proofs.Round.Sequential
import StakeLottery.Proofs.Verification.Reasons

/-!
The line between tickets that win and tickets that do not. At every index the verifier's verdict on
the announcement of a ticket agrees with the round of its holder: it accepts those that the round
announces, and it rejects the others for the index or for the difficulty.
-/

namespace StakeLottery

variable {Failure : Type}

def SecretKey.ticketMessage (key : SecretKey) (input : RoundInput)
    (evaluation : Ecvrf.Evaluation) (index committee : Int) : CompleteAnnouncement where
  selection := ⟨Ticket.hash evaluation.output index committee, index, committee⟩
  credential := key.credential input evaluation
  input := input

theorem SecretKey.ticketMessage_complete (key : SecretKey) (input : RoundInput)
    (evaluation : Ecvrf.Evaluation) (index committee : Int) :
    (some ((key.credential input evaluation).announce index committee)).bind
      Announcement.complete? = some (key.ticketMessage input evaluation index committee) :=
  rfl

namespace Participant

variable {participant : Participant Failure} {key : SecretKey} {input : RoundInput}

theorem verify_announce {evaluation : Ecvrf.Evaluation}
    (evaluated : key.evaluateInput input = .ok evaluation) {chain : Chain Failure}
    {settings : Settings} (above : settings.bootstrapHeight < input.height) {address : String}
    {count threshold : Int} {difficulty : Quantity}
    (addressed : chain.address key.publicKey = .ok address)
    (counted : chain.ticketCount address (settings.snapshotHeight input.height) = .ok count)
    (asked : chain.difficulty input.height input.round = .ok difficulty)
    (valid : difficulty.threshold = .ok threshold) {index committee : Int}
    (written : Ticket.isWritable index committee = true) :
    (Verification.verify chain settings ⟨input.height, input.phase, input.seed⟩
      (some ((key.credential input evaluation).announce index committee))).outcome =
        if 0 ≤ index ∧ index < count then
          if beatsThreshold (Ticket.hash evaluation.output index committee) threshold then .ok ()
          else .error (.ofRejection (.difficulty index difficulty))
        else .error (.ofRejection (.ticketIndex index count address input.height)) := by
  obtain ⟨encoded, encodes, evaluates⟩ := SecretKey.evaluateInput_ok.mp evaluated
  have complete := key.ticketMessage_complete input evaluation index committee
  by_cases inside : 0 ≤ index ∧ index < count
  · rw [if_pos inside]
    have owned : Verification.Owns chain settings ⟨input.height, input.phase, input.seed⟩
        (key.ticketMessage input evaluation index committee) :=
      ⟨address, count, addressed, counted, inside⟩
    rw [Verification.verify_of_drawn above complete owned rfl
      ⟨encoded, encodes, Ecvrf.verify_of_evaluate evaluates⟩ (Ticket.hash?_of_isWritable written)]
    exact Verification.checkDifficulty_eq asked valid
  · rw [if_neg inside]
    exact Verification.verify_ticketIndex above complete addressed counted inside

theorem exists_announced_iff {evaluation : Ecvrf.Evaluation} {count threshold committee : Int}
    {announcements : List Announcement}
    (announces : ∀ announcement, announcement ∈ announcements ↔ ∃ index : Nat,
      index < count.toNat ∧
      beatsThreshold (Ticket.hash evaluation.output index committee) threshold = true ∧
      (key.credential input evaluation).announce index committee = announcement) (index : Int) :
    (∃ announcement ∈ announcements, announcement.index? = some index) ↔
      (0 ≤ index ∧ index < count) ∧
        beatsThreshold (Ticket.hash evaluation.output index committee) threshold = true := by
  constructor
  · rintro ⟨announcement, member, isIndex⟩
    obtain ⟨place, below, beats, rfl⟩ := (announces announcement).mp member
    obtain rfl : (place : Int) = index := Option.some.inj isIndex
    exact ⟨by omega, beats⟩
  · rintro ⟨⟨nonnegative, below⟩, beats⟩
    obtain ⟨place, rfl⟩ := Int.eq_ofNat_of_zero_le nonnegative
    have inRange : place < count.toNat := by omega
    exact ⟨_, (announces _).mpr ⟨place, inRange, beats, rfl⟩, rfl⟩

theorem value_half : half.value? = some (1 / 2) := by
  decide +kernel

end Participant

end StakeLottery
