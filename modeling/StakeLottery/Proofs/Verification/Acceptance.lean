import Mathlib
import StakeLottery.Proofs.Inquiry
import StakeLottery.Verification.Announcement

/-!
What an accepted announcement satisfies. Above the bootstrap height an announcement is accepted
exactly when it is complete and passes the five checks, and each check is a plain statement about
the announcement, the local context and the chain's answers.
-/

namespace StakeLottery

def Settings.standard : Settings where
  sizes := ⟨8, 1024, by decide, by decide⟩
  lookback := 10
  bootstrapHeight := 10
  roundTimeout := none
  committee := 0

theorem Announcement.complete?_eq_some {announcement : Announcement}
    {message : CompleteAnnouncement} : announcement.complete? = some message ↔
      announcement.selection = some message.selection ∧
      announcement.credential = some message.credential ∧
      message.credential.input = some message.input := by
  simp only [complete?, Option.bind_eq_bind, Option.bind_eq_some_iff, Option.pure_def,
    Option.some.injEq]
  constructor
  · rintro ⟨credential, isCredential, selection, isSelection, input, isInput, rfl⟩
    exact ⟨isSelection, isCredential, isInput⟩
  · rintro ⟨isSelection, isCredential, isInput⟩
    exact ⟨_, isCredential, _, isSelection, _, isInput, rfl⟩

theorem threshold_integer_one : (Quantity.integer 1).threshold = .ok hashSpace := by
  decide +kernel

namespace Verification

variable {Failure : Type} {chain : Chain Failure} {settings : Settings} {context : LocalContext}
  {message : CompleteAnnouncement}

def Owns (chain : Chain Failure) (settings : Settings) (context : LocalContext)
    (message : CompleteAnnouncement) : Prop :=
  ∃ address count, chain.address message.credential.publicKey = .ok address ∧
    chain.ticketCount address (settings.snapshotHeight context.height) = .ok count ∧
    0 ≤ message.selection.index ∧ message.selection.index < count

theorem checkOwnership_ok :
    (checkOwnership chain settings context message).outcome = .ok () ↔
      Owns chain settings context message := by
  simp only [Owns, checkOwnership, rejectUnless, Inquiry.bind_outcome_ok, Inquiry.outcome_ask,
    Except.mapError_eq_ok, Inquiry.require_ok, Bool.and_eq_true, decide_eq_true_eq,
    exists_and_left]

theorem checkContext_ok :
    (checkContext context message : Check Failure Unit).outcome = .ok () ↔
      message.input = context.roundInput message.input.round := by
  simp only [checkContext, rejectUnless, Inquiry.then_outcome_ok, Inquiry.require_ok,
    decide_eq_true_eq, LocalContext.roundInput]
  constructor
  · rintro ⟨sameHeight, sameSeed, samePhase⟩
    rw [← sameHeight, ← sameSeed, ← samePhase]
  · intro same
    rw [same]
    exact ⟨rfl, rfl, rfl⟩

def Proven (context : LocalContext) (message : CompleteAnnouncement) : Prop :=
  ∃ encoded, (context.roundInput message.input.round).encode? = some encoded ∧
    Ecvrf.verify message.credential.publicKey encoded
      ⟨message.credential.output, message.credential.proof⟩ = .ok ()

theorem checkOutput_ok :
    (checkOutput context message : Check Failure Unit).outcome = .ok () ↔
      Proven context message := by
  simp only [Proven, checkOutput, Inquiry.bind_outcome_ok, Inquiry.outcome_of,
    Except.mapError_eq_ok]
  cases (context.roundInput message.input.round).encode? <;> simp

theorem checkTicketHash_ok :
    (checkTicketHash message : Check Failure Unit).outcome = .ok () ↔
      Ticket.hash? message.credential.output message.selection.index
        message.selection.committee = some message.selection.hash := by
  simp only [checkTicketHash, rejectUnless, Inquiry.bind_outcome_ok, Inquiry.outcome_of,
    Inquiry.require_ok, decide_eq_true_eq]
  cases Ticket.hash? message.credential.output message.selection.index
    message.selection.committee <;> simp

theorem wins_eq_ok {hash : Bytes} {difficulty : Quantity} {won : Bool} :
    wins hash difficulty = .ok won ↔
      ∃ threshold, difficulty.threshold = .ok threshold ∧ beatsThreshold hash threshold = won := by
  rw [wins, Except.bind_eq_ok]
  exact exists_congr fun _ => and_congr_right fun _ => ⟨Except.ok.inj, congrArg Except.ok⟩

theorem checkDifficulty_ok :
    (checkDifficulty chain context message).outcome = .ok () ↔
      ∃ difficulty threshold,
        chain.difficulty context.height message.input.round = .ok difficulty ∧
        difficulty.threshold = .ok threshold ∧
        beatsThreshold message.selection.hash threshold = true := by
  simp only [checkDifficulty, rejectUnless, Inquiry.bind_outcome_ok, Inquiry.outcome_ask,
    Inquiry.outcome_of, Except.mapError_eq_ok, Inquiry.require_ok, wins_eq_ok, exists_eq_right,
    exists_and_left]

structure Passes (chain : Chain Failure) (settings : Settings) (context : LocalContext)
    (message : CompleteAnnouncement) : Prop where
  owned : Owns chain settings context message
  inContext : message.input = context.roundInput message.input.round
  proven : Proven context message
  drawn : Ticket.hash? message.credential.output message.selection.index
    message.selection.committee = some message.selection.hash
  won : ∃ difficulty threshold,
    chain.difficulty context.height message.input.round = .ok difficulty ∧
    difficulty.threshold = .ok threshold ∧
    beatsThreshold message.selection.hash threshold = true

theorem verify_ok_iff {announcement : Option Announcement}
    (above : settings.bootstrapHeight < context.height) :
    (verify chain settings context announcement).outcome = .ok () ↔
      ∃ message, announcement.bind Announcement.complete? = some message ∧
        Passes chain settings context message := by
  rw [verify, if_neg (Int.not_le.mpr above)]
  cases announcement.bind Announcement.complete? with
  | none => simp
  | some message =>
      simp only [Inquiry.then_outcome_ok, checkOwnership_ok, checkContext_ok, checkOutput_ok,
        checkTicketHash_ok, checkDifficulty_ok, Option.some.injEq, exists_eq_left']
      constructor
      · rintro ⟨owned, inContext, proven, drawn, won⟩
        exact ⟨owned, inContext, proven, drawn, won⟩
      · rintro ⟨owned, inContext, proven, drawn, won⟩
        exact ⟨owned, inContext, proven, drawn, won⟩

theorem trust_ok :
    (trust context : Check Failure Unit).outcome = .ok () ↔
      Decimal.hasText context.height = true :=
  Inquiry.require_ok

theorem verify_of_low {announcement : Option Announcement}
    (low : context.height ≤ settings.bootstrapHeight) :
    verify chain settings context announcement = trust context :=
  if_pos low

end Verification

end StakeLottery
