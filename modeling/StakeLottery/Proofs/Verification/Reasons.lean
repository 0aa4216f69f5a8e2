import Mathlib
import StakeLottery.Proofs.Lottery.Difficulty
import StakeLottery.Proofs.Lottery.Ticket
import StakeLottery.Proofs.Record.RoundInput
import StakeLottery.Proofs.Verification.Acceptance

/-!
Which reason the verifier reports. A check decides the outcome once the checks before it pass, so
each rejection goes with what an announcement satisfies up to the check that fails. It is reported
if every integer of its message has a text.
-/

namespace StakeLottery

namespace Rejection

/-- The integers that the message of a rejection names. -/
def integers : Rejection → List Int
  | malformed | seedMismatch | proof _ => []
  | ticketIndex index count _ height => [index, count, height]
  | heightMismatch announced expected | phaseMismatch announced expected => [announced, expected]
  | ticketHash index => [index]
  | difficulty index (.integer required) => [index, required]
  | difficulty index (.real _) => [index]

theorem isSome_message?_iff {rejection : Rejection} :
    rejection.message?.isSome = true ↔
      ∀ value ∈ rejection.integers, Decimal.hasText value = true := by
  cases rejection with
  | difficulty index required =>
      cases required <;>
        simp [message?, integers, Quantity.text?, Option.isSome_iff_exists,
          Option.bind_eq_some_iff, Decimal.text?_eq_some_iff]
  | _ =>
      simp [message?, integers, Option.isSome_iff_exists, Option.bind_eq_some_iff,
        Decimal.text?_eq_some_iff]

theorem named_difficulty {index threshold : Int} {difficulty : Quantity}
    (written : Decimal.hasText index = true) (valid : difficulty.threshold = .ok threshold) :
    ∀ value ∈ (Rejection.difficulty index difficulty).integers, Decimal.hasText value = true := by
  obtain ⟨value, valued, nonnegative, atMostOne, -⟩ := Quantity.threshold_ok_iff.mp valid
  cases difficulty with
  | integer required =>
      obtain rfl := Option.some.inj valued
      have lower : 0 ≤ required := by exact_mod_cast nonnegative
      have upper : required ≤ 1 := by exact_mod_cast atMostOne
      have small : required.natAbs < 10 ^ 20 := by omega
      simp [integers, written, Decimal.hasText_of_small small]
  | real _ => simp [integers, written]

end Rejection

variable {Failure : Type}

theorem VerificationError.exists_ofRejection (Failure : Type) {rejection : Rejection}
    (named : ∀ value ∈ rejection.integers, Decimal.hasText value = true) :
    ∃ message, (ofRejection rejection : VerificationError Failure) =
      .rejected rejection message := by
  obtain ⟨message, written⟩ :=
    Option.isSome_iff_exists.mp (Rejection.isSome_message?_iff.mpr named)
  exact ⟨message, by rw [ofRejection, written, Option.elim_some]⟩

theorem VerificationError.ofRejection_of_unnamed {rejection : Rejection} {value : Int}
    (member : value ∈ rejection.integers) (unnamed : Decimal.hasText value = false) :
    (ofRejection rejection : VerificationError Failure) = .unwritable := by
  have unwritten : rejection.message? = none := by
    rw [← Option.not_isSome_iff_eq_none, Rejection.isSome_message?_iff]
    intro named
    cases unnamed.symm.trans (named value member)
  rw [ofRejection, unwritten, Option.elim_none]

namespace Verification

variable {chain : Chain Failure} {settings : Settings} {context : LocalContext}
  {announcement : Option Announcement} {message : CompleteAnnouncement}

/-- The verdict on the announcement is a rejection for the reason. -/
def Reports (chain : Chain Failure) (settings : Settings) (context : LocalContext)
    (announcement : Option Announcement) (reason : RejectionReason) : Prop :=
  ∃ verdict, (judge chain settings context announcement).outcome = .ok verdict ∧
    verdict.accepted = false ∧ verdict.reason = some reason

theorem judge_of_error {error : VerificationError Failure}
    (fails : (verify chain settings context announcement).outcome = .error error)
    (foreign : ∀ rejection message, error ≠ .rejected rejection message) :
    (judge chain settings context announcement).outcome = .error error := by
  change verdictOf (verify chain settings context announcement).outcome = _
  rw [fails]
  cases error with
  | rejected rejection message => exact absurd rfl (foreign rejection message)
  | _ => rfl

theorem judge_of_unwritable
    (fails : (verify chain settings context announcement).outcome = .error .unwritable) :
    (judge chain settings context announcement).outcome = .error .unwritable :=
  congrArg verdictOf fails

section

variable {rejection : Rejection}
  (rejects : (verify chain settings context announcement).outcome = .error (.ofRejection rejection))

include rejects

theorem reports_of_rejection
    (named : ∀ value ∈ rejection.integers, Decimal.hasText value = true) :
    Reports chain settings context announcement rejection.reason := by
  obtain ⟨message, written⟩ := VerificationError.exists_ofRejection Failure named
  rw [written] at rejects
  exact ⟨.ofRejection rejection message, congrArg verdictOf rejects, rfl, rfl⟩

theorem verify_of_unnamed {value : Int} (member : value ∈ rejection.integers)
    (unnamed : Decimal.hasText value = false) :
    (verify chain settings context announcement).outcome = .error .unwritable :=
  rejects.trans (congrArg Except.error (VerificationError.ofRejection_of_unnamed member unnamed))

end

theorem rejectUnless_of_false {condition : Bool} {rejection : Rejection}
    (fails : condition = false) :
    (rejectUnless condition rejection : Check Failure Unit).outcome =
      .error (.ofRejection rejection) := by
  rw [fails]
  rfl

theorem rejectUnless_of_true {condition : Bool} {rejection : Rejection}
    (holds : condition = true) :
    (rejectUnless condition rejection : Check Failure Unit).outcome = .ok () :=
  Inquiry.require_ok.mpr holds

theorem checkOwnership_outside {address : String} {count : Int}
    (addressed : chain.address message.credential.publicKey = .ok address)
    (counted : chain.ticketCount address (settings.snapshotHeight context.height) = .ok count)
    (outside : ¬(0 ≤ message.selection.index ∧ message.selection.index < count)) :
    (checkOwnership chain settings context message).outcome =
      .error (.ofRejection
        (.ticketIndex message.selection.index count address context.height)) := by
  have refused : (0 ≤ message.selection.index && message.selection.index < count) = false := by
    rw [← Bool.decide_and]
    exact decide_eq_false outside
  unfold checkOwnership
  dsimp only
  rw [Inquiry.outcome_bind_of_ok (Except.mapError_eq_ok.mpr addressed),
    Inquiry.outcome_bind_of_ok (Except.mapError_eq_ok.mpr counted)]
  exact rejectUnless_of_false refused

/-- Where the announced input is the first to differ from the context. -/
inductive Mismatch (context : LocalContext) (input : RoundInput) : Rejection → Prop
  | height (differs : input.height ≠ context.height) :
      Mismatch context input (.heightMismatch input.height context.height)
  | seed (sameHeight : input.height = context.height) (differs : input.seed ≠ context.seed) :
      Mismatch context input .seedMismatch
  | phase (sameHeight : input.height = context.height) (sameSeed : input.seed = context.seed)
      (differs : input.phase ≠ context.phase) :
      Mismatch context input (.phaseMismatch input.phase context.phase)

theorem exists_mismatch {input : RoundInput} (outside : input ≠ context.roundInput input.round) :
    ∃ rejection, Mismatch context input rejection := by
  by_cases height : input.height = context.height
  case neg => exact ⟨_, .height height⟩
  by_cases seed : input.seed = context.seed
  case neg => exact ⟨_, .seed height seed⟩
  refine ⟨_, .phase height seed fun phase => outside ?_⟩
  rw [LocalContext.roundInput, ← height, ← seed, ← phase]

theorem checkContext_of_mismatch {rejection : Rejection}
    (mismatch : Mismatch context message.input rejection) :
    (checkContext context message : Check Failure Unit).outcome =
      .error (.ofRejection rejection) := by
  unfold checkContext
  cases mismatch with
  | height differs =>
      exact Inquiry.outcome_bind_of_error (rejectUnless_of_false (decide_eq_false differs))
  | seed sameHeight differs =>
      rw [Inquiry.outcome_bind_of_ok (rejectUnless_of_true (decide_eq_true sameHeight))]
      exact Inquiry.outcome_bind_of_error (rejectUnless_of_false (decide_eq_false differs))
  | phase sameHeight sameSeed differs =>
      rw [Inquiry.outcome_bind_of_ok (rejectUnless_of_true (decide_eq_true sameHeight)),
        Inquiry.outcome_bind_of_ok (rejectUnless_of_true (decide_eq_true sameSeed))]
      exact rejectUnless_of_false (decide_eq_false differs)

theorem checkOutput_of_encode? {encoded : Bytes}
    (encodes : (context.roundInput message.input.round).encode? = some encoded) :
    (checkOutput context message : Check Failure Unit).outcome =
      (Ecvrf.verify message.credential.publicKey encoded
        ⟨message.credential.output, message.credential.proof⟩).mapError
          fun error => .ofRejection (.proof error) := by
  rw [checkOutput, encodes]
  exact Inquiry.outcome_bind_of_ok rfl

theorem checkOutput_unencodable
    (unencodable : (context.roundInput message.input.round).encode? = none) :
    (checkOutput context message : Check Failure Unit).outcome = .error .unencodable := by
  rw [checkOutput, unencodable]
  rfl

theorem checkTicketHash_of_hash? {hash : Bytes}
    (hashed : Ticket.hash? message.credential.output message.selection.index
      message.selection.committee = some hash) (differs : hash ≠ message.selection.hash) :
    (checkTicketHash message : Check Failure Unit).outcome =
      .error (.ofRejection (.ticketHash message.selection.index)) := by
  unfold checkTicketHash
  dsimp only
  rw [hashed, Inquiry.outcome_bind_of_ok rfl]
  exact rejectUnless_of_false (decide_eq_false differs)

theorem index_named {hash : Bytes}
    (hashed : Ticket.hash? message.credential.output message.selection.index
      message.selection.committee = some hash) :
    Decimal.hasText message.selection.index = true :=
  (Ticket.isWritable_iff.mp (Ticket.hash?_eq_some.mp hashed).1).1

theorem checkTicketHash_unwritable
    (unhashed : Ticket.hash? message.credential.output message.selection.index
      message.selection.committee = none) :
    (checkTicketHash message : Check Failure Unit).outcome = .error .unwritable := by
  unfold checkTicketHash
  dsimp only
  rw [unhashed]
  rfl

theorem checkDifficulty_eq {difficulty : Quantity} {threshold : Int}
    (asked : chain.difficulty context.height message.input.round = .ok difficulty)
    (valid : difficulty.threshold = .ok threshold) :
    (checkDifficulty chain context message).outcome =
      if beatsThreshold message.selection.hash threshold then .ok ()
      else .error (.ofRejection (.difficulty message.selection.index difficulty)) := by
  have decided : wins message.selection.hash difficulty =
      .ok (beatsThreshold message.selection.hash threshold) := wins_of_threshold valid
  unfold checkDifficulty
  dsimp only
  rw [Inquiry.outcome_bind_of_ok (Except.mapError_eq_ok.mpr asked),
    Inquiry.outcome_bind_of_ok (Except.mapError_eq_ok.mpr decided)]
  rfl

section

variable (above : settings.bootstrapHeight < context.height)

include above

theorem verify_malformed (incomplete : announcement.bind Announcement.complete? = none) :
    (verify chain settings context announcement).outcome = .error (.ofRejection .malformed) := by
  rw [verify, if_neg (Int.not_le.mpr above), incomplete]
  rfl

variable (isMessage : announcement.bind Announcement.complete? = some message)

include isMessage

theorem verify_of_message :
    (verify chain settings context announcement).outcome =
      (do
        checkOwnership chain settings context message
        checkContext context message
        checkOutput context message
        checkTicketHash message
        checkDifficulty chain context message : Check Failure Unit).outcome := by
  rw [verify, if_neg (Int.not_le.mpr above), isMessage]

theorem verify_ticketIndex {address : String} {count : Int}
    (addressed : chain.address message.credential.publicKey = .ok address)
    (counted : chain.ticketCount address (settings.snapshotHeight context.height) = .ok count)
    (outside : ¬(0 ≤ message.selection.index ∧ message.selection.index < count)) :
    (verify chain settings context announcement).outcome =
      .error (.ofRejection
        (.ticketIndex message.selection.index count address context.height)) :=
  (verify_of_message above isMessage).trans
    (Inquiry.outcome_bind_of_error (checkOwnership_outside addressed counted outside))

variable (owned : Owns chain settings context message)

include owned

theorem verify_of_owned :
    (verify chain settings context announcement).outcome =
      (do
        checkContext context message
        checkOutput context message
        checkTicketHash message
        checkDifficulty chain context message : Check Failure Unit).outcome := by
  rw [verify_of_message above isMessage]
  exact Inquiry.outcome_bind_of_ok (checkOwnership_ok.mpr owned)

theorem verify_mismatch {rejection : Rejection}
    (mismatch : Mismatch context message.input rejection) :
    (verify chain settings context announcement).outcome = .error (.ofRejection rejection) :=
  (verify_of_owned above isMessage owned).trans
    (Inquiry.outcome_bind_of_error (checkContext_of_mismatch mismatch))

variable (inContext : message.input = context.roundInput message.input.round)

include inContext

theorem verify_of_inContext :
    (verify chain settings context announcement).outcome =
      (do
        checkOutput context message
        checkTicketHash message
        checkDifficulty chain context message : Check Failure Unit).outcome := by
  rw [verify_of_owned above isMessage owned]
  exact Inquiry.outcome_bind_of_ok (checkContext_ok.mpr inContext)

theorem verify_unencodable
    (unencodable : (context.roundInput message.input.round).encode? = none) :
    (verify chain settings context announcement).outcome = .error .unencodable :=
  (verify_of_inContext above isMessage owned inContext).trans
    (Inquiry.outcome_bind_of_error (checkOutput_unencodable unencodable))

theorem verify_proof {encoded : Bytes} {error : Ecvrf.ProofError}
    (encodes : (context.roundInput message.input.round).encode? = some encoded)
    (failed : Ecvrf.verify message.credential.publicKey encoded
      ⟨message.credential.output, message.credential.proof⟩ = .error error) :
    (verify chain settings context announcement).outcome =
      .error (.ofRejection (.proof error)) := by
  have rejected : (checkOutput context message : Check Failure Unit).outcome =
      .error (.ofRejection (.proof error)) := by
    rw [checkOutput_of_encode? encodes, failed]
    rfl
  exact (verify_of_inContext above isMessage owned inContext).trans
    (Inquiry.outcome_bind_of_error rejected)

variable (proven : Proven context message)

include proven

theorem verify_of_proven :
    (verify chain settings context announcement).outcome =
      (do
        checkTicketHash message
        checkDifficulty chain context message : Check Failure Unit).outcome := by
  rw [verify_of_inContext above isMessage owned inContext]
  exact Inquiry.outcome_bind_of_ok (checkOutput_ok.mpr proven)

theorem verify_unhashed
    (unhashed : Ticket.hash? message.credential.output message.selection.index
      message.selection.committee = none) :
    (verify chain settings context announcement).outcome = .error .unwritable :=
  (verify_of_proven above isMessage owned inContext proven).trans
    (Inquiry.outcome_bind_of_error (checkTicketHash_unwritable unhashed))

theorem verify_ticketHash {hash : Bytes}
    (hashed : Ticket.hash? message.credential.output message.selection.index
      message.selection.committee = some hash) (differs : hash ≠ message.selection.hash) :
    (verify chain settings context announcement).outcome =
      .error (.ofRejection (.ticketHash message.selection.index)) :=
  (verify_of_proven above isMessage owned inContext proven).trans
    (Inquiry.outcome_bind_of_error (checkTicketHash_of_hash? hashed differs))

variable (drawn : Ticket.hash? message.credential.output message.selection.index
  message.selection.committee = some message.selection.hash)

include drawn

theorem verify_of_drawn :
    (verify chain settings context announcement).outcome =
      (checkDifficulty chain context message).outcome := by
  rw [verify_of_proven above isMessage owned inContext proven]
  exact Inquiry.outcome_bind_of_ok (checkTicketHash_ok.mpr drawn)

theorem verify_difficulty {difficulty : Quantity} {threshold : Int}
    (asked : chain.difficulty context.height message.input.round = .ok difficulty)
    (valid : difficulty.threshold = .ok threshold)
    (loses : beatsThreshold message.selection.hash threshold = false) :
    (verify chain settings context announcement).outcome =
      .error (.ofRejection (.difficulty message.selection.index difficulty)) := by
  rw [verify_of_drawn above isMessage owned inContext proven drawn, checkDifficulty_eq asked valid,
    loses]
  rfl

theorem reports_difficulty {difficulty : Quantity} {threshold : Int}
    (asked : chain.difficulty context.height message.input.round = .ok difficulty)
    (valid : difficulty.threshold = .ok threshold)
    (loses : beatsThreshold message.selection.hash threshold = false) :
    Reports chain settings context announcement .difficulty :=
  reports_of_rejection
    (verify_difficulty above isMessage owned inContext proven drawn asked valid loses)
    (Rejection.named_difficulty (index_named drawn) valid)

end

end Verification

end StakeLottery
