import Mathlib
import StakeLottery.Proofs.Verification.Reasons

/-!
Which announcements get a verdict. Where the chain answers, all of them do but those that a check
cannot deal with: it would have to write an integer that has no text, or to encode a round that does
not fit. Such an announcement fails the verification itself, and with it every batch that it is in.
-/

namespace StakeLottery

variable {Failure : Type}

structure Chain.Answers (chain : Chain Failure) : Prop where
  addresses : ∀ publicKey, ∃ address, chain.address publicKey = .ok address
  counts : ∀ address height, ∃ count, chain.ticketCount address height = .ok count
  difficulties : ∀ height round, ∃ difficulty threshold,
    chain.difficulty height round = .ok difficulty ∧ difficulty.threshold = .ok threshold

theorem Chain.constant_answers (Failure : Type) (address : String) (count : Int)
    {difficulty : Quantity} {threshold : Int} (valid : difficulty.threshold = .ok threshold) :
    (constant address count difficulty : Chain Failure).Answers where
  addresses _ := ⟨address, rfl⟩
  counts _ _ := ⟨count, rfl⟩
  difficulties _ _ := ⟨difficulty, threshold, rfl, valid⟩

namespace Verification

variable {chain : Chain Failure} {settings : Settings} {context : LocalContext}
  {message : CompleteAnnouncement} {Value : Type}

def Settles (check : Check Failure Value) : Prop :=
  (∃ value, check.outcome = .ok value) ∨
    ∃ rejection message, check.outcome = .error (.rejected rejection message)

theorem settles_of_rejection {check : Check Failure Value} {rejection : Rejection}
    (rejects : check.outcome = .error (.ofRejection rejection))
    (named : ∀ value ∈ rejection.integers, Decimal.hasText value = true) : Settles check := by
  obtain ⟨message, written⟩ := VerificationError.exists_ofRejection Failure named
  exact .inr ⟨rejection, message, rejects.trans (congrArg Except.error written)⟩

/-- A check of a complete announcement fails without rejecting it. -/
inductive BreaksOff (chain : Chain Failure) (settings : Settings) (context : LocalContext)
    (message : CompleteAnnouncement) : VerificationError Failure → Prop
  | index {address : String} {count : Int}
      (addressed : chain.address message.credential.publicKey = .ok address)
      (counted : chain.ticketCount address (settings.snapshotHeight context.height) = .ok count)
      (outside : ¬(0 ≤ message.selection.index ∧ message.selection.index < count))
      (unnamed : Decimal.hasText message.selection.index = false ∨ Decimal.hasText count = false) :
      BreaksOff chain settings context message .unwritable
  | height (owned : Owns chain settings context message)
      (differs : message.input.height ≠ context.height)
      (unnamed : Decimal.hasText message.input.height = false) :
      BreaksOff chain settings context message .unwritable
  | phase (owned : Owns chain settings context message)
      (sameHeight : message.input.height = context.height)
      (sameSeed : message.input.seed = context.seed)
      (differs : message.input.phase ≠ context.phase)
      (unnamed : Decimal.hasText message.input.phase = false) :
      BreaksOff chain settings context message .unwritable
  | encoding (owned : Owns chain settings context message)
      (inContext : message.input = context.roundInput message.input.round)
      (unfit : Bytes.capacity 4 ≤ context.seed.length ∨
        RoundInput.fits 4 message.input.round = false) :
      BreaksOff chain settings context message .unencodable
  | ticket (owned : Owns chain settings context message)
      (inContext : message.input = context.roundInput message.input.round)
      (proven : Proven context message)
      (unnamed : Decimal.hasText message.selection.index = false ∨
        Decimal.hasText message.selection.committee = false) :
      BreaksOff chain settings context message .unwritable

/-- An announcement fails the verification itself. -/
def Escapes (chain : Chain Failure) (settings : Settings) (context : LocalContext)
    (announcement : Option Announcement) (error : VerificationError Failure) : Prop :=
  settings.bootstrapHeight < context.height ∧ ∃ message,
    announcement.bind Announcement.complete? = some message ∧
    BreaksOff chain settings context message error

theorem encode?_eq_none_of_unfit {round : Int}
    (unfit : Bytes.capacity 4 ≤ context.seed.length ∨ RoundInput.fits 4 round = false) :
    (context.roundInput round).encode? = none := by
  have unencodable : (context.roundInput round).encodable = false := by
    rcases unfit with tooLong | unfit
    · have notShorter : ¬context.seed.length < Bytes.capacity 4 := Nat.not_lt.mpr tooLong
      simp only [RoundInput.encodable, LocalContext.roundInput, notShorter, decide_false,
        Bool.false_and]
    · simp only [RoundInput.encodable, LocalContext.roundInput, unfit, Bool.and_false,
        Bool.false_and]
  rw [RoundInput.encode?, unencodable]
  rfl

theorem unfit_of_encode? (heightFits : RoundInput.fits 8 context.height = true)
    (phaseFits : RoundInput.fits 4 context.phase = true) {round : Int}
    (unencodable : (context.roundInput round).encode? = none) :
    Bytes.capacity 4 ≤ context.seed.length ∨ RoundInput.fits 4 round = false := by
  by_contra fit
  rw [not_or, Nat.not_le, Bool.not_eq_false] at fit
  have encodable : (context.roundInput round).encodable = true := by
    simp only [RoundInput.encodable, LocalContext.roundInput, heightFits, phaseFits, fit,
      decide_true, Bool.and_true]
  rw [RoundInput.encode?, if_pos encodable] at unencodable
  cases unencodable

section

variable (heightFits : RoundInput.fits 8 context.height = true)
  (phaseFits : RoundInput.fits 4 context.phase = true)

include heightFits phaseFits

theorem settles_mismatch {announcement : Option Announcement}
    (above : settings.bootstrapHeight < context.height)
    (isMessage : announcement.bind Announcement.complete? = some message)
    (owned : Owns chain settings context message) {rejection : Rejection}
    (mismatch : Mismatch context message.input rejection) :
    Settles (verify chain settings context announcement) ∨
      BreaksOff chain settings context message .unwritable := by
  have rejects := verify_mismatch above isMessage owned mismatch
  have heightNamed := RoundInput.hasText_of_fits_eight heightFits
  have phaseNamed := RoundInput.hasText_of_fits_four phaseFits
  cases mismatch with
  | height differs =>
      cases named : Decimal.hasText message.input.height with
      | false => exact .inr (.height owned differs named)
      | true =>
          exact .inl (settles_of_rejection rejects
            (by simp [Rejection.integers, named, heightNamed]))
  | seed sameHeight differs =>
      exact .inl (settles_of_rejection rejects (by simp [Rejection.integers]))
  | phase sameHeight sameSeed differs =>
      cases named : Decimal.hasText message.input.phase with
      | false => exact .inr (.phase owned sameHeight sameSeed differs named)
      | true =>
          exact .inl (settles_of_rejection rejects
            (by simp [Rejection.integers, named, phaseNamed]))

omit heightFits phaseFits in
theorem settles_of_proven (answers : chain.Answers) {announcement : Option Announcement}
    (above : settings.bootstrapHeight < context.height)
    (isMessage : announcement.bind Announcement.complete? = some message)
    (owned : Owns chain settings context message)
    (inContext : message.input = context.roundInput message.input.round)
    (proven : Proven context message) :
    Settles (verify chain settings context announcement) ∨
      BreaksOff chain settings context message .unwritable := by
  cases hashed : Ticket.hash? message.credential.output message.selection.index
      message.selection.committee with
  | none => exact .inr (.ticket owned inContext proven (Ticket.hash?_eq_none_iff.mp hashed))
  | some hash =>
      by_cases drawn : hash = message.selection.hash
      case neg =>
        exact .inl (settles_of_rejection
          (verify_ticketHash above isMessage owned inContext proven hashed drawn)
          (by simp [Rejection.integers, index_named hashed]))
      subst drawn
      obtain ⟨difficulty, threshold, asked, valid⟩ :=
        answers.difficulties context.height message.input.round
      cases beats : beatsThreshold message.selection.hash threshold with
      | true =>
          have passes : Passes chain settings context message :=
            ⟨owned, inContext, proven, hashed, difficulty, threshold, asked, valid, beats⟩
          exact .inl (.inl ⟨(), (verify_ok_iff above).mpr ⟨message, isMessage, passes⟩⟩)
      | false =>
          exact .inl (settles_of_rejection
            (verify_difficulty above isMessage owned inContext proven hashed asked valid beats)
            (Rejection.named_difficulty (index_named hashed) valid))

theorem settles_or_breaksOff (answers : chain.Answers) {announcement : Option Announcement}
    (above : settings.bootstrapHeight < context.height)
    (isMessage : announcement.bind Announcement.complete? = some message) :
    Settles (verify chain settings context announcement) ∨
      ∃ error, BreaksOff chain settings context message error := by
  have heightNamed := RoundInput.hasText_of_fits_eight heightFits
  obtain ⟨address, addressed⟩ := answers.addresses message.credential.publicKey
  obtain ⟨count, counted⟩ := answers.counts address (settings.snapshotHeight context.height)
  by_cases held : 0 ≤ message.selection.index ∧ message.selection.index < count
  case neg =>
    by_cases named : Decimal.hasText message.selection.index = false ∨ Decimal.hasText count = false
    · exact .inr ⟨_, .index addressed counted held named⟩
    · rw [not_or, Bool.not_eq_false, Bool.not_eq_false] at named
      exact .inl (settles_of_rejection (verify_ticketIndex above isMessage addressed counted held)
        (by simp [Rejection.integers, named, heightNamed]))
  have owned : Owns chain settings context message := ⟨address, count, addressed, counted, held⟩
  by_cases inContext : message.input = context.roundInput message.input.round
  case neg =>
    obtain ⟨rejection, mismatch⟩ := exists_mismatch inContext
    exact (settles_mismatch heightFits phaseFits above isMessage owned mismatch).imp_right
      fun breaksOff => ⟨_, breaksOff⟩
  cases encodes : (context.roundInput message.input.round).encode? with
  | none =>
      exact .inr ⟨_, .encoding owned inContext (unfit_of_encode? heightFits phaseFits encodes)⟩
  | some encoded =>
      cases verified : Ecvrf.verify message.credential.publicKey encoded
          ⟨message.credential.output, message.credential.proof⟩ with
      | error error =>
          exact .inl (settles_of_rejection
            (verify_proof above isMessage owned inContext encodes verified)
            (by simp [Rejection.integers]))
      | ok _ =>
          exact (settles_of_proven answers above isMessage owned inContext
            ⟨encoded, encodes, verified⟩).imp_right fun breaksOff => ⟨_, breaksOff⟩

theorem settles_verify (answers : chain.Answers) {announcement : Option Announcement}
    (contained : ∀ error, ¬Escapes chain settings context announcement error) :
    Settles (verify chain settings context announcement) := by
  by_cases above : settings.bootstrapHeight < context.height
  case neg =>
    rw [verify_of_low (Int.not_lt.mp above)]
    exact .inl ⟨(), trust_ok.mpr (RoundInput.hasText_of_fits_eight heightFits)⟩
  cases isMessage : announcement.bind Announcement.complete? with
  | none =>
      exact settles_of_rejection (verify_malformed above isMessage) (by simp [Rejection.integers])
  | some message =>
      rcases settles_or_breaksOff heightFits phaseFits answers above isMessage with
        settles | ⟨error, breaksOff⟩
      · exact settles
      · exact absurd ⟨above, message, isMessage, breaksOff⟩ (contained error)

end

theorem verify_of_escapes {announcement : Option Announcement} {error : VerificationError Failure}
    (escapes : Escapes chain settings context announcement error) :
    (verify chain settings context announcement).outcome = .error error := by
  obtain ⟨above, message, isMessage, breaksOff⟩ := escapes
  cases breaksOff with
  | index addressed counted outside unnamed =>
      have rejects := verify_ticketIndex above isMessage addressed counted outside
      rcases unnamed with unnamed | unnamed
      · exact verify_of_unnamed rejects (by simp [Rejection.integers]) unnamed
      · exact verify_of_unnamed rejects (by simp [Rejection.integers]) unnamed
  | height owned differs unnamed =>
      exact verify_of_unnamed (verify_mismatch above isMessage owned (.height differs))
        (by simp [Rejection.integers]) unnamed
  | phase owned sameHeight sameSeed differs unnamed =>
      exact verify_of_unnamed
        (verify_mismatch above isMessage owned (.phase sameHeight sameSeed differs))
        (by simp [Rejection.integers]) unnamed
  | encoding owned inContext unfit =>
      exact verify_unencodable above isMessage owned inContext (encode?_eq_none_of_unfit unfit)
  | ticket owned inContext proven unnamed =>
      exact verify_unhashed above isMessage owned inContext proven
        (Ticket.hash?_eq_none_iff.mpr unnamed)

theorem judge_of_escapes {announcement : Option Announcement} {error : VerificationError Failure}
    (escapes : Escapes chain settings context announcement error) :
    (judge chain settings context announcement).outcome = .error error := by
  refine judge_of_error (verify_of_escapes escapes) ?_
  rintro rejection message rfl
  obtain ⟨-, message, -, breaksOff⟩ := escapes
  cases breaksOff

def isAccepted (chain : Chain Failure) (settings : Settings) (context : LocalContext)
    (announcement : Option Announcement) : Bool :=
  (judge chain settings context announcement).outcome.toOption.any Verdict.accepted

theorem exists_verdict {announcement : Option Announcement}
    (settles : Settles (verify chain settings context announcement)) :
    ∃ verdict, (judge chain settings context announcement).outcome = .ok verdict := by
  rcases settles with ⟨value, passes⟩ | ⟨rejection, message, rejects⟩
  · exact ⟨.acceptance, congrArg verdictOf passes⟩
  · exact ⟨.ofRejection rejection message, congrArg verdictOf rejects⟩

variable {Item : Type} {announcement : Item → Option Announcement}

theorem keepAccepted_filter {items : List Item}
    (judged : ∀ item ∈ items, ∃ verdict,
      (judge chain settings context (announcement item)).outcome = .ok verdict) :
    (keepAccepted chain settings context announcement items).outcome =
      .ok (items.filter fun item => isAccepted chain settings context (announcement item)) := by
  induction items with
  | nil => rfl
  | cons item rest ih =>
      obtain ⟨verdict, given⟩ := judged item List.mem_cons_self
      have others := ih fun other member => judged other (List.mem_cons_of_mem _ member)
      have kept : isAccepted chain settings context (announcement item) = verdict.accepted := by
        rw [isAccepted, given]
        rfl
      rw [keepAccepted, Inquiry.outcome_bind, given]
      change ((keepAccepted chain settings context announcement rest) >>= _).outcome = _
      rw [Inquiry.outcome_bind, others, List.filter_cons, kept]
      rfl

theorem keepAccepted_fails {before after : List Item} {item : Item}
    {error : VerificationError Failure}
    (judged : ∀ earlier ∈ before, ∃ verdict,
      (judge chain settings context (announcement earlier)).outcome = .ok verdict)
    (fails : (judge chain settings context (announcement item)).outcome = .error error) :
    (keepAccepted chain settings context announcement (before ++ item :: after)).outcome =
      .error error := by
  induction before with
  | nil => exact Inquiry.outcome_bind_of_error fails
  | cons first rest ih =>
      obtain ⟨verdict, given⟩ := judged first List.mem_cons_self
      have later := ih fun other member => judged other (List.mem_cons_of_mem _ member)
      rw [List.cons_append, keepAccepted, Inquiry.outcome_bind_of_ok given]
      exact Inquiry.outcome_bind_of_error later

/-- Where the chain answers, exactly the announcements that escape get no verdict, and the first of
them ends its batch. -/
theorem judged_unless_escapes (settings : Settings) (context : LocalContext)
    (announcement : Item → Option Announcement) (answers : chain.Answers)
    (heightFits : RoundInput.fits 8 context.height = true)
    (phaseFits : RoundInput.fits 4 context.phase = true) :
    (∀ announcement, (∀ error, ¬Escapes chain settings context announcement error) →
      ∃ verdict, (judge chain settings context announcement).outcome = .ok verdict) ∧
    (∀ announcement error, Escapes chain settings context announcement error →
      (judge chain settings context announcement).outcome = .error error) ∧
    (∀ items : List Item,
      (∀ item ∈ items, ∀ error, ¬Escapes chain settings context (announcement item) error) →
      (keepAccepted chain settings context announcement items).outcome =
        .ok (items.filter fun item => isAccepted chain settings context (announcement item))) ∧
    ∀ (before : List Item) (item : Item) (after : List Item) (error : VerificationError Failure),
      (∀ earlier ∈ before, ∀ other,
        ¬Escapes chain settings context (announcement earlier) other) →
      Escapes chain settings context (announcement item) error →
      (keepAccepted chain settings context announcement (before ++ item :: after)).outcome =
        .error error := by
  have contained : ∀ announcement, (∀ error, ¬Escapes chain settings context announcement error) →
      ∃ verdict, (judge chain settings context announcement).outcome = .ok verdict :=
    fun announcement contained =>
      exists_verdict (settles_verify heightFits phaseFits answers contained)
  refine ⟨contained, fun _ _ => judge_of_escapes, fun items allContained => ?_, ?_⟩
  · exact keepAccepted_filter fun item member => contained _ (allContained item member)
  · intro before item after error containedBefore escapes
    exact keepAccepted_fails
      (fun earlier member => contained _ (containedBefore earlier member))
      (judge_of_escapes escapes)

def beyondRounds : Announcement where
  selection := some ⟨[], 0, 0⟩
  credential := some ⟨some ⟨[], 11, 2147483648, 0⟩, [], [], []⟩

theorem escapes_beyondRounds : Escapes (Chain.constant "holder" 1 (.integer 1) : Chain Empty)
    .standard ⟨11, 0, []⟩ (some beyondRounds) .unencodable :=
  ⟨by decide, _, rfl, .encoding ⟨"holder", 1, rfl, rfl, by decide, by decide⟩ rfl
    (.inr (by decide))⟩

theorem judged_unless_escapes_standard :
    (judge (Chain.constant "holder" 1 (.integer 1) : Chain Empty) .standard ⟨11, 0, []⟩
      (some beyondRounds)).outcome = .error .unencodable ∧
    ∃ verdict, (judge (Chain.constant "holder" 1 (.integer 1) : Chain Empty) .standard
      ⟨11, 0, []⟩ none).outcome = .ok verdict := by
  obtain ⟨contained, escaped, -, -⟩ := judged_unless_escapes .standard ⟨11, 0, []⟩ id
    (Chain.constant_answers Empty "holder" 1 threshold_integer_one) (by decide) (by decide)
  refine ⟨escaped _ _ escapes_beyondRounds, contained none fun error => ?_⟩
  rintro ⟨-, message, isMessage, -⟩
  cases isMessage

/-- A batch with an announcement that its receiver rejects is lost to an announcement that
escapes. -/
theorem batch_lost_to_beyondRounds :
    (∃ kept, (keepAccepted (Chain.constant "holder" 1 (.integer 1) : Chain Empty) .standard
      ⟨11, 0, []⟩ id [none]).outcome = .ok kept) ∧
    (¬∃ verdict, (judge (Chain.constant "holder" 1 (.integer 1) : Chain Empty) .standard
      ⟨11, 0, []⟩ (some beyondRounds)).outcome = .ok verdict) ∧
    ¬∃ kept, (keepAccepted (Chain.constant "holder" 1 (.integer 1) : Chain Empty) .standard
      ⟨11, 0, []⟩ id [none, some beyondRounds]).outcome = .ok kept := by
  have fails := judge_of_escapes escapes_beyondRounds
  refine ⟨⟨[], rfl⟩, ?_, ?_⟩
  · rintro ⟨verdict, given⟩
    rw [fails] at given
    cases given
  · rintro ⟨kept, given⟩
    have judged : ∀ earlier ∈ [none], ∃ verdict,
        (judge (Chain.constant "holder" 1 (.integer 1) : Chain Empty) .standard ⟨11, 0, []⟩
          earlier).outcome = .ok verdict := by
      intro earlier member
      obtain rfl := List.mem_singleton.mp member
      exact ⟨_, rfl⟩
    cases given.symm.trans (keepAccepted_fails judged fails)

end Verification

end StakeLottery
