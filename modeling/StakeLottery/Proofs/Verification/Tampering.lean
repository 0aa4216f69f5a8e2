import Mathlib
import StakeLottery.Proofs.Ecvrf.Acceptance
import StakeLottery.Proofs.Lottery.Ticket
import StakeLottery.Proofs.Participation
import StakeLottery.Proofs.Verification.Reasons

/-!
Tampering. Whatever one field of an accepted announcement is changed to, the verifier reports the
reason of that field: the checks before the one that the field is for still pass. It reports nothing
where it would have to write an integer that has no text.
-/

namespace StakeLottery

inductive Tampering where
  | noCredential
  | noSelection
  | noInput
  | height (value : Int)
  | seed (value : Bytes)
  | phase (value : Int)
  | output (value : Bytes)
  | hash (value : Bytes)
  | index (value : Int)
  | committee (value : Int)

namespace Announcement

def onSelection (change : Selection → Selection) (announcement : Announcement) : Announcement :=
  { announcement with selection := announcement.selection.map change }

def onCredential (change : Credential → Credential) (announcement : Announcement) :
    Announcement :=
  { announcement with credential := announcement.credential.map change }

def onInput (change : RoundInput → RoundInput) : Announcement → Announcement :=
  onCredential fun credential => { credential with input := credential.input.map change }

end Announcement

namespace Tampering

def apply : Tampering → Announcement → Announcement
  | noCredential, announcement => { announcement with credential := none }
  | noSelection, announcement => { announcement with selection := none }
  | noInput, announcement => announcement.onCredential ({ · with input := none })
  | height value, announcement => announcement.onInput ({ · with height := value })
  | seed value, announcement => announcement.onInput ({ · with seed := value })
  | phase value, announcement => announcement.onInput ({ · with phase := value })
  | output value, announcement => announcement.onCredential ({ · with output := value })
  | hash value, announcement => announcement.onSelection ({ · with hash := value })
  | index value, announcement => announcement.onSelection ({ · with index := value })
  | committee value, announcement => announcement.onSelection ({ · with committee := value })

/-- The reason that is reported of a change, where the sender holds so many tickets. -/
def reason (count : Int) : Tampering → RejectionReason
  | noCredential | noSelection | noInput => .malformed
  | height _ | seed _ | phase _ => .contextMismatch
  | output _ => .proof
  | hash _ | committee _ => .ticketHash
  | index value => if 0 ≤ value ∧ value < count then .ticketHash else .ticketIndex

def integers (count : Int) : Tampering → List Int
  | height value | phase value | committee value => [value]
  | index value => if 0 ≤ value ∧ value < count then [value] else [value, count]
  | noCredential | noSelection | noInput | seed _ | output _ | hash _ => []

def Collides (message : CompleteAnnouncement) (index committee : Int) : Prop :=
  Sha256.CollidesTwice
    (Bytes.ofAscii (Ticket.preimage message.credential.output message.selection.index
      message.selection.committee))
    (Bytes.ofAscii (Ticket.preimage message.credential.output index committee))

def CollidesOn (message : CompleteAnnouncement) : Tampering → Prop
  | index value => Collides message value message.selection.committee
  | committee value => Collides message message.selection.index value
  | _ => False

end Tampering

namespace Verification

variable {Failure : Type} {chain : Chain Failure} {settings : Settings} {context : LocalContext}
  {announcement : Announcement} {selection : Selection} {credential : Credential}
  {input : RoundInput}

/-- A changed announcement is found out: the reason is reported, or there is a collision, where the
integers that are written have a text. Otherwise there is no verdict. -/
structure Detected (chain : Chain Failure) (settings : Settings) (context : LocalContext)
    (changed : Announcement) (reason : RejectionReason) (values : List Int) (collides : Prop) :
    Prop where
  reported : (∀ value ∈ values, Decimal.hasText value = true) →
    Reports chain settings context (some changed) reason ∨ collides
  unreported : ∀ value ∈ values, Decimal.hasText value = false →
    (judge chain settings context (some changed)).outcome = .error .unwritable

variable {reason : RejectionReason} {values : List Int} {collides : Prop}

theorem detected_of_rejection {changed : Announcement} {rejection : Rejection}
    (rejects : (verify chain settings context (some changed)).outcome =
      .error (.ofRejection rejection)) (isReason : rejection.reason = reason)
    (names : ∀ value ∈ values, value ∈ rejection.integers)
    (others : ∀ value ∈ rejection.integers, value ∈ values ∨ Decimal.hasText value = true) :
    Detected chain settings context changed reason values collides where
  reported named := by
    subst isReason
    exact .inl (reports_of_rejection rejects fun value member =>
      (others value member).elim (named value) id)
  unreported value member unnamed :=
    judge_of_unwritable (verify_of_unnamed rejects (names value member) unnamed)

section

variable (above : settings.bootstrapHeight < context.height)
  (isInput : credential.input = some input)
  (passes : Passes chain settings context ⟨selection, credential, input⟩)

include above passes

omit passes in
theorem detected_of_incomplete {changed : Announcement} (incomplete : changed.complete? = none) :
    Detected chain settings context changed .malformed [] collides :=
  detected_of_rejection (verify_malformed above incomplete) rfl (by simp)
    (by simp [Rejection.integers])

theorem detected_of_input {changed : RoundInput} {rejection : Rejection}
    (mismatch : Mismatch context changed rejection) (isReason : rejection.reason = reason)
    (names : ∀ value ∈ values, value ∈ rejection.integers)
    (others : ∀ value ∈ rejection.integers,
      value ∈ values ∨ value = context.height ∨ value = context.phase) :
    Detected chain settings context
      ⟨some selection, some { credential with input := some changed }⟩ reason values collides := by
  obtain ⟨encoded, encodes, -⟩ := passes.proven
  have heightNamed : Decimal.hasText context.height = true :=
    RoundInput.height_named_of_encode? encodes
  have phaseNamed : Decimal.hasText context.phase = true :=
    RoundInput.phase_named_of_encode? encodes
  have isMessage : (some (⟨some selection,
      some { credential with input := some changed }⟩ : Announcement)).bind
        Announcement.complete? =
          some ⟨selection, { credential with input := some changed }, changed⟩ := rfl
  refine detected_of_rejection (verify_mismatch above isMessage passes.owned mismatch) isReason
    names ?_
  intro value member
  rcases others value member with written | rfl | rfl
  · exact .inl written
  · exact .inr heightNamed
  · exact .inr phaseNamed

include isInput

theorem detected_of_output {value : Bytes} (differs : value ≠ credential.output) :
    Detected chain settings context ⟨some selection, some { credential with output := value }⟩
      .proof [] collides := by
  have isMessage :
      (some (⟨some selection, some { credential with output := value }⟩ : Announcement)).bind
        Announcement.complete? = some ⟨selection, { credential with output := value }, input⟩ :=
    Announcement.complete?_eq_some.mpr ⟨rfl, rfl, isInput⟩
  obtain ⟨encoded, encodes, verified⟩ := passes.proven
  have rejects := verify_proof above isMessage passes.owned passes.inContext encodes
    (Ecvrf.verify_of_other_output verified differs)
  exact detected_of_rejection rejects rfl (by simp) (by simp [Rejection.integers])

theorem detected_of_selection {changed : Selection} {address : String} {count : Int}
    (addressed : chain.address credential.publicKey = .ok address)
    (counted : chain.ticketCount address (settings.snapshotHeight context.height) = .ok count)
    (held : 0 ≤ changed.index ∧ changed.index < count)
    (names : ∀ value ∈ values, value = changed.index ∨ value = changed.committee)
    (index : changed.index ∈ values ∨ Decimal.hasText changed.index = true)
    (committee : changed.committee ∈ values ∨ Decimal.hasText changed.committee = true)
    (drawn : Ticket.hash credential.output changed.index changed.committee = changed.hash →
      collides) :
    Detected chain settings context ⟨some changed, some credential⟩ .ticketHash values
      collides := by
  have isMessage : (some (⟨some changed, some credential⟩ : Announcement)).bind
      Announcement.complete? = some ⟨changed, credential, input⟩ :=
    Announcement.complete?_eq_some.mpr ⟨rfl, rfl, isInput⟩
  have owned : Owns chain settings context ⟨changed, credential, input⟩ :=
    ⟨address, count, addressed, counted, held⟩
  constructor
  · intro named
    have indexNamed := index.elim (named _) id
    have committeeNamed := committee.elim (named _) id
    have hashed : Ticket.hash? credential.output changed.index changed.committee = some _ :=
      Ticket.hash?_of_isWritable (Ticket.isWritable_iff.mpr ⟨indexNamed, committeeNamed⟩)
    by_cases same : Ticket.hash credential.output changed.index changed.committee = changed.hash
    · exact .inr (drawn same)
    · exact .inl (reports_of_rejection
        (verify_ticketHash above isMessage owned passes.inContext passes.proven hashed same)
        (by simp [Rejection.integers, indexNamed]))
  · intro value member unnamed
    have unhashed : Ticket.hash? credential.output changed.index changed.committee = none := by
      rw [Ticket.hash?_eq_none_iff]
      rcases names value member with rfl | rfl
      · exact .inl unnamed
      · exact .inr unnamed
    exact judge_of_unwritable
      (verify_unhashed above isMessage owned passes.inContext passes.proven unhashed)

end

theorem collides_of_drawn {message : CompleteAnnouncement}
    (passes : Passes chain settings context message) {index committee : Int}
    (different : ¬(message.selection.index = index ∧ message.selection.committee = committee))
    (drawn : Ticket.hash message.credential.output index committee = message.selection.hash) :
    Tampering.Collides message index committee :=
  Ticket.collides_of_hash_eq ((Ticket.hash?_eq_some.mp passes.drawn).2.trans drawn.symm)
    fun same => different same.2

theorem held_of_owns {message : CompleteAnnouncement} {address : String} {count : Int}
    (owned : Owns chain settings context message)
    (addressed : chain.address message.credential.publicKey = .ok address)
    (counted : chain.ticketCount address (settings.snapshotHeight context.height) = .ok count) :
    0 ≤ message.selection.index ∧ message.selection.index < count := by
  obtain ⟨ownAddress, ownCount, ownAddressed, ownCounted, held⟩ := owned
  cases ownAddressed.symm.trans addressed
  cases ownCounted.symm.trans counted
  exact held

theorem detected_of_tampering (above : settings.bootstrapHeight < context.height)
    (isInput : credential.input = some input)
    (passes : Passes chain settings context ⟨selection, credential, input⟩)
    {address : String} {count : Int}
    (addressed : chain.address credential.publicKey = .ok address)
    (counted : chain.ticketCount address (settings.snapshotHeight context.height) = .ok count)
    (tampering : Tampering)
    (changes : tampering.apply ⟨some selection, some credential⟩ ≠
      ⟨some selection, some credential⟩) :
    Detected chain settings context (tampering.apply ⟨some selection, some credential⟩)
      (tampering.reason count) (tampering.integers count)
      (tampering.reason count = .ticketHash ∧
        tampering.CollidesOn ⟨selection, credential, input⟩) := by
  have held := held_of_owns passes.owned addressed counted
  obtain ⟨written, original⟩ := Ticket.hash?_eq_some.mp passes.drawn
  obtain ⟨indexNamed, committeeNamed⟩ := Ticket.isWritable_iff.mp written
  have sameHeight : input.height = context.height := congrArg RoundInput.height passes.inContext
  have sameSeed : input.seed = context.seed := congrArg RoundInput.seed passes.inContext
  have samePhase : input.phase = context.phase := congrArg RoundInput.phase passes.inContext
  obtain ⟨_, output, proof, publicKey⟩ := credential
  obtain rfl : _ = some input := isInput
  cases tampering with
  | noCredential => exact detected_of_incomplete above rfl
  | noSelection => exact detected_of_incomplete above rfl
  | noInput => exact detected_of_incomplete above rfl
  | height value =>
      have differs : value ≠ context.height := by
        rintro rfl
        rw [← sameHeight] at changes
        exact changes rfl
      exact detected_of_input above passes (.height differs) rfl
        (by simp [Tampering.integers, Rejection.integers])
        (by simp [Tampering.integers, Rejection.integers])
  | seed value =>
      have differs : value ≠ context.seed := by
        rintro rfl
        rw [← sameSeed] at changes
        exact changes rfl
      exact detected_of_input above passes (.seed sameHeight differs) rfl
        (by simp [Tampering.integers]) (by simp [Rejection.integers])
  | phase value =>
      have differs : value ≠ context.phase := by
        rintro rfl
        rw [← samePhase] at changes
        exact changes rfl
      exact detected_of_input above passes (.phase sameHeight sameSeed differs) rfl
        (by simp [Tampering.integers, Rejection.integers])
        (by simp [Tampering.integers, Rejection.integers])
  | output value =>
      have differs : value ≠ output := by
        rintro rfl
        exact changes rfl
      exact detected_of_output above rfl passes differs
  | hash value =>
      refine detected_of_selection above rfl passes addressed counted held
        (by simp [Tampering.integers]) (.inr indexNamed) (.inr committeeNamed) fun drawn => ?_
      obtain rfl : selection.hash = value := original.symm.trans drawn
      exact absurd rfl changes
  -- Another index or committee shows in the hash only, which two tickets may share.
  | index value =>
      have different : ¬(selection.index = value ∧ selection.committee = selection.committee) := by
        rintro ⟨rfl, -⟩
        exact changes rfl
      by_cases inside : 0 ≤ value ∧ value < count
      · rw [Tampering.reason, if_pos inside, Tampering.integers, if_pos inside]
        exact detected_of_selection above rfl passes addressed counted inside (by simp)
          (.inl List.mem_cons_self) (.inr committeeNamed)
          fun drawn => ⟨rfl, collides_of_drawn passes different drawn⟩
      · obtain ⟨encoded, encodes, -⟩ := passes.proven
        have heightNamed : Decimal.hasText context.height = true :=
          RoundInput.height_named_of_encode? encodes
        have isMessage : (some (⟨some { selection with index := value },
            some ⟨some input, output, proof, publicKey⟩⟩ : Announcement)).bind
              Announcement.complete? = some ⟨{ selection with index := value },
                ⟨some input, output, proof, publicKey⟩, input⟩ := rfl
        rw [Tampering.reason, if_neg inside, Tampering.integers, if_neg inside]
        exact detected_of_rejection
          (verify_ticketIndex above isMessage addressed counted inside) rfl
          (by simp [Rejection.integers]) (by simp [Rejection.integers, heightNamed])
  | committee value =>
      have different : ¬(selection.index = selection.index ∧ selection.committee = value) := by
        rintro ⟨-, rfl⟩
        exact changes rfl
      exact detected_of_selection above rfl passes addressed counted held
        (by simp [Tampering.integers]) (.inr indexNamed) (.inl List.mem_cons_self)
        fun drawn => ⟨rfl, collides_of_drawn passes different drawn⟩

theorem reports_of_harder {message : CompleteAnnouncement}
    (above : settings.bootstrapHeight < context.height)
    (isMessage : announcement.complete? = some message)
    (passes : Passes chain settings context message)
    {difficultyAt : Int → Int → Except Failure Quantity} {difficulty : Quantity} {value : Rat}
    (asked : difficultyAt context.height message.input.round = .ok difficulty)
    (valued : difficulty.value? = some value) (nonnegative : 0 ≤ value) (atMostOne : value ≤ 1)
    (harder : value < hashRatio message.selection.hash) :
    Reports { chain with difficulty := difficultyAt } settings context (some announcement)
      .difficulty := by
  have valid := Quantity.threshold_ok_iff.mpr ⟨value, valued, nonnegative, atMostOne, rfl⟩
  have loses := Bool.eq_false_iff.mpr (mt beatsThreshold_floor.mp (not_le.mpr harder))
  exact reports_difficulty above isMessage passes.owned passes.inContext passes.proven
    passes.drawn asked valid loses

/-- Every change of an accepted announcement is found out with the reason of what is changed, but
that another ticket may collide with the original one. -/
theorem tampering_reported (above : settings.bootstrapHeight < context.height)
    (accepted : (verify chain settings context (some announcement)).outcome = .ok ()) :
    ∃ message address count, announcement.complete? = some message ∧
      chain.address message.credential.publicKey = .ok address ∧
      chain.ticketCount address (settings.snapshotHeight context.height) = .ok count ∧
      (∀ removal ∈ [Tampering.noCredential, .noSelection, .noInput],
        removal.apply announcement ≠ announcement) ∧
      (∀ tampering : Tampering, tampering.apply announcement ≠ announcement →
        Detected chain settings context (tampering.apply announcement) (tampering.reason count)
          (tampering.integers count)
          (tampering.reason count = .ticketHash ∧ tampering.CollidesOn message)) ∧
      ∀ (difficultyAt : Int → Int → Except Failure Quantity) (difficulty : Quantity) (value : Rat),
        difficultyAt context.height message.input.round = .ok difficulty →
        difficulty.value? = some value → 0 ≤ value → value ≤ 1 →
        value < hashRatio message.selection.hash →
        Reports { chain with difficulty := difficultyAt } settings context (some announcement)
          .difficulty := by
  obtain ⟨message, isMessage, passes⟩ := (verify_ok_iff above).mp accepted
  obtain ⟨address, count, addressed, counted, -⟩ := id passes.owned
  refine ⟨message, address, count, isMessage, addressed, counted, ?_, ?_, ?_⟩
  · intro removal member same
    obtain ⟨selection, credential⟩ := announcement
    obtain ⟨rfl, rfl, -⟩ := Announcement.complete?_eq_some.mp isMessage
    have incomplete : (removal.apply ⟨some message.selection, some message.credential⟩).complete? =
        none := by
      simp only [List.mem_cons, List.not_mem_nil, or_false] at member
      rcases member with rfl | rfl | rfl <;> rfl
    rw [same] at incomplete
    cases incomplete.symm.trans isMessage
  · obtain ⟨selection, credential⟩ := announcement
    obtain ⟨rfl, rfl, isInput⟩ := Announcement.complete?_eq_some.mp isMessage
    exact detected_of_tampering above isInput passes addressed counted
  · intro difficultyAt difficulty value asked valued nonnegative atMostOne harder
    exact reports_of_harder above isMessage passes asked valued nonnegative atMostOne harder

theorem tampering_reported_single :
    ∃ evaluation, Ecvrf.unitKey.evaluateInput Ecvrf.plainInput = .ok evaluation ∧
      ∀ value : Int, value ≠ 0 → Decimal.hasText value = true →
        Reports (Participant.single (.integer 1)).chain .standard ⟨11, 0, []⟩
          (some ((Tampering.phase value).apply
            ((Ecvrf.unitKey.credential Ecvrf.plainInput evaluation).announce 0 0)))
          .contextMismatch := by
  obtain ⟨evaluation, evaluated⟩ := Participant.exists_evaluateInput_plain
  obtain ⟨message, address, count, -, -, -, -, found, -⟩ :=
    tampering_reported (by decide) (Participant.verify_single_one evaluated)
  refine ⟨evaluation, evaluated, fun value nonzero named => ?_⟩
  have changes : (Tampering.phase value).apply
      ((Ecvrf.unitKey.credential Ecvrf.plainInput evaluation).announce 0 0) ≠
        (Ecvrf.unitKey.credential Ecvrf.plainInput evaluation).announce 0 0 := by
    intro same
    cases same
    exact nonzero rfl
  rcases (found (.phase value) changes).reported (by simpa [Tampering.integers] using named) with
    reported | ⟨isHash, -⟩
  · exact reported
  · cases isHash

/-- There is no verdict on an index that is not held and that no message can name. -/
theorem long_index_unreported :
    ∃ evaluation, Ecvrf.unitKey.evaluateInput Ecvrf.plainInput = .ok evaluation ∧
      (verify (Participant.single (.integer 1)).chain .standard ⟨11, 0, []⟩
        (some ((Ecvrf.unitKey.credential Ecvrf.plainInput evaluation).announce 0 0))).outcome =
          .ok () ∧
      ¬(0 ≤ (Decimal.textBound : Int) ∧ (Decimal.textBound : Int) < 1) ∧
      ¬∃ verdict, (judge (Participant.single (.integer 1)).chain .standard ⟨11, 0, []⟩
        (some ((Tampering.index Decimal.textBound).apply
          ((Ecvrf.unitKey.credential Ecvrf.plainInput evaluation).announce 0 0)))).outcome =
            .ok verdict := by
  obtain ⟨evaluation, evaluated⟩ := Participant.exists_evaluateInput_plain
  have large : 1 < Decimal.textBound := Decimal.lt_textBound (by decide)
  have outside : ¬(0 ≤ (Decimal.textBound : Int) ∧ (Decimal.textBound : Int) < 1) := by omega
  have unnamed : Decimal.hasText Decimal.textBound = false :=
    Decimal.hasText_eq_false_iff.mpr le_rfl
  refine ⟨evaluation, evaluated, Participant.verify_single_one evaluated, outside, ?_⟩
  rintro ⟨verdict, judged⟩
  have isMessage : (some ((Tampering.index Decimal.textBound).apply
      ((Ecvrf.unitKey.credential Ecvrf.plainInput evaluation).announce 0 0))).bind
        Announcement.complete? = some ⟨⟨Ticket.hash evaluation.output 0 0, Decimal.textBound, 0⟩,
          Ecvrf.unitKey.credential Ecvrf.plainInput evaluation, Ecvrf.plainInput⟩ := rfl
  have rejects : (verify (Participant.single (.integer 1)).chain .standard ⟨11, 0, []⟩ _).outcome =
      .error (.ofRejection (.ticketIndex Decimal.textBound 1 "holder" 11)) :=
    verify_ticketIndex (by decide) isMessage rfl rfl outside
  have fails := verify_of_unnamed rejects List.mem_cons_self unnamed
  cases (judge_of_unwritable fails).symm.trans judged

end Verification

end StakeLottery
