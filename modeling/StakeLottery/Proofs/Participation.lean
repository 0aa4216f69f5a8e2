import Mathlib
import StakeLottery.Participant
import StakeLottery.Proofs.Ecvrf.Completeness
import StakeLottery.Proofs.Record.RoundInput
import StakeLottery.Proofs.Record.Wire
import StakeLottery.Proofs.Round.Winners
import StakeLottery.Proofs.Verification.Acceptance

/-!
Producer and verifier. What a participant's round announces is what the verifier's checks ask for:
the input of the round, an output that its proof proves, a ticket that the participant holds, and a
hash that wins.
-/

namespace StakeLottery

variable {Failure : Type}

theorem SecretKey.evaluateInput_ok {key : SecretKey} {input : RoundInput}
    {evaluation : Ecvrf.Evaluation} : key.evaluateInput input = .ok evaluation ↔
      ∃ encoded, input.encode? = some encoded ∧ Ecvrf.evaluate key encoded = .ok evaluation := by
  unfold evaluateInput
  cases input.encode? with
  | none => simp
  | some encoded => simp [Except.mapError_eq_ok]

def Credential.announce (credential : Credential) (index committee : Int) : Announcement where
  selection := some ⟨Ticket.hash credential.output index committee, index, committee⟩
  credential := some credential

namespace Participant

variable {participant : Participant Failure} {key : SecretKey} {arrival : Arrival}
  {tokenSet : Bool} {input : RoundInput}

theorem playWith_ok {announcements : List Announcement} :
    (participant.playWith key arrival tokenSet input).outcome = .ok announcements ↔
      ∃ address count difficulty encoded evaluation,
        participant.chain.address key.publicKey = .ok address ∧
        participant.chain.ticketCount address
          (participant.settings.snapshotHeight input.height) = .ok count ∧
        participant.chain.difficulty input.height input.round = .ok difficulty ∧
        input.encode? = some encoded ∧
        Ecvrf.evaluate key encoded = .ok evaluation ∧
        ((request participant.settings (key.credential input evaluation) count difficulty).run
          participant.settings.sizes.batch arrival tokenSet).outcome = .ok announcements ∧
        Decimal.hasText count = true := by
  simp only [playWith, drawAndReport, Inquiry.bind_outcome_ok, Inquiry.outcome_ask,
    Inquiry.outcome_of, Except.mapError_eq_ok, SecretKey.evaluateInput_ok, Inquiry.require_ok,
    Inquiry.outcome_pure, Except.ok.injEq]
  constructor
  · rintro ⟨address, addressed, count, counted, difficulty, asked, evaluation,
      ⟨encoded, encodes, evaluated⟩, _, ended, -, named, rfl⟩
    exact ⟨address, count, difficulty, encoded, evaluation, addressed, counted, asked, encodes,
      evaluated, ended, named⟩
  · rintro ⟨address, count, difficulty, encoded, evaluation, addressed, counted, asked, encodes,
      evaluated, ended, named⟩
    exact ⟨address, addressed, count, counted, difficulty, asked, evaluation,
      ⟨encoded, encodes, evaluated⟩, _, ended, (), named, rfl⟩

theorem play_ok {announcements : List Announcement}
    (usable : participant.material.secretKey = .ok key) :
    (participant.play arrival tokenSet input).outcome = .ok (some announcements) ↔
      (participant.playWith key arrival tokenSet input).outcome = .ok announcements := by
  rw [play, usable]
  change (participant.playWith key arrival tokenSet input >>= _).outcome = _ ↔ _
  simp [Inquiry.bind_outcome_ok]

section

variable (participant : Participant Failure) (arrival : Arrival)
  (usable : participant.material.secretKey = .ok key) {evaluation : Ecvrf.Evaluation}
  (evaluated : key.evaluateInput input = .ok evaluation) {address : String} {count : Int}
  {difficulty : Quantity} {threshold : Int}
  (addressed : participant.chain.address key.publicKey = .ok address)
  (counted : participant.chain.ticketCount address
    (participant.settings.snapshotHeight input.height) = .ok count)
  (asked : participant.chain.difficulty input.height input.round = .ok difficulty)

include usable evaluated addressed counted asked

theorem play_ok_iff_run {announcements : List Announcement} :
    (participant.play arrival false input).outcome = .ok (some announcements) ↔
      ((request participant.settings (key.credential input evaluation) count difficulty).run
        participant.settings.sizes.batch arrival false).outcome = .ok announcements ∧
      Decimal.hasText count = true := by
  obtain ⟨encoded, encodes, evaluates⟩ := SecretKey.evaluateInput_ok.mp evaluated
  rw [play_ok usable, playWith_ok]
  constructor
  · rintro ⟨_, _, _, _, _, addressedToo, countedToo, askedToo, encodesToo, evaluatesToo, ended⟩
    cases addressedToo.symm.trans addressed
    cases countedToo.symm.trans counted
    cases askedToo.symm.trans asked
    cases encodesToo.symm.trans encodes
    cases evaluatesToo.symm.trans evaluates
    exact ended
  · intro ended
    exact ⟨address, count, difficulty, encoded, evaluation, addressed, counted, asked, encodes,
      evaluates, ended⟩

variable (holdsTickets : 0 ≤ count) (valid : difficulty.threshold = .ok threshold)

include valid

theorem mem_play_iff {announcements : List Announcement}
    (played : (participant.play arrival false input).outcome = .ok (some announcements))
    {announcement : Announcement} :
    announcement ∈ announcements ↔ ∃ index : Nat, index < count.toNat ∧
      beatsThreshold (Ticket.hash evaluation.output index participant.settings.committee)
        threshold = true ∧
      (key.credential input evaluation).announce index participant.settings.committee =
        announcement := by
  obtain ⟨ended, -⟩ :=
    (play_ok_iff_run participant arrival usable evaluated addressed counted asked).mp played
  exact RoundRequest.mem_run_iff participant.settings.sizes.batch_pos ended valid

include holdsTickets

/-- A round without a timeout returns a list if its integers have a text. -/
theorem play_returns_iff (untimed : participant.settings.roundTimeout = none) :
    (∃ announcements,
      (participant.play arrival false input).outcome = .ok (some announcements)) ↔
      Decimal.hasText count = true ∧
        (0 < count → Decimal.hasText participant.settings.committee = true) := by
  have positive := participant.settings.sizes.batch_pos
  have lasts : (request participant.settings (key.credential input evaluation) count
      difficulty).Lasts := RoundRequest.lasts_of_untimed untimed
  simp only [play_ok_iff_run participant arrival usable evaluated addressed counted asked]
  constructor
  · rintro ⟨announcements, ended, named⟩
    have written := RoundRequest.writable_of_run positive ended
    exact ⟨named, fun someTickets => (written someTickets).1⟩
  · rintro ⟨named, written⟩
    have writable : (request participant.settings (key.credential input evaluation) count
        difficulty).Writable := by
      intro someTickets
      refine ⟨written someTickets, ?_⟩
      have below := Decimal.hasText_iff.mp named
      change count ≤ Decimal.textBound
      omega
    obtain ⟨announcements, ended⟩ :=
      RoundRequest.run_unset_of_writable arrival positive holdsTickets valid lasts writable
    exact ⟨announcements, ended, named⟩

end

theorem passes_of_evaluateInput {evaluation : Ecvrf.Evaluation}
    (evaluated : key.evaluateInput input = .ok evaluation) {chain : Chain Failure}
    {settings : Settings} {address : String} {count index committee threshold : Int}
    {difficulty : Quantity} (addressed : chain.address key.publicKey = .ok address)
    (counted : chain.ticketCount address (settings.snapshotHeight input.height) = .ok count)
    (nonnegative : 0 ≤ index) (below : index < count)
    (asked : chain.difficulty input.height input.round = .ok difficulty)
    (valid : difficulty.threshold = .ok threshold)
    (written : Ticket.isWritable index committee = true)
    (beats : beatsThreshold (Ticket.hash evaluation.output index committee) threshold = true) :
    ∃ message,
      ((key.credential input evaluation).announce index committee).complete? = some message ∧
      Verification.Passes chain settings ⟨input.height, input.phase, input.seed⟩ message := by
  obtain ⟨encoded, encodes, evaluates⟩ := SecretKey.evaluateInput_ok.mp evaluated
  exact ⟨_, rfl, ⟨address, count, addressed, counted, nonnegative, below⟩, rfl,
    ⟨encoded, encodes, Ecvrf.verify_of_evaluate evaluates⟩, Ticket.hash?_of_isWritable written,
    ⟨difficulty, threshold, asked, valid, beats⟩⟩

theorem passes_of_playWith {announcements : List Announcement}
    (played : (participant.playWith key arrival tokenSet input).outcome = .ok announcements)
    {announcement : Announcement} (member : announcement ∈ announcements) {VerifierFailure : Type}
    {chain : Chain VerifierFailure} {settings : Settings} {address : String} {count : Int}
    {difficulty : Quantity} (addressed : chain.address key.publicKey = .ok address)
    (counted : chain.ticketCount address (settings.snapshotHeight input.height) = .ok count)
    (holds : ∀ index, announcement.index? = some index → index < count)
    (asked : participant.chain.difficulty input.height input.round = .ok difficulty)
    (agrees : chain.difficulty input.height input.round = .ok difficulty) :
    ∃ message, announcement.complete? = some message ∧
      Verification.Passes chain settings ⟨input.height, input.phase, input.seed⟩ message := by
  obtain ⟨_, _, _, encoded, evaluation, -, -, ownAsked, encodes, evaluates, ended, -⟩ :=
    playWith_ok.mp played
  cases ownAsked.symm.trans asked
  have positive := participant.settings.sizes.batch_pos
  obtain ⟨threshold, valid, -, -⟩ := RoundRequest.run_outcome_perm positive ended
  obtain ⟨index, drawn, beats, rfl⟩ := (RoundRequest.mem_run_iff positive ended valid).mp member
  have evaluated := SecretKey.evaluateInput_ok.mpr ⟨encoded, encodes, evaluates⟩
  have written := RoundRequest.writable_iff.mp (RoundRequest.writable_of_run positive ended)
    index (Int.natCast_nonneg index) (Int.lt_toNat.mp drawn)
  exact passes_of_evaluateInput evaluated addressed counted (Int.natCast_nonneg index)
    (holds _ rfl) agrees valid written beats

theorem height_named_of_playWith {announcements : List Announcement}
    (played : (participant.playWith key arrival tokenSet input).outcome = .ok announcements) :
    Decimal.hasText input.height = true := by
  obtain ⟨_, _, _, _, _, -, -, -, encodes, -⟩ := playWith_ok.mp played
  exact RoundInput.height_named_of_encode? encodes

/-- Every announcement of a round is accepted by every verifier that finds the ticket to be the
participant's and asks the same difficulty, as it is and after it has travelled. -/
theorem announcement_accepted {announcements : List Announcement}
    (usable : participant.material.secretKey = .ok key)
    (played : (participant.play arrival tokenSet input).outcome = .ok (some announcements))
    {announcement : Announcement} (member : announcement ∈ announcements) {VerifierFailure : Type}
    (chain : Chain VerifierFailure) (settings : Settings) {address : String} {count : Int}
    {difficulty : Quantity} (addressed : chain.address key.publicKey = .ok address)
    (counted : chain.ticketCount address (settings.snapshotHeight input.height) = .ok count)
    (holds : ∀ index, announcement.index? = some index → index < count)
    (asked : participant.chain.difficulty input.height input.round = .ok difficulty)
    (agrees : chain.difficulty input.height input.round = .ok difficulty) :
    (Verification.verify chain settings ⟨input.height, input.phase, input.seed⟩
      (some announcement)).outcome = .ok () ∧
    ∃ arrived, Announcement.ofWire announcement.toWire = .ok arrived ∧
      (Verification.verify chain settings ⟨input.height, input.phase, input.seed⟩
        (some arrived)).outcome = .ok () := by
  have accepted : (Verification.verify chain settings ⟨input.height, input.phase, input.seed⟩
      (some announcement)).outcome = .ok () := by
    by_cases above : settings.bootstrapHeight < input.height
    · exact (Verification.verify_ok_iff above).mpr
        (passes_of_playWith ((play_ok usable).mp played) member addressed counted holds asked
          agrees)
    · rw [Verification.verify_of_low (Int.not_lt.mp above)]
      exact Verification.trust_ok.mpr (height_named_of_playWith ((play_ok usable).mp played))
  exact ⟨accepted, announcement, announcement.ofWire_toWire, accepted⟩

def single (difficulty : Quantity) : Participant Empty where
  settings := .standard
  chain := .constant "holder" 1 difficulty
  material := .ready Ecvrf.unitKey

theorem exists_evaluateInput_plain :
    ∃ evaluation, Ecvrf.unitKey.evaluateInput Ecvrf.plainInput = .ok evaluation := by
  obtain ⟨evaluation, evaluated, -⟩ :=
    Ecvrf.exists_evaluate Ecvrf.inputPoint?_plain Ecvrf.nonce?_plain_of_encode
  exact ⟨evaluation, SecretKey.evaluateInput_ok.mpr ⟨_, if_pos rfl, evaluated⟩⟩

theorem output_of_evaluateInput_plain {evaluation : Ecvrf.Evaluation}
    (evaluated : Ecvrf.unitKey.evaluateInput Ecvrf.plainInput = .ok evaluation) :
    evaluation.output = Ecvrf.outputOf (Curve.Point.compress Ecvrf.plainX Ecvrf.plainY) := by
  obtain ⟨encoded, encodes, evaluates⟩ := SecretKey.evaluateInput_ok.mp evaluated
  have isBytes : some Ecvrf.plainInput.toBytes = some encoded :=
    (if_pos rfl : Ecvrf.plainInput.encode? = _).symm.trans encodes
  rw [← Option.some.inj isBytes] at evaluates
  exact Ecvrf.output_plain evaluates

theorem beatsThreshold_hashSpace (output : Bytes) (index committee : Int) :
    beatsThreshold (Ticket.hash output index committee) hashSpace = true := by
  have bound := Bytes.toNat_lt (Ticket.hash output index committee)
  rw [Ticket.hash, Sha256.length_hashTwice] at bound
  exact decide_eq_true (Int.ofNat_le.mpr (Nat.le_of_lt bound))

theorem verify_single {evaluation : Ecvrf.Evaluation} {difficulty : Quantity}
    {threshold committee : Int}
    (evaluated : Ecvrf.unitKey.evaluateInput Ecvrf.plainInput = .ok evaluation)
    (valid : difficulty.threshold = .ok threshold)
    (written : Ticket.isWritable 0 committee = true)
    (beats : beatsThreshold (Ticket.hash evaluation.output 0 committee) threshold = true) :
    (Verification.verify (single difficulty).chain .standard ⟨11, 0, []⟩
      (some ((Ecvrf.unitKey.credential Ecvrf.plainInput evaluation).announce 0
        committee))).outcome = .ok () :=
  (Verification.verify_ok_iff (by decide)).mpr
    (passes_of_evaluateInput evaluated rfl rfl Int.le_rfl Int.one_pos rfl valid written beats)

theorem isWritable_first : Ticket.isWritable 0 0 = true := by
  decide +kernel

theorem verify_single_one {evaluation : Ecvrf.Evaluation}
    (evaluated : Ecvrf.unitKey.evaluateInput Ecvrf.plainInput = .ok evaluation) :
    (Verification.verify (single (.integer 1)).chain .standard ⟨11, 0, []⟩
      (some ((Ecvrf.unitKey.credential Ecvrf.plainInput evaluation).announce 0 0))).outcome =
        .ok () :=
  verify_single evaluated threshold_integer_one isWritable_first (beatsThreshold_hashSpace ..)

theorem standardCommittee_named : Decimal.hasText Settings.standard.committee = true :=
  Decimal.hasText_of_small (by decide)

theorem exists_play_single {evaluation : Ecvrf.Evaluation} {difficulty : Quantity}
    {threshold : Int}
    (evaluated : Ecvrf.unitKey.evaluateInput Ecvrf.plainInput = .ok evaluation)
    (valid : difficulty.threshold = .ok threshold) :
    ∃ announcements,
      ((single difficulty).play .inOrder false Ecvrf.plainInput).outcome =
        .ok (some announcements) :=
  (play_returns_iff (single difficulty) .inOrder rfl evaluated rfl rfl rfl Int.one_nonneg valid
    rfl).mpr ⟨Decimal.hasText_of_small (by decide), fun _ => standardCommittee_named⟩

theorem announcement_accepted_single :
    ∃ announcements announcement,
      ((single (.integer 1)).play .inOrder false Ecvrf.plainInput).outcome =
        .ok (some announcements) ∧ announcement ∈ announcements ∧
      (Verification.verify (.constant "elsewhere" 3 (.integer 1) : Chain Unit)
        { Settings.standard with bootstrapHeight := 0 } ⟨11, 0, []⟩ (some announcement)).outcome =
          .ok () := by
  obtain ⟨evaluation, evaluated⟩ := exists_evaluateInput_plain
  obtain ⟨announcements, played⟩ := exists_play_single evaluated threshold_integer_one
  have member := (mem_play_iff (single (.integer 1)) .inOrder rfl evaluated rfl rfl rfl
    threshold_integer_one played).mpr
      ⟨0, Nat.one_pos, beatsThreshold_hashSpace evaluation.output _ _, rfl⟩
  have holds : ∀ index : Int, some 0 = some index → index < 3 := by
    rintro _ ⟨⟩
    decide
  obtain ⟨accepted, -⟩ := announcement_accepted rfl played member
    (.constant "elsewhere" 3 (.integer 1) : Chain Unit)
    { Settings.standard with bootstrapHeight := 0 } rfl rfl holds rfl rfl
  exact ⟨announcements, _, played, member, accepted⟩

def withCommittee (participant : Participant Failure) (committee : Int) : Participant Failure :=
  { participant with settings := { participant.settings with committee := committee } }

/-- A round whose token is not set announces an announcement: it returns a list exactly if the
ticket count has a text, and the announcement is in each list that it returns. -/
structure Announces (participant : Participant Failure) (arrival : Arrival) (input : RoundInput)
    (count : Int) (announcement : Announcement) : Prop where
  returns : (∃ announcements,
    (participant.play arrival false input).outcome = .ok (some announcements)) ↔
      Decimal.hasText count = true
  drawn : ∀ announcements,
    (participant.play arrival false input).outcome = .ok (some announcements) →
      announcement ∈ announcements

theorem announces_of_passes (participant : Participant Failure) (arrival : Arrival)
    (usable : participant.material.secretKey = .ok key) {message : CompleteAnnouncement}
    {evaluation : Ecvrf.Evaluation} (evaluated : key.evaluateInput input = .ok evaluation)
    (honest : message.credential = key.credential input evaluation)
    (sameInput : message.input = input)
    (sameCommittee : message.selection.committee = participant.settings.committee)
    (passes : Verification.Passes participant.chain participant.settings
      ⟨input.height, input.phase, input.seed⟩ message)
    {address : String} {count : Int}
    (addressed : participant.chain.address key.publicKey = .ok address)
    (counted : participant.chain.ticketCount address
      (participant.settings.snapshotHeight input.height) = .ok count)
    (untimed : participant.settings.roundTimeout = none) :
    participant.Announces arrival input count
      ⟨some message.selection, some message.credential⟩ := by
  -- The checks leave the index as the only part of the message that is open.
  obtain ⟨⟨hash, index, committee⟩, credential, messageInput⟩ := message
  obtain ⟨ownAddress, ownCount, ownAddressed, ownCounted, nonnegative, below⟩ := passes.owned
  obtain ⟨difficulty, threshold, asked, valid, beats⟩ := passes.won
  obtain ⟨written, drawn⟩ := Ticket.hash?_eq_some.mp passes.drawn
  simp only at honest sameInput sameCommittee ownAddressed nonnegative below
  simp only at asked beats written drawn
  subst honest sameInput sameCommittee drawn
  cases ownAddressed.symm.trans addressed
  cases ownCounted.symm.trans counted
  obtain ⟨place, rfl⟩ := Int.eq_ofNat_of_zero_le nonnegative
  have holdsTickets : 0 ≤ count := by omega
  have inRange : place < count.toNat := by omega
  constructor
  · rw [play_returns_iff participant arrival usable evaluated addressed counted asked holdsTickets
      valid untimed]
    exact and_iff_left fun _ => (Ticket.isWritable_iff.mp written).2
  · intro announcements played
    exact (mem_play_iff participant arrival usable evaluated addressed counted asked valid
      played).mpr ⟨place, inRange, beats, rfl⟩

/-- An accepted announcement is one that its sender announces when its committee is that of the
announcement. -/
theorem accepted_announcement_drawn (participant : Participant Failure) (arrival : Arrival)
    (usable : participant.material.secretKey = .ok key) {evaluation : Ecvrf.Evaluation}
    (evaluated : key.evaluateInput input = .ok evaluation) {announcement : Announcement}
    (honest : announcement.credential = some (key.credential input evaluation))
    (above : participant.settings.bootstrapHeight < input.height)
    (accepted : (Verification.verify participant.chain participant.settings
      ⟨input.height, input.phase, input.seed⟩ (some announcement)).outcome = .ok ())
    (untimed : participant.settings.roundTimeout = none) :
    ∃ selection address count, announcement.selection = some selection ∧
      participant.chain.address key.publicKey = .ok address ∧
      participant.chain.ticketCount address
        (participant.settings.snapshotHeight input.height) = .ok count ∧
      (participant.withCommittee selection.committee).Announces arrival input count announcement ∧
      (selection.committee = participant.settings.committee →
        participant.Announces arrival input count announcement) := by
  obtain ⟨message, complete, passes⟩ := (Verification.verify_ok_iff above).mp accepted
  obtain ⟨isSelection, isCredential, isInput⟩ := Announcement.complete?_eq_some.mp complete
  rw [isCredential, Option.some.injEq] at honest
  have sameInput : message.input = input := by
    rw [honest] at isInput
    exact (Option.some.inj isInput).symm
  have isAnnouncement : announcement = ⟨some message.selection, some message.credential⟩ := by
    rw [← isSelection, ← isCredential]
  obtain ⟨address, count, addressed, counted, -⟩ := passes.owned
  rw [honest] at addressed
  refine ⟨message.selection, address, count, isSelection, addressed, counted, ?_, ?_⟩
  · rw [isAnnouncement]
    exact announces_of_passes (participant.withCommittee message.selection.committee) arrival
      usable evaluated honest sameInput rfl
      ⟨passes.owned, passes.inContext, passes.proven, passes.drawn, passes.won⟩ addressed counted
      untimed
  · intro sameCommittee
    rw [isAnnouncement]
    exact announces_of_passes participant arrival usable evaluated honest sameInput sameCommittee
      passes addressed counted untimed

def half : Quantity := .real ⟨0x3fe0000000000000⟩

theorem threshold_half : half.threshold = .ok (2 ^ 255) := by
  decide +kernel

theorem hash_plain_loses :
    beatsThreshold (Ticket.hash (Ecvrf.outputOf (Curve.Point.compress Ecvrf.plainX Ecvrf.plainY))
      0 0) (2 ^ 255) = false := by
  decide +kernel

theorem hash_plain_wins :
    beatsThreshold (Ticket.hash (Ecvrf.outputOf (Curve.Point.compress Ecvrf.plainX Ecvrf.plainY))
      0 2) (2 ^ 255) = true := by
  decide +kernel

theorem verify_committee_two {evaluation : Ecvrf.Evaluation}
    (evaluated : Ecvrf.unitKey.evaluateInput Ecvrf.plainInput = .ok evaluation) :
    (Verification.verify (single half).chain (single half).settings ⟨11, 0, []⟩
      (some ((Ecvrf.unitKey.credential Ecvrf.plainInput evaluation).announce 0 2))).outcome =
        .ok () := by
  have beats := hash_plain_wins
  have written : Ticket.isWritable 0 2 = true := by decide +kernel
  rw [← output_of_evaluateInput_plain evaluated] at beats
  exact verify_single evaluated threshold_half written beats

theorem accepted_announcement_drawn_half :
    ∃ evaluation announcements,
      (((single half).withCommittee 2).play .inOrder false Ecvrf.plainInput).outcome =
        .ok (some announcements) ∧
      (Ecvrf.unitKey.credential Ecvrf.plainInput evaluation).announce 0 2 ∈ announcements := by
  obtain ⟨evaluation, evaluated⟩ := exists_evaluateInput_plain
  obtain ⟨selection, address, count, chosen, addressed, counted, announces, -⟩ :=
    accepted_announcement_drawn (single half) .inOrder rfl evaluated rfl (by decide)
      (verify_committee_two evaluated) rfl
  cases chosen
  cases addressed
  cases counted
  obtain ⟨announcements, played⟩ := announces.returns.mpr (Decimal.hasText_of_small (by decide))
  exact ⟨evaluation, announcements, played, announces.drawn announcements played⟩

/-- A ticket that loses for the standard committee is accepted for committee two. -/
theorem accepted_though_ticket_lost :
    ((single half).play .inOrder false Ecvrf.plainInput).outcome = .ok (some []) ∧
    ∃ evaluation, Ecvrf.unitKey.evaluateInput Ecvrf.plainInput = .ok evaluation ∧
      (Verification.verify (single half).chain (single half).settings ⟨11, 0, []⟩
        (some ((Ecvrf.unitKey.credential Ecvrf.plainInput evaluation).announce 0 2))).outcome =
          .ok () := by
  obtain ⟨evaluation, evaluated⟩ := exists_evaluateInput_plain
  refine ⟨?_, evaluation, evaluated, verify_committee_two evaluated⟩
  obtain ⟨announcements, played⟩ := exists_play_single evaluated threshold_half
  have isEmpty : announcements = [] := by
    refine List.eq_nil_iff_forall_not_mem.mpr fun announcement member => ?_
    obtain ⟨index, below, beats, -⟩ := (mem_play_iff (single half) .inOrder rfl evaluated rfl rfl
      rfl threshold_half played).mp member
    obtain rfl := Nat.lt_one_iff.mp below
    have loses := hash_plain_loses
    rw [← output_of_evaluateInput_plain evaluated] at loses
    exact absurd beats (Bool.eq_false_iff.mp loses)
  rw [played, isEmpty]

end Participant

end StakeLottery
