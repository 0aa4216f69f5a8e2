import StakeLottery.Proofs.Inquiry.Course
import StakeLottery.Proofs.Lottery.Threshold
import StakeLottery.Proofs.Lottery.Ticket
import StakeLottery.Proofs.Verification.Acceptance

/-!
The order of the checks. The outcome of a verification is that of the first step that has one, from
the trust in low heights to the acceptance of what passed all checks, and nothing is asked for the
steps after it.
-/

namespace StakeLottery.Verification

variable {Failure : Type}

inductive Step where
  | trust
  | completeness
  | address
  | ticketCount
  | index
  | height
  | seed
  | phase
  | encoding
  | proof
  | ticketHash
  | difficulty
  | validity
  | threshold
  | acceptance
  deriving DecidableEq, Repr

namespace Step

def checks : List Step :=
  [completeness, address, ticketCount, index, height, seed, phase, encoding, proof, ticketHash,
    difficulty, validity, threshold]

def order : List Step :=
  trust :: checks ++ [acceptance]

end Step

/-- A step fails a complete announcement, by itself: whatever the steps before it say that it does
not need. -/
inductive Fails (chain : Chain Failure) (settings : Settings) (context : LocalContext)
    (message : CompleteAnnouncement) : Step → VerificationError Failure → Prop
  | address {failure : Failure}
      (unanswered : chain.address message.credential.publicKey = .error failure) :
      Fails chain settings context message .address (.chain failure)
  | ticketCount {address : String} {failure : Failure}
      (addressed : chain.address message.credential.publicKey = .ok address)
      (unanswered :
        chain.ticketCount address (max (context.height - settings.lookback) 0) = .error failure) :
      Fails chain settings context message .ticketCount (.chain failure)
  | index {address : String} {count : Int}
      (addressed : chain.address message.credential.publicKey = .ok address)
      (counted :
        chain.ticketCount address (max (context.height - settings.lookback) 0) = .ok count)
      (outside : ¬(0 ≤ message.selection.index ∧ message.selection.index < count)) :
      Fails chain settings context message .index
        (.ofRejection (.ticketIndex message.selection.index count address context.height))
  | height (differs : message.input.height ≠ context.height) :
      Fails chain settings context message .height
        (.ofRejection (.heightMismatch message.input.height context.height))
  | seed (differs : message.input.seed ≠ context.seed) :
      Fails chain settings context message .seed (.ofRejection .seedMismatch)
  | phase (differs : message.input.phase ≠ context.phase) :
      Fails chain settings context message .phase
        (.ofRejection (.phaseMismatch message.input.phase context.phase))
  | encoding (unencodable : (context.roundInput message.input.round).encode? = none) :
      Fails chain settings context message .encoding .unencodable
  | proof {encoded : Bytes} {error : Ecvrf.ProofError}
      (encodes : (context.roundInput message.input.round).encode? = some encoded)
      (unproven : Ecvrf.verify message.credential.publicKey encoded
        ⟨message.credential.output, message.credential.proof⟩ = .error error) :
      Fails chain settings context message .proof (.ofRejection (.proof error))
  | unnamedTicket (unnamed : Decimal.hasText message.selection.index = false ∨
        Decimal.hasText message.selection.committee = false) :
      Fails chain settings context message .ticketHash .unwritable
  | ticketHash (named : Decimal.hasText message.selection.index = true ∧
        Decimal.hasText message.selection.committee = true)
      (differs : Ticket.hash message.credential.output message.selection.index
        message.selection.committee ≠ message.selection.hash) :
      Fails chain settings context message .ticketHash
        (.ofRejection (.ticketHash message.selection.index))
  | difficulty {failure : Failure}
      (unanswered : chain.difficulty context.height message.input.round = .error failure) :
      Fails chain settings context message .difficulty (.chain failure)
  | validity {difficulty : Quantity} {error : DifficultyError}
      (asked : chain.difficulty context.height message.input.round = .ok difficulty)
      (refused : difficulty.Refused error) :
      Fails chain settings context message .validity (.difficulty error)
  | threshold {difficulty : Quantity} {value : ℚ}
      (asked : chain.difficulty context.height message.input.round = .ok difficulty)
      (means : difficulty.Means (.exact value)) (valid : 0 ≤ value ∧ value ≤ 1)
      (beyond : value < hashRatio message.selection.hash) :
      Fails chain settings context message .threshold
        (.ofRejection (.difficulty message.selection.index difficulty))

inductive Yields (chain : Chain Failure) (settings : Settings) (context : LocalContext)
    (announcement : Option Announcement) :
    Step → Except (VerificationError Failure) Unit → Prop
  | trusts (low : context.height ≤ settings.bootstrapHeight)
      (named : Decimal.hasText context.height = true) :
      Yields chain settings context announcement .trust (.ok ())
  | unnamedHeight (low : context.height ≤ settings.bootstrapHeight)
      (unnamed : Decimal.hasText context.height = false) :
      Yields chain settings context announcement .trust (.error .unwritable)
  | malformed (incomplete : announcement.bind Announcement.complete? = none) :
      Yields chain settings context announcement .completeness (.error (.ofRejection .malformed))
  | fails {message : CompleteAnnouncement} {step : Step} {error : VerificationError Failure}
      (isMessage : announcement.bind Announcement.complete? = some message)
      (failed : Fails chain settings context message step error) :
      Yields chain settings context announcement step (.error error)
  | accepts : Yields chain settings context announcement .acceptance (.ok ())

def Step.questions (chain : Chain Failure) (settings : Settings) (context : LocalContext)
    (message : CompleteAnnouncement) : Step → List Question
  | address => [.address message.credential.publicKey]
  | ticketCount =>
    (chain.address message.credential.publicKey).toOption.toList.map fun address =>
      .ticketCount address (max (context.height - settings.lookback) 0)
  | difficulty => [.difficulty context.height message.input.round]
  | _ => []

def questions (chain : Chain Failure) (settings : Settings) (context : LocalContext)
    (announcement : Option Announcement) (step : Step) : List Question :=
  match announcement.bind Announcement.complete? with
  | none => []
  | some message => step.questions chain settings context message

theorem wins_eq_error {hash : Bytes} {difficulty : Quantity} {error : DifficultyError} :
    wins hash difficulty = .error error ↔ difficulty.Refused error := by
  rw [← Quantity.threshold_error_iff, wins, Except.bind_eq_error]
  constructor
  · rintro (refused | ⟨threshold, -, impossible⟩)
    · exact refused
    · cases impossible
  · exact .inl

theorem exists_value_of_wins {hash : Bytes} {difficulty : Quantity} {won : Bool}
    (decided : wins hash difficulty = .ok won) :
    ∃ value, difficulty.Means (.exact value) ∧ (0 ≤ value ∧ value ≤ 1) ∧
      won = decide (hashRatio hash ≤ value) := by
  obtain ⟨threshold, given, -⟩ := wins_eq_ok.mp decided
  obtain ⟨value, valued, nonnegative, atMostOne, -⟩ := Quantity.threshold_ok_iff.mp given
  have means := Quantity.value?_eq_some_iff.mp valued
  refine ⟨value, means, ⟨nonnegative, atMostOne⟩, ?_⟩
  exact Except.ok.inj (decided.symm.trans (wins_of_means means nonnegative atMostOne hash))

section

variable {chain : Chain Failure} {settings : Settings} {context : LocalContext}
  {announcement : Option Announcement} {message : CompleteAnnouncement}

abbrev Goes (chain : Chain Failure) (settings : Settings) (context : LocalContext)
    (announcement : Option Announcement) (steps : List Step) (check : Check Failure Unit) : Prop :=
  Inquiry.Follows (Yields chain settings context announcement)
    (questions chain settings context announcement) steps check

variable (isMessage : announcement.bind Announcement.complete? = some message)

include isMessage

theorem questions_of_message (step : Step) :
    questions chain settings context announcement step =
      step.questions chain settings context message := by
  rw [questions, isMessage]

theorem yields_error_iff {step : Step} (inside : step ∈ Step.checks)
    {error : VerificationError Failure} :
    Yields chain settings context announcement step (.error error) ↔
      Fails chain settings context message step error := by
  constructor
  · intro yielded
    cases yielded with
    | unnamedHeight _ _ => simp [Step.checks] at inside
    | malformed incomplete => cases isMessage.symm.trans incomplete
    | fails isOther failed =>
        cases isMessage.symm.trans isOther
        exact failed
  · exact .fails isMessage

theorem silent_of_passes {step : Step} (inside : step ∈ Step.checks)
    (passes : ∀ error, ¬Fails chain settings context message step error) :
    ∀ other, ¬Yields chain settings context announcement step other := by
  intro other yielded
  cases other with
  | error error => exact passes error ((yields_error_iff isMessage inside).mp yielded)
  | ok value => cases yielded <;> simp [Step.checks] at inside

variable {step : Step} {rest : List Step}

theorem goes_step {Value : Type} {first : Check Failure Value} {next : Value → Check Failure Unit}
    (inside : step ∈ Step.checks)
    (asks : first.asked = questions chain settings context announcement step)
    (fails : ∀ error, first.outcome = .error error →
      Fails chain settings context message step error)
    (passes : ∀ value, first.outcome = .ok value →
      (∀ error, ¬Fails chain settings context message step error) ∧
        Goes chain settings context announcement rest (next value)) :
    Goes chain settings context announcement (step :: rest) (first >>= next) := by
  refine Inquiry.follows_bind asks (fun error given => ?_) (fun value given => ?_)
  · exact .fails isMessage (fails error given)
  · obtain ⟨silent, goesOn⟩ := passes value given
    exact ⟨silent_of_passes isMessage inside silent, goesOn⟩

theorem goes_answer {Value Cause : Type} {first : Check Failure Value}
    {answer : Except Cause Value} {wrap : Cause → VerificationError Failure}
    {next : Value → Check Failure Unit} (inside : step ∈ Step.checks)
    (asks : first.asked = questions chain settings context announcement step)
    (wrapped : first.outcome = answer.mapError wrap)
    (fails : ∀ cause, answer = .error cause →
      Fails chain settings context message step (wrap cause))
    (passes : ∀ value, answer = .ok value →
      (∀ error, ¬Fails chain settings context message step error) ∧
        Goes chain settings context announcement rest (next value)) :
    Goes chain settings context announcement (step :: rest) (first >>= next) := by
  refine Inquiry.follows_answer asks wrapped (fun cause given => ?_) (fun value given => ?_)
  · exact .fails isMessage (fails cause given)
  · obtain ⟨silent, goesOn⟩ := passes value given
    exact ⟨silent_of_passes isMessage inside silent, goesOn⟩

theorem goes_rejectUnless {condition : Bool} {rejection : Rejection} {next : Check Failure Unit}
    (inside : step ∈ Step.checks)
    (asksNothing : questions chain settings context announcement step = [])
    (fails : condition = false → Fails chain settings context message step (.ofRejection rejection))
    (passes : condition = true → ∀ error, ¬Fails chain settings context message step error)
    (goesOn : Goes chain settings context announcement rest next) :
    Goes chain settings context announcement (step :: rest)
      (rejectUnless condition rejection >>= fun _ => next) := by
  refine goes_step isMessage inside asksNothing.symm ?_ ?_
  · intro error given
    cases condition with
    | false =>
        cases given
        exact fails rfl
    | true => cases given
  · intro value given
    exact ⟨passes (Inquiry.require_ok.mp given), goesOn⟩

variable {next : Check Failure Unit}
  (goesOn : Goes chain settings context announcement rest next)

include goesOn

theorem goes_checkOwnership :
    Goes chain settings context announcement (.address :: .ticketCount :: .index :: rest)
      (checkOwnership chain settings context message >>= fun _ => next) := by
  unfold checkOwnership
  dsimp only
  rw [Inquiry.bind_assoc]
  refine goes_answer isMessage (by decide) ?_ rfl (fun failure => .address) ?_
  · rw [questions_of_message isMessage]
    rfl
  intro address addressed
  refine ⟨?_, ?_⟩
  · intro error failed
    cases failed with
    | address unanswered => cases addressed.symm.trans unanswered
  rw [Inquiry.bind_assoc]
  refine goes_answer isMessage (by decide) ?_ rfl (fun failure => .ticketCount addressed) ?_
  · rw [questions_of_message isMessage, Step.questions, addressed]
    rfl
  intro count counted
  refine ⟨?_, ?_⟩
  · intro error failed
    cases failed with
    | ticketCount otherAddressed unanswered =>
        cases otherAddressed.symm.trans addressed
        cases unanswered.symm.trans counted
  refine goes_rejectUnless isMessage (by decide) ?_ ?_ ?_ goesOn
  · exact questions_of_message isMessage _
  · intro refused
    refine .index addressed counted fun inside => ?_
    simp [inside] at refused
  · intro held error failed
    cases failed with
    | index otherAddressed otherCounted outside =>
        cases otherAddressed.symm.trans addressed
        cases otherCounted.symm.trans counted
        simp only [Bool.and_eq_true, decide_eq_true_eq] at held
        exact outside held

theorem goes_checkContext :
    Goes chain settings context announcement (.height :: .seed :: .phase :: rest)
      (checkContext context message >>= fun _ => next) := by
  unfold checkContext
  rw [Inquiry.bind_assoc]
  refine goes_rejectUnless isMessage (by decide) (questions_of_message isMessage _) ?_ ?_ ?_
  · intro differs
    exact .height (of_decide_eq_false differs)
  · intro same error failed
    cases failed with
    | height differs => exact differs (of_decide_eq_true same)
  rw [Inquiry.bind_assoc]
  refine goes_rejectUnless isMessage (by decide) (questions_of_message isMessage _) ?_ ?_ ?_
  · intro differs
    exact .seed (of_decide_eq_false differs)
  · intro same error failed
    cases failed with
    | seed differs => exact differs (of_decide_eq_true same)
  refine goes_rejectUnless isMessage (by decide) (questions_of_message isMessage _) ?_ ?_ goesOn
  · intro differs
    exact .phase (of_decide_eq_false differs)
  · intro same error failed
    cases failed with
    | phase differs => exact differs (of_decide_eq_true same)

theorem goes_checkOutput :
    Goes chain settings context announcement (.encoding :: .proof :: rest)
      (checkOutput context message >>= fun _ => next) := by
  unfold checkOutput
  rw [Inquiry.bind_assoc]
  refine goes_step isMessage (by decide) ?_ ?_ ?_
  · rw [questions_of_message isMessage]
    rfl
  · intro error given
    cases encodes : (context.roundInput message.input.round).encode? with
    | none =>
        rw [encodes] at given
        cases given
        exact .encoding encodes
    | some encoded =>
        rw [encodes] at given
        cases given
  intro encoded given
  have encodes : (context.roundInput message.input.round).encode? = some encoded := by
    cases found : (context.roundInput message.input.round).encode? with
    | none =>
        rw [found] at given
        cases given
    | some bytes =>
        rw [found] at given
        cases given
        rfl
  refine ⟨?_, ?_⟩
  · intro error failed
    cases failed with
    | encoding unencodable => cases encodes.symm.trans unencodable
  refine goes_answer isMessage (by decide) ?_ rfl (fun cause => .proof encodes) ?_
  · rw [questions_of_message isMessage]
    rfl
  intro value proven
  refine ⟨?_, goesOn⟩
  intro error failed
  cases failed with
  | proof otherEncodes unproven =>
      cases otherEncodes.symm.trans encodes
      cases unproven.symm.trans proven

theorem goes_checkTicketHash :
    Goes chain settings context announcement (.ticketHash :: rest)
      (checkTicketHash message >>= fun _ => next) := by
  cases hashed : Ticket.hash? message.credential.output message.selection.index
      message.selection.committee with
  | none =>
      have fails : (checkTicketHash message : Check Failure Unit) = Inquiry.fail .unwritable := by
        unfold checkTicketHash
        dsimp only
        rw [hashed]
        rfl
      have unnamed := Ticket.hash?_eq_none_iff.mp hashed
      rw [fails, Inquiry.bind_of_error rfl]
      exact Inquiry.follows_of_yields (.fails isMessage (.unnamedTicket unnamed))
        (questions_of_message isMessage .ticketHash).symm
  | some hash =>
      have checks : (checkTicketHash message : Check Failure Unit) =
          rejectUnless (hash = message.selection.hash) (.ticketHash message.selection.index) := by
        unfold checkTicketHash
        dsimp only
        rw [hashed]
        rfl
      obtain ⟨written, rfl⟩ := Ticket.hash?_eq_some.mp hashed
      have named := Ticket.isWritable_iff.mp written
      rw [checks]
      refine goes_rejectUnless isMessage (by decide) (questions_of_message isMessage _) ?_ ?_ goesOn
      · intro differs
        exact .ticketHash named (of_decide_eq_false differs)
      · intro same error failed
        cases failed with
        | unnamedTicket unnamed => cases (Ticket.hash?_eq_none_iff.mpr unnamed).symm.trans hashed
        | ticketHash _ differs => exact differs (of_decide_eq_true same)

theorem goes_checkDifficulty :
    Goes chain settings context announcement (.difficulty :: .validity :: .threshold :: rest)
      (checkDifficulty chain context message >>= fun _ => next) := by
  unfold checkDifficulty
  dsimp only
  rw [Inquiry.bind_assoc]
  refine goes_answer isMessage (by decide) ?_ rfl (fun failure => .difficulty) ?_
  · rw [questions_of_message isMessage]
    rfl
  intro difficulty asked
  refine ⟨?_, ?_⟩
  · intro error failed
    cases failed with
    | difficulty unanswered => cases asked.symm.trans unanswered
  rw [Inquiry.bind_assoc]
  refine goes_answer isMessage (by decide) ?_ rfl
    (fun refusal refused => .validity asked (wins_eq_error.mp refused)) ?_
  · rw [questions_of_message isMessage]
    rfl
  intro won decided
  obtain ⟨value, means, valid, isWon⟩ := exists_value_of_wins decided
  refine ⟨?_, ?_⟩
  · intro error failed
    cases failed with
    | validity otherAsked refused =>
        cases otherAsked.symm.trans asked
        cases decided.symm.trans (wins_eq_error.mpr refused)
  refine goes_rejectUnless isMessage (by decide) (questions_of_message isMessage _) ?_ ?_ goesOn
  · intro lost
    rw [isWon] at lost
    exact .threshold asked means valid (not_le.mp (of_decide_eq_false lost))
  · intro holds error failed
    cases failed with
    | threshold otherAsked otherMeans _ beyond =>
        cases otherAsked.symm.trans asked
        cases otherMeans.unique means
        rw [isWon] at holds
        exact absurd (of_decide_eq_true holds) (not_le.mpr beyond)

omit goesOn

theorem goes_acceptance :
    Goes chain settings context announcement [.acceptance] (pure ()) := by
  refine Inquiry.follows_of_yields .accepts ?_
  rw [questions_of_message isMessage]
  rfl

end

theorem goes_verify (chain : Chain Failure) (settings : Settings) (context : LocalContext)
    (announcement : Option Announcement) :
    Goes chain settings context announcement Step.order
      (verify chain settings context announcement) := by
  unfold verify
  have noQuestion : questions chain settings context announcement .trust = [] := by
    rw [questions]
    split <;> rfl
  split
  · rename_i low
    cases named : Decimal.hasText context.height with
    | false =>
        rw [trust, named]
        exact Inquiry.follows_of_yields (.unnamedHeight low named) noQuestion.symm
    | true =>
        rw [trust, named]
        exact Inquiry.follows_of_yields (.trusts low named) noQuestion.symm
  rename_i above
  refine Inquiry.follows_of_silent ?_ noQuestion ?_
  · intro other yielded
    cases yielded with
    | trusts low _ => exact above low
    | unnamedHeight low _ => exact above low
    | fails _ failed => cases failed
  split
  · rename_i incomplete
    refine Inquiry.follows_of_yields (.malformed incomplete) ?_
    rw [questions, incomplete]
    rfl
  rename_i message isMessage
  refine Inquiry.follows_of_silent ?_ ?_ ?_
  · refine silent_of_passes isMessage (by decide) fun error failed => ?_
    cases failed
  · exact questions_of_message isMessage _
  refine goes_checkOwnership isMessage ?_
  refine goes_checkContext isMessage ?_
  refine goes_checkOutput isMessage ?_
  refine goes_checkTicketHash isMessage ?_
  rw [← Inquiry.bind_pure_unit (checkDifficulty chain context message)]
  exact goes_checkDifficulty isMessage (goes_acceptance isMessage)

theorem refused_unique {difficulty : Quantity} {error other : DifficultyError}
    (refused : difficulty.Refused error) (refusedOther : difficulty.Refused other) :
    error = other := by
  rw [← Quantity.threshold_error_iff] at refused refusedOther
  exact Except.error.inj (refused.symm.trans refusedOther)

theorem fails_unique {chain : Chain Failure} {settings : Settings} {context : LocalContext}
    {message : CompleteAnnouncement} {step : Step} {error other : VerificationError Failure}
    (failed : Fails chain settings context message step error)
    (failedOther : Fails chain settings context message step other) : error = other := by
  cases failed with
  | address unanswered =>
      cases failedOther with
      | address unansweredOther =>
          cases unanswered.symm.trans unansweredOther
          rfl
  | ticketCount addressed unanswered =>
      cases failedOther with
      | ticketCount addressedOther unansweredOther =>
          cases addressed.symm.trans addressedOther
          cases unanswered.symm.trans unansweredOther
          rfl
  | index addressed counted _ =>
      cases failedOther with
      | index addressedOther countedOther _ =>
          cases addressed.symm.trans addressedOther
          cases counted.symm.trans countedOther
          rfl
  | proof encodes unproven =>
      cases failedOther with
      | proof encodesOther unprovenOther =>
          cases encodes.symm.trans encodesOther
          cases unproven.symm.trans unprovenOther
          rfl
  | unnamedTicket unnamed =>
      cases failedOther with
      | unnamedTicket _ => rfl
      | ticketHash named _ => simp [named] at unnamed
  | ticketHash named _ =>
      cases failedOther with
      | unnamedTicket unnamed => simp [named] at unnamed
      | ticketHash _ _ => rfl
  | difficulty unanswered =>
      cases failedOther with
      | difficulty unansweredOther =>
          cases unanswered.symm.trans unansweredOther
          rfl
  | validity asked refused =>
      cases failedOther with
      | validity askedOther refusedOther =>
          cases asked.symm.trans askedOther
          rw [refused_unique refused refusedOther]
  | threshold asked _ _ _ =>
      cases failedOther with
      | threshold askedOther _ _ _ =>
          cases asked.symm.trans askedOther
          rfl
  -- Every other step has one error, whatever fails it.
  | _ =>
      cases failedOther
      rfl

theorem yields_unique {chain : Chain Failure} {settings : Settings} {context : LocalContext}
    {announcement : Option Announcement} {step : Step}
    {outcome other : Except (VerificationError Failure) Unit}
    (yielded : Yields chain settings context announcement step outcome)
    (yieldedOther : Yields chain settings context announcement step other) : outcome = other := by
  cases yielded with
  | fails isMessage failed =>
      cases yieldedOther with
      | fails isOther failedOther =>
          cases isMessage.symm.trans isOther
          rw [fails_unique failed failedOther]
      | _ => cases failed
  | trusts _ named =>
      cases yieldedOther with
      | trusts _ _ => rfl
      | unnamedHeight _ unnamed => cases named.symm.trans unnamed
      | fails isOther failedOther => cases failedOther
  | unnamedHeight _ unnamed =>
      cases yieldedOther with
      | trusts _ named => cases named.symm.trans unnamed
      | unnamedHeight _ _ => rfl
      | fails isOther failedOther => cases failedOther
  | _ =>
      cases yieldedOther with
      | fails isOther failedOther => cases failedOther
      | _ => rfl

theorem chain_injective :
    Function.Injective (VerificationError.chain : Failure → VerificationError Failure) := by
  intro first second same
  cases same
  rfl

theorem ofRejection_ne_chain (rejection : Rejection) (failure : Failure) :
    VerificationError.ofRejection rejection ≠ .chain failure := by
  unfold VerificationError.ofRejection
  cases rejection.message? <;> simp

theorem faithful_rejectUnless (condition : Bool) (rejection : Rejection) :
    Inquiry.Faithful VerificationError.chain fun _ : Chain Failure =>
      (rejectUnless condition rejection : Check Failure Unit) :=
  Inquiry.faithful_require condition (ofRejection_ne_chain rejection)

theorem faithful_checkOwnership (settings : Settings) (context : LocalContext)
    (message : CompleteAnnouncement) :
    Inquiry.Faithful VerificationError.chain fun chain : Chain Failure =>
      checkOwnership chain settings context message := by
  refine Inquiry.faithful_bind (Inquiry.faithful_address chain_injective _) fun address => ?_
  refine Inquiry.faithful_bind (Inquiry.faithful_ticketCount chain_injective _ _) fun count => ?_
  exact faithful_rejectUnless _ _

theorem faithful_checkContext (context : LocalContext) (message : CompleteAnnouncement) :
    Inquiry.Faithful VerificationError.chain fun _ : Chain Failure =>
      (checkContext context message : Check Failure Unit) := by
  refine Inquiry.faithful_bind (faithful_rejectUnless _ _) fun _ => ?_
  exact Inquiry.faithful_bind (faithful_rejectUnless _ _) fun _ => faithful_rejectUnless _ _

theorem faithful_checkOutput (context : LocalContext) (message : CompleteAnnouncement) :
    Inquiry.Faithful VerificationError.chain fun _ : Chain Failure =>
      (checkOutput context message : Check Failure Unit) := by
  refine Inquiry.faithful_bind (Inquiry.faithful_of fun failure => ?_) fun encoded =>
    Inquiry.faithful_of fun failure => ?_
  · split <;> simp
  · simp [Except.mapError_eq_error, ofRejection_ne_chain]

theorem faithful_checkTicketHash (message : CompleteAnnouncement) :
    Inquiry.Faithful VerificationError.chain fun _ : Chain Failure =>
      (checkTicketHash message : Check Failure Unit) := by
  refine Inquiry.faithful_bind (Inquiry.faithful_of fun failure => ?_) fun _ =>
    faithful_rejectUnless _ _
  split <;> simp

theorem faithful_checkDifficulty (context : LocalContext) (message : CompleteAnnouncement) :
    Inquiry.Faithful VerificationError.chain fun chain : Chain Failure =>
      checkDifficulty chain context message := by
  refine Inquiry.faithful_bind (Inquiry.faithful_difficulty chain_injective _ _) ?_
  intro difficulty
  refine Inquiry.faithful_bind (Inquiry.faithful_of fun failure => ?_) fun won =>
    faithful_rejectUnless _ _
  simp [Except.mapError_eq_error]

theorem faithful_verify (settings : Settings) (context : LocalContext)
    (announcement : Option Announcement) :
    Inquiry.Faithful VerificationError.chain fun chain : Chain Failure =>
      verify chain settings context announcement := by
  unfold verify
  by_cases low : context.height ≤ settings.bootstrapHeight
  · simp only [if_pos low]
    exact Inquiry.faithful_require _ fun failure => by simp
  simp only [if_neg low]
  cases announcement.bind Announcement.complete? with
  | none => exact Inquiry.faithful_of fun failure => by simp [ofRejection_ne_chain]
  | some message =>
      refine Inquiry.faithful_bind (faithful_checkOwnership _ _ _) fun _ => ?_
      refine Inquiry.faithful_bind (faithful_checkContext _ _) fun _ => ?_
      refine Inquiry.faithful_bind (faithful_checkOutput _ _) fun _ => ?_
      exact Inquiry.faithful_bind (faithful_checkTicketHash _) fun _ =>
        faithful_checkDifficulty _ _

theorem verify_ok_iff_not_yields (chain : Chain Failure) (settings : Settings)
    (context : LocalContext) (announcement : Option Announcement) :
    (verify chain settings context announcement).outcome = .ok () ↔
      (context.height ≤ settings.bootstrapHeight ∧ Decimal.hasText context.height = true) ∨
        ∀ step error, ¬Yields chain settings context announcement step (.error error) := by
  obtain ⟨reached, first, -⟩ := goes_verify chain settings context announcement
  constructor
  · intro accepted
    by_cases low : context.height ≤ settings.bootstrapHeight
    · rw [verify_of_low low] at accepted
      exact .inl ⟨low, trust_ok.mp accepted⟩
    rw [accepted] at first
    -- Acceptance is the only step left that can accept, so the steps before it have no result.
    have silent := first.silent_of_not_yields fun step inFront yielded => by
      cases yielded with
      | trusts isLow _ => exact low isLow
      | accepts => simp [Step.checks] at inFront
    refine .inr fun step error yielded => ?_
    by_cases inFront : step ∈ Step.trust :: Step.checks
    · exact silent step inFront _ yielded
    · cases step <;> simp [Step.checks] at inFront
      cases yielded with
      | fails _ failed => cases failed
  · rintro (⟨low, named⟩ | silent)
    · rw [verify_of_low low]
      exact trust_ok.mpr named
    · obtain ⟨step, -, yielded⟩ := first.yields_of_firstOf
      cases ended : (verify chain settings context announcement).outcome with
      | error error =>
          rw [ended] at yielded
          exact absurd yielded (silent step error)
      | ok value => rfl

def unheld : Announcement where
  selection := some ⟨[], 1, 0⟩
  credential := some ⟨some ⟨[], 12, 2147483648, 0⟩, [], [], []⟩

end StakeLottery.Verification
