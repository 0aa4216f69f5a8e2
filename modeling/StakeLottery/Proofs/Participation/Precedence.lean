import StakeLottery.Proofs.Inquiry.Course
import StakeLottery.Proofs.Key.Material
import StakeLottery.Proofs.Participation
import StakeLottery.Proofs.Round.Precedence

/-!
How a participant's part in a round is decided. Without a usable key there is none. With one the
questions, the input and the draws are stages in a fixed order, and the first one that has a result
decides; of the key nothing matters but its scalar.
-/

namespace StakeLottery

variable {Failure : Type}

namespace Ecvrf

theorem evaluate_eq_error_iff {key : SecretKey} {input : Bytes} {error : EvaluationError} :
    evaluate key input = .error error ↔
      error = .noInputPoint ∧ inputPoint? key.publicKey input = none ∨
      error = .noNonce ∧ ∃ inputPoint encoded,
        inputPoint? key.publicKey input = some inputPoint ∧ inputPoint.encode = .ok encoded ∧
          Nonce.nonce? key.scalar (Sha256.hash encoded) = none := by
  cases found : inputPoint? key.publicKey input with
  | none =>
      have failed : evaluate key input = .error .noInputPoint := by
        rw [evaluate, found]
        rfl
      rw [failed]
      simp [eq_comm]
  | some inputPoint =>
      obtain ⟨point, nonzero, rfl⟩ := exists_of_inputPoint? found
      obtain ⟨encoded, encodes, -, -⟩ := Curve.Point.exists_encode nonzero
      cases drawn : Nonce.nonce? key.scalar (Sha256.hash encoded) with
      | none =>
          have failed : evaluate key input = .error .noNonce := by
            refine Except.bind_eq_error.mpr (.inr ⟨_, Except.elim_eq_ok.mpr found, ?_⟩)
            refine Except.bind_eq_error.mpr (.inr ⟨_, Except.mapError_eq_ok.mpr encodes, ?_⟩)
            refine Except.bind_eq_error.mpr (.inl ?_)
            rw [drawn]
            rfl
          rw [failed]
          constructor
          · rintro ⟨⟩
            exact .inr ⟨rfl, _, _, rfl, encodes, drawn⟩
          · rintro (⟨-, missing⟩ | ⟨rfl, -⟩)
            · cases missing
            · rfl
      | some nonce =>
          have draws (other : Bytes)
              (otherEncodes : (Curve.Point.ofGroup point).encode = .ok other) :
              (Nonce.nonce? key.scalar (Sha256.hash other)).isSome := by
            cases encodes.symm.trans otherEncodes
            rw [drawn]
            rfl
          obtain ⟨evaluation, evaluated, -⟩ := exists_evaluate found draws
          rw [evaluated]
          constructor
          · rintro ⟨⟩
          · rintro (⟨-, missing⟩ | ⟨-, _, _, ⟨⟩, otherEncodes, missing⟩)
            · cases missing
            · cases encodes.symm.trans otherEncodes
              cases drawn.symm.trans missing

end Ecvrf

inductive PlayStage where
  | address
  | ticketCount
  | difficulty
  | encoding
  | output
  | round (stage : RoundStage)
  | report
  deriving DecidableEq, Repr

/-- The stages in their order. The draws that all went well are reported before they count. -/
def PlayStage.order : List PlayStage :=
  [address, ticketCount, difficulty, encoding, output] ++
    (RoundStage.checks.map round ++ [report, round .draws])

namespace Participant

/-- The draws that a participant asks for once all questions are answered and the random function
has a value. -/
inductive Requests (participant : Participant Failure) (key : SecretKey) (input : RoundInput) :
    RoundRequest → Prop
  | intro {address : String} {count : Int} {difficulty : Quantity} {encoded : Bytes}
      {evaluation : Ecvrf.Evaluation}
      (addressed : participant.chain.address key.publicKey = .ok address)
      (counted : participant.chain.ticketCount address
        (max (input.height - participant.settings.lookback) 0) = .ok count)
      (asked : participant.chain.difficulty input.height input.round = .ok difficulty)
      (encodes : input.encode? = some encoded)
      (evaluated : Ecvrf.evaluate key encoded = .ok evaluation) :
      Requests participant key input
        (request participant.settings (key.credential input evaluation) count difficulty)

inductive Yields (participant : Participant Failure) (key : SecretKey) (arrival : Arrival)
    (tokenSet : Bool) (input : RoundInput) :
    PlayStage → Except (ParticipationError Failure) (List Announcement) → Prop
  | address {failure : Failure}
      (unanswered : participant.chain.address key.publicKey = .error failure) :
      Yields participant key arrival tokenSet input .address (.error (.chain failure))
  | ticketCount {address : String} {failure : Failure}
      (addressed : participant.chain.address key.publicKey = .ok address)
      (unanswered : participant.chain.ticketCount address
        (max (input.height - participant.settings.lookback) 0) = .error failure) :
      Yields participant key arrival tokenSet input .ticketCount (.error (.chain failure))
  | difficulty {failure : Failure}
      (unanswered : participant.chain.difficulty input.height input.round = .error failure) :
      Yields participant key arrival tokenSet input .difficulty (.error (.chain failure))
  | encoding (unencodable : input.encode? = none) :
      Yields participant key arrival tokenSet input .encoding (.error .unencodable)
  | noInputPoint {encoded : Bytes} (encodes : input.encode? = some encoded)
      (missing : Ecvrf.inputPoint? key.publicKey encoded = none) :
      Yields participant key arrival tokenSet input .output (.error (.evaluation .noInputPoint))
  | noNonce {encoded encodedPoint : Bytes} {inputPoint : Curve.Point}
      (encodes : input.encode? = some encoded)
      (found : Ecvrf.inputPoint? key.publicKey encoded = some inputPoint)
      (pointEncodes : inputPoint.encode = .ok encodedPoint)
      (missing : Ecvrf.Nonce.nonce? key.scalar (Sha256.hash encodedPoint) = none) :
      Yields participant key arrival tokenSet input .output (.error (.evaluation .noNonce))
  | round {request : RoundRequest} {stage : RoundStage}
      {result : Except RoundError (List Announcement)}
      (requests : participant.Requests key input request)
      (yielded : request.Yields participant.settings.sizes.batch arrival tokenSet stage result) :
      Yields participant key arrival tokenSet input (.round stage) (result.mapError .round)
  | report {request : RoundRequest} (requests : participant.Requests key input request)
      (unnamed : Decimal.hasText request.count = false) :
      Yields participant key arrival tokenSet input .report (.error .unwritable)

def questions (participant : Participant Failure) (key : SecretKey) (input : RoundInput) :
    PlayStage → List Question
  | .address => [.address key.publicKey]
  | .ticketCount =>
    (participant.chain.address key.publicKey).toOption.toList.map fun address =>
      .ticketCount address (max (input.height - participant.settings.lookback) 0)
  | .difficulty => [.difficulty input.height input.round]
  | _ => []

variable {participant : Participant Failure} {key : SecretKey} {tokenSet : Bool}
  {input : RoundInput} {arrival : Arrival}

theorem Requests.unique {request other : RoundRequest}
    (requests : participant.Requests key input request)
    (requestsToo : participant.Requests key input other) : request = other := by
  cases requests with
  | intro addressed counted asked encodes evaluated =>
      cases requestsToo with
      | intro addressedToo countedToo askedToo encodesToo evaluatedToo =>
          cases addressed.symm.trans addressedToo
          cases counted.symm.trans countedToo
          cases asked.symm.trans askedToo
          cases encodes.symm.trans encodesToo
          cases evaluated.symm.trans evaluatedToo
          rfl

theorem yields_round_iff {request : RoundRequest}
    (requests : participant.Requests key input request) {stage : RoundStage}
    {other : Except (ParticipationError Failure) (List Announcement)} :
    participant.Yields key arrival tokenSet input (.round stage) other ↔ ∃ result,
      request.Yields participant.settings.sizes.batch arrival tokenSet stage result ∧
        result.mapError .round = other := by
  constructor
  · intro yielded
    cases yielded with
    | round requestsToo yielded =>
        cases requests.unique requestsToo
        exact ⟨_, yielded, rfl⟩
  · rintro ⟨result, yielded, rfl⟩
    exact .round requests yielded

section

variable {request : RoundRequest} {batchSize : Nat}

theorem drawAndReport_of_error {error : RoundError}
    (ended : (request.run batchSize arrival tokenSet).outcome = .error error) :
    (drawAndReport request batchSize arrival tokenSet :
      Inquiry (ParticipationError Failure) (List Announcement)) = ⟨[], .error (.round error)⟩ := by
  rw [drawAndReport, ended]
  rfl

theorem drawAndReport_of_ok {announcements : List Announcement}
    (ended : (request.run batchSize arrival tokenSet).outcome = .ok announcements) :
    (drawAndReport request batchSize arrival tokenSet :
      Inquiry (ParticipationError Failure) (List Announcement)) =
        ⟨[], if Decimal.hasText request.count then .ok announcements else .error .unwritable⟩ := by
  rw [drawAndReport, ended]
  cases named : Decimal.hasText request.count <;> rfl

theorem follows_drawAndReport (requests : participant.Requests key input request) :
    Inquiry.Follows (participant.Yields key arrival tokenSet input)
      (participant.questions key input)
      (RoundStage.checks.map .round ++ [.report, .round .draws])
      (drawAndReport request participant.settings.sizes.batch arrival tokenSet) := by
  have asksNothing : ∀ reached : List RoundStage,
      (reached.map PlayStage.round).flatMap (participant.questions key input) = [] := by
    intro reached
    rw [List.flatMap_map]
    exact List.flatMap_eq_nil_iff.mpr fun _ _ => rfl
  obtain ⟨reached, first⟩ :=
    request.run_firstOf participant.settings.sizes.batch_pos arrival tokenSet
  rcases first.of_append with decided | ⟨silent, later, rfl, drawn⟩
  · -- A check that ends the round with a list finds that there are no tickets.
    have ends : (drawAndReport request participant.settings.sizes.batch arrival tokenSet :
        Inquiry (ParticipationError Failure) (List Announcement)) =
        ⟨[], (request.run participant.settings.sizes.batch arrival tokenSet).outcome.mapError
          .round⟩ := by
      cases ended : (request.run participant.settings.sizes.batch arrival tokenSet).outcome with
      | error error => exact drawAndReport_of_error ended
      | ok announcements =>
          rw [ended] at decided
          obtain ⟨stage, isCheck, yielded⟩ := decided.yields_of_firstOf
          have named : Decimal.hasText request.count = true := by
            cases yielded with
            | noTickets isZero => exact Decimal.hasText_of_small (by omega)
            | winners _ => simp [RoundStage.checks] at isCheck
          rw [drawAndReport_of_ok ended, if_pos named]
          rfl
    rw [ends]
    have mapped := decided.map PlayStage.round (Except.mapError ParticipationError.round)
      fun _ _ => yields_round_iff requests
    exact ⟨_, mapped.append_right _, (asksNothing reached).symm⟩
  · have silentChecks : ∀ stage ∈ RoundStage.checks.map PlayStage.round, ∀ other,
        ¬participant.Yields key arrival tokenSet input stage other := by
      intro stage member other yielded
      obtain ⟨check, isCheck, rfl⟩ := List.mem_map.mp member
      obtain ⟨result, yieldedHere, -⟩ := (yields_round_iff requests).mp yielded
      exact silent check isCheck result yieldedHere
    obtain ⟨_, isDraws, yielded⟩ := drawn.yields_of_firstOf
    obtain rfl := List.mem_singleton.mp isDraws
    generalize ended : (request.run participant.settings.sizes.batch arrival tokenSet).outcome =
      outcome at yielded
    obtain ⟨announcements, rfl⟩ : ∃ announcements, outcome = .ok announcements := by
      cases yielded with
      | winners _ => exact ⟨_, rfl⟩
    rw [drawAndReport_of_ok ended]
    cases named : Decimal.hasText request.count with
    | false =>
        exact ⟨_, .append_left silentChecks (.decides (.report requests named)), by
          rw [List.flatMap_append, asksNothing]; rfl⟩
    | true =>
        have silentReport : ∀ other,
            ¬participant.Yields key arrival tokenSet input .report other := by
          intro other yielded
          cases yielded with
          | report requestsToo unnamed =>
              cases requests.unique requestsToo
              cases named.symm.trans unnamed
        have draws := (yields_round_iff requests).mpr ⟨_, yielded, rfl⟩
        exact ⟨_, .append_left silentChecks (.passes silentReport (.decides draws)), by
          rw [List.flatMap_append, asksNothing]; rfl⟩

end

theorem follows_evaluateInput {rest : List PlayStage}
    {next : Ecvrf.Evaluation → Inquiry (ParticipationError Failure) (List Announcement)}
    (goesOn : ∀ encoded evaluation, input.encode? = some encoded →
      Ecvrf.evaluate key encoded = .ok evaluation →
        Inquiry.Follows (participant.Yields key arrival tokenSet input)
          (participant.questions key input) rest (next evaluation)) :
    Inquiry.Follows (participant.Yields key arrival tokenSet input)
      (participant.questions key input) (.encoding :: .output :: rest)
      (Inquiry.of ((key.evaluateInput input).mapError inputError) >>= next) := by
  cases encodes : input.encode? with
  | none =>
      have failed : key.evaluateInput input = .error .unencodable := by
        rw [SecretKey.evaluateInput, encodes]
      rw [failed, Inquiry.bind_of_error rfl]
      exact Inquiry.follows_of_yields (.encoding encodes) rfl
  | some encoded =>
      have evaluates : key.evaluateInput input =
          (Ecvrf.evaluate key encoded).mapError .evaluation := by
        rw [SecretKey.evaluateInput, encodes]
      rw [evaluates]
      refine Inquiry.follows_of_silent ?_ rfl ?_
      · intro other yielded
        cases yielded with
        | encoding unencodable => cases encodes.symm.trans unencodable
      refine Inquiry.follows_answer rfl rfl ?_ fun evaluation given => ?_
      · intro inputFailure refused
        obtain ⟨failure, failed, rfl⟩ := Except.mapError_eq_error.mp refused
        rcases Ecvrf.evaluate_eq_error_iff.mp failed with
          ⟨rfl, missing⟩ | ⟨rfl, inputPoint, encodedPoint, found, pointEncodes, missing⟩
        · exact .noInputPoint encodes missing
        · exact .noNonce encodes found pointEncodes missing
      have evaluated := Except.mapError_eq_ok.mp given
      refine ⟨?_, goesOn encoded evaluation encodes evaluated⟩
      intro other yielded
      cases yielded with
      | noInputPoint encodesToo missing =>
          cases encodesToo.symm.trans encodes
          cases evaluated.symm.trans (Ecvrf.evaluate_eq_error_iff.mpr (.inl ⟨rfl, missing⟩))
      | noNonce encodesToo found pointEncodes missing =>
          cases encodesToo.symm.trans encodes
          cases evaluated.symm.trans (Ecvrf.evaluate_eq_error_iff.mpr
            (.inr ⟨rfl, _, _, found, pointEncodes, missing⟩))

theorem follows_playWith (participant : Participant Failure) (key : SecretKey) (arrival : Arrival)
    (tokenSet : Bool) (input : RoundInput) :
    Inquiry.Follows (participant.Yields key arrival tokenSet input)
      (participant.questions key input)
      PlayStage.order (participant.playWith key arrival tokenSet input) := by
  unfold playWith
  dsimp only
  refine Inquiry.follows_answer rfl rfl (fun failure => .address) fun address addressed => ?_
  refine ⟨?_, ?_⟩
  · intro other yielded
    cases yielded with
    | address unanswered => cases addressed.symm.trans unanswered
  refine Inquiry.follows_answer ?_ rfl (fun failure => .ticketCount addressed)
    fun count counted => ?_
  · rw [questions, addressed]
    rfl
  refine ⟨?_, ?_⟩
  · intro other yielded
    cases yielded with
    | ticketCount addressedToo unanswered =>
        cases addressedToo.symm.trans addressed
        cases unanswered.symm.trans counted
  refine Inquiry.follows_answer rfl rfl (fun failure => .difficulty) fun difficulty asked => ?_
  refine ⟨?_, ?_⟩
  · intro other yielded
    cases yielded with
    | difficulty unanswered => cases asked.symm.trans unanswered
  refine follows_evaluateInput fun encoded evaluation encodes evaluated => ?_
  exact follows_drawAndReport (.intro addressed counted asked encodes evaluated)

theorem play_of_refused (refused : participant.material.Refused) :
    participant.play arrival tokenSet input = ⟨[], .ok none⟩ := by
  obtain ⟨error, unusable⟩ := KeyMaterial.refused_iff.mp refused
  rw [play, unusable]
  rfl

theorem play_of_hasScalar (has : participant.material.HasScalar key.scalar) :
    participant.play arrival tokenSet input =
      ⟨(participant.playWith key arrival tokenSet input).asked,
        (participant.playWith key arrival tokenSet input).outcome.map some⟩ := by
  rw [play, KeyMaterial.hasScalar_iff.mp has]
  exact Inquiry.bind_pure_some _

theorem play_outcome_eq_none_iff :
    (participant.play arrival tokenSet input).outcome = .ok none ↔
      participant.material.Refused := by
  constructor
  · intro noPart
    rcases participant.material.refused_or_hasScalar with refused | ⟨key, has⟩
    · exact refused
    · rw [play_of_hasScalar has] at noPart
      obtain ⟨announcements, -, impossible⟩ := Except.map_eq_ok.mp noPart
      cases impossible
  · intro refused
    rw [play_of_refused refused]

theorem play_of_sameScalar {material : KeyMaterial} {scalar : Nat}
    (has : participant.material.HasScalar scalar) (hasToo : material.HasScalar scalar) :
    { participant with material }.play arrival tokenSet input =
      participant.play arrival tokenSet input := by
  obtain ⟨key, rfl⟩ := has.exists_key
  have usesKey : { participant with material }.material.HasScalar key.scalar := hasToo
  rw [play_of_hasScalar has, play_of_hasScalar usesKey]
  rfl

theorem playWith_of_run_error {address : String} {count : Int} {difficulty : Quantity}
    {evaluation : Ecvrf.Evaluation} {error : RoundError}
    (addressed : participant.chain.address key.publicKey = .ok address)
    (counted : participant.chain.ticketCount address
      (participant.settings.snapshotHeight input.height) = .ok count)
    (asked : participant.chain.difficulty input.height input.round = .ok difficulty)
    (evaluated : key.evaluateInput input = .ok evaluation)
    (ended : ((request participant.settings (key.credential input evaluation) count
      difficulty).run participant.settings.sizes.batch arrival tokenSet).outcome = .error error) :
    (participant.playWith key arrival tokenSet input).outcome = .error (.round error) := by
  unfold playWith
  dsimp only
  rw [addressed, Inquiry.outcome_bind_of_ok rfl, counted, Inquiry.outcome_bind_of_ok rfl, asked,
    Inquiry.outcome_bind_of_ok rfl, evaluated, Inquiry.outcome_bind_of_ok rfl,
    drawAndReport_of_error ended]

theorem chain_injective :
    Function.Injective (ParticipationError.chain : Failure → ParticipationError Failure) := by
  intro first second same
  cases same
  rfl

theorem faithful_playWith (settings : Settings) (material : KeyMaterial) (key : SecretKey)
    (arrival : Arrival) (tokenSet : Bool) (input : RoundInput) :
    Inquiry.Faithful ParticipationError.chain fun chain : Chain Failure =>
      (⟨settings, chain, material⟩ : Participant Failure).playWith key arrival tokenSet input := by
  unfold playWith
  dsimp only
  refine Inquiry.faithful_bind (Inquiry.faithful_address chain_injective _) fun address => ?_
  refine Inquiry.faithful_bind (Inquiry.faithful_ticketCount chain_injective _ _) fun count => ?_
  refine Inquiry.faithful_bind (Inquiry.faithful_difficulty chain_injective _ _) ?_
  intro difficulty
  refine Inquiry.faithful_bind (Inquiry.faithful_of fun failure failed => ?_) fun evaluation => ?_
  · obtain ⟨error, -, impossible⟩ := Except.mapError_eq_error.mp failed
    cases error <;> cases impossible
  refine Inquiry.faithful_bind (Inquiry.faithful_of fun failure failed => ?_)
    fun announcements => ?_
  · obtain ⟨error, -, impossible⟩ := Except.mapError_eq_error.mp failed
    cases impossible
  exact Inquiry.faithful_bind (Inquiry.faithful_require _ fun failure => by simp) fun _ =>
    Inquiry.faithful_of fun failure => by simp

theorem faithful_play (settings : Settings) (material : KeyMaterial) (arrival : Arrival)
    (tokenSet : Bool) (input : RoundInput) :
    Inquiry.Faithful ParticipationError.chain fun chain : Chain Failure =>
      (⟨settings, chain, material⟩ : Participant Failure).play arrival tokenSet input := by
  unfold play
  dsimp only
  cases material.secretKey with
  | error error => exact Inquiry.faithful_of fun failure => by simp
  | ok key =>
      exact Inquiry.faithful_bind (faithful_playWith settings material key arrival tokenSet input)
        fun announcements => Inquiry.faithful_of fun failure => by simp

def unaddressed : Participant String where
  settings := .standard
  chain := ⟨fun _ => .error "unknown", fun _ _ => .ok 1, fun _ _ => .ok (.integer 1)⟩
  material := .ready Ecvrf.unitKey

def longExpired : Participant Empty :=
  { single (.integer 1) with
    settings := { Settings.standard with roundTimeout := some (.integer (-10 ^ 400)) } }

end Participant

end StakeLottery
