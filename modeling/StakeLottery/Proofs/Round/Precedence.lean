import StakeLottery.Proofs.Lottery.Threshold
import StakeLottery.Proofs.Number.TimeSpan
import StakeLottery.Proofs.Precedence
import StakeLottery.Proofs.Round.Sequential

/-!
How a round is decided. Its stages stand in a fixed order, and the first one that has a result ends
the round with it: an error, or all winners. The token is set by a deadline that has expired and by
a failure while batches are gathered. A round that is given no token is one whose token is not set.
-/

namespace StakeLottery

inductive RoundStage where
  | count
  | difficulty
  | noTickets
  | deadline
  | timeout
  | gathering
  | draws
  deriving DecidableEq, Repr

namespace RoundStage

def checks : List RoundStage :=
  [count, difficulty, noTickets, deadline, timeout, gathering]

def order : List RoundStage :=
  checks ++ [draws]

end RoundStage

theorem TicketRange.length_cover (count : Nat) {size : Nat} (positive : 0 < size) :
    (cover count size).length = ⌈(count : ℚ) / size⌉₊ := by
  rw [cover, List.length_map, List.length_range, ← Nat.ceilDiv_eq_add_pred_div]
  refine eq_of_forall_ge_iff fun bound => ?_
  rw [ceilDiv_le_iff_le_mul positive, Nat.ceil_le, div_le_iff₀' (by exact_mod_cast positive)]
  exact_mod_cast Iff.rfl

namespace RoundRequest

inductive Yields (request : RoundRequest) (batchSize : Nat) (arrival : Arrival) (tokenSet : Bool) :
    RoundStage → Except RoundError (List Announcement) → Prop
  | negativeCount (negative : request.count < 0) :
      Yields request batchSize arrival tokenSet .count (.error (.negativeCount request.count))
  | difficulty {error : DifficultyError} (refused : request.difficulty.Refused error) :
      Yields request batchSize arrival tokenSet .difficulty (.error (.difficulty error))
  | noTickets (isZero : request.count = 0) :
      Yields request batchSize arrival tokenSet .noTickets (.ok [])
  | deadlineTooLarge {seconds : Int} (given : request.timeout = some (.integer seconds))
      (tooLarge : Binary64.firstInfinite ≤ seconds.natAbs) :
      Yields request batchSize arrival tokenSet .deadline (.error .deadlineTooLarge)
  | timedOut {timeout : Quantity} (given : request.timeout = some timeout)
      (expired : timeout.AtMostZero) :
      Yields request batchSize arrival tokenSet .timeout
        (.error (.timedOut timeout ⌈(request.count : ℚ) / batchSize⌉₊))
  | gathering {reached : List GatherStep} {error : BatchError}
      (first : FirstOf (request.StepFails tokenSet) (request.gatherSteps batchSize arrival) reached
        error) :
      Yields request batchSize arrival tokenSet .gathering (.error (.batch error))
  | winners {announcements : List Announcement}
      (complete : announcements.Perm request.sequential) :
      Yields request batchSize arrival tokenSet .draws (.ok announcements)

variable {request : RoundRequest} {batchSize : Nat} {arrival : Arrival} {tokenSet : Bool}
  {threshold : Int} {outcome : Except RoundError (List Announcement)}

theorem length_cover_count (positive : 0 < batchSize) (holdsTickets : 0 ≤ request.count) :
    (TicketRange.cover request.count.toNat batchSize).length =
      ⌈(request.count : ℚ) / batchSize⌉₊ := by
  have sameCount : (request.count.toNat : ℚ) = request.count := by
    exact_mod_cast Int.toNat_of_nonneg holdsTickets
  rw [TicketRange.length_cover _ positive, sameCount]

theorem silent_count (holdsTickets : 0 ≤ request.count) :
    ∀ other, ¬request.Yields batchSize arrival tokenSet .count other := by
  intro other yielded
  cases yielded with
  | negativeCount negative => omega

theorem silent_difficulty (valid : request.difficulty.threshold = .ok threshold) :
    ∀ other, ¬request.Yields batchSize arrival tokenSet .difficulty other := by
  intro other yielded
  cases yielded with
  | difficulty refused => cases valid.symm.trans (Quantity.threshold_error_iff.mpr refused)

theorem silent_noTickets (someTickets : 0 < request.count) :
    ∀ other, ¬request.Yields batchSize arrival tokenSet .noTickets other := by
  intro other yielded
  cases yielded with
  | noTickets isZero => omega

theorem silent_deadline
    (span : ∀ timeout, request.timeout = some timeout → timeout.isTimeSpan = true) :
    ∀ other, ¬request.Yields batchSize arrival tokenSet .deadline other := by
  intro other yielded
  cases yielded with
  | deadlineTooLarge given tooLarge =>
      cases (span _ given).symm.trans
        (Quantity.isTimeSpan_eq_false_iff.mpr ⟨_, rfl, tooLarge⟩)

theorem silent_timeout (unexpired : request.Unexpired) :
    ∀ other, ¬request.Yields batchSize arrival tokenSet .timeout other := by
  intro other yielded
  cases yielded with
  | timedOut given expired =>
      cases (unexpired _ given).2.symm.trans (Quantity.isNonPositive_iff.mpr expired)

theorem silent_gathering (noneFails : ∀ step ∈ request.gatherSteps batchSize arrival,
      ∀ error, ¬request.StepFails tokenSet step error) :
    ∀ other, ¬request.Yields batchSize arrival tokenSet .gathering other := by
  intro other yielded
  cases yielded with
  | gathering first =>
      obtain ⟨step, member, fails⟩ := first.yields_of_firstOf
      exact noneFails step member _ fails

theorem passes_checks (someTickets : 0 < request.count)
    (valid : request.difficulty.threshold = .ok threshold) {later : List RoundStage}
    (firstLater : ∃ reached,
      FirstOf (request.Yields batchSize arrival tokenSet) later reached outcome) :
    ∃ reached, FirstOf (request.Yields batchSize arrival tokenSet)
      (.count :: .difficulty :: .noTickets :: later) reached outcome := by
  obtain ⟨reached, first⟩ := firstLater
  exact ⟨_, .passes (silent_count someTickets.le) (.passes (silent_difficulty valid)
    (.passes (silent_noTickets someTickets) first))⟩

theorem passes_deadlines (someTickets : 0 < request.count)
    (valid : request.difficulty.threshold = .ok threshold) (unexpired : request.Unexpired)
    {later : List RoundStage}
    (firstLater : ∃ reached,
      FirstOf (request.Yields batchSize arrival tokenSet) later reached outcome) :
    ∃ reached, FirstOf (request.Yields batchSize arrival tokenSet)
      (.count :: .difficulty :: .noTickets :: .deadline :: .timeout :: later) reached outcome := by
  obtain ⟨reached, first⟩ := firstLater
  exact passes_checks someTickets valid
    ⟨_, .passes (silent_deadline fun timeout given => (unexpired timeout given).1)
      (.passes (silent_timeout unexpired) first)⟩

theorem run_firstOf (request : RoundRequest) (positive : 0 < batchSize) (arrival : Arrival)
    (tokenSet : Bool) :
    ∃ reached, FirstOf (request.Yields batchSize arrival tokenSet) RoundStage.order reached
      (request.run batchSize arrival tokenSet).outcome := by
  have ends := request.run_ends positive arrival tokenSet
  generalize request.run batchSize arrival tokenSet = ending at ends
  cases ends with
  | negativeCount negative => exact ⟨_, .decides (.negativeCount negative)⟩
  | difficulty holdsTickets refused =>
      have refusal := Quantity.threshold_error_iff.mp refused
      exact ⟨_, .passes (silent_count holdsTickets) (.decides (.difficulty refusal))⟩
  | empty valid isZero =>
      exact ⟨_, .passes (silent_count isZero.ge) (.passes (silent_difficulty valid)
        (.decides (.noTickets isZero)))⟩
  | deadlineTooLarge valid someTickets given tooLarge =>
      obtain ⟨seconds, rfl, beyond⟩ := Quantity.isTimeSpan_eq_false_iff.mp tooLarge
      exact passes_checks someTickets valid ⟨_, .decides (.deadlineTooLarge given beyond)⟩
  | timedOut valid someTickets given span expired =>
      have spans : ∀ timeout, request.timeout = some timeout → timeout.isTimeSpan = true := by
        intro other givenOther
        obtain rfl := Option.some.inj (given.symm.trans givenOther)
        exact span
      rw [length_cover_count positive someTickets.le]
      exact passes_checks someTickets valid
        ⟨_, .passes (silent_deadline spans)
          (.decides (.timedOut given (Quantity.isNonPositive_iff.mp expired)))⟩
  | failed valid someTickets unexpired first =>
      exact passes_deadlines someTickets valid unexpired ⟨_, .decides (.gathering first)⟩
  | drawn valid someTickets unexpired noneFails complete =>
      rw [← sequential_eq valid] at complete
      exact passes_deadlines someTickets valid unexpired
        ⟨_, .passes (silent_gathering noneFails) (.decides (.winners complete))⟩

theorem run_tokenSet_iff (request : RoundRequest) (positive : 0 < batchSize) (arrival : Arrival)
    (tokenSet : Bool) :
    (request.run batchSize arrival tokenSet).tokenSet = true ↔ tokenSet = true ∨
      (∃ timeout pending, (request.run batchSize arrival tokenSet).outcome =
        .error (.timedOut timeout pending)) ∨
      ∃ error, (request.run batchSize arrival tokenSet).outcome = .error (.batch error) := by
  have ends := request.run_ends positive arrival tokenSet
  generalize request.run batchSize arrival tokenSet = ending at ends
  cases ends <;> simp

theorem stepFails_set {step : GatherStep} {error : BatchError}
    (failed : request.StepFails true step error) :
    error = .waitTooLong ∧ request.mayBlock = false ∨
      ∃ range : TicketRange, step = .take range ∧ range.start < range.stop ∧
        error = .ofCancelled range.start := by
  cases failed with
  | waitTooLong limited => exact .inl ⟨rfl, limited⟩
  | cancelled _ nonempty named =>
      exact .inr ⟨_, rfl, nonempty, by rw [BatchError.ofCancelled_eq, if_pos named]⟩
  | unnamed _ nonempty unnamed =>
      refine .inr ⟨_, rfl, nonempty, ?_⟩
      rw [BatchError.ofCancelled_eq, if_neg (Bool.eq_false_iff.mp unnamed)]
  | unwritable unset _ _ => cases unset

theorem run_set (positive : 0 < batchSize) (someTickets : 0 < request.count)
    (valid : request.difficulty.threshold = .ok threshold) (lasts : request.Lasts) :
    ∃ ticket, (0 ≤ ticket ∧ ticket < request.count) ∧
      (request.run batchSize arrival true).outcome =
        .error (.batch (.ofCancelled ticket)) := by
  obtain ⟨_, _, first, ended⟩ | ⟨_, noneFails, -⟩ :=
    run_gathers positive someTickets valid lasts.unexpired
  · obtain ⟨step, member, fails⟩ := first.yields_of_firstOf
    obtain ⟨-, limited⟩ | ⟨range, rfl, nonempty, rfl⟩ := stepFails_set fails
    · cases limited.symm.trans lasts.mayBlock
    · have inside := TicketRange.mem_indices.mpr ⟨le_rfl, nonempty⟩
      exact ⟨range.start, (exists_take_iff positive).mp ⟨range, member, inside⟩, ended⟩
  · obtain ⟨range, member, inside⟩ :=
      (exists_take_iff positive).mpr ⟨Int.le_rfl, someTickets⟩
    have nonempty := TicketRange.mem_indices.mp inside
    exact absurd (GatherStep.fails_ofCancelled rfl (by omega)) (noneFails _ member _)

end RoundRequest

/-- A round ends with the result of the first of its stages that has one, and with all winners or
none. -/
theorem Pool.round_decided_in_order (pool : Pool) (arrival : Arrival) (request : RoundRequest)
    (tokenSet : Bool) :
    (∃ reached, FirstOf (request.Yields pool.sizes.batch arrival tokenSet) RoundStage.order reached
      (pool.round arrival request tokenSet).1.outcome) ∧
    (∀ announcements, (pool.round arrival request tokenSet).1.outcome = .ok announcements →
      announcements.Perm request.sequential) ∧
    ((pool.round arrival request tokenSet).1.tokenSet = true ↔ tokenSet = true ∨
      (∃ timeout pending, (pool.round arrival request tokenSet).1.outcome =
        .error (.timedOut timeout pending)) ∨
      ∃ error, (pool.round arrival request tokenSet).1.outcome = .error (.batch error)) ∧
    (∀ threshold, 0 < request.count → request.difficulty.threshold = .ok threshold →
      request.Lasts →
      (tokenSet = true → ∃ ticket, (0 ≤ ticket ∧ ticket < request.count) ∧
        (pool.round arrival request tokenSet).1.outcome = .error (.batch (.ofCancelled ticket))) ∧
      (tokenSet = false → request.Writable →
        ∃ announcements, (pool.round arrival request tokenSet).1.outcome = .ok announcements) ∧
      (tokenSet = false → ¬request.Writable →
        (pool.round arrival request tokenSet).1.outcome = .error (.batch .unwritable))) := by
  have positive := pool.sizes.batch_pos
  refine ⟨request.run_firstOf positive arrival tokenSet,
    fun _ ended => pool.round_perm_sequential arrival request ended,
    request.run_tokenSet_iff positive arrival tokenSet, ?_⟩
  intro threshold someTickets valid lasts
  refine ⟨?_, ?_, ?_⟩
  · rintro rfl
    exact RoundRequest.run_set positive someTickets valid lasts
  · rintro rfl writable
    exact RoundRequest.run_unset_of_writable arrival positive someTickets.le valid lasts writable
  · rintro rfl unwritable
    obtain ⟨writable, -⟩ | ⟨-, ended⟩ :=
      request.run_unset arrival positive someTickets.le valid lasts
    · exact absurd writable unwritable
    · exact ended

theorem Pool.round_decided_in_order_seven :
    ∃ announcements,
      ((Pool.new ⟨2, 3, by decide, by decide⟩).round .inOrder .sevenTickets false).1.outcome =
        .ok announcements ∧ announcements.Perm RoundRequest.sevenTickets.sequential := by
  obtain ⟨threshold, valid⟩ := Quantity.exists_threshold RoundRequest.sevenTickets_difficulty
    (by norm_num) (by norm_num)
  obtain ⟨-, complete, -, draws⟩ := Pool.round_decided_in_order
    (Pool.new ⟨2, 3, by decide, by decide⟩) .inOrder .sevenTickets false
  obtain ⟨-, announces, -⟩ :=
    draws threshold (by decide) valid RoundRequest.sevenTickets_lasts
  obtain ⟨announcements, ended⟩ :=
    announces rfl (RoundRequest.writable_of_small (by decide) (by decide))
  exact ⟨announcements, ended, complete announcements ended⟩

/-- One ticket, which always wins, in a round whose deadline has expired by more seconds than any
floating point number counts. -/
def RoundRequest.longExpired : RoundRequest where
  output := [0]
  count := 1
  committee := 0
  difficulty := .integer 1
  credential := ⟨none, [0], [1], [2]⟩
  timeout := some (.integer (-10 ^ 400))

/-- Such a deadline ends the round before it can expire, and leaves the token as it was. -/
theorem RoundRequest.longExpired_not_timedOut :
    0 < RoundRequest.longExpired.count ∧
    (∃ threshold, RoundRequest.longExpired.difficulty.threshold = .ok threshold) ∧
    RoundRequest.longExpired.timeout = some (.integer (-10 ^ 400)) ∧
    (Quantity.integer (-10 ^ 400)).AtMostZero ∧
    ((Pool.new ⟨1, 1, by decide, by decide⟩).round .inOrder .longExpired false).1.outcome =
      .error .deadlineTooLarge ∧
    ((Pool.new ⟨1, 1, by decide, by decide⟩).round .inOrder .longExpired false).1.tokenSet =
      false := by
  have valid := Quantity.exists_threshold (show RoundRequest.longExpired.difficulty.value? = some 1
    from rfl) zero_le_one le_rfl
  have expired : (Quantity.integer (-10 ^ 400)).AtMostZero :=
    Quantity.isNonPositive_iff.mp (by decide +kernel)
  exact ⟨by decide, valid, rfl, expired, by decide +kernel, by decide +kernel⟩

end StakeLottery
