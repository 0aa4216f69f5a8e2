import Mathlib
import StakeLottery.Proofs.Round.Sequential

/-!
The life of a pool. Its workers run from the first round that draws tickets up to the next shutdown,
its sizes stay, and nothing that happened on it shows in a later round.
-/

namespace StakeLottery

inductive PoolOperation where
  | round (arrival : Arrival) (request : RoundRequest) (tokenSet : Bool)
  | shutdown

namespace Pool

def apply (pool : Pool) : PoolOperation → Pool
  | .round arrival request tokenSet => (pool.round arrival request tokenSet).2
  | .shutdown => pool.shutdown

def after (pool : Pool) (history : List PoolOperation) : Pool :=
  history.foldl apply pool

end Pool

namespace RoundRequest

variable {request : RoundRequest}

def HasDraws (request : RoundRequest) : Prop :=
  0 < request.count ∧
    ∃ value, request.difficulty.value? = some value ∧ 0 ≤ value ∧ value ≤ 1

theorem hasDraws_iff :
    request.HasDraws ↔
      0 < request.count ∧ ∃ threshold, request.difficulty.threshold = .ok threshold := by
  refine and_congr_right fun _ => ?_
  constructor
  · rintro ⟨value, valued, nonnegative, atMostOne⟩
    exact Quantity.exists_threshold valued nonnegative atMostOne
  · rintro ⟨threshold, valid⟩
    obtain ⟨value, valued, nonnegative, atMostOne, -⟩ := Quantity.threshold_ok_iff.mp valid
    exact ⟨value, valued, nonnegative, atMostOne⟩

theorem run_workersUsed_iff (request : RoundRequest) {batchSize : Nat} (positive : 0 < batchSize)
    (arrival : Arrival) (tokenSet : Bool) :
    (request.run batchSize arrival tokenSet).workersUsed = true ↔
      request.HasDraws ∧
        (request.run batchSize arrival tokenSet).outcome ≠ .error .deadlineTooLarge := by
  have ends := request.run_ends positive arrival tokenSet
  rw [hasDraws_iff]
  generalize request.run batchSize arrival tokenSet = ending at ends
  cases ends with
  | negativeCount negative =>
      simp only [Bool.false_eq_true, false_iff]
      rintro ⟨⟨someTickets, -⟩, -⟩
      omega
  | difficulty _ refused => simp [refused]
  | empty _ isZero => simp [isZero]
  | deadlineTooLarge _ _ _ _ => simp
  | timedOut valid someTickets _ _ _ => simp [valid, someTickets]
  | failed valid someTickets _ _ => simp [valid, someTickets]
  | drawn valid someTickets _ _ _ => simp [valid, someTickets]

theorem exists_timeout_of_deadlineTooLarge {batchSize : Nat} (positive : 0 < batchSize)
    {arrival : Arrival} {tokenSet : Bool}
    (ended : (request.run batchSize arrival tokenSet).outcome = .error .deadlineTooLarge) :
    ∃ timeout, request.timeout = some timeout ∧ timeout.isTimeSpan = false := by
  have ends := request.run_ends positive arrival tokenSet
  generalize request.run batchSize arrival tokenSet = ending at ends ended
  cases ends with
  | deadlineTooLarge _ _ given tooLarge => exact ⟨_, given, tooLarge⟩
  | _ => cases ended

/-- The same error, or the same announcements in some order. -/
def SameOutcome : Except RoundError (List Announcement) →
    Except RoundError (List Announcement) → Prop
  | .ok first, .ok second => first.Perm second
  | .error first, .error second => first = second
  | _, _ => False

theorem SameOutcome.refl (outcome : Except RoundError (List Announcement)) :
    SameOutcome outcome outcome := by
  cases outcome with
  | ok announcements => exact List.Perm.refl announcements
  | error error => rfl

theorem SameOutcome.symm {first second : Except RoundError (List Announcement)}
    (same : SameOutcome first second) : SameOutcome second first := by
  cases first with
  | ok announcements =>
      cases second with
      | ok others => exact List.Perm.symm same
      | error error => exact same.elim
  | error error =>
      cases second with
      | ok others => exact same.elim
      | error other => exact Eq.symm same

def unblocked : Arrival where
  waves ranges := ranges.map fun range => ⟨[range], false⟩
  complete ranges := by
    rw [List.flatMap_map, List.flatMap_singleton']
  nonempty ranges wave member := by
    obtain ⟨range, -, rfl⟩ := List.mem_map.mp member
    exact List.cons_ne_nil range []

variable {batchSize firstBatch secondBatch : Nat} {firstArrival secondArrival : Arrival}
  {threshold : Int} {tokenSet : Bool}

theorem exists_wait_of_waitTooLong (positive : 0 < batchSize) {arrival : Arrival}
    (ended : (request.run batchSize arrival tokenSet).outcome = .error (.batch .waitTooLong)) :
    request.mayBlock = false ∧ .wait true ∈ request.gatherSteps batchSize arrival := by
  have ends := request.run_ends positive arrival tokenSet
  generalize request.run batchSize arrival tokenSet = ending at ends ended
  cases ends with
  | failed _ _ _ first =>
      cases ended
      obtain ⟨step, member, fails⟩ := first.yields_of_firstOf
      cases fails with
      | waitTooLong limited => exact ⟨limited, member⟩
  | _ => cases ended

theorem wait_not_mem_unblocked : .wait true ∉ request.gatherSteps batchSize unblocked := by
  simp [gatherSteps, unblocked, Wave.steps]

theorem run_inOrder_of_limited (positive : 0 < batchSize) (someTickets : 0 < request.count)
    (valid : request.difficulty.threshold = .ok threshold) (unexpired : request.Unexpired)
    (limited : request.mayBlock = false) :
    (request.run batchSize .inOrder tokenSet).outcome = .error (.batch .waitTooLong) := by
  obtain ⟨range, rest, ranges⟩ : ∃ range rest,
      TicketRange.cover request.count.toNat batchSize = range :: rest := by
    refine List.exists_cons_of_ne_nil fun isEmpty => ?_
    have indices := TicketRange.indices_cover request.count.toNat positive
    rw [isEmpty, List.flatMap_nil, eq_comm, List.map_eq_nil_iff, List.range_eq_nil] at indices
    omega
  have steps : request.gatherSteps batchSize .inOrder =
      .wait true :: .take range :: (Arrival.inOrder.waves rest).flatMap Wave.steps := by
    rw [gatherSteps, ranges]
    rfl
  have waits : request.StepFails tokenSet (.wait true) .waitTooLong := .waitTooLong limited
  obtain ⟨_, _, first, ended⟩ | ⟨_, noneFails, -⟩ :=
    run_gathers positive someTickets valid unexpired
  · rw [steps] at first
    cases first with
    | decides fails => rw [ended, GatherStep.fails_unique fails waits]
    | passes silent _ => exact absurd waits (silent _)
  · rw [steps] at noneFails
    exact absurd waits (noneFails _ List.mem_cons_self _)

theorem perm_of_run (firstPositive : 0 < firstBatch) (secondPositive : 0 < secondBatch)
    {first second : List Announcement}
    (ended : (request.run firstBatch firstArrival false).outcome = .ok first)
    (endedToo : (request.run secondBatch secondArrival false).outcome = .ok second) :
    first.Perm second := by
  obtain ⟨_, valid, -, perm⟩ := run_outcome_perm firstPositive ended
  obtain ⟨_, validToo, -, permToo⟩ := run_outcome_perm secondPositive endedToo
  cases valid.symm.trans validToo
  exact perm.trans permToo.symm

theorem sameOutcome_of_ne_waitTooLong (firstPositive : 0 < firstBatch)
    (secondPositive : 0 < secondBatch) (holdsTickets : 0 ≤ request.count)
    (valid : request.difficulty.threshold = .ok threshold) (unexpired : request.Unexpired)
    (waits : (request.run firstBatch firstArrival false).outcome ≠ .error (.batch .waitTooLong))
    (waitsToo : (request.run secondBatch secondArrival false).outcome ≠
      .error (.batch .waitTooLong)) :
    SameOutcome (request.run firstBatch firstArrival false).outcome
      (request.run secondBatch secondArrival false).outcome := by
  have cases := (run_unset_cases firstArrival firstPositive holdsTickets valid
    unexpired).resolve_left fun waited => waits waited.2
  have casesToo := (run_unset_cases secondArrival secondPositive holdsTickets valid
    unexpired).resolve_left fun waited => waitsToo waited.2
  rcases cases with ⟨writable, first, ended⟩ | ⟨unwritable, ended⟩
  · rcases casesToo with ⟨-, second, endedToo⟩ | ⟨unwritable, -⟩
    · rw [ended, endedToo]
      exact perm_of_run firstPositive secondPositive ended endedToo
    · exact absurd writable unwritable
  · rcases casesToo with ⟨writable, -⟩ | ⟨-, endedToo⟩
    · exact absurd writable unwritable
    · rw [ended, endedToo]
      exact .refl _

/-- A round without an expired deadline gathers its batches, or nothing but the request decides. -/
theorem gathers_or_decided (request : RoundRequest)
    (notExpired : ∀ timeout, request.timeout = some timeout → timeout.isNonPositive = false) :
    (0 < request.count ∧ (∃ threshold, request.difficulty.threshold = .ok threshold) ∧
        request.Unexpired) ∨
      ∃ outcome, ∀ batchSize arrival tokenSet,
        (request.run batchSize arrival tokenSet).outcome = outcome := by
  by_cases negative : request.count < 0
  · exact .inr ⟨_, fun _ _ _ => by rw [run, if_pos negative]⟩
  cases valid : request.difficulty.threshold with
  | error error => exact .inr ⟨_, fun _ _ _ => by rw [run, if_neg negative, valid]⟩
  | ok threshold =>
      by_cases isZero : request.count = 0
      · refine .inr ⟨.ok [], fun _ _ _ => ?_⟩
        simp only [run, valid, isZero, if_true, if_false, lt_irrefl]
      have someTickets : 0 < request.count := by omega
      by_cases tooLarge : ∃ timeout, request.timeout = some timeout ∧ timeout.isTimeSpan = false
      · obtain ⟨timeout, given, tooLarge⟩ := tooLarge
        exact .inr ⟨_, fun _ _ _ => by rw [run_deadlineTooLarge someTickets valid given tooLarge]⟩
      · refine .inl ⟨someTickets, ⟨threshold, rfl⟩, fun timeout given => ⟨?_, notExpired _ given⟩⟩
        rw [← Bool.not_eq_false]
        exact fun beyond => tooLarge ⟨timeout, given, beyond⟩

variable (request)

/-- However a round that is not cancelled ends on one pool, so it may end on any other. -/
theorem exists_sameOutcome (firstPositive : 0 < firstBatch) (secondPositive : 0 < secondBatch)
    (notExpired : ∀ timeout, request.timeout = some timeout → timeout.isNonPositive = false)
    (firstArrival : Arrival) :
    ∃ secondArrival, SameOutcome (request.run firstBatch firstArrival false).outcome
      (request.run secondBatch secondArrival false).outcome := by
  obtain ⟨someTickets, ⟨threshold, valid⟩, unexpired⟩ | ⟨outcome, always⟩ :=
    request.gathers_or_decided notExpired
  · by_cases waited : (request.run firstBatch firstArrival false).outcome =
        .error (.batch .waitTooLong)
    · refine ⟨.inOrder, ?_⟩
      rw [waited, run_inOrder_of_limited secondPositive someTickets valid unexpired
        (exists_wait_of_waitTooLong firstPositive waited).1]
      exact .refl _
    · refine ⟨unblocked, sameOutcome_of_ne_waitTooLong firstPositive secondPositive someTickets.le
        valid unexpired waited fun waitedToo => ?_⟩
      exact absurd (exists_wait_of_waitTooLong secondPositive waitedToo).2 wait_not_mem_unblocked
  · refine ⟨.inOrder, ?_⟩
    rw [always, always]
    exact .refl _

theorem sameOutcome_of_mayBlock (firstPositive : 0 < firstBatch) (secondPositive : 0 < secondBatch)
    (notExpired : ∀ timeout, request.timeout = some timeout → timeout.isNonPositive = false)
    (mayBlock : request.mayBlock = true) (firstArrival secondArrival : Arrival) :
    SameOutcome (request.run firstBatch firstArrival false).outcome
      (request.run secondBatch secondArrival false).outcome := by
  have waits {batchSize : Nat} {arrival : Arrival} (positive : 0 < batchSize) :
      (request.run batchSize arrival false).outcome ≠ .error (.batch .waitTooLong) := by
    intro waited
    cases mayBlock.symm.trans (exists_wait_of_waitTooLong positive waited).1
  obtain ⟨someTickets, ⟨threshold, valid⟩, unexpired⟩ | ⟨outcome, always⟩ :=
    request.gathers_or_decided notExpired
  · exact sameOutcome_of_ne_waitTooLong firstPositive secondPositive someTickets.le valid unexpired
      (waits firstPositive) (waits secondPositive)
  · rw [always, always]
    exact .refl _

end RoundRequest

namespace PoolOperation

def HasDraws : PoolOperation → Prop
  | round _ request _ => request.HasDraws
  | shutdown => False

/-- The operation is a round that ends before its draws, as its deadline is beyond the range of
floating point numbers. -/
def Overflows (sizes : PoolSizes) : PoolOperation → Prop
  | round arrival request tokenSet =>
    (request.run sizes.batch arrival tokenSet).outcome = .error .deadlineTooLarge
  | shutdown => False

/-- An operation of a kind was done, and no shutdown after it. -/
def SinceShutdown (kind : PoolOperation → Prop) (history : List PoolOperation) : Prop :=
  ∃ before operation since, history = before ++ operation :: since ∧ kind operation ∧
    shutdown ∉ since

variable {kind : PoolOperation → Prop} {operation : PoolOperation} {rest : List PoolOperation}

theorem not_sinceShutdown_nil : ¬SinceShutdown kind [] := by
  rintro ⟨before, operation, since, same, -⟩
  cases List.append_eq_nil_iff.mp same.symm |>.2

theorem sinceShutdown_cons :
    SinceShutdown kind (operation :: rest) ↔
      (kind operation ∧ shutdown ∉ rest) ∨ SinceShutdown kind rest := by
  constructor
  · rintro ⟨before, found, since, same, isKind, running⟩
    cases before with
    | nil =>
        cases same
        exact .inl ⟨isKind, running⟩
    | cons first others =>
        cases same
        exact .inr ⟨others, found, since, rfl, isKind, running⟩
  · rintro (⟨isKind, running⟩ | ⟨before, found, since, rfl, isKind, running⟩)
    · exact ⟨[], operation, rest, rfl, isKind, running⟩
    · exact ⟨operation :: before, found, since, rfl, isKind, running⟩

theorem sinceShutdown_congr {other : PoolOperation → Prop} {history : List PoolOperation}
    (agree : ∀ operation ∈ history, kind operation ↔ other operation) :
    SinceShutdown kind history ↔ SinceShutdown other history := by
  refine exists_congr fun before => exists_congr fun found => exists_congr fun since =>
    and_congr_right ?_
  rintro rfl
  have member : found ∈ before ++ found :: since :=
    List.mem_append_right before List.mem_cons_self
  exact and_congr_left' (agree found member)

end PoolOperation

namespace Pool

theorem apply_sizes (pool : Pool) (operation : PoolOperation) :
    (pool.apply operation).sizes = pool.sizes := by
  cases operation <;> rfl

theorem after_sizes (pool : Pool) (history : List PoolOperation) :
    (pool.after history).sizes = pool.sizes := by
  induction history generalizing pool with
  | nil => rfl
  | cons operation rest ih => exact (ih (pool.apply operation)).trans (pool.apply_sizes operation)

theorem apply_running_iff (pool : Pool) (operation : PoolOperation) :
    (pool.apply operation).running = true ↔
      (pool.running = true ∧ operation ≠ .shutdown) ∨
        (operation.HasDraws ∧ ¬operation.Overflows pool.sizes) := by
  cases operation with
  | round arrival request tokenSet =>
      simp [apply, round, RoundRequest.run_workersUsed_iff _ pool.sizes.batch_pos,
        PoolOperation.HasDraws, PoolOperation.Overflows]
  | shutdown => simp [apply, shutdown, PoolOperation.HasDraws]

theorem after_running_iff (pool : Pool) (history : List PoolOperation) :
    (pool.after history).running = true ↔
      (pool.running = true ∧ .shutdown ∉ history) ∨
        PoolOperation.SinceShutdown
          (fun operation => operation.HasDraws ∧ ¬operation.Overflows pool.sizes) history := by
  -- The first operation may start or stop the workers, so the induction is for all pools.
  induction history generalizing pool with
  | nil => simp [after, PoolOperation.not_sinceShutdown_nil]
  | cons operation rest ih =>
      change ((pool.apply operation).after rest).running = true ↔ _
      rw [ih, apply_running_iff, apply_sizes, PoolOperation.sinceShutdown_cons, List.mem_cons,
        not_or, ne_comm]
      tauto

def restarts : List PoolOperation :=
  [.round .inOrder .sevenTickets true, .shutdown, .shutdown, .round .inOrder .sevenTickets false]

end Pool

end StakeLottery
