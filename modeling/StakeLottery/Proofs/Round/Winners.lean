import Mathlib
import StakeLottery.Proofs.Round.Gathering
import StakeLottery.Round.Request

/-!
The winners of a round. The ranges of a round hold every index below the count once, so whatever
order and waves they arrive in, a round that ends well announces the tickets that win when the
indices are drawn one after the other. A round ends in one of seven ways, each with its own
condition.
-/

namespace StakeLottery

def Lot.winnersBelow (lot : Lot) (count : Nat) : List (Int × Bytes) :=
  (List.range count).filterMap fun (index : Nat) => lot.winning? index

namespace TicketRange

theorem indices_prefix (count size places : Nat) :
    ((List.range places).flatMap fun place =>
        indices ⟨(place * size : Nat), (min (place * size + size) count : Nat)⟩) =
      (List.range (min (places * size) count)).map fun (index : Nat) => (index : Int) := by
  induction places with
  | zero => simp
  | succ places ih =>
      -- The range of the next place is empty once the places before it hold all indices.
      have grows : min ((places + 1) * size) count =
          min (places * size) count + (min (places * size + size) count - places * size) := by
        rw [Nat.add_mul, Nat.one_mul]
        omega
      rw [List.range_succ, List.flatMap_append, ih, grows, List.range_add, List.map_append,
        List.flatMap_singleton, List.map_map, indices]
      congr 1
      have width : ((min (places * size + size) count : Nat) - (places * size : Nat) : Int).toNat =
          min (places * size + size) count - places * size := by
        omega
      rw [width]
      refine List.map_congr_left fun offset member => ?_
      rw [List.mem_range] at member
      simp only [Function.comp_apply]
      omega

theorem le_cover_length_mul (count : Nat) {size : Nat} (positive : 0 < size) :
    count ≤ (count + size - 1) / size * size := by
  have remainder := Nat.div_add_mod (count + size - 1) size
  have small := Nat.mod_lt (count + size - 1) positive
  rw [Nat.mul_comm] at remainder
  omega

theorem indices_cover (count : Nat) {size : Nat} (positive : 0 < size) :
    (cover count size).flatMap indices =
      (List.range count).map fun (index : Nat) => (index : Int) := by
  rw [cover, List.flatMap_map, indices_prefix,
    Nat.min_eq_right (le_cover_length_mul count positive)]

theorem start_lt_stop_of_mem_cover {count size : Nat} (positive : 0 < size) {range : TicketRange}
    (member : range ∈ cover count size) : range.start < range.stop := by
  obtain ⟨place, inRange, rfl⟩ := List.mem_map.mp member
  rw [List.mem_range, Nat.lt_div_iff_mul_lt positive] at inRange
  simp only
  omega

end TicketRange

namespace Lot

theorem winning?_eq_some {lot : Lot} {index : Int} {winner : Int × Bytes} :
    lot.winning? index = some winner ↔
      beatsThreshold (Ticket.hash lot.output index lot.committee) lot.threshold = true ∧
        (index, Ticket.hash lot.output index lot.committee) = winner := by
  rw [winning?]
  generalize Ticket.hash lot.output index lot.committee = hash
  cases beatsThreshold hash lot.threshold <;> simp

theorem mem_winnersBelow {lot : Lot} {count : Nat} {winner : Int × Bytes} :
    winner ∈ lot.winnersBelow count ↔ ∃ index : Nat, index < count ∧
      beatsThreshold (Ticket.hash lot.output index lot.committee) lot.threshold = true ∧
        ((index : Int), Ticket.hash lot.output index lot.committee) = winner := by
  simp only [winnersBelow, List.mem_filterMap, List.mem_range, winning?_eq_some]

theorem foldl_drawn (lot : Lot) (total : Int) {ranges : List TicketRange}
    (ordered : ∀ range ∈ ranges, range.start < range.stop) :
    (ranges.map lot.result).foldl (fun total result => total + result.drawn) total =
      total + (ranges.flatMap TicketRange.indices).length := by
  induction ranges generalizing total with
  | nil => simp
  | cons range rest ih =>
      have first := ordered range List.mem_cons_self
      rw [List.map_cons, List.foldl_cons,
        ih _ fun other member => ordered other (List.mem_cons_of_mem _ member),
        List.flatMap_cons, List.length_append, TicketRange.indices, List.length_map,
        List.length_range]
      simp only [result]
      omega

theorem winners_concat (lot : Lot) (ranges : List TicketRange) :
    (BatchResult.concat (ranges.map lot.result)).winners =
      (ranges.flatMap TicketRange.indices).filterMap lot.winning? := by
  rw [BatchResult.concat, List.flatMap_map, List.filterMap_flatMap]
  rfl

theorem concat_perm (lot : Lot) {count size : Nat} (positive : 0 < size)
    {ranges : List TicketRange} (arrived : ranges.Perm (TicketRange.cover count size)) :
    (BatchResult.concat (ranges.map lot.result)).drawn = count ∧
      (BatchResult.concat (ranges.map lot.result)).winners.Perm (lot.winnersBelow count) := by
  have sameIndices := (arrived.flatMap_right TicketRange.indices).trans
    (List.Perm.of_eq (TicketRange.indices_cover count positive))
  have ordered : ∀ range ∈ ranges, range.start < range.stop := fun range member =>
    TicketRange.start_lt_stop_of_mem_cover positive (arrived.subset member)
  constructor
  · rw [BatchResult.concat, lot.foldl_drawn 0 ordered, sameIndices.length_eq, List.length_map,
      List.length_range, Int.zero_add]
  · have sameWinners := sameIndices.filterMap lot.winning?
    rw [← winners_concat, List.filterMap_map] at sameWinners
    exact sameWinners

theorem gather_perm (lot : Lot) {count size : Nat} (positive : 0 < size) {waves : List Wave}
    (arrived : (waves.flatMap Wave.ranges).Perm (TicketRange.cover count size))
    {cancelled mayBlock : Bool} {total : BatchResult}
    (gathered : BatchResult.gather (lot.draw cancelled) mayBlock waves = .ok total) :
    total.drawn = count ∧ total.winners.Perm (lot.winnersBelow count) := by
  rw [gather_eq_ok gathered]
  exact lot.concat_perm positive arrived

end Lot

namespace RoundRequest

variable {request : RoundRequest} {batchSize : Nat} {arrival : Arrival} {tokenSet : Bool}
  {threshold : Int}

def gatherSteps (request : RoundRequest) (batchSize : Nat) (arrival : Arrival) :
    List GatherStep :=
  (arrival.waves (TicketRange.cover request.count.toNat batchSize)).flatMap Wave.steps

def StepFails (request : RoundRequest) (tokenSet : Bool) : GatherStep → BatchError → Prop :=
  GatherStep.Fails request.committee tokenSet request.mayBlock

/-- The deadline of a round, if there is one, can be set and has not expired. -/
def Unexpired (request : RoundRequest) : Prop :=
  ∀ timeout, request.timeout = some timeout →
    timeout.isTimeSpan = true ∧ timeout.isNonPositive = false

/-- A round without a deadline, or with one that is waited for and does not expire. -/
structure Lasts (request : RoundRequest) : Prop where
  unexpired : request.Unexpired
  mayBlock : request.mayBlock = true

theorem lasts_of_untimed (untimed : request.timeout = none) : request.Lasts where
  unexpired timeout given := by cases untimed.symm.trans given
  mayBlock := by
    rw [mayBlock, untimed]
    rfl

inductive Ends (request : RoundRequest) (batchSize : Nat) (arrival : Arrival) (tokenSet : Bool) :
    RoundEnd → Prop
  | negativeCount (negative : request.count < 0) :
      Ends request batchSize arrival tokenSet
        ⟨.error (.negativeCount request.count), false, tokenSet⟩
  | difficulty {error : DifficultyError} (holdsTickets : 0 ≤ request.count)
      (refused : request.difficulty.threshold = .error error) :
      Ends request batchSize arrival tokenSet ⟨.error (.difficulty error), false, tokenSet⟩
  | empty {threshold : Int} (valid : request.difficulty.threshold = .ok threshold)
      (isZero : request.count = 0) :
      Ends request batchSize arrival tokenSet ⟨.ok [], false, tokenSet⟩
  | deadlineTooLarge {threshold : Int} {timeout : Quantity}
      (valid : request.difficulty.threshold = .ok threshold) (someTickets : 0 < request.count)
      (given : request.timeout = some timeout) (tooLarge : timeout.isTimeSpan = false) :
      Ends request batchSize arrival tokenSet ⟨.error .deadlineTooLarge, false, tokenSet⟩
  | timedOut {threshold : Int} {timeout : Quantity}
      (valid : request.difficulty.threshold = .ok threshold) (someTickets : 0 < request.count)
      (given : request.timeout = some timeout) (span : timeout.isTimeSpan = true)
      (expired : timeout.isNonPositive = true) :
      Ends request batchSize arrival tokenSet
        ⟨.error (.timedOut timeout (TicketRange.cover request.count.toNat batchSize).length),
          true, true⟩
  | failed {threshold : Int} {reached : List GatherStep} {error : BatchError}
      (valid : request.difficulty.threshold = .ok threshold) (someTickets : 0 < request.count)
      (unexpired : request.Unexpired)
      (first : FirstOf (request.StepFails tokenSet) (request.gatherSteps batchSize arrival) reached
        error) :
      Ends request batchSize arrival tokenSet ⟨.error (.batch error), true, true⟩
  | drawn {threshold : Int} {announcements : List Announcement}
      (valid : request.difficulty.threshold = .ok threshold) (someTickets : 0 < request.count)
      (unexpired : request.Unexpired)
      (noneFails : ∀ step ∈ request.gatherSteps batchSize arrival,
        ∀ error, ¬request.StepFails tokenSet step error)
      (complete : announcements.Perm
        (((request.lot threshold).winnersBelow request.count.toNat).map request.announcement)) :
      Ends request batchSize arrival tokenSet ⟨.ok announcements, true, tokenSet⟩

/-- How gathering ends: with the first step that fails, or with all winners. -/
theorem collect_cases (request : RoundRequest) (positive : 0 < batchSize) (arrival : Arrival)
    (threshold : Int) (tokenSet : Bool) (holdsTickets : 0 ≤ request.count) :
    (∃ reached error,
      FirstOf (request.StepFails tokenSet) (request.gatherSteps batchSize arrival) reached error ∧
        request.collect threshold (arrival.waves (TicketRange.cover request.count.toNat batchSize))
          tokenSet = ⟨.error (.batch error), true, true⟩) ∨
      ∃ announcements,
        (∀ step ∈ request.gatherSteps batchSize arrival,
          ∀ error, ¬request.StepFails tokenSet step error) ∧
        announcements.Perm
          (((request.lot threshold).winnersBelow request.count.toNat).map request.announcement) ∧
        request.collect threshold (arrival.waves (TicketRange.cover request.count.toNat batchSize))
          tokenSet = ⟨.ok announcements, true, tokenSet⟩ := by
  have goes := (request.lot threshold).goes_gather tokenSet request.mayBlock
    (arrival.waves (TicketRange.cover request.count.toNat batchSize))
  unfold collect
  split
  · rename_i error gathered
    obtain ⟨reached, first⟩ := goes.fails error gathered
    exact .inl ⟨reached, error, first, rfl⟩
  · rename_i total gathered
    obtain ⟨allDrawn, winners⟩ :=
      (request.lot threshold).gather_perm positive (arrival.complete _) gathered
    rw [Int.toNat_of_nonneg holdsTickets] at allDrawn
    exact .inr ⟨_, goes.passes total gathered, winners.map _, if_pos allDrawn⟩

theorem collect_ends (positive : 0 < batchSize)
    (valid : request.difficulty.threshold = .ok threshold) (someTickets : 0 < request.count)
    (unexpired : request.Unexpired) :
    request.Ends batchSize arrival tokenSet (request.collect threshold
      (arrival.waves (TicketRange.cover request.count.toNat batchSize)) tokenSet) := by
  obtain ⟨reached, error, first, ended⟩ | ⟨announcements, noneFails, complete, ended⟩ :=
    request.collect_cases positive arrival threshold tokenSet someTickets.le
  · rw [ended]
    exact .failed valid someTickets unexpired first
  · rw [ended]
    exact .drawn valid someTickets unexpired noneFails complete

theorem run_ends (request : RoundRequest) (positive : 0 < batchSize) (arrival : Arrival)
    (tokenSet : Bool) :
    request.Ends batchSize arrival tokenSet (request.run batchSize arrival tokenSet) := by
  unfold run
  split
  · rename_i negative
    exact .negativeCount negative
  rename_i holdsTickets
  split
  · rename_i error refused
    exact .difficulty (Int.not_lt.mp holdsTickets) refused
  rename_i threshold valid
  split
  · rename_i isZero
    exact .empty valid isZero
  rename_i nonzero
  have someTickets : 0 < request.count := by omega
  unfold drawTickets
  dsimp only
  split
  · rename_i untimed
    refine collect_ends positive valid someTickets fun timeout given => ?_
    cases untimed.symm.trans given
  rename_i timeout given
  split
  · rename_i tooLarge
    exact .deadlineTooLarge valid someTickets given (by simpa using tooLarge)
  rename_i canBeSet
  have span : timeout.isTimeSpan = true := by simpa using canBeSet
  split
  · rename_i expired
    exact .timedOut valid someTickets given span expired
  · rename_i notExpired
    refine collect_ends positive valid someTickets fun other givenOther => ?_
    obtain rfl := Option.some.inj (given.symm.trans givenOther)
    exact ⟨span, Bool.eq_false_iff.mpr notExpired⟩

theorem run_outcome_perm (positive : 0 < batchSize) {announcements : List Announcement}
    (ended : (request.run batchSize arrival tokenSet).outcome = .ok announcements) :
    ∃ threshold, request.difficulty.threshold = .ok threshold ∧ 0 ≤ request.count ∧
      announcements.Perm
        (((request.lot threshold).winnersBelow request.count.toNat).map request.announcement) := by
  have ends := request.run_ends positive arrival tokenSet
  generalize request.run batchSize arrival tokenSet = ending at ends ended
  cases ends with
  | empty valid isZero =>
      refine ⟨_, valid, isZero.ge, ?_⟩
      rw [← Except.ok.inj ended, isZero]
      exact List.Perm.refl _
  | drawn valid someTickets _ _ complete =>
      rw [← Except.ok.inj ended]
      exact ⟨_, valid, someTickets.le, complete⟩
  | _ => cases ended

theorem mem_run_iff (positive : 0 < batchSize) {announcements : List Announcement}
    (ended : (request.run batchSize arrival tokenSet).outcome = .ok announcements)
    (valid : request.difficulty.threshold = .ok threshold) {announcement : Announcement} :
    announcement ∈ announcements ↔ ∃ index : Nat, index < request.count.toNat ∧
      beatsThreshold (Ticket.hash request.output index request.committee) threshold = true ∧
      request.announcement (index, Ticket.hash request.output index request.committee) =
        announcement := by
  obtain ⟨_, validAgain, -, sameWinners⟩ := run_outcome_perm positive ended
  cases validAgain.symm.trans valid
  rw [sameWinners.mem_iff, List.mem_map]
  constructor
  · rintro ⟨_, won, rfl⟩
    obtain ⟨index, below, beats, rfl⟩ := Lot.mem_winnersBelow.mp won
    exact ⟨index, below, beats, rfl⟩
  · rintro ⟨index, below, beats, rfl⟩
    exact ⟨_, Lot.mem_winnersBelow.mpr ⟨index, below, beats, rfl⟩, rfl⟩

theorem run_gathers (positive : 0 < batchSize) (someTickets : 0 < request.count)
    (valid : request.difficulty.threshold = .ok threshold) (unexpired : request.Unexpired) :
    (∃ reached error,
      FirstOf (request.StepFails tokenSet) (request.gatherSteps batchSize arrival) reached error ∧
        (request.run batchSize arrival tokenSet).outcome = .error (.batch error)) ∨
      ∃ announcements,
        (∀ step ∈ request.gatherSteps batchSize arrival,
          ∀ error, ¬request.StepFails tokenSet step error) ∧
        (request.run batchSize arrival tokenSet).outcome = .ok announcements := by
  have ends := request.run_ends positive arrival tokenSet
  generalize request.run batchSize arrival tokenSet = ending at ends ⊢
  cases ends with
  | negativeCount negative => omega
  | difficulty _ refused => cases refused.symm.trans valid
  | empty _ isZero => omega
  | deadlineTooLarge _ _ given tooLarge => cases tooLarge.symm.trans (unexpired _ given).1
  | timedOut _ _ given _ expired => cases expired.symm.trans (unexpired _ given).2
  | failed _ _ _ first => exact .inl ⟨_, _, first, rfl⟩
  | drawn _ _ _ noneFails _ => exact .inr ⟨_, noneFails, rfl⟩

theorem run_deadlineTooLarge {timeout : Quantity} (someTickets : 0 < request.count)
    (valid : request.difficulty.threshold = .ok threshold)
    (given : request.timeout = some timeout) (tooLarge : timeout.isTimeSpan = false) :
    request.run batchSize arrival tokenSet = ⟨.error .deadlineTooLarge, false, tokenSet⟩ := by
  have holdsTickets : ¬request.count < 0 := by omega
  have notEmpty : ¬request.count = 0 := by omega
  simp only [run, holdsTickets, valid, notEmpty, if_false, drawTickets, given, tooLarge,
    Bool.not_false, if_true]

theorem exists_take_iff (positive : 0 < batchSize) {index : Int} :
    (∃ range, .take range ∈ request.gatherSteps batchSize arrival ∧ index ∈ range.indices) ↔
      0 ≤ index ∧ index < request.count := by
  have taken : ∀ range, .take range ∈ request.gatherSteps batchSize arrival ↔
      range ∈ TicketRange.cover request.count.toNat batchSize := by
    intro range
    rw [← (arrival.complete _).mem_iff, gatherSteps, List.mem_flatMap, List.mem_flatMap]
    simp [Wave.steps]
  have inCover : (∃ range ∈ TicketRange.cover request.count.toNat batchSize,
      index ∈ range.indices) ↔ index ∈ (List.range request.count.toNat).map
        fun (place : Nat) => (place : Int) := by
    rw [← TicketRange.indices_cover request.count.toNat positive, List.mem_flatMap]
  simp only [taken, inCover, List.mem_map, List.mem_range]
  constructor
  · rintro ⟨place, below, rfl⟩
    omega
  · rintro ⟨nonnegative, below⟩
    exact ⟨index.toNat, by omega, by omega⟩

/-- Each ticket below the count can be written. -/
def Writable (request : RoundRequest) : Prop :=
  0 < request.count →
    Decimal.hasText request.committee = true ∧ request.count ≤ Decimal.textBound

theorem writable_iff :
    request.Writable ↔ ∀ index, 0 ≤ index → index < request.count →
      Ticket.isWritable index request.committee = true := by
  constructor
  · intro writable index nonnegative below
    obtain ⟨committee, bounded⟩ := writable (nonnegative.trans_lt below)
    refine Ticket.isWritable_iff.mpr ⟨Decimal.hasText_iff.mpr ?_, committee⟩
    omega
  · intro written someTickets
    obtain ⟨last, committee⟩ := Ticket.isWritable_iff.mp
      (written (request.count - 1) (by omega) (by omega))
    have bounded := Decimal.hasText_iff.mp last
    exact ⟨committee, by omega⟩

theorem writable_of_noneFails (positive : 0 < batchSize)
    (noneFails : ∀ step ∈ request.gatherSteps batchSize arrival,
      ∀ error, ¬request.StepFails tokenSet step error) : request.Writable := by
  refine writable_iff.mpr fun index nonnegative below => ?_
  obtain ⟨range, member, inside⟩ := (exists_take_iff positive).mpr ⟨nonnegative, below⟩
  exact (GatherStep.not_fails_take_iff.mp (noneFails _ member)).2 index inside

theorem writable_of_run (positive : 0 < batchSize) {announcements : List Announcement}
    (ended : (request.run batchSize arrival tokenSet).outcome = .ok announcements) :
    request.Writable := by
  have ends := request.run_ends positive arrival tokenSet
  generalize request.run batchSize arrival tokenSet = ending at ends ended
  cases ends with
  | empty _ isZero => exact fun someTickets => absurd isZero someTickets.ne'
  | drawn _ _ _ noneFails _ => exact writable_of_noneFails positive noneFails
  | _ => cases ended

/-- In a round that is not cancelled a step fails if it must wait for too long, or if it takes a
ticket that cannot be written. -/
theorem stepFails_unset {step : GatherStep} {error : BatchError}
    (failed : request.StepFails false step error) :
    error = .waitTooLong ∧ request.mayBlock = false ∨
      error = .unwritable ∧ ∃ range index, step = .take range ∧ index ∈ range.indices ∧
        Ticket.isWritable index request.committee = false := by
  cases failed with
  | waitTooLong limited => exact .inl ⟨rfl, limited⟩
  | cancelled isSet _ _ => cases isSet
  | unnamed isSet _ _ => cases isSet
  | unwritable _ member unwritten => exact .inr ⟨rfl, _, _, rfl, member, unwritten⟩

theorem not_writable_of_stepFails (positive : 0 < batchSize) {step : GatherStep}
    (member : step ∈ request.gatherSteps batchSize arrival)
    (failed : request.StepFails false step .unwritable) : ¬request.Writable := by
  obtain ⟨impossible, -⟩ | ⟨-, range, index, rfl, inside, unwritten⟩ := stepFails_unset failed
  · cases impossible
  intro writable
  obtain ⟨nonnegative, below⟩ := (exists_take_iff positive).mp ⟨range, member, inside⟩
  cases (writable_iff.mp writable index nonnegative below).symm.trans unwritten

/-- A round that has draws and is not cancelled waits for too long, or it draws its tickets if all
of them can be written. -/
theorem run_unset_cases (arrival : Arrival) (positive : 0 < batchSize)
    (holdsTickets : 0 ≤ request.count) (valid : request.difficulty.threshold = .ok threshold)
    (unexpired : request.Unexpired) :
    (request.mayBlock = false ∧
        (request.run batchSize arrival false).outcome = .error (.batch .waitTooLong)) ∨
      (request.Writable ∧
        ∃ announcements, (request.run batchSize arrival false).outcome = .ok announcements) ∨
      ¬request.Writable ∧
        (request.run batchSize arrival false).outcome = .error (.batch .unwritable) := by
  rcases holdsTickets.eq_or_lt' with isZero | someTickets
  · have ended : (request.run batchSize arrival false).outcome = .ok [] := by
      simp only [run, valid, isZero, if_true, if_false, lt_irrefl]
    exact .inr (.inl ⟨fun someTickets => absurd isZero someTickets.ne', [], ended⟩)
  obtain ⟨_, _, first, ended⟩ | ⟨announcements, noneFails, ended⟩ :=
    run_gathers positive someTickets valid unexpired
  · obtain ⟨step, member, fails⟩ := first.yields_of_firstOf
    obtain ⟨rfl, limited⟩ | ⟨rfl, -⟩ := stepFails_unset fails
    · exact .inl ⟨limited, ended⟩
    · exact .inr (.inr ⟨not_writable_of_stepFails positive member fails, ended⟩)
  · exact .inr (.inl ⟨writable_of_noneFails positive noneFails, announcements, ended⟩)

theorem run_unset (request : RoundRequest) (arrival : Arrival) (positive : 0 < batchSize)
    (holdsTickets : 0 ≤ request.count)
    (valid : request.difficulty.threshold = .ok threshold) (lasts : request.Lasts) :
    (request.Writable ∧
        ∃ announcements, (request.run batchSize arrival false).outcome = .ok announcements) ∨
      ¬request.Writable ∧
        (request.run batchSize arrival false).outcome = .error (.batch .unwritable) := by
  obtain ⟨limited, -⟩ | ends :=
    run_unset_cases arrival positive holdsTickets valid lasts.unexpired
  · cases limited.symm.trans lasts.mayBlock
  · exact ends

theorem run_unset_of_writable (arrival : Arrival) (positive : 0 < batchSize)
    (holdsTickets : 0 ≤ request.count)
    (valid : request.difficulty.threshold = .ok threshold) (lasts : request.Lasts)
    (writable : request.Writable) :
    ∃ announcements, (request.run batchSize arrival false).outcome = .ok announcements := by
  obtain ⟨-, ended⟩ | ⟨unwritable, -⟩ :=
    request.run_unset arrival positive holdsTickets valid lasts
  · exact ended
  · exact absurd writable unwritable

theorem noneFails_of_writable (positive : 0 < batchSize) (mayBlock : request.mayBlock = true)
    (writable : request.Writable) :
    ∀ step ∈ request.gatherSteps batchSize arrival,
      ∀ error, ¬request.StepFails false step error := by
  intro step member error failed
  obtain ⟨-, limited⟩ | ⟨rfl, -⟩ := stepFails_unset failed
  · cases limited.symm.trans mayBlock
  · exact not_writable_of_stepFails positive member failed writable

end RoundRequest

end StakeLottery
