import Mathlib
import StakeLottery.Proofs.Lottery.Difficulty
import StakeLottery.Proofs.Round.Winners
import StakeLottery.Round.Pool

/-!
A round on a pool of workers is the sequential lottery: whatever the sizes of the pool and however
the finished ranges arrive, the announcements are those of the tickets that win when they are
looked at one after the other.
-/

namespace StakeLottery

def TicketRange.indicesBelow (count : Nat) : List Int :=
  (List.range count).map fun (index : Nat) => index

/-- None of the ranges is empty, and one after the other they hold the indices below the count. -/
structure TicketRange.Partition (ranges : List TicketRange) (count : Nat) : Prop where
  nonempty : ∀ range ∈ ranges, range.start < range.stop
  inOrder : ranges.flatMap TicketRange.indices = TicketRange.indicesBelow count

theorem TicketRange.cover_partition (count : Nat) {size : Nat} (positive : 0 < size) :
    Partition (cover count size) count where
  nonempty _ member := start_lt_stop_of_mem_cover positive member
  inOrder := indices_cover count positive

def Pool.ranges (pool : Pool) (request : RoundRequest) : List TicketRange :=
  TicketRange.cover request.count.toNat pool.sizes.batch

/-- The ways in which pending ranges can arrive: each wait brings in some of them, at least one, and
leaves the others pending. -/
inductive Arrives : List TicketRange → List Wave → Prop
  | nothing : Arrives [] []
  | wait {pending rest : List TicketRange} {wave : Wave} {later : List Wave} :
      wave.ranges ≠ [] → pending.Perm (wave.ranges ++ rest) → Arrives rest later →
      Arrives pending (wave :: later)

theorem Arrives.ranges_perm {pending : List TicketRange} {waves : List Wave}
    (arrives : Arrives pending waves) : (waves.flatMap Wave.ranges).Perm pending := by
  induction arrives with
  | nothing => exact List.Perm.refl []
  | wait _ splits _ ih =>
      rw [List.flatMap_cons]
      exact (ih.append_left _).trans splits.symm

theorem Arrives.nonempty {pending : List TicketRange} {waves : List Wave}
    (arrives : Arrives pending waves) : ∀ wave ∈ waves, wave.ranges ≠ [] := by
  induction arrives with
  | nothing => simp
  | wait nonempty _ _ ih => exact List.forall_mem_cons.mpr ⟨nonempty, ih⟩

theorem Arrives.exists_arrival {ranges : List TicketRange} {waves : List Wave}
    (arrives : Arrives ranges waves) : ∃ arrival : Arrival, arrival.waves ranges = waves := by
  -- An arrival tells for every list how it comes in; the others come in one by one.
  let chosen : List TicketRange → List Wave := fun others =>
    if others = ranges then waves else Arrival.inOrder.waves others
  have complete : ∀ others, ((chosen others).flatMap Wave.ranges).Perm others := by
    intro others
    by_cases same : others = ranges
    · subst same
      simp only [chosen, if_true]
      exact arrives.ranges_perm
    · simp only [chosen, if_neg same]
      exact Arrival.inOrder.complete others
  have nonempty : ∀ others, ∀ wave ∈ chosen others, wave.ranges ≠ [] := by
    intro others
    by_cases same : others = ranges
    · subst same
      simp only [chosen, if_true]
      exact arrives.nonempty
    · simp only [chosen, if_neg same]
      exact Arrival.inOrder.nonempty others
  exact ⟨⟨chosen, complete, nonempty⟩, if_pos rfl⟩

namespace RoundRequest

variable {request : RoundRequest} {batchSize : Nat} {arrival : Arrival} {threshold : Int}

/-- The sequential lottery: of the tickets below the count, taken in increasing order, those whose
hash wins at the difficulty are announced. -/
def sequential (request : RoundRequest) : List Announcement :=
  ((List.range request.count.toNat).filter fun (index : Nat) =>
    wins (Ticket.hash request.output index request.committee) request.difficulty = .ok true).map
    fun (index : Nat) =>
      ⟨some ⟨Ticket.hash request.output index request.committee, index, request.committee⟩,
        some request.credential⟩

theorem sequential_eq (valid : request.difficulty.threshold = .ok threshold) :
    request.sequential =
      ((request.lot threshold).winnersBelow request.count.toNat).map request.announcement := by
  rw [sequential, Lot.winnersBelow, List.map_filterMap, ← List.filterMap_eq_map,
    List.filterMap_filter]
  refine List.filterMap_congr fun index _ => ?_
  rw [wins_of_threshold valid, Lot.winning?]
  simp only [lot]
  by_cases beats : beatsThreshold (Ticket.hash request.output index request.committee)
      threshold = true
  · simp [beats, announcement]
  · simp [beats]

theorem run_ne_lostTickets (request : RoundRequest) (arrival : Arrival)
    (positive : 0 < batchSize) (tokenSet : Bool) (drawn count : Int) :
    (request.run batchSize arrival tokenSet).outcome ≠ .error (.lostTickets drawn count) := by
  intro lost
  have ends := request.run_ends positive arrival tokenSet
  generalize request.run batchSize arrival tokenSet = ending at ends lost
  cases ends <;> cases lost

theorem exists_total (request : RoundRequest) (threshold : Int) (arrival : Arrival)
    (positive : 0 < batchSize) (holdsTickets : 0 ≤ request.count)
    (mayBlock : request.mayBlock = true) (writable : request.Writable) :
    ∃ total, BatchResult.gather ((request.lot threshold).draw false) request.mayBlock
      (arrival.waves (TicketRange.cover request.count.toNat batchSize)) = .ok total ∧
      total.drawn = request.count := by
  have goes := (request.lot threshold).goes_gather false request.mayBlock
    (arrival.waves (TicketRange.cover request.count.toNat batchSize))
  obtain ⟨total, gathered⟩ := goes.exists_ok_iff.mpr
    (noneFails_of_writable positive mayBlock writable)
  obtain ⟨allDrawn, -⟩ :=
    (request.lot threshold).gather_perm positive (arrival.complete _) gathered
  exact ⟨total, gathered, allDrawn.trans (Int.toNat_of_nonneg holdsTickets)⟩

end RoundRequest

theorem Pool.round_perm_sequential (pool : Pool) (arrival : Arrival) (request : RoundRequest)
    {tokenSet : Bool} {announcements : List Announcement}
    (ended : (pool.round arrival request tokenSet).1.outcome = .ok announcements) :
    announcements.Perm request.sequential := by
  obtain ⟨threshold, valid, -, perm⟩ :=
    RoundRequest.run_outcome_perm pool.sizes.batch_pos ended
  rwa [RoundRequest.sequential_eq valid]

/-- A round that lasts announces what the sequential lottery does, whatever the pool and however its
ranges arrive, unless one of its tickets cannot be written. -/
theorem round_draws_sequential_lottery (pool : Pool) (arrival : Arrival)
    (request : RoundRequest) (holdsTickets : 0 ≤ request.count) {value : Rat}
    (valued : request.difficulty.value? = some value) (nonnegative : 0 ≤ value)
    (atMostOne : value ≤ 1) (lasts : request.Lasts) :
    (request.Writable →
      (∃ announcements, (pool.round arrival request false).1.outcome = .ok announcements ∧
        announcements.Perm request.sequential ∧
        ∀ (other : Pool) (otherArrival : Arrival), ∃ others,
          (other.round otherArrival request false).1.outcome = .ok others ∧
          others.Perm announcements) ∧
      ∀ threshold, ∃ total, BatchResult.gather ((request.lot threshold).draw false)
        request.mayBlock (arrival.waves (pool.ranges request)) = .ok total ∧
        total.drawn = request.count) ∧
    (¬request.Writable →
      (pool.round arrival request false).1.outcome = .error (.batch .unwritable)) ∧
    TicketRange.Partition (pool.ranges request) request.count.toNat ∧
    (((arrival.waves (pool.ranges request)).flatMap Wave.ranges).flatMap TicketRange.indices).Perm
      (TicketRange.indicesBelow request.count.toNat) ∧
    (∀ tokenSet drawn count,
      (pool.round arrival request tokenSet).1.outcome ≠ .error (.lostTickets drawn count)) ∧
    ∀ waves, Arrives (pool.ranges request) waves →
      ∃ other : Arrival, other.waves (pool.ranges request) = waves := by
  obtain ⟨threshold, valid⟩ := Quantity.exists_threshold valued nonnegative atMostOne
  have positive := pool.sizes.batch_pos
  have partition : TicketRange.Partition (pool.ranges request) request.count.toNat :=
    TicketRange.cover_partition request.count.toNat positive
  refine ⟨fun writable => ⟨?_, ?_⟩, fun unwritable => ?_, partition, ?_, ?_, ?_⟩
  · have draws (other : Pool) (otherArrival : Arrival) :=
      RoundRequest.run_unset_of_writable otherArrival other.sizes.batch_pos holdsTickets valid lasts
        writable
    obtain ⟨announcements, ended⟩ := draws pool arrival
    have perm := pool.round_perm_sequential arrival request ended
    refine ⟨announcements, ended, perm, fun other otherArrival => ?_⟩
    obtain ⟨others, endedToo⟩ := draws other otherArrival
    exact ⟨others, endedToo,
      (other.round_perm_sequential otherArrival request endedToo).trans perm.symm⟩
  · intro threshold
    exact request.exists_total threshold arrival positive holdsTickets lasts.mayBlock writable
  · obtain ⟨writable, -⟩ | ⟨-, ended⟩ :=
      request.run_unset arrival positive holdsTickets valid lasts
    · exact absurd writable unwritable
    · exact ended
  · rw [← partition.inOrder]
    exact (arrival.complete (pool.ranges request)).flatMap_right TicketRange.indices
  · exact request.run_ne_lostTickets arrival positive
  · intro waves arrives
    exact arrives.exists_arrival

def Arrival.backwards : Arrival where
  waves ranges := if ranges = [] then [] else [⟨ranges.reverse, true⟩]
  complete ranges := by
    split
    · rename_i none
      rw [none]
      exact List.Perm.refl []
    · rw [List.flatMap_singleton]
      exact ranges.reverse_perm
  nonempty ranges := by
    split
    · simp
    · simpa

def RoundRequest.sevenTickets : RoundRequest where
  output := []
  count := 7
  committee := 0
  difficulty := .real ⟨0x3fe0000000000000⟩
  credential := ⟨none, [], [], []⟩
  timeout := none

theorem RoundRequest.sevenTickets_difficulty :
    RoundRequest.sevenTickets.difficulty.value? = some (1 / 2) := by
  decide +kernel

theorem RoundRequest.sevenTickets_lasts : RoundRequest.sevenTickets.Lasts :=
  lasts_of_untimed rfl

theorem RoundRequest.writable_of_small {request : RoundRequest}
    (committee : request.committee.natAbs < 10 ^ 20) (count : request.count < 10 ^ 20) :
    request.Writable := by
  intro someTickets
  have bounded : request.count.toNat < Decimal.textBound := Decimal.lt_textBound (by omega)
  exact ⟨Decimal.hasText_of_small committee, by omega⟩

theorem round_draws_sequential_lottery_backwards :
    ∃ announcements,
      ((Pool.new ⟨2, 3, by decide, by decide⟩).round .backwards .sevenTickets false).1.outcome =
        .ok announcements ∧ announcements.Perm RoundRequest.sevenTickets.sequential := by
  obtain ⟨draws, -⟩ := round_draws_sequential_lottery
    (Pool.new ⟨2, 3, by decide, by decide⟩) .backwards .sevenTickets (by decide)
    RoundRequest.sevenTickets_difficulty (by norm_num) (by norm_num)
    RoundRequest.sevenTickets_lasts
  obtain ⟨⟨announcements, ended, perm, -⟩, -⟩ :=
    draws (RoundRequest.writable_of_small (by decide) (by decide))
  exact ⟨announcements, ended, perm⟩

def RoundRequest.oneTicket (committee : Int) (timeout : Option Quantity) : RoundRequest where
  output := [0]
  count := 1
  committee := committee
  difficulty := .integer 1
  credential := ⟨none, [0], [1], [2]⟩
  timeout := timeout

/-- A ticket that wins is not announced if it must be waited for without an end, nor if its
committee has no text. -/
theorem RoundRequest.oneTicket_not_drawn :
    (Quantity.real ⟨0x7ff0000000000000⟩).isNonPositive = false ∧
    ((Pool.new ⟨1, 1, by decide, by decide⟩).round .inOrder
      (.oneTicket 0 (some (.real ⟨0x7ff0000000000000⟩))) false).1.outcome =
        .error (.batch .waitTooLong) ∧
    ((Pool.new ⟨1, 1, by decide, by decide⟩).round .inOrder
      (.oneTicket Decimal.textBound none) false).1.outcome = .error (.batch .unwritable) := by
  refine ⟨by decide +kernel, by decide +kernel, ?_⟩
  obtain ⟨threshold, valid⟩ := Quantity.exists_threshold
    (show (Quantity.integer 1).value? = some 1 from rfl) zero_le_one le_rfl
  have lasts : (oneTicket Decimal.textBound none).Lasts := lasts_of_untimed rfl
  have unwritable : ¬(oneTicket Decimal.textBound none).Writable := fun writable =>
    absurd (writable Int.one_pos).1 (by simp [oneTicket, Decimal.hasText])
  obtain ⟨writable, -⟩ | ⟨-, ended⟩ :=
    run_unset (oneTicket Decimal.textBound none) .inOrder Nat.one_pos Int.one_nonneg valid lasts
  · exact absurd writable unwritable
  · exact ended

end StakeLottery
