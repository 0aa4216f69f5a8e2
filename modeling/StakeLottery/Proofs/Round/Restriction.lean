import StakeLottery.Proofs.Lottery.Threshold
import StakeLottery.Proofs.Round.Sequential

/-!
The winners of a round among those of a greater one. A draw depends on neither the count nor the
batches, and a greater difficulty has a greater threshold, so that fewer tickets and a lower
difficulty leave out winners of the greater round and change none of those that they keep.
-/

namespace StakeLottery

/-- The announced ticket is below a count, and its hash, as a fraction of the hash space, is at most
a value. -/
def Announcement.isWithin (count : Int) (value : ℚ) (announcement : Announcement) : Bool :=
  announcement.selection.any fun selection =>
    selection.index < count && (selection.hash.toNat : ℚ) / 2 ^ 256 ≤ value

theorem filter_lt_range {count greaterCount : Nat} (fewer : count ≤ greaterCount) :
    (List.range greaterCount).filter (· < count) = List.range count := by
  obtain ⟨more, rfl⟩ := Nat.exists_eq_add_of_le fewer
  have kept : (List.range count).filter (· < count) = List.range count :=
    List.filter_eq_self.mpr fun index member => decide_eq_true (List.mem_range.mp member)
  have dropped : ((List.range more).map (count + ·)).filter (· < count) = [] := by
    refine List.filter_eq_nil_iff.mpr fun index member => ?_
    obtain ⟨offset, -, rfl⟩ := List.mem_map.mp member
    simp
  rw [List.range_add, List.filter_append, kept, dropped, List.append_nil]

namespace RoundRequest

def resized (request : RoundRequest) (count : Int) (difficulty : Quantity)
    (timeout : Option Quantity) : RoundRequest :=
  { request with count, difficulty, timeout }

variable {request : RoundRequest} {value : ℚ}

theorem sequential_eq_of_means (means : request.difficulty.Means (.exact value))
    (nonnegative : 0 ≤ value) (atMostOne : value ≤ 1) :
    request.sequential =
      ((List.range request.count.toNat).filter fun (index : Nat) =>
        hashRatio (Ticket.hash request.output index request.committee) ≤ value).map
        fun (index : Nat) =>
          request.announcement (index, Ticket.hash request.output index request.committee) := by
  rw [sequential]
  simp only [wins_of_means means nonnegative atMostOne, Except.ok.injEq, decide_eq_true_eq]
  rfl

theorem sequential_restrict {greaterCount : Int} {greaterDifficulty : Quantity}
    {greaterTimeout : Option Quantity} {greaterValue : ℚ} (holdsTickets : 0 ≤ request.count)
    (fewer : request.count ≤ greaterCount) (means : request.difficulty.Means (.exact value))
    (greaterMeans : greaterDifficulty.Means (.exact greaterValue)) (nonnegative : 0 ≤ value)
    (ordered : value ≤ greaterValue) (atMostOne : greaterValue ≤ 1) :
    request.sequential =
      (request.resized greaterCount greaterDifficulty greaterTimeout).sequential.filter
        (Announcement.isWithin request.count value) := by
  have fewerNat : request.count.toNat ≤ greaterCount.toNat := Int.toNat_le_toNat fewer
  rw [sequential_eq_of_means means nonnegative (ordered.trans atMostOne),
    sequential_eq_of_means greaterMeans (nonnegative.trans ordered) atMostOne,
    List.filter_map, List.filter_filter, ← filter_lt_range fewerNat, List.filter_filter]
  congr 1
  refine List.filter_congr fun index _ => ?_
  -- Of the three conditions on the right the middle one follows from the last.
  have below : index < request.count.toNat ↔ (index : Int) < request.count := by omega
  have weaker : hashRatio (Ticket.hash request.output index request.committee) ≤ value →
      hashRatio (Ticket.hash request.output index request.committee) ≤ greaterValue :=
    fun atMost => atMost.trans ordered
  rw [Bool.eq_iff_iff]
  simp only [Function.comp_apply, announcement, Announcement.isWithin, Option.any_some,
    ← hashRatio_eq, Bool.and_eq_true, decide_eq_true_eq, below]
  tauto

theorem mem_sequential_iff (means : request.difficulty.Means (.exact value))
    (nonnegative : 0 ≤ value) (atMostOne : value ≤ 1) {announcement : Announcement} :
    announcement ∈ request.sequential ↔ ∃ index : Nat, index < request.count.toNat ∧
      hashRatio (Ticket.hash request.output index request.committee) ≤ value ∧
      request.announcement (index, Ticket.hash request.output index request.committee) =
        announcement := by
  simp only [sequential_eq_of_means means nonnegative atMostOne, List.mem_map, List.mem_filter,
    List.mem_range, decide_eq_true_eq, and_assoc]

end RoundRequest

theorem Pool.round_ok_iff (pool : Pool) (arrival : Arrival) {request : RoundRequest} {value : ℚ}
    (holdsTickets : 0 ≤ request.count) (means : request.difficulty.Means (.exact value))
    (nonnegative : 0 ≤ value) (atMostOne : value ≤ 1) (lasts : request.Lasts) :
    (∃ winners, (pool.round arrival request false).1.outcome = .ok winners) ↔
      request.Writable := by
  have valid := Quantity.threshold_of_inside means nonnegative atMostOne
  have positive := pool.sizes.batch_pos
  constructor
  · rintro ⟨winners, ended⟩
    exact RoundRequest.writable_of_run positive ended
  · exact RoundRequest.run_unset_of_writable arrival positive holdsTickets valid lasts

/-- The winners of a round are those of a greater round that are within its own count and
difficulty. -/
theorem winners_restrict (pool greaterPool : Pool) (arrival greaterArrival : Arrival)
    (request : RoundRequest) {greaterCount : Int} {greaterDifficulty : Quantity}
    {greaterTimeout : Option Quantity} {value greaterValue : ℚ}
    (holdsTickets : 0 ≤ request.count) (fewer : request.count ≤ greaterCount)
    (means : request.difficulty.Means (.exact value))
    (greaterMeans : greaterDifficulty.Means (.exact greaterValue)) (nonnegative : 0 ≤ value)
    (ordered : value ≤ greaterValue) (atMostOne : greaterValue ≤ 1) :
    (request.Lasts →
      ((∃ winners, (pool.round arrival request false).1.outcome = .ok winners) ↔
        request.Writable)) ∧
    ((request.resized greaterCount greaterDifficulty greaterTimeout).Lasts →
      ((∃ greaterWinners, (greaterPool.round greaterArrival
          (request.resized greaterCount greaterDifficulty greaterTimeout) false).1.outcome =
            .ok greaterWinners) ↔
        (request.resized greaterCount greaterDifficulty greaterTimeout).Writable)) ∧
    ∀ winners greaterWinners,
      (pool.round arrival request false).1.outcome = .ok winners →
      (greaterPool.round greaterArrival
        (request.resized greaterCount greaterDifficulty greaterTimeout) false).1.outcome =
          .ok greaterWinners →
      winners.Perm (greaterWinners.filter (Announcement.isWithin request.count value)) ∧
      winners ⊆ greaterWinners ∧
      (∀ winner ∈ greaterWinners, ∃ index : Nat, index < greaterCount ∧
        hashRatio (Ticket.hash request.output index request.committee) ≤ greaterValue ∧
        winner = ⟨some ⟨Ticket.hash request.output index request.committee, index,
          request.committee⟩, some request.credential⟩) ∧
      (value = greaterValue → ∀ winner ∈ greaterWinners, ∀ index, winner.index? = some index →
        (winner ∈ winners ↔ index < request.count)) := by
  have greaterNonnegative : 0 ≤ greaterValue := nonnegative.trans ordered
  refine ⟨pool.round_ok_iff arrival holdsTickets means nonnegative (ordered.trans atMostOne),
    greaterPool.round_ok_iff greaterArrival (holdsTickets.trans fewer) greaterMeans
      greaterNonnegative atMostOne, ?_⟩
  intro winners greaterWinners ended greaterEnded
  have perm := pool.round_perm_sequential arrival request ended
  have greaterPerm := greaterPool.round_perm_sequential greaterArrival _ greaterEnded
  have restricts : winners.Perm
      (greaterWinners.filter (Announcement.isWithin request.count value)) := by
    rw [RoundRequest.sequential_restrict holdsTickets fewer means greaterMeans nonnegative ordered
      atMostOne] at perm
    exact perm.trans (greaterPerm.filter _).symm
  have ofTicket : ∀ winner ∈ greaterWinners, ∃ index : Nat, index < greaterCount ∧
      hashRatio (Ticket.hash request.output index request.committee) ≤ greaterValue ∧
      winner = ⟨some ⟨Ticket.hash request.output index request.committee, index,
        request.committee⟩, some request.credential⟩ := by
    intro winner won
    obtain ⟨index, below, wins, rfl⟩ := (RoundRequest.mem_sequential_iff greaterMeans
      greaterNonnegative atMostOne).mp (greaterPerm.mem_iff.mp won)
    exact ⟨index, Int.lt_toNat.mp below, wins, rfl⟩
  refine ⟨restricts, ?_, ofTicket, ?_⟩
  · intro winner won
    exact List.mem_of_mem_filter (restricts.subset won)
  · rintro rfl winner won index isIndex
    obtain ⟨ticket, -, wins, rfl⟩ := ofTicket winner won
    obtain rfl := Option.some.inj isIndex
    rw [hashRatio_eq] at wins
    rw [restricts.mem_iff, List.mem_filter, and_iff_right won]
    simp only [Announcement.isWithin, Option.any_some, Bool.and_eq_true, decide_eq_true_eq,
      and_iff_left wins]

theorem winners_restrict_seven_of_nine :
    ∃ winners greaterWinners,
      ((Pool.new ⟨2, 3, by decide, by decide⟩).round .backwards .sevenTickets false).1.outcome =
        .ok winners ∧
      ((Pool.new ⟨1, 4, by decide, by decide⟩).round .inOrder
        (RoundRequest.sevenTickets.resized 9 (.integer 1) none) false).1.outcome =
          .ok greaterWinners ∧
      winners.Perm (greaterWinners.filter (Announcement.isWithin 7 (1 / 2))) := by
  have half : RoundRequest.sevenTickets.difficulty.Means (.exact (1 / 2)) :=
    Quantity.value?_eq_some_iff.mp RoundRequest.sevenTickets_difficulty
  have one : (Quantity.integer 1).Means (.exact 1) := congrArg Meaning.exact Int.cast_one.symm
  have fewer : RoundRequest.sevenTickets.count ≤ 9 := by decide
  have greaterLasts : (RoundRequest.sevenTickets.resized 9 (.integer 1) none).Lasts :=
    RoundRequest.lasts_of_untimed rfl
  obtain ⟨draws, greaterDraws, restricts⟩ :=
    winners_restrict (Pool.new ⟨2, 3, by decide, by decide⟩) (Pool.new ⟨1, 4, by decide, by decide⟩)
      .backwards .inOrder .sevenTickets (by decide) fewer half one (by norm_num) (by norm_num)
      le_rfl
  obtain ⟨winners, ended⟩ := (draws RoundRequest.sevenTickets_lasts).mpr
    (RoundRequest.writable_of_small (by decide) (by decide))
  obtain ⟨greaterWinners, greaterEnded⟩ := (greaterDraws greaterLasts).mpr
    (RoundRequest.writable_of_small (by decide) (by decide))
  exact ⟨winners, greaterWinners, ended, greaterEnded, (restricts _ _ ended greaterEnded).1⟩

end StakeLottery
