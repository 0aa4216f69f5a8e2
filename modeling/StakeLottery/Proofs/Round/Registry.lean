import Mathlib
import StakeLottery.Proofs.Round.Lifecycle

/-!
The registry of pools. Whatever is asked of it, a shared pool has the sizes that it is found under,
and two requests are answered with one pool if they ask for the same sizes and the shared pools are
not shut down between them.
-/

namespace StakeLottery

theorem PoolSizes.ofInts_ok_iff {workers batch : Int} {sizes : PoolSizes} :
    ofInts workers batch = .ok sizes ↔ sizes.workers = workers ∧ sizes.batch = batch := by
  obtain ⟨_, _, workersPositive, batchPositive⟩ := sizes
  unfold ofInts
  split
  · split
    · simp only [Except.ok.injEq, PoolSizes.mk.injEq]
      omega
    · simp only [reduceCtorEq, false_iff]
      omega
  · simp only [reduceCtorEq, false_iff]
    omega

theorem PoolSizes.ofInts_error_iff {workers batch : Int} {error : SizeError} :
    ofInts workers batch = .error error ↔
      (workers < 1 ∧ error = .workers workers) ∨
        (1 ≤ workers ∧ batch < 1 ∧ error = .batch batch) := by
  unfold ofInts
  split
  · split
    · simp only [reduceCtorEq, false_iff]
      omega
    · rename_i workersPositive batchPositive
      have below : batch < 1 := by omega
      have atLeast : 1 ≤ workers := workersPositive
      simp [below, atLeast, Int.not_lt.mpr atLeast, eq_comm]
  · rename_i notPositive
    have below : workers < 1 := by omega
    simp [below, Int.not_le.mpr below, eq_comm]

def PoolCommand.sharedSizes? : PoolCommand → Option PoolSizes
  | .share workers batch => (PoolSizes.ofInts workers batch).toOption
  | .enlist sizes => some sizes
  | _ => none

theorem PoolCommand.sharedSizes?_share {workers batch : Int} {sizes : PoolSizes} :
    (PoolCommand.share workers batch).sharedSizes? = some sizes ↔
      sizes.workers = workers ∧ sizes.batch = batch := by
  rw [← PoolSizes.ofInts_ok_iff, sharedSizes?]
  cases PoolSizes.ofInts workers batch <;> simp [Except.toOption]

namespace PoolRegistry

variable {registry : PoolRegistry} {arrival : Arrival} {command : PoolCommand}
  {sizes : PoolSizes} {number : Nat} {pool : Pool}

def ofHistory (history : List (Arrival × PoolCommand)) : PoolRegistry :=
  empty.applyAll history

theorem ofHistory_append (history later : List (Arrival × PoolCommand)) :
    ofHistory (history ++ later) = (ofHistory history).applyAll later :=
  List.foldl_append

theorem ofHistory_concat (history : List (Arrival × PoolCommand))
    (event : Arrival × PoolCommand) :
    ofHistory (history ++ [event]) = ((ofHistory history).apply event.1 event.2).2 :=
  ofHistory_append history [event]

/-! Requests for a shared pool. -/

theorem share_of_known (known : registry.shared.lookup sizes = some number) :
    registry.share sizes = (number, registry) := by
  rw [share, known]

theorem share_of_unknown (unknown : registry.shared.lookup sizes = none) :
    registry.share sizes =
      (registry.pools.length,
        ⟨registry.pools ++ [Pool.new sizes],
          registry.shared ++ [(sizes, registry.pools.length)]⟩) := by
  rw [share, unknown]
  rfl

theorem answer_snd (registry : PoolRegistry) (sizes : PoolSizes) :
    (registry.answer sizes).2 = (registry.share sizes).2 := by
  simp only [answer]
  split <;> rfl

theorem answer_fst (registry : PoolRegistry) (sizes : PoolSizes) :
    (registry.answer sizes).1 =
      if (registry.shared.lookup sizes).isSome ∨ sizes.isWritable then
        .pool (registry.share sizes).1
      else .unwritable := by
  simp only [answer, Bool.or_eq_true]
  split <;> rfl

theorem answer_of_known (known : registry.shared.lookup sizes = some number) :
    registry.answer sizes = (.pool number, registry) := by
  simp only [answer, share_of_known known, known, Option.isSome_some, Bool.true_or, if_true]

theorem share_fst_of_answer (answered : (registry.answer sizes).1 = .pool number) :
    (registry.share sizes).1 = number := by
  rw [answer_fst] at answered
  split at answered
  · exact PoolAnswer.pool.inj answered
  · cases answered

theorem apply_of_sharedSizes? (asked : command.sharedSizes? = some sizes) :
    registry.apply arrival command = registry.answer sizes := by
  cases command with
  | share workers batch =>
      have given := PoolSizes.ofInts_ok_iff.mpr (PoolCommand.sharedSizes?_share.mp asked)
      simp only [apply, given]
  | enlist _ =>
      obtain rfl := Option.some.inj asked
      rfl
  | _ => cases asked

theorem mem_of_lookup (known : registry.shared.lookup sizes = some number) :
    (sizes, number) ∈ registry.shared := by
  obtain ⟨before, after, split, -⟩ := List.lookup_eq_some_iff.mp known
  rw [split]
  exact List.mem_append_right before List.mem_cons_self

theorem lookup_share (registry : PoolRegistry) (sizes : PoolSizes) :
    (registry.share sizes).2.shared.lookup sizes = some (registry.share sizes).1 := by
  cases known : registry.shared.lookup sizes with
  | some number => rw [share_of_known known, known]
  | none => simp [share_of_unknown known, List.lookup_append, known]

theorem shared_apply_of_unasked (registry : PoolRegistry) (arrival : Arrival)
    (unasked : command.sharedSizes? = none) (kept : command ≠ .shutdownShared) :
    (registry.apply arrival command).2.shared = registry.shared := by
  cases command with
  | create workers batch =>
      simp only [apply]
      split <;> rfl
  | share workers batch =>
      simp only [apply]
      split
      · rfl
      · rename_i sizes given
        rw [PoolCommand.sharedSizes?, given] at unasked
        cases unasked
  | enlist _ => cases unasked
  | round _ _ _ =>
      simp only [apply]
      split <;> rfl
  | shutdown _ =>
      simp only [apply]
      split <;> rfl
  | shutdownShared => exact absurd rfl kept

theorem lookup_apply (arrival : Arrival) (known : registry.shared.lookup sizes = some number)
    (kept : command ≠ .shutdownShared) :
    (registry.apply arrival command).2.shared.lookup sizes = some number := by
  cases asked : command.sharedSizes? with
  | none => rwa [shared_apply_of_unasked registry arrival asked kept]
  | some others =>
      rw [apply_of_sharedSizes? asked, answer_snd]
      cases found : registry.shared.lookup others with
      | some other => rwa [share_of_known found]
      | none => simp [share_of_unknown found, List.lookup_append, known]

theorem lookup_applyAll {between : List (Arrival × PoolCommand)}
    (known : registry.shared.lookup sizes = some number)
    (kept : ∀ event ∈ between, event.2 ≠ .shutdownShared) :
    (registry.applyAll between).shared.lookup sizes = some number := by
  induction between generalizing registry with
  | nil => exact known
  | cons event rest ih =>
      have first := lookup_apply event.1 known (kept event List.mem_cons_self)
      exact ih first fun later member => kept later (List.mem_cons_of_mem event member)

/-! What a command does to the pools that there are. -/

def Registered (registry : PoolRegistry) (number : Nat) : Prop :=
  ∃ entry ∈ registry.shared, entry.2 = number

instance (registry : PoolRegistry) (number : Nat) : Decidable (registry.Registered number) :=
  inferInstanceAs (Decidable (∃ entry ∈ registry.shared, entry.2 = number))

def operation? (registry : PoolRegistry) (number : Nat) (arrival : Arrival) :
    PoolCommand → Option PoolOperation
  | .round named request tokenSet =>
    if named = number then some (.round arrival request tokenSet) else none
  | .shutdown named => if named = number then some .shutdown else none
  | .shutdownShared => if registry.Registered number then some .shutdown else none
  | _ => none

theorem pools_create (held : registry.pools[number]? = some pool) :
    (registry.create sizes).2.pools[number]? = some pool := by
  obtain ⟨made, -⟩ := List.getElem?_eq_some_iff.mp held
  exact (List.getElem?_append_left made).trans held

theorem pools_share (held : registry.pools[number]? = some pool) (sizes : PoolSizes) :
    (registry.share sizes).2.pools[number]? = some pool := by
  cases known : registry.shared.lookup sizes with
  | some other => rwa [share_of_known known]
  | none =>
      rw [share_of_unknown known]
      exact pools_create held

theorem pools_modify (registry : PoolRegistry) (named number : Nat) (change : Pool → Pool) :
    (registry.modify named change).pools[number]? =
      registry.pools[number]?.map fun pool => if named = number then change pool else pool :=
  List.getElem?_modify change named registry.pools number

/-- However often a pool is listed, it is shut down once and for all. -/
theorem pools_foldl_shutdown (entries : List (PoolSizes × Nat)) (registry : PoolRegistry)
    (number : Nat) :
    (entries.foldl (fun registry entry => registry.modify entry.2 Pool.shutdown)
        registry).pools[number]? =
      registry.pools[number]?.map fun pool =>
        if ∃ entry ∈ entries, entry.2 = number then pool.shutdown else pool := by
  induction entries generalizing registry with
  | nil => simp
  | cons entry rest ih =>
      rw [List.foldl_cons, ih, pools_modify, Option.map_map]
      refine congrArg (registry.pools[number]?.map ·) (funext fun pool => ?_)
      by_cases first : entry.2 = number <;>
        by_cases later : ∃ other ∈ rest, other.2 = number <;>
        simp [first, later, Pool.shutdown]

theorem pools_shutdownShared (registry : PoolRegistry) (number : Nat) :
    registry.shutdownShared.pools[number]? =
      registry.pools[number]?.map fun pool =>
        if registry.Registered number then pool.shutdown else pool :=
  pools_foldl_shutdown registry.shared registry number

theorem pools_apply (held : registry.pools[number]? = some pool) :
    (registry.apply arrival command).2.pools[number]? =
      some ((registry.operation? number arrival command).elim pool pool.apply) := by
  cases command with
  | create workers batch =>
      simp only [apply]
      split
      · exact held
      · exact pools_create held
  | share workers batch =>
      simp only [apply]
      split
      · exact held
      · rw [answer_snd]
        exact pools_share held _
  | enlist sizes =>
      simp only [apply, answer_snd]
      exact pools_share held _
  | round named request tokenSet =>
      by_cases same : named = number
      · subst same
        simp [apply, operation?, held, pools_modify, Pool.apply]
      · simp only [apply, operation?, same, if_false, Option.elim_none]
        split
        · exact held
        · simp [pools_modify, same, held]
  | shutdown named =>
      by_cases same : named = number
      · subst same
        simp [apply, operation?, held, pools_modify, Pool.apply]
      · simp only [apply, operation?, same, if_false, Option.elim_none]
        split
        · exact held
        · simp [pools_modify, same, held]
  | shutdownShared =>
      change registry.shutdownShared.pools[number]? = _
      rw [pools_shutdownShared, held, Option.map_some, operation?]
      split <;> rfl

theorem exists_pool_apply (held : registry.pools[number]? = some pool) (arrival : Arrival)
    (command : PoolCommand) :
    ∃ later, (registry.apply arrival command).2.pools[number]? = some later ∧
      later.sizes = pool.sizes := by
  refine ⟨_, pools_apply held, ?_⟩
  cases registry.operation? number arrival command with
  | none => rfl
  | some operation => exact pool.apply_sizes operation

theorem exists_pool_applyAll (held : registry.pools[number]? = some pool)
    (history : List (Arrival × PoolCommand)) :
    ∃ later, (registry.applyAll history).pools[number]? = some later ∧
      later.sizes = pool.sizes := by
  induction history generalizing registry pool with
  | nil => exact ⟨pool, held, rfl⟩
  | cons event rest ih =>
      obtain ⟨next, heldNext, sameSizes⟩ := exists_pool_apply held event.1 event.2
      obtain ⟨later, heldLater, sameSizesLater⟩ := ih heldNext
      exact ⟨later, heldLater, sameSizesLater.trans sameSizes⟩

/-! Shared pools have the sizes that they are found under. -/

structure Keyed (registry : PoolRegistry) : Prop where
  sized : ∀ entry ∈ registry.shared,
    ∃ pool, registry.pools[entry.2]? = some pool ∧ pool.sizes = entry.1
  distinct : (registry.shared.map Prod.fst).Nodup

theorem Keyed.lookup_eq_some_iff (keyed : registry.Keyed) :
    registry.shared.lookup sizes = some number ↔ (sizes, number) ∈ registry.shared := by
  refine ⟨mem_of_lookup, fun member => ?_⟩
  obtain ⟨before, after, split⟩ := List.append_of_mem member
  have distinct := keyed.distinct
  rw [split, List.map_append, List.nodup_append] at distinct
  refine List.lookup_eq_some_iff.mpr ⟨before, after, split, fun entry earlier => ?_⟩
  rw [bne_iff_ne]
  exact (distinct.2.2 entry.1 (List.mem_map_of_mem earlier) sizes List.mem_cons_self).symm

theorem Keyed.share (keyed : registry.Keyed) (sizes : PoolSizes) :
    (registry.share sizes).2.Keyed := by
  cases known : registry.shared.lookup sizes with
  | some number => rwa [share_of_known known]
  | none =>
      rw [share_of_unknown known]
      constructor
      · intro entry member
        rcases List.mem_append.mp member with earlier | new
        · obtain ⟨pool, held, sized⟩ := keyed.sized entry earlier
          exact ⟨pool, pools_create held, sized⟩
        · obtain rfl := List.mem_singleton.mp new
          exact ⟨Pool.new sizes, List.getElem?_concat_length, rfl⟩
      · rw [List.map_append, List.nodup_append]
        refine ⟨keyed.distinct, List.nodup_singleton sizes, ?_⟩
        rintro _ earlier _ new rfl
        obtain ⟨entry, member, same⟩ := List.mem_map.mp earlier
        have other := List.lookup_eq_none_iff.mp known entry member
        rw [bne_iff_ne] at other
        exact other ((List.mem_singleton.mp new).symm.trans same.symm)

theorem Keyed.exists_pool_share (keyed : registry.Keyed) (sizes : PoolSizes) :
    ∃ pool, (registry.share sizes).2.pools[(registry.share sizes).1]? = some pool ∧
      pool.sizes = sizes :=
  (keyed.share sizes).sized _ (mem_of_lookup (lookup_share registry sizes))

theorem Keyed.apply (keyed : registry.Keyed) (arrival : Arrival) (command : PoolCommand) :
    (registry.apply arrival command).2.Keyed := by
  cases asked : command.sharedSizes? with
  | some sizes =>
      rw [apply_of_sharedSizes? asked, answer_snd]
      exact keyed.share sizes
  | none =>
      by_cases forgets : command = .shutdownShared
      · subst forgets
        exact ⟨fun _ member => absurd member List.not_mem_nil, List.nodup_nil⟩
      have same := shared_apply_of_unasked registry arrival asked forgets
      refine ⟨?_, same ▸ keyed.distinct⟩
      rw [same]
      intro entry member
      obtain ⟨pool, held, sized⟩ := keyed.sized entry member
      obtain ⟨later, heldLater, sameSizes⟩ := exists_pool_apply held arrival command
      exact ⟨later, heldLater, sameSizes.trans sized⟩

theorem Keyed.applyAll (keyed : registry.Keyed) (history : List (Arrival × PoolCommand)) :
    (registry.applyAll history).Keyed := by
  induction history generalizing registry with
  | nil => exact keyed
  | cons event rest ih => exact ih (keyed.apply event.1 event.2)

theorem keyed_empty : empty.Keyed where
  sized _ member := absurd member List.not_mem_nil
  distinct := List.nodup_nil

theorem keyed_ofHistory (history : List (Arrival × PoolCommand)) : (ofHistory history).Keyed :=
  keyed_empty.applyAll history

/-! A pool that is no longer shared is never shared again. -/

/-- A pool was made, and it is not shared now. -/
structure Unshared (registry : PoolRegistry) (number : Nat) : Prop where
  made : number < registry.pools.length
  unregistered : ¬registry.Registered number

theorem made_apply (made : number < registry.pools.length) (arrival : Arrival)
    (command : PoolCommand) :
    number < (registry.apply arrival command).2.pools.length := by
  obtain ⟨later, held, -⟩ := exists_pool_apply (List.getElem?_eq_getElem made) arrival command
  exact (List.getElem?_eq_some_iff.mp held).1

theorem unshared_shutdownShared (made : number < registry.pools.length) (arrival : Arrival) :
    (registry.apply arrival .shutdownShared).2.Unshared number where
  made := made_apply made arrival _
  unregistered := fun ⟨_, member, _⟩ => absurd member List.not_mem_nil

theorem Unshared.share (unshared : registry.Unshared number) (sizes : PoolSizes) :
    (registry.share sizes).1 ≠ number ∧ ¬(registry.share sizes).2.Registered number := by
  cases known : registry.shared.lookup sizes with
  | some other =>
      rw [share_of_known known]
      refine ⟨?_, unshared.unregistered⟩
      rintro rfl
      exact unshared.unregistered ⟨(sizes, other), mem_of_lookup known, rfl⟩
  | none =>
      rw [share_of_unknown known]
      have fresh : registry.pools.length ≠ number := unshared.made.ne'
      refine ⟨fresh, ?_⟩
      rintro ⟨entry, member, named⟩
      rcases List.mem_append.mp member with earlier | new
      · exact unshared.unregistered ⟨entry, earlier, named⟩
      · obtain rfl := List.mem_singleton.mp new
        exact fresh named

theorem Unshared.apply (unshared : registry.Unshared number) (arrival : Arrival)
    (command : PoolCommand) : (registry.apply arrival command).2.Unshared number := by
  refine ⟨made_apply unshared.made arrival command, ?_⟩
  cases asked : command.sharedSizes? with
  | some sizes =>
      rw [apply_of_sharedSizes? asked, answer_snd]
      exact (unshared.share sizes).2
  | none =>
      by_cases forgets : command = .shutdownShared
      · subst forgets
        exact (unshared_shutdownShared unshared.made arrival).unregistered
      · rw [Registered, shared_apply_of_unasked registry arrival asked forgets]
        exact unshared.unregistered

theorem Unshared.applyAll (unshared : registry.Unshared number)
    (history : List (Arrival × PoolCommand)) : (registry.applyAll history).Unshared number := by
  induction history generalizing registry with
  | nil => exact unshared
  | cons event rest ih => exact ih (unshared.apply event.1 event.2)

section

variable {between : List (Arrival × PoolCommand)} {otherSizes : PoolSizes}

theorem Keyed.sizes_eq_of_share_eq (keyed : registry.Keyed)
    (same : (((registry.share sizes).2.applyAll between).share otherSizes).1 =
      (registry.share sizes).1) : sizes = otherSizes := by
  obtain ⟨pool, held, sized⟩ := keyed.exists_pool_share sizes
  obtain ⟨kept, heldKept, sizedKept⟩ := exists_pool_applyAll held between
  obtain ⟨later, heldLater, sizedLater⟩ :=
    ((keyed.share sizes).applyAll between).exists_pool_share otherSizes
  rw [same, pools_share heldKept otherSizes] at heldLater
  cases heldLater
  exact sized.symm.trans (sizedKept.symm.trans sizedLater)

theorem Keyed.kept_of_share_eq (keyed : registry.Keyed)
    (same : (((registry.share sizes).2.applyAll between).share otherSizes).1 =
      (registry.share sizes).1) : ∀ event ∈ between, event.2 ≠ .shutdownShared := by
  rintro ⟨arrival, _⟩ inside rfl
  obtain ⟨before, after, rfl⟩ := List.append_of_mem inside
  obtain ⟨pool, held, -⟩ := keyed.exists_pool_share sizes
  obtain ⟨beforehand, heldBefore, -⟩ := exists_pool_applyAll held before
  have made := (List.getElem?_eq_some_iff.mp heldBefore).1
  have unshared := (unshared_shutdownShared made arrival).applyAll after
  have split : (registry.share sizes).2.applyAll (before ++ (arrival, .shutdownShared) :: after) =
      (((registry.share sizes).2.applyAll before).apply arrival .shutdownShared).2.applyAll
        after :=
    List.foldl_append
  rw [split] at same
  exact (unshared.share otherSizes).1 same

theorem share_same_iff (keyed : registry.Keyed) :
    (((registry.share sizes).2.applyAll between).share otherSizes).1 =
        (registry.share sizes).1 ↔
      sizes = otherSizes ∧ ∀ event ∈ between, event.2 ≠ .shutdownShared := by
  constructor
  · intro same
    exact ⟨keyed.sizes_eq_of_share_eq same, keyed.kept_of_share_eq same⟩
  · rintro ⟨rfl, kept⟩
    rw [share_of_known (lookup_applyAll (lookup_share registry sizes) kept)]

end

/-- After a history, an event is answered with the pool of a number. -/
def Gives (history : List (Arrival × PoolCommand)) (event : Arrival × PoolCommand)
    (number : Nat) : Prop :=
  ((ofHistory history).apply event.1 event.2).1 = .pool number

theorem apply_share (registry : PoolRegistry) (arrival : Arrival) (sizes : PoolSizes) :
    registry.apply arrival (.share sizes.workers sizes.batch) = registry.answer sizes :=
  apply_of_sharedSizes? (PoolCommand.sharedSizes?_share.mpr ⟨rfl, rfl⟩)

theorem apply_share_refused {workers batch : Int} {error : SizeError}
    (refused : PoolSizes.ofInts workers batch = .error error) :
    registry.apply arrival (.share workers batch) = (.refused error, registry) := by
  simp only [apply, refused]

theorem exists_sizes_of_gives {history : List (Arrival × PoolCommand)} {workers batch : Int}
    (gives : Gives history (arrival, .share workers batch) number) :
    ∃ sizes : PoolSizes, sizes.workers = workers ∧ sizes.batch = batch ∧
      ((ofHistory history).share sizes).1 = number := by
  cases given : PoolSizes.ofInts workers batch with
  | error error =>
      rw [Gives, apply_share_refused given] at gives
      cases gives
  | ok sizes =>
      obtain ⟨rfl, rfl⟩ := PoolSizes.ofInts_ok_iff.mp given
      rw [Gives, apply_share] at gives
      exact ⟨sizes, rfl, rfl, share_fst_of_answer gives⟩

theorem ofHistory_share (history between : List (Arrival × PoolCommand)) (arrival : Arrival)
    (sizes : PoolSizes) :
    ofHistory (history ++ (arrival, .share sizes.workers sizes.batch) :: between) =
      ((ofHistory history).share sizes).2.applyAll between := by
  rw [ofHistory_append, ← answer_snd]
  exact congrArg (fun answered : PoolAnswer × PoolRegistry => answered.2.applyAll between)
    (apply_share _ arrival sizes)

theorem gives_same_iff (history between : List (Arrival × PoolCommand)) (first second : Arrival)
    (workers batch otherWorkers otherBatch : Int) :
    (∃ number, Gives history (first, .share workers batch) number ∧
        Gives (history ++ (first, .share workers batch) :: between)
          (second, .share otherWorkers otherBatch) number) ↔
      (∃ number, Gives history (first, .share workers batch) number) ∧
      (∃ number, Gives (history ++ (first, .share workers batch) :: between)
        (second, .share otherWorkers otherBatch) number) ∧
      workers = otherWorkers ∧ batch = otherBatch ∧
        ∀ event ∈ between, event.2 ≠ .shutdownShared := by
  constructor
  · rintro ⟨number, gives, givesAgain⟩
    obtain ⟨sizes, rfl, rfl, answered⟩ := exists_sizes_of_gives gives
    obtain ⟨otherSizes, rfl, rfl, answeredAgain⟩ := exists_sizes_of_gives givesAgain
    rw [ofHistory_share] at answeredAgain
    obtain ⟨rfl, kept⟩ := (share_same_iff (keyed_ofHistory history)).mp
      (answeredAgain.trans answered.symm)
    exact ⟨⟨number, gives⟩, ⟨number, givesAgain⟩, rfl, rfl, kept⟩
  · rintro ⟨⟨number, gives⟩, -, rfl, rfl, kept⟩
    obtain ⟨sizes, rfl, rfl, rfl⟩ := exists_sizes_of_gives gives
    have known := lookup_applyAll (lookup_share (ofHistory history) sizes) kept
    refine ⟨_, gives, ?_⟩
    rw [Gives, apply_share, ofHistory_share, answer_of_known known]

/-- Whatever was asked of a registry, two requests are given one pool exactly if both are given one,
for the same sizes, and the shared pools were not shut down between them. -/
theorem shared_pools_found_by_sizes (history : List (Arrival × PoolCommand)) :
    (ofHistory history).Keyed ∧
    (∀ (between : List (Arrival × PoolCommand)) (first second : Arrival)
      (workers batch otherWorkers otherBatch : Int),
      (∃ number, Gives history (first, .share workers batch) number ∧
          Gives (history ++ (first, .share workers batch) :: between)
            (second, .share otherWorkers otherBatch) number) ↔
        (∃ number, Gives history (first, .share workers batch) number) ∧
        (∃ number, Gives (history ++ (first, .share workers batch) :: between)
          (second, .share otherWorkers otherBatch) number) ∧
        workers = otherWorkers ∧ batch = otherBatch ∧
          ∀ event ∈ between, event.2 ≠ .shutdownShared) ∧
    (∀ (arrival : Arrival) (workers batch : Int),
      (workers < 1 → (ofHistory history).apply arrival (.share workers batch) =
        (.refused (.workers workers), ofHistory history)) ∧
      (1 ≤ workers → batch < 1 → (ofHistory history).apply arrival (.share workers batch) =
        (.refused (.batch batch), ofHistory history)) ∧
      (1 ≤ workers → 1 ≤ batch → ∃ (sizes : PoolSizes) (number : Nat) (pool : Pool),
        sizes.workers = workers ∧ sizes.batch = batch ∧
        ((ofHistory history).apply arrival (.share workers batch)).1 =
          (if ((ofHistory history).shared.lookup sizes).isSome ∨ sizes.isWritable then .pool number
          else .unwritable) ∧
        (sizes, number) ∈ (ofHistory (history ++ [(arrival, .share workers batch)])).shared ∧
        (ofHistory (history ++ [(arrival, .share workers batch)])).pools[number]? = some pool ∧
        pool.sizes = sizes)) ∧
    (∀ (arrival : Arrival) (sizes : PoolSizes),
      (ofHistory history).apply arrival (.enlist sizes) =
        (ofHistory history).apply arrival (.share sizes.workers sizes.batch)) ∧
    ∀ (sizes : PoolSizes) (number : Nat), (sizes, number) ∈ (ofHistory history).shared →
      ∀ between : List (Arrival × PoolCommand),
        (∀ event ∈ between, event.2 ≠ .shutdownShared) → ∀ arrival : Arrival,
          (ofHistory (history ++ between)).apply arrival (.share sizes.workers sizes.batch) =
            (.pool number, ofHistory (history ++ between)) := by
  have keyed := keyed_ofHistory history
  refine ⟨keyed, gives_same_iff history, ?_, ?_, ?_⟩
  · intro arrival workers batch
    refine ⟨?_, ?_, ?_⟩
    · intro noWorkers
      exact apply_share_refused (PoolSizes.ofInts_error_iff.mpr (.inl ⟨noWorkers, rfl⟩))
    · intro someWorkers noBatch
      exact apply_share_refused
        (PoolSizes.ofInts_error_iff.mpr (.inr ⟨someWorkers, noBatch, rfl⟩))
    · intro someWorkers someBatch
      obtain ⟨sizes, rfl, rfl⟩ : ∃ sizes : PoolSizes,
          sizes.workers = workers ∧ sizes.batch = batch :=
        ⟨⟨workers.toNat, batch.toNat, by omega, by omega⟩, by simp; omega, by simp; omega⟩
      have known := lookup_share (ofHistory history) sizes
      obtain ⟨pool, held, sized⟩ := keyed.exists_pool_share sizes
      refine ⟨sizes, ((ofHistory history).share sizes).1, pool, rfl, rfl, ?_, ?_, ?_, sized⟩
      · rw [apply_share, answer_fst]
      · rw [ofHistory_share]
        exact mem_of_lookup known
      · rw [ofHistory_share]
        exact held
  · intro arrival sizes
    rw [apply_share]
    rfl
  · intro sizes number member between kept arrival
    have known := lookup_applyAll (keyed.lookup_eq_some_iff.mpr member) kept
    rw [apply_share, ofHistory_append, answer_of_known known]

def interlude : List (Arrival × PoolCommand) :=
  [(.inOrder, .round 0 .sevenTickets false), (.inOrder, .shutdown 0),
    (.inOrder, .enlist ⟨2, 5, by decide, by decide⟩)]

theorem shared_pools_found_by_sizes_interlude :
    (∃ number, Gives [] (.inOrder, .share 2 5) number ∧
      Gives ((.inOrder, .share 2 5) :: interlude) (.inOrder, .share 2 5) number) ∧
    (¬∃ number, Gives [] (.inOrder, .share 2 5) number ∧
      Gives ((.inOrder, .share 2 5) :: (interlude ++ [(Arrival.inOrder,
        PoolCommand.shutdownShared)])) (.inOrder, .share 2 5) number) ∧
    Gives ((.inOrder, .share 2 5) :: interlude) (.inOrder, .share 2 5) 0 ∧
    (ofHistory interlude).apply .inOrder (.share 2 0) =
      (.refused (.batch 0), ofHistory interlude) := by
  obtain ⟨-, same, given, -, -⟩ := shared_pools_found_by_sizes []
  obtain ⟨-, -, givenAgain, -, -⟩ :=
    shared_pools_found_by_sizes ((.inOrder, .share 2 5) :: interlude)
  obtain ⟨-, -, -, -, known⟩ := shared_pools_found_by_sizes [(.inOrder, .share 2 5)]
  obtain ⟨-, -, refused, -, -⟩ := shared_pools_found_by_sizes interlude
  have written : ∀ sizes : PoolSizes, (sizes.workers : Int) = 2 → (sizes.batch : Int) = 5 →
      sizes.isWritable = true := by
    intro sizes two five
    rw [PoolSizes.isWritable, two, five]
    decide +kernel
  obtain ⟨sizes, number, -, two, five, gives, -⟩ :=
    (given .inOrder 2 5).2.2 (by decide) (by decide)
  obtain ⟨others, numberAgain, -, twoAgain, fiveAgain, givesAgain, -⟩ :=
    (givenAgain .inOrder 2 5).2.2 (by decide) (by decide)
  rw [if_pos (.inr (written sizes two five))] at gives
  rw [if_pos (.inr (written others twoAgain fiveAgain))] at givesAgain
  have kept : ∀ event ∈ interlude, event.2 ≠ .shutdownShared := by simp [interlude]
  refine ⟨?_, ?_, ?_, (refused .inOrder 2 0).2.1 (by decide) (by decide)⟩
  · exact (same interlude .inOrder .inOrder 2 5 2 5).mpr
      ⟨⟨number, gives⟩, ⟨numberAgain, givesAgain⟩, rfl, rfl, kept⟩
  · intro shared
    let forgotten : Arrival × PoolCommand := (.inOrder, .shutdownShared)
    obtain ⟨-, -, -, -, unforgotten⟩ :=
      (same (interlude ++ [forgotten]) .inOrder .inOrder 2 5 2 5).mp shared
    exact unforgotten forgotten (List.mem_append_right interlude List.mem_cons_self) rfl
  · have answered := known ⟨2, 5, by decide, by decide⟩ 0 (by decide +kernel) interlude kept
      .inOrder
    exact congrArg Prod.fst answered

end PoolRegistry

end StakeLottery
