import Mathlib
import StakeLottery.Proofs.Round.Registry

/-!
Shared pools that were forgotten. A shutdown of the shared pools stops those that are shared at that
time. One that was shared before an earlier shutdown and then started again by a round runs on until
it is shut down by itself.
-/

namespace StakeLottery

/-- At some place of a history there is an event that stands in a relation to the events before it
and to those since. -/
def Occurs {Event : Type} (what : List Event → Event → List Event → Prop)
    (history : List Event) : Prop :=
  ∃ before event since, history = before ++ event :: since ∧ what before event since

section

variable {Event : Type} {what : List Event → Event → List Event → Prop}
  {history : List Event} {last : Event}

theorem not_occurs_nil : ¬Occurs what [] := by
  rintro ⟨before, event, since, split, -⟩
  cases (List.append_eq_nil_iff.mp split.symm).2

theorem occurs_append {happens : List Event → Event → Prop}
    (occurs : Occurs (fun before event _ => happens before event) history) (later : List Event) :
    Occurs (fun before event _ => happens before event) (history ++ later) := by
  obtain ⟨before, event, since, rfl, holds⟩ := occurs
  exact ⟨before, event, since ++ later, by simp, holds⟩

theorem occurs_concat :
    Occurs what (history ++ [last]) ↔
      what history last [] ∨
        Occurs (fun before event since => what before event (since ++ [last])) history := by
  constructor
  · rintro ⟨before, event, since, split, holds⟩
    rcases List.eq_nil_or_concat' since with rfl | ⟨earlier, final, rfl⟩
    · obtain ⟨rfl, same⟩ := List.append_inj' split rfl
      cases same
      exact .inl holds
    · rw [← List.cons_append, ← List.append_assoc] at split
      obtain ⟨rfl, same⟩ := List.append_inj' split rfl
      cases same
      exact .inr ⟨before, event, earlier, rfl, holds⟩
  · rintro (holds | ⟨before, event, since, rfl, holds⟩)
    · exact ⟨history, last, [], rfl, holds⟩
    · exact ⟨before, event, since ++ [last], by simp, holds⟩

end

def RoundRequest.StartsWorkers (request : RoundRequest) : Prop :=
  request.HasDraws ∧ ∀ timeout, request.timeout = some timeout → timeout.isTimeSpan = true

theorem RoundRequest.workersUsed_iff_startsWorkers {batchSize : Nat} (positive : 0 < batchSize)
    (request : RoundRequest) (arrival : Arrival) (tokenSet : Bool) :
    (request.run batchSize arrival tokenSet).workersUsed = true ↔ request.StartsWorkers := by
  rw [run_workersUsed_iff _ positive, StartsWorkers]
  refine and_congr_right fun draws => ⟨fun inTime timeout given => ?_, fun spans ended => ?_⟩
  · rw [← Bool.not_eq_false]
    intro tooLarge
    obtain ⟨someTickets, threshold, valid⟩ := hasDraws_iff.mp draws
    rw [run_deadlineTooLarge someTickets valid given tooLarge] at inTime
    exact inTime rfl
  · obtain ⟨timeout, given, tooLarge⟩ := exists_timeout_of_deadlineTooLarge positive ended
    cases tooLarge.symm.trans (spans timeout given)

namespace PoolRegistry

variable {registry : PoolRegistry} {arrival : Arrival} {command : PoolCommand}
  {number : Nat} {pool : Pool} {history : List (Arrival × PoolCommand)}
  {last : Arrival × PoolCommand}

def StartsWorkersOf (number : Nat) (command : PoolCommand) : Prop :=
  ∃ request tokenSet, command = .round number request tokenSet ∧ request.StartsWorkers

theorem not_startsWorkersOf_shutdownShared : ¬StartsWorkersOf number .shutdownShared := by
  rintro ⟨request, tokenSet, same, -⟩
  cases same

theorem running_apply_iff (held : registry.pools[number]? = some pool) (arrival : Arrival)
    (command : PoolCommand) :
    ∃ later, (registry.apply arrival command).2.pools[number]? = some later ∧
      (later.running = true ↔
        (pool.running = true ∧ command ≠ .shutdown number ∧
          ¬(command = .shutdownShared ∧ registry.Registered number)) ∨
        StartsWorkersOf number command) := by
  refine ⟨_, pools_apply held, ?_⟩
  cases command with
  | round named request tokenSet =>
      by_cases same : named = number
      · simp [operation?, same, StartsWorkersOf, Pool.apply, Pool.round,
          RoundRequest.workersUsed_iff_startsWorkers pool.sizes.batch_pos]
      · simp [operation?, same, StartsWorkersOf]
  | shutdown named =>
      by_cases same : named = number <;>
        simp [operation?, same, StartsWorkersOf, Pool.apply, Pool.shutdown]
  | shutdownShared =>
      by_cases registered : registry.Registered number <;>
        simp [operation?, registered, StartsWorkersOf, Pool.apply, Pool.shutdown]
  | _ => simp [operation?, StartsWorkersOf]

def SharedIn (number : Nat) : List (Arrival × PoolCommand) → Prop :=
  Occurs fun before event _ => event.2.sharedSizes?.isSome ∧ Gives before event number

/-- The shared pools were shut down after the pool of a number was one of them. -/
def ForgottenIn (number : Nat) : List (Arrival × PoolCommand) → Prop :=
  Occurs fun before event _ => event.2 = .shutdownShared ∧ SharedIn number before

/-- A round started the workers of a forgotten pool, and the pool was not shut down since. -/
def RevivedIn (number : Nat) : List (Arrival × PoolCommand) → Prop :=
  Occurs fun before event since => StartsWorkersOf number event.2 ∧ ForgottenIn number before ∧
    ∀ later ∈ since, later.2 ≠ .shutdown number

theorem sharedIn_concat :
    SharedIn number (history ++ [last]) ↔
      (last.2.sharedSizes?.isSome ∧ Gives history last number) ∨ SharedIn number history :=
  occurs_concat

theorem forgottenIn_concat :
    ForgottenIn number (history ++ [last]) ↔
      (last.2 = .shutdownShared ∧ SharedIn number history) ∨ ForgottenIn number history :=
  occurs_concat

theorem revivedIn_concat :
    RevivedIn number (history ++ [last]) ↔
      (StartsWorkersOf number last.2 ∧ ForgottenIn number history) ∨
        (RevivedIn number history ∧ last.2 ≠ .shutdown number) := by
  refine occurs_concat.trans (or_congr ?_ ?_)
  · simp
  · constructor
    · rintro ⟨before, event, since, split, starts, forgotten, kept⟩
      refine ⟨⟨before, event, since, split, starts, forgotten, ?_⟩, ?_⟩
      · exact fun later member => kept later (List.mem_append_left [last] member)
      · exact kept last (List.mem_append_right since List.mem_cons_self)
    · rintro ⟨⟨before, event, since, split, starts, forgotten, kept⟩, lastKept⟩
      refine ⟨before, event, since, split, starts, forgotten, ?_⟩
      intro later member
      rcases List.mem_append.mp member with earlier | final
      · exact kept later earlier
      · obtain rfl := List.mem_singleton.mp final
        exact lastKept

theorem forgottenIn_of_revivedIn (revived : RevivedIn number history) :
    ForgottenIn number history := by
  obtain ⟨before, event, since, rfl, -, forgotten, -⟩ := revived
  exact occurs_append forgotten (event :: since)

theorem sharedIn_of_forgottenIn (forgotten : ForgottenIn number history) :
    SharedIn number history := by
  obtain ⟨before, event, since, rfl, -, shared⟩ := forgotten
  exact occurs_append shared (event :: since)

theorem Keyed.registered_of_asked (keyed : registry.Keyed)
    (asked : command.sharedSizes?.isSome)
    (answered : (registry.apply arrival command).1 = .pool number) :
    (∃ pool, (registry.apply arrival command).2.pools[number]? = some pool) ∧
      (registry.apply arrival command).2.Registered number := by
  obtain ⟨sizes, asked⟩ := Option.isSome_iff_exists.mp asked
  rw [apply_of_sharedSizes? asked, answer_snd] at *
  obtain rfl := share_fst_of_answer answered
  obtain ⟨pool, held, -⟩ := keyed.exists_pool_share sizes
  exact ⟨⟨pool, held⟩, _, mem_of_lookup (lookup_share registry sizes), rfl⟩

theorem Keyed.registered_apply_iff (keyed : registry.Keyed)
    (made : number < registry.pools.length) (kept : command ≠ .shutdownShared) :
    (registry.apply arrival command).2.Registered number ↔ registry.Registered number := by
  constructor
  · contrapose
    intro unregistered
    exact (Unshared.apply ⟨made, unregistered⟩ arrival command).unregistered
  · rintro ⟨⟨sizes, _⟩, member, rfl⟩
    have known := lookup_apply arrival (keyed.lookup_eq_some_iff.mpr member) kept
    exact ⟨_, mem_of_lookup known, rfl⟩

theorem exists_pool_of_sharedIn (shared : SharedIn number history) :
    ∃ pool, (ofHistory history).pools[number]? = some pool := by
  induction history using List.reverseRecOn with
  | nil => exact absurd shared not_occurs_nil
  | append_singleton earlier last ih =>
      rw [ofHistory_concat]
      rcases sharedIn_concat.mp shared with ⟨asked, gives⟩ | before
      · exact ((keyed_ofHistory earlier).registered_of_asked asked gives).1
      · obtain ⟨pool, held⟩ := ih before
        exact ⟨_, pools_apply held⟩

theorem registered_iff (shared : SharedIn number history) :
    (ofHistory history).Registered number ↔ ¬ForgottenIn number history := by
  induction history using List.reverseRecOn with
  | nil => exact absurd shared not_occurs_nil
  | append_singleton earlier last ih =>
      have keyed := keyed_ofHistory earlier
      rw [ofHistory_concat, forgottenIn_concat]
      by_cases before : SharedIn number earlier
      · by_cases forgets : last.2 = .shutdownShared
        · rw [forgets]
          refine iff_of_false ?_ (not_not_intro (.inl ⟨rfl, before⟩))
          rintro ⟨_, member, -⟩
          exact absurd member List.not_mem_nil
        · obtain ⟨pool, held⟩ := exists_pool_of_sharedIn before
          have made := (List.getElem?_eq_some_iff.mp held).1
          rw [keyed.registered_apply_iff made forgets, ih before]
          simp only [forgets, false_and, false_or]
      · obtain ⟨asked, gives⟩ := (sharedIn_concat.mp shared).resolve_right before
        refine iff_of_true (keyed.registered_of_asked asked gives).2 ?_
        rintro (⟨forgets, -⟩ | forgotten)
        · rw [forgets] at asked
          cases asked
        · exact before (sharedIn_of_forgottenIn forgotten)

theorem running_of_forgottenIn (forgotten : ForgottenIn number history) :
    ∃ pool, (ofHistory history).pools[number]? = some pool ∧
      (pool.running = true ↔ RevivedIn number history) := by
  induction history using List.reverseRecOn with
  | nil => exact absurd forgotten not_occurs_nil
  | append_singleton earlier last ih =>
      rw [ofHistory_concat]
      by_cases before : ForgottenIn number earlier
      · have unregistered : ¬(ofHistory earlier).Registered number := fun registered =>
          (registered_iff (sharedIn_of_forgottenIn before)).mp registered before
        obtain ⟨pool, held, runs⟩ := ih before
        obtain ⟨later, heldLater, runsLater⟩ := running_apply_iff held last.1 last.2
        refine ⟨later, heldLater, ?_⟩
        rw [runsLater, runs, revivedIn_concat]
        simp only [unregistered, before, and_false, not_false_eq_true, and_true]
        exact or_comm
      · -- The last event forgets the pool, and so it shuts it down.
        obtain ⟨forgets, shared⟩ := (forgottenIn_concat.mp forgotten).resolve_right before
        have registered := (registered_iff shared).mpr before
        obtain ⟨pool, held⟩ := exists_pool_of_sharedIn shared
        obtain ⟨later, heldLater, runsLater⟩ := running_apply_iff held last.1 last.2
        have unrevived : ¬RevivedIn number earlier := fun revived =>
          before (forgottenIn_of_revivedIn revived)
        refine ⟨later, heldLater, ?_⟩
        rw [runsLater, revivedIn_concat]
        simp [forgets, registered, before, unrevived, not_startsWorkersOf_shutdownShared]

/-- Right after the shared pools are shut down, one that was ever shared is running exactly if it
was forgotten before, then started again, and not shut down by itself since. -/
theorem runs_after_shutdownShared_iff (history : List (Arrival × PoolCommand))
    (arrival : Arrival) {number : Nat} (shared : SharedIn number history) :
    ∃ pool, (ofHistory (history ++ [(arrival, .shutdownShared)])).pools[number]? = some pool ∧
      (pool.running = true ↔ RevivedIn number history) := by
  have forgotten : ForgottenIn number (history ++ [(arrival, .shutdownShared)]) :=
    forgottenIn_concat.mpr (.inl ⟨rfl, shared⟩)
  obtain ⟨pool, held, runs⟩ := running_of_forgottenIn forgotten
  refine ⟨pool, held, runs.trans (revivedIn_concat.trans ?_)⟩
  simp [not_startsWorkersOf_shutdownShared]

def revival : List (Arrival × PoolCommand) :=
  [(.inOrder, .share 1 1), (.inOrder, .shutdownShared),
    (.inOrder, .round 0 .sevenTickets false)]

theorem gives_first_pool : Gives [] (.inOrder, .share 1 1) 0 := by
  have answered : ((ofHistory []).answer ⟨1, 1, by decide, by decide⟩).1 = .pool 0 := by
    rw [answer_fst, if_pos (.inr (by decide +kernel))]
    rfl
  exact answered

theorem sharedIn_revival : SharedIn 0 revival :=
  ⟨[], (.inOrder, .share 1 1), _, rfl, rfl, gives_first_pool⟩

theorem forgotten_pool_runs_on :
    SharedIn 0 revival ∧
    ((ofHistory (revival ++ [(Arrival.inOrder, PoolCommand.shutdownShared)])).pools[0]?.map
      Pool.running = some true) :=
  ⟨sharedIn_revival, by decide +kernel⟩

theorem revivedIn_revival : RevivedIn 0 revival := by
  have drawn : RoundRequest.sevenTickets.HasDraws :=
    ⟨by decide, 1 / 2, RoundRequest.sevenTickets_difficulty, by norm_num, by norm_num⟩
  have starts : RoundRequest.sevenTickets.StartsWorkers := ⟨drawn, fun _ absent => nomatch absent⟩
  have shared : SharedIn 0 [(.inOrder, .share 1 1)] := ⟨[], _, [], rfl, rfl, gives_first_pool⟩
  have forgotten : ForgottenIn 0 [(.inOrder, .share 1 1), (.inOrder, .shutdownShared)] :=
    ⟨[(.inOrder, .share 1 1)], (.inOrder, .shutdownShared), [], rfl, rfl, shared⟩
  exact ⟨_, (.inOrder, .round 0 .sevenTickets false), [], rfl,
    ⟨.sevenTickets, false, rfl, starts⟩, forgotten, fun _ member => nomatch member⟩

theorem runs_after_shutdownShared_iff_revival :
    (∃ pool, (ofHistory (revival ++ [(Arrival.inOrder,
      PoolCommand.shutdownShared)])).pools[0]? = some pool ∧ pool.running = true) ∧
    ∃ pool, (ofHistory (revival ++ [(Arrival.inOrder, PoolCommand.shutdown 0)] ++
      [(Arrival.inOrder, PoolCommand.shutdownShared)])).pools[0]? = some pool ∧
        ¬pool.running = true := by
  constructor
  · obtain ⟨pool, held, runs⟩ := runs_after_shutdownShared_iff revival .inOrder sharedIn_revival
    exact ⟨pool, held, runs.mpr revivedIn_revival⟩
  · have shared : SharedIn 0 (revival ++ [(Arrival.inOrder, PoolCommand.shutdown 0)]) :=
      sharedIn_concat.mpr (.inr sharedIn_revival)
    obtain ⟨pool, held, runs⟩ := runs_after_shutdownShared_iff _ .inOrder shared
    refine ⟨pool, held, fun running => ?_⟩
    rcases revivedIn_concat.mp (runs.mp running) with ⟨⟨_, _, same, -⟩, -⟩ | ⟨-, kept⟩
    · cases same
    · exact kept rfl

end PoolRegistry

end StakeLottery
