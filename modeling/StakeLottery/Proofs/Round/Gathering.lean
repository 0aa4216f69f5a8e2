import Mathlib
import StakeLottery.Proofs.Lottery.Ticket
import StakeLottery.Proofs.Precedence.Steps
import StakeLottery.Round.Batch

/-!
How batches are gathered. Waits begin and finished batches are taken, one after the other, and the
first of these steps that fails is the end. If none fails the results are those of all batches.
-/

namespace StakeLottery

namespace TicketRange

theorem mem_indices {range : TicketRange} {index : Int} :
    index ∈ range.indices ↔ range.start ≤ index ∧ index < range.stop := by
  simp only [indices, List.mem_map, List.mem_range]
  constructor
  · rintro ⟨offset, small, rfl⟩
    omega
  · rintro ⟨lower, upper⟩
    exact ⟨(index - range.start).toNat, by omega, by omega⟩

end TicketRange

inductive GatherStep where
  | wait (blocks : Bool)
  | take (range : TicketRange)
  deriving DecidableEq, Repr

def Wave.steps (wave : Wave) : List GatherStep :=
  .wait wave.blocks :: wave.ranges.map .take

/-- What a step fails with. A batch that is cancelled ends at its first ticket. -/
inductive GatherStep.Fails (committee : Int) (cancelled mayBlock : Bool) :
    GatherStep → BatchError → Prop
  | waitTooLong (limited : mayBlock = false) :
      Fails committee cancelled mayBlock (.wait true) .waitTooLong
  | cancelled {range : TicketRange} (isSet : cancelled = true)
      (nonempty : range.start < range.stop) (named : Decimal.hasText range.start = true) :
      Fails committee cancelled mayBlock (.take range) (.cancelled range.start)
  | unnamed {range : TicketRange} (isSet : cancelled = true)
      (nonempty : range.start < range.stop) (unnamed : Decimal.hasText range.start = false) :
      Fails committee cancelled mayBlock (.take range) .unwritable
  | unwritable {range : TicketRange} {index : Int} (unset : cancelled = false)
      (member : index ∈ range.indices)
      (unwritten : Ticket.isWritable index committee = false) :
      Fails committee cancelled mayBlock (.take range) .unwritable

theorem BatchError.ofCancelled_eq (ticket : Int) :
    ofCancelled ticket = if Decimal.hasText ticket then .cancelled ticket else .unwritable := by
  have named : (cancelled ticket).message?.isSome = Decimal.hasText ticket := by
    rw [← Decimal.isSome_text?, message?]
    cases Decimal.text? ticket <;> rfl
  rw [ofCancelled, named]

namespace GatherStep

variable {committee : Int} {cancelled mayBlock : Bool} {range : TicketRange}

theorem fails_ofCancelled (isSet : cancelled = true) (nonempty : range.start < range.stop) :
    Fails committee cancelled mayBlock (.take range) (.ofCancelled range.start) := by
  rw [BatchError.ofCancelled_eq]
  split
  · rename_i named
    exact .cancelled isSet nonempty named
  · rename_i unnamed
    exact .unnamed isSet nonempty (Bool.eq_false_iff.mpr unnamed)

theorem not_fails_take_iff :
    (∀ error, ¬Fails committee cancelled mayBlock (.take range) error) ↔
      ¬(cancelled = true ∧ range.start < range.stop) ∧
        ∀ index ∈ range.indices, Ticket.isWritable index committee = true := by
  constructor
  · intro silent
    have unstopped : ¬(cancelled = true ∧ range.start < range.stop) :=
      fun ⟨isSet, nonempty⟩ => silent _ (fails_ofCancelled isSet nonempty)
    refine ⟨unstopped, fun index member => ?_⟩
    have nonempty : range.start < range.stop := by
      have inside := TicketRange.mem_indices.mp member
      omega
    have unset : cancelled = false := by
      rw [← Bool.not_eq_true]
      exact fun isSet => unstopped ⟨isSet, nonempty⟩
    rw [← Bool.not_eq_false]
    exact fun unwritten => silent _ (.unwritable unset member unwritten)
  · rintro ⟨unstopped, written⟩ error failed
    cases failed with
    | cancelled isSet nonempty _ => exact unstopped ⟨isSet, nonempty⟩
    | unnamed isSet nonempty _ => exact unstopped ⟨isSet, nonempty⟩
    | unwritable _ member unwritten => cases (written _ member).symm.trans unwritten

theorem not_fails_wait_iff {blocks : Bool} :
    (∀ error, ¬Fails committee cancelled mayBlock (.wait blocks) error) ↔
      (blocks && !mayBlock) = false := by
  constructor
  · intro silent
    cases blocks with
    | false => rfl
    | true =>
        rw [Bool.true_and, Bool.not_eq_false']
        exact Bool.not_eq_false _ |>.mp fun limited => silent _ (.waitTooLong limited)
  · intro proceeds error failed
    cases failed with
    | waitTooLong limited =>
        rw [limited] at proceeds
        cases proceeds

theorem fails_unique {step : GatherStep} {error other : BatchError}
    (failed : Fails committee cancelled mayBlock step error)
    (failedToo : Fails committee cancelled mayBlock step other) : error = other := by
  cases failed with
  | waitTooLong _ =>
      cases failedToo
      rfl
  | cancelled isSet _ named =>
      cases failedToo with
      | cancelled _ _ _ => rfl
      | unnamed _ _ unnamed => cases named.symm.trans unnamed
      | unwritable unset _ _ => cases isSet.symm.trans unset
  | unnamed _ _ unnamed =>
      cases failedToo with
      | cancelled _ _ named => cases named.symm.trans unnamed
      | _ => rfl
  | unwritable unset _ _ =>
      cases failedToo with
      | cancelled isSet _ _ => cases isSet.symm.trans unset
      | _ => rfl

end GatherStep

namespace Lot

variable {lot : Lot} {cancelled mayBlock : Bool} {index : Int} {indices : List Int}
  {range : TicketRange} {waves : List Wave}

def winning? (lot : Lot) (index : Int) : Option (Int × Bytes) :=
  let hash := Ticket.hash lot.output index lot.committee
  if beatsThreshold hash lot.threshold then some (index, hash) else none

theorem winner?_of_isWritable (written : Ticket.isWritable index lot.committee = true) :
    lot.winner? index = some (lot.winning? index) := by
  rw [winner?, Ticket.draw?, Ticket.hash?_of_isWritable written, winning?]
  generalize Ticket.hash lot.output index lot.committee = hash
  cases decided : beatsThreshold hash lot.threshold <;> simp [decided]

theorem winner?_of_unwritable (unwritten : Ticket.isWritable index lot.committee = false) :
    lot.winner? index = none := by
  rw [winner?, Ticket.draw?, Ticket.hash?_of_unwritable unwritten]
  rfl

theorem mapM_winner?_of_isWritable
    (written : ∀ index ∈ indices, Ticket.isWritable index lot.committee = true) :
    indices.mapM lot.winner? = some (indices.map lot.winning?) := by
  induction indices with
  | nil => rfl
  | cons index rest ih =>
      obtain ⟨writtenFirst, writtenRest⟩ := List.forall_mem_cons.mp written
      rw [List.mapM_cons, winner?_of_isWritable writtenFirst, ih writtenRest]
      rfl

theorem mapM_winner?_of_unwritable (member : index ∈ indices)
    (unwritten : Ticket.isWritable index lot.committee = false) :
    indices.mapM lot.winner? = none := by
  induction indices with
  | nil => cases member
  | cons first rest ih =>
      rw [List.mapM_cons]
      cases firstWritten : Ticket.isWritable first lot.committee with
      | false =>
          rw [winner?_of_unwritable firstWritten]
          rfl
      | true =>
          have inRest : index ∈ rest := by
            refine (List.mem_cons.mp member).resolve_left ?_
            rintro rfl
            cases firstWritten.symm.trans unwritten
          rw [winner?_of_isWritable firstWritten, ih inRest]
          rfl

def result (lot : Lot) (range : TicketRange) : BatchResult :=
  ⟨range.stop - range.start, range.indices.filterMap lot.winning?⟩

theorem draw_of_fails {error : BatchError}
    (failed : GatherStep.Fails lot.committee cancelled mayBlock (.take range) error) :
    lot.draw cancelled range = .error error := by
  cases failed with
  | cancelled isSet nonempty named =>
      rw [draw, isSet, Bool.true_and, if_pos (decide_eq_true nonempty), BatchError.ofCancelled_eq,
        if_pos named]
  | unnamed isSet nonempty unnamed =>
      rw [draw, isSet, Bool.true_and, if_pos (decide_eq_true nonempty), BatchError.ofCancelled_eq,
        if_neg (Bool.eq_false_iff.mp unnamed)]
  | unwritable unset member unwritten =>
      rw [draw, unset, mapM_winner?_of_unwritable member unwritten]
      rfl

theorem draw_of_not_fails
    (silent : ∀ error, ¬GatherStep.Fails lot.committee cancelled mayBlock (.take range) error) :
    lot.draw cancelled range = .ok (lot.result range) := by
  obtain ⟨unstopped, written⟩ := GatherStep.not_fails_take_iff.mp silent
  have proceeds : ¬(cancelled && range.start < range.stop) = true := by
    rwa [Bool.and_eq_true, decide_eq_true_eq]
  rw [draw, if_neg proceeds, mapM_winner?_of_isWritable written, result]
  simp only [List.filterMap_map, Function.id_comp]

theorem goes_draw (lot : Lot) (cancelled mayBlock : Bool) (range : TicketRange) :
    GoesThrough (GatherStep.Fails lot.committee cancelled mayBlock) id [.take range]
      (lot.draw cancelled range) := by
  by_cases silent :
      ∀ error, ¬GatherStep.Fails lot.committee cancelled mayBlock (.take range) error
  · rw [draw_of_not_fails silent]
    exact .single (fun error failed => by cases failed) fun _ _ => silent
  · obtain ⟨error, failed⟩ := not_forall_not.mp silent
    rw [draw_of_fails failed]
    refine .single (fun other failedToo => ?_) fun _ given => by cases given
    obtain rfl := Except.error.inj failedToo
    exact failed

theorem draw_eq_ok {result : BatchResult} (drawn : lot.draw cancelled range = .ok result) :
    result = lot.result range := by
  have silent := (lot.goes_draw cancelled true range).passes result drawn _ List.mem_cons_self
  rw [draw_of_not_fails silent] at drawn
  exact (Except.ok.inj drawn).symm

theorem goes_ofWave (lot : Lot) (cancelled mayBlock : Bool) (wave : Wave) :
    GoesThrough (GatherStep.Fails lot.committee cancelled mayBlock) id wave.steps
      (BatchResult.ofWave (lot.draw cancelled) mayBlock wave) := by
  have goesRanges := GoesThrough.mapM fun range (_ : range ∈ wave.ranges) =>
    lot.goes_draw cancelled mayBlock range
  rw [← List.map_eq_flatMap] at goesRanges
  cases blocked : wave.blocks && !mayBlock with
  | false =>
      rw [BatchResult.ofWave, blocked]
      exact goesRanges.after (GatherStep.not_fails_wait_iff.mpr blocked)
  | true =>
      rw [BatchResult.ofWave, blocked, Wave.steps]
      rw [Bool.and_eq_true, Bool.not_eq_true'] at blocked
      rw [blocked.1]
      exact .of_error (.waitTooLong blocked.2)

theorem goes_gather (lot : Lot) (cancelled mayBlock : Bool) (waves : List Wave) :
    GoesThrough (GatherStep.Fails lot.committee cancelled mayBlock) id (waves.flatMap Wave.steps)
      (BatchResult.gather (lot.draw cancelled) mayBlock waves) :=
  (GoesThrough.mapM fun wave _ => lot.goes_ofWave cancelled mayBlock wave).map _

theorem ofWave_eq_ok {wave : Wave} {results : List BatchResult}
    (brought : BatchResult.ofWave (lot.draw cancelled) mayBlock wave = .ok results) :
    results = wave.ranges.map lot.result := by
  unfold BatchResult.ofWave at brought
  split at brought
  · cases brought
  · exact Except.eq_map_of_mapM (fun _ _ => draw_eq_ok) brought

theorem gather_eq_ok {total : BatchResult}
    (gathered : BatchResult.gather (lot.draw cancelled) mayBlock waves = .ok total) :
    total = .concat ((waves.flatMap Wave.ranges).map lot.result) := by
  obtain ⟨results, brought, rfl⟩ := Except.map_eq_ok.mp gathered
  rw [Except.eq_map_of_mapM (fun _ _ => ofWave_eq_ok) brought, List.map_flatMap,
    List.flatMap_def]

end Lot

end StakeLottery
