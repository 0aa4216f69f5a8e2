import StakeLottery.Number.Rounding
import StakeLottery.Record.Announcement
import StakeLottery.Round.Batch

/-!
A round: all tickets of a participant are drawn, and the winning ones are announced. A round is
all or nothing; it ends in a complete list of winners or in one error.
-/

namespace StakeLottery

structure RoundRequest where
  output : Bytes
  count : Int
  committee : Int
  difficulty : Quantity
  credential : Credential
  timeout : Option Quantity
  deriving DecidableEq, Repr

inductive RoundError where
  | negativeCount (count : Int)
  | difficulty (error : DifficultyError)
  | deadlineTooLarge
  | timedOut (timeout : Quantity) (pending : Nat)
  | batch (error : BatchError)
  | lostTickets (drawn count : Int)
  deriving DecidableEq, Repr

def RoundError.message? : RoundError → Option String
  | negativeCount count => do
    let given ← Decimal.text? count
    return s!"Ticket count must be non-negative, got {given}"
  | difficulty error => error.message?
  | deadlineTooLarge => some "Timeout has no floating point value"
  | timedOut timeout pending => do
    let seconds ← timeout.text?
    return s!"Sortition round exceeded {seconds}s with {pending} batches pending"
  | batch error => error.message?
  | lostTickets drawn count => do
    let found ← Decimal.text? drawn
    let expected ← Decimal.text? count
    return s!"Sortition drew {found} tickets, expected {expected}"

structure RoundEnd where
  outcome : Except RoundError (List Announcement)
  workersUsed : Bool
  tokenSet : Bool

/-- The waves in which finished batches arrive. Each batch arrives once, and no wave is empty. -/
structure Arrival where
  waves : List TicketRange → List Wave
  complete : ∀ ranges, ((waves ranges).flatMap Wave.ranges).Perm ranges
  nonempty : ∀ ranges, ∀ wave ∈ waves ranges, wave.ranges ≠ []

def Arrival.inOrder : Arrival where
  waves ranges := ranges.map fun range => ⟨[range], true⟩
  complete ranges := by
    rw [List.flatMap_map, List.flatMap_singleton']
  nonempty ranges wave member := by
    obtain ⟨range, -, rfl⟩ := List.mem_map.mp member
    exact List.cons_ne_nil range []

def waitLimit : Nat := 9223372036

namespace Quantity

def isTimeSpan : Quantity → Bool
  | integer value => (Binary64.ofQuotient (value < 0) value.natAbs 1).isFinite
  | real _ => true

def exceedsWait : Quantity → Bool
  | integer value => (waitLimit : Int) < value
  | real value =>
    match value.value? with
    | some exact => (waitLimit : Rat) < exact
    | none => value.isInfinite && !value.isNegative

end Quantity

namespace RoundRequest

def announcement (request : RoundRequest) (winner : Int × Bytes) : Announcement where
  selection := some ⟨winner.2, winner.1, request.committee⟩
  credential := some request.credential

def lot (request : RoundRequest) (threshold : Int) : Lot :=
  ⟨request.output, request.committee, threshold⟩

def mayBlock (request : RoundRequest) : Bool :=
  request.timeout.all fun timeout => !timeout.exceedsWait

def collect (request : RoundRequest) (threshold : Int) (waves : List Wave) (tokenSet : Bool) :
    RoundEnd :=
  match BatchResult.gather ((request.lot threshold).draw tokenSet) request.mayBlock waves with
  | .error error => ⟨.error (.batch error), true, true⟩
  | .ok total =>
    if total.drawn = request.count then
      ⟨.ok (total.winners.map request.announcement), true, tokenSet⟩
    else ⟨.error (.lostTickets total.drawn request.count), true, tokenSet⟩

/-- A timeout of zero or less has expired before any batch is gathered, and then the token is set to
stop the workers. Beside any other timeout a round takes no time. -/
def drawTickets (request : RoundRequest) (batchSize : Nat) (arrival : Arrival) (threshold : Int)
    (tokenSet : Bool) : RoundEnd :=
  let ranges := TicketRange.cover request.count.toNat batchSize
  match request.timeout with
  | none => request.collect threshold (arrival.waves ranges) tokenSet
  | some timeout =>
    if !timeout.isTimeSpan then ⟨.error .deadlineTooLarge, false, tokenSet⟩
    else if timeout.isNonPositive then ⟨.error (.timedOut timeout ranges.length), true, true⟩
    else request.collect threshold (arrival.waves ranges) tokenSet

/-- Runs a round. The count and the difficulty are checked before anything else; without tickets
nothing is drawn, and neither the token nor the timeout is looked at. -/
def run (request : RoundRequest) (batchSize : Nat) (arrival : Arrival) (tokenSet : Bool) :
    RoundEnd :=
  if request.count < 0 then ⟨.error (.negativeCount request.count), false, tokenSet⟩
  else
    match request.difficulty.threshold with
    | .error error => ⟨.error (.difficulty error), false, tokenSet⟩
    | .ok threshold =>
      if request.count = 0 then ⟨.ok [], false, tokenSet⟩
      else request.drawTickets batchSize arrival threshold tokenSet

end RoundRequest

end StakeLottery
