import StakeLottery.Lottery.Ticket

/-!
Batches of tickets. A round's tickets are cut into ranges of consecutive indices; each range is
drawn by itself, and the finished ones are gathered in waves, one for each wait.
-/

namespace StakeLottery

structure TicketRange where
  start : Int
  stop : Int
  deriving DecidableEq, Repr

namespace TicketRange

def indices (range : TicketRange) : List Int :=
  (List.range (range.stop - range.start).toNat).map fun (offset : Nat) => range.start + offset

def cover (count size : Nat) : List TicketRange :=
  (List.range ((count + size - 1) / size)).map fun place =>
    ⟨(place * size : Nat), (min (place * size + size) count : Nat)⟩

end TicketRange

structure Lot where
  output : Bytes
  committee : Int
  threshold : Int
  deriving DecidableEq, Repr

structure BatchResult where
  drawn : Int
  winners : List (Int × Bytes)
  deriving DecidableEq, Repr

/-- Why batches are not gathered: a draw was cancelled at a ticket, an integer of a ticket has no
text, or a wait would block for more seconds than it may. -/
inductive BatchError where
  | cancelled (ticket : Int)
  | unwritable
  | waitTooLong
  deriving DecidableEq, Repr

namespace BatchError

def message? : BatchError → Option String
  | cancelled ticket => do
    let index ← Decimal.text? ticket
    return s!"Sortition cancelled at ticket {index}"
  | unwritable => none
  | waitTooLong => some "Timeout is too large for a wait"

def ofCancelled (ticket : Int) : BatchError :=
  if (cancelled ticket).message?.isSome then .cancelled ticket else .unwritable

end BatchError

namespace Lot

def winner? (lot : Lot) (index : Int) : Option (Option (Int × Bytes)) := do
  let drawn ← Ticket.draw? lot.output index lot.committee lot.threshold
  return drawn.map fun hash => (index, hash)

/-- Draws a range of tickets, unless one of them cannot be written. Where the round's cancel token
is set the draw ends at its first ticket. -/
def draw (lot : Lot) (cancelled : Bool) (range : TicketRange) : Except BatchError BatchResult :=
  if cancelled && range.start < range.stop then .error (.ofCancelled range.start)
  else
    match range.indices.mapM lot.winner? with
    | some drawn => .ok ⟨range.stop - range.start, drawn.filterMap id⟩
    | none => .error .unwritable

end Lot

/-- The batches that one wait brings in. The wait blocks if none of them was finished before. -/
structure Wave where
  ranges : List TicketRange
  blocks : Bool
  deriving DecidableEq, Repr

namespace BatchResult

def concat (results : List BatchResult) : BatchResult :=
  ⟨results.foldl (fun total result => total + result.drawn) 0,
    results.flatMap BatchResult.winners⟩

def ofWave (draw : TicketRange → Except BatchError BatchResult) (mayBlock : Bool) (wave : Wave) :
    Except BatchError (List BatchResult) :=
  if wave.blocks && !mayBlock then .error .waitTooLong else wave.ranges.mapM draw

def gather (draw : TicketRange → Except BatchError BatchResult) (mayBlock : Bool)
    (waves : List Wave) : Except BatchError BatchResult :=
  (waves.mapM (ofWave draw mayBlock)).map fun results => concat results.flatten

end BatchResult

end StakeLottery
