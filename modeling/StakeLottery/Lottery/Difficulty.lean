import StakeLottery.Bytes.Basic
import StakeLottery.Number.Quantity

/-!
Difficulties: the probability with which one ticket wins. A hash, as a fraction of the hash space,
wins when it does not exceed the difficulty. In integers that is a comparison with a threshold.
-/

namespace StakeLottery

/-- Why a difficulty is refused. One out of range is named in the message, and an integer that has
no text ends the refusal itself. -/
inductive DifficultyError where
  | notANumber
  | outOfRange (difficulty : Quantity)
  | unwritable
  deriving DecidableEq, Repr

namespace DifficultyError

def message? : DifficultyError → Option String
  | notANumber => some "Difficulty is NaN"
  | outOfRange difficulty => do
    let given ← difficulty.text?
    return s!"Difficulty must be in [0, 1], got {given}"
  | unwritable => none

def ofOutside (difficulty : Quantity) : DifficultyError :=
  if difficulty.text?.isSome then .outOfRange difficulty else .unwritable

end DifficultyError

def hashSpace : Nat := Bytes.capacity 32

def hashRatio (hash : Bytes) : Rat :=
  mkRat hash.toNat hashSpace

/-- The largest hash that wins at a difficulty, as a number: the difficulty's exact value times the
hash space, rounded down. -/
def Quantity.threshold (difficulty : Quantity) : Except DifficultyError Int :=
  if difficulty.isNaN then .error .notANumber
  else
    match difficulty.value? with
    | some value =>
      if 0 ≤ value ∧ value ≤ 1 then .ok (value * (hashSpace : Rat)).floor
      else .error (.ofOutside difficulty)
    | none => .error (.ofOutside difficulty)

def beatsThreshold (hash : Bytes) (threshold : Int) : Bool :=
  (hash.toNat : Int) ≤ threshold

def wins (hash : Bytes) (difficulty : Quantity) : Except DifficultyError Bool := do
  let threshold ← difficulty.threshold
  return beatsThreshold hash threshold

end StakeLottery
