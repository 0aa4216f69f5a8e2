import StakeLottery.Number.Shortest

/-!
Quantities that come either as an integer or as a floating point number: difficulties and
timeouts. They are compared by their exact values.
-/

namespace StakeLottery

inductive Quantity where
  | integer (value : Int)
  | real (value : Binary64)
  deriving DecidableEq, Repr

namespace Quantity

def isNaN : Quantity → Bool
  | integer _ => false
  | real value => value.isNaN

def value? : Quantity → Option Rat
  | integer value => some value
  | real value => value.value?

/-- Whether the quantity is at most zero. Minus infinity is, and what is not a number is not. -/
def isNonPositive : Quantity → Bool
  | integer value => value ≤ 0
  | real value =>
    match value.value? with
    | some exact => exact ≤ 0
    | none => value.isInfinite && value.isNegative

def text? : Quantity → Option String
  | integer value => Decimal.text? value
  | real value => some value.render

end Quantity

end StakeLottery
