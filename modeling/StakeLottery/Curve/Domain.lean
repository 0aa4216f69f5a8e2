import StakeLottery.Bytes.Basic
import StakeLottery.Number.DoubleAndAdd

/-!
Curves of y^2 = x^3 + ax + b over the integers modulo a prime, given by their domain parameters.
Multiples of the generator are computed in Jacobian coordinates, where (X, Y, Z) stands for the
point with coordinates X/Z^2 and Y/Z^3, and for infinity where Z is zero.
-/

namespace StakeLottery.Curve

structure Domain where
  prime : Nat
  a : Nat
  b : Nat
  generatorX : Nat
  generatorY : Nat
  order : Nat
  deriving DecidableEq, Repr

namespace Domain

def bytesBelow (bound : Nat) : Nat :=
  (bound.log2 + 8) / 8

def coordinateLength (domain : Domain) : Nat :=
  bytesBelow domain.prime

def scalarLength (domain : Domain) : Nat :=
  bytesBelow domain.order

structure Coordinates where
  x : Int
  y : Int
  z : Int

def reduce (domain : Domain) (value : Int) : Int :=
  value % domain.prime

def double (domain : Domain) (point : Coordinates) : Coordinates :=
  let ySquare := domain.reduce (point.y * point.y)
  let zSquare := domain.reduce (point.z * point.z)
  let chord := domain.reduce (4 * point.x * ySquare)
  let slope := domain.reduce (3 * point.x * point.x + domain.a * zSquare * zSquare)
  let x := domain.reduce (slope * slope - 2 * chord)
  ⟨x, domain.reduce (slope * (chord - x) - 8 * ySquare * ySquare),
    domain.reduce (2 * point.y * point.z)⟩

def addGenerator (domain : Domain) (point : Coordinates) : Coordinates :=
  if point.z = 0 then ⟨domain.generatorX, domain.generatorY, 1⟩
  else
    let zSquare := domain.reduce (point.z * point.z)
    let xDifference := domain.reduce (domain.generatorX * zSquare - point.x)
    let yDifference := domain.reduce (domain.generatorY * zSquare * point.z - point.y)
    if xDifference = 0 then
      if yDifference = 0 then domain.double point else ⟨1, 1, 0⟩
    else
      let square := domain.reduce (xDifference * xDifference)
      let cube := domain.reduce (xDifference * square)
      let chord := domain.reduce (point.x * square)
      let x := domain.reduce (yDifference * yDifference - cube - 2 * chord)
      ⟨x, domain.reduce (yDifference * (chord - x) - point.y * cube),
        domain.reduce (point.z * xDifference)⟩

def inverse (domain : Domain) (value : Int) : Int :=
  doubleAndAdd (fun power => domain.reduce (power * power))
    (fun power => domain.reduce (power * value)) 1 (domain.prime - 2)

def multiple? (domain : Domain) (multiplier : Nat) : Option (Nat × Nat) :=
  let point := doubleAndAdd domain.double domain.addGenerator ⟨1, 1, 0⟩ multiplier
  if point.z = 0 then none
  else
    let inverse := domain.inverse point.z
    let square := domain.reduce (inverse * inverse)
    some ((domain.reduce (point.x * square)).toNat,
      (domain.reduce (point.y * square * inverse)).toNat)

/-- The three forms of a point: compressed, uncompressed, and with both the parity and the second
coordinate. -/
def pointForms (domain : Domain) (x y : Nat) : List Bytes :=
  let xBytes := Bytes.ofNat domain.coordinateLength x
  let yBytes := Bytes.ofNat domain.coordinateLength y
  let parity := if y % 2 = 1 then 1 else 0
  [(2 + parity) :: xBytes, 4 :: (xBytes ++ yBytes), (6 + parity) :: (xBytes ++ yBytes)]

def publicForms (domain : Domain) (scalar : Nat) : List Bytes :=
  match domain.multiple? scalar with
  | some (x, y) => domain.pointForms x y
  | none => []

end Domain

end StakeLottery.Curve
