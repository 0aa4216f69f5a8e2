import StakeLottery.Curve.Point

/-!
Multiples of points in Jacobian coordinates, where (X, Y, Z) stands for the point with
coordinates X/Z^2 and Y/Z^3, and for infinity where Z is zero. Sums need no division there, so a
multiple costs a single inversion, at the end.
-/

namespace StakeLottery.Curve

structure Jacobian where
  x : Fp
  y : Fp
  z : Fp

namespace Jacobian

def infinity : Jacobian := ⟨1, 1, 0⟩

def toPoint (point : Jacobian) : Point :=
  if point.z = 0 then .infinity
  else
    let inverse := Fp.inverse point.z
    let square := inverse * inverse
    .affine (point.x * square) (point.y * square * inverse)

def double (point : Jacobian) : Jacobian :=
  let ySquare := point.y * point.y
  let chord := 4 * point.x * ySquare
  let slope := 3 * point.x * point.x
  let x := slope * slope - 2 * chord
  ⟨x, slope * (chord - x) - 8 * ySquare * ySquare, 2 * point.y * point.z⟩

def addAffine (point : Jacobian) (x y : Fp) : Jacobian :=
  if point.z = 0 then ⟨x, y, 1⟩
  else
    let zSquare := point.z * point.z
    let xDifference := x * zSquare - point.x
    let yDifference := y * zSquare * point.z - point.y
    if xDifference = 0 then
      if yDifference = 0 then double point else infinity
    else
      let square := xDifference * xDifference
      let cube := xDifference * square
      let chord := point.x * square
      let sumX := yDifference * yDifference - cube - 2 * chord
      ⟨sumX, yDifference * (chord - sumX) - point.y * cube, point.z * xDifference⟩

end Jacobian

def Point.times (multiplier : Nat) : Point → Point
  | .infinity => .infinity
  | .affine x y =>
    (doubleAndAdd Jacobian.double (fun point => point.addAffine x y) Jacobian.infinity
      multiplier).toPoint

end StakeLottery.Curve
