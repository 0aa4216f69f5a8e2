import Mathlib
import StakeLottery.Curve.Jacobian
import StakeLottery.Proofs.Curve.Group

/-!
Multiples computed in Jacobian coordinates are the multiples in the group. Doubling and adding an
affine point do on coordinates what the group law does on the points they stand for.
-/

namespace StakeLottery.Curve

open scoped Fp

namespace Jacobian

theorem two_ne_zero : (2 : Fp) ≠ 0 := by decide

theorem toPoint_of_zero {point : Jacobian} (zero : point.z = 0) : point.toPoint = .infinity := by
  rw [toPoint, if_pos zero]

theorem toPoint_of_ne_zero {point : Jacobian} (nonzero : point.z ≠ 0) :
    point.toPoint = .affine (point.x * point.z⁻¹ ^ 2) (point.y * point.z⁻¹ ^ 3) := by
  simp only [toPoint, if_neg nonzero, Fp.inverse_eq, Point.affine.injEq]
  constructor <;> ring

theorem toPoint_double (point : Jacobian) :
    (double point).toPoint = point.toPoint.add point.toPoint := by
  by_cases zero : point.z = 0
  · have doubleZero : (double point).z = 0 := by simp only [double, zero, mul_zero]
    rw [toPoint_of_zero zero, toPoint_of_zero doubleZero, Point.add]
  rw [toPoint_of_ne_zero zero]
  simp only [Point.add, if_true]
  by_cases flat : point.y = 0
  · have doubleZero : (double point).z = 0 := by simp only [double, flat, mul_zero, zero_mul]
    rw [toPoint_of_zero doubleZero, flat, zero_mul, neg_zero, if_pos rfl]
  · have doubleNonzero : (double point).z ≠ 0 := by
      simpa only [double] using mul_ne_zero (mul_ne_zero two_ne_zero flat) zero
    have notOpposite : point.y * point.z⁻¹ ^ 3 ≠ -(point.y * point.z⁻¹ ^ 3) := by
      rw [Ne, eq_neg_iff_add_eq_zero, ← two_mul]
      exact mul_ne_zero two_ne_zero (mul_ne_zero flat (pow_ne_zero 3 (inv_ne_zero zero)))
    rw [if_neg notOpposite, toPoint_of_ne_zero doubleNonzero]
    simp only [Point.alongSlope, double, Fp.inverse_eq, Point.affine.injEq]
    have two := two_ne_zero
    constructor
    · field_simp
      ring
    · field_simp
      ring

theorem exists_scaled {point : Jacobian} (nonzero : point.z ≠ 0) :
    ∃ x y, point.toPoint = .affine x y ∧ point.x = x * point.z ^ 2 ∧ point.y = y * point.z ^ 3 := by
  refine ⟨_, _, toPoint_of_ne_zero nonzero, ?_, ?_⟩
  · field_simp
  · field_simp

theorem toPoint_infinity : infinity.toPoint = .infinity :=
  toPoint_of_zero rfl

theorem eq_neg_of_ne {x y₁ y₂ : Fp} (first : (Point.affine x y₁).onCurve = true)
    (second : (Point.affine x y₂).onCurve = true) (different : y₁ ≠ y₂) : y₁ = -y₂ := by
  have squares : y₁ * y₁ = y₂ * y₂ :=
    (of_decide_eq_true first).trans (of_decide_eq_true second).symm
  exact (mul_self_eq_mul_self_iff.mp squares).resolve_left different

theorem toPoint_chord {x₁ y₁ x₂ y₂ z : Fp} (nonzero : z ≠ 0) (different : x₁ ≠ x₂) :
    let xDifference := (x₂ - x₁) * z ^ 2
    let yDifference := (y₂ - y₁) * z ^ 3
    let square := xDifference * xDifference
    let cube := xDifference * square
    let chord := x₁ * z ^ 2 * square
    let sumX := yDifference * yDifference - cube - 2 * chord
    toPoint ⟨sumX, yDifference * (chord - sumX) - y₁ * z ^ 3 * cube, z * xDifference⟩ =
      Point.alongSlope ((y₁ - y₂) * Fp.inverse (x₁ - x₂)) x₁ y₁ x₂ := by
  intro xDifference yDifference square cube chord sumX
  have forward : x₁ - x₂ ≠ 0 := sub_ne_zero.mpr different
  have backward : x₂ - x₁ ≠ 0 := sub_ne_zero.mpr different.symm
  have sumNonzero : z * xDifference ≠ 0 :=
    mul_ne_zero nonzero (mul_ne_zero backward (pow_ne_zero 2 nonzero))
  have slope : (y₁ - y₂) * Fp.inverse (x₁ - x₂) = (y₂ - y₁) * (x₂ - x₁)⁻¹ := by
    rw [Fp.inverse_eq, ← neg_sub x₂ x₁, inv_neg]
    ring
  rw [toPoint_of_ne_zero sumNonzero, slope]
  simp only [Point.alongSlope, Point.affine.injEq]
  simp only [sumX, chord, cube, square, xDifference, yDifference]
  constructor
  · field_simp
    ring
  · field_simp
    ring

theorem toPoint_addAffine {point : Jacobian} {x y : Fp} (on : point.toPoint.onCurve = true)
    (onToo : (Point.affine x y).onCurve = true) :
    (point.addAffine x y).toPoint = point.toPoint.add (.affine x y) := by
  by_cases zero : point.z = 0
  · have one : (1 : Fp) ≠ 0 := by decide
    rw [addAffine, if_pos zero, toPoint_of_zero zero, toPoint_of_ne_zero one, Point.add]
    simp only [inv_one, one_pow, mul_one]
  obtain ⟨x₁, y₁, first, xScaled, yScaled⟩ := exists_scaled zero
  have xDifference : x * (point.z * point.z) - point.x = (x - x₁) * point.z ^ 2 := by
    rw [xScaled]
    ring
  have yDifference : y * (point.z * point.z) * point.z - point.y = (y - y₁) * point.z ^ 3 := by
    rw [yScaled]
    ring
  simp only [addAffine, if_neg zero, xDifference, yDifference]
  rw [first] at on
  by_cases sameX : x₁ = x
  · subst sameX
    simp only [sub_self, zero_mul, if_true]
    by_cases sameY : y₁ = y
    · subst sameY
      simp only [sub_self, zero_mul, if_true]
      rw [toPoint_double, first]
    · have opposite := eq_neg_of_ne on onToo sameY
      have notZero : (y - y₁) * point.z ^ 3 ≠ 0 :=
        mul_ne_zero (sub_ne_zero.mpr (Ne.symm sameY)) (pow_ne_zero 3 zero)
      rw [if_neg notZero, toPoint_infinity, first, Point.add, if_pos rfl, if_pos opposite]
  · have notZero : (x - x₁) * point.z ^ 2 ≠ 0 :=
      mul_ne_zero (sub_ne_zero.mpr (Ne.symm sameX)) (pow_ne_zero 2 zero)
    rw [if_neg notZero, first, Point.add, if_neg sameX, ← toPoint_chord zero sameX, xScaled,
      yScaled]

end Jacobian

namespace Point

theorem ofGroup_nsmul (count : Nat) (element : Group) :
    ofGroup (count • element) = (ofGroup element).times count := by
  cases element with
  | zero => exact congrArg ofGroup (nsmul_zero count)
  | some x y nonsingular =>
      refine (doubleAndAdd_holds
        (fun count (point : Jacobian) =>
          point.toPoint = ofGroup (count • (.some x y nonsingular : Group)))
        ?_ ?_ ?_ count).symm
      · rw [zero_nsmul]
        exact Jacobian.toPoint_infinity
      · intro count point holds
        rw [Jacobian.toPoint_double, holds, two_mul, add_nsmul, ofGroup_add]
      · intro count point holds
        have on := onCurve_ofGroup (count • (.some x y nonsingular : Group))
        have onToo := onCurve_ofGroup (.some x y nonsingular)
        rw [← holds] at on
        rw [Jacobian.toPoint_addAffine on onToo, holds, succ_nsmul, ofGroup_add]
        rfl

end Point

end StakeLottery.Curve
