import Mathlib
import StakeLottery.Curve.Point
import StakeLottery.Proofs.Curve.Field

/-!
The points of the curve are a commutative group under the sum by chord and tangent. The group is
that of the general theory of Weierstrass curves, whose elements are the points on the curve.
-/

namespace StakeLottery.Curve

open scoped Fp

def weierstrass : WeierstrassCurve.Affine Fp where
  a₁ := 0
  a₂ := 0
  a₃ := 0
  a₄ := 0
  a₆ := 7

abbrev Group := weierstrass.Point

theorem equation_iff (x y : Fp) : weierstrass.Equation x y ↔ y * y = cubic x := by
  rw [WeierstrassCurve.Affine.equation_iff]
  simp only [weierstrass, cubic, zero_mul, add_zero]
  ring_nf

theorem discriminant_ne_zero : weierstrass.Δ ≠ 0 := by
  simp only [weierstrass, WeierstrassCurve.Δ, WeierstrassCurve.b₂, WeierstrassCurve.b₄,
    WeierstrassCurve.b₆]
  decide

theorem nonsingular_iff (x y : Fp) : weierstrass.Nonsingular x y ↔ y * y = cubic x := by
  rw [← WeierstrassCurve.Affine.equation_iff_nonsingular_of_Δ_ne_zero discriminant_ne_zero,
    equation_iff]

theorem negY_eq (x y : Fp) : weierstrass.negY x y = -y := by
  simp [WeierstrassCurve.Affine.negY, weierstrass]

theorem addX_eq (x₁ x₂ slope : Fp) :
    weierstrass.addX x₁ x₂ slope = slope * slope - x₁ - x₂ := by
  simp only [WeierstrassCurve.Affine.addX, weierstrass]
  ring

theorem addY_eq (x₁ x₂ y₁ slope : Fp) :
    weierstrass.addY x₁ x₂ y₁ slope =
      slope * (x₁ - (slope * slope - x₁ - x₂)) - y₁ := by
  simp only [WeierstrassCurve.Affine.addY, WeierstrassCurve.Affine.negAddY, negY_eq, addX_eq]
  ring

namespace Point

def ofGroup : Group → Point
  | .zero => infinity
  | .some x y _ => affine x y

@[simp] theorem ofGroup_zero : ofGroup 0 = infinity := rfl

@[simp] theorem ofGroup_some {x y : Fp} (nonsingular : weierstrass.Nonsingular x y) :
    ofGroup (.some x y nonsingular) = affine x y := rfl

theorem ofGroup_injective : Function.Injective ofGroup := by
  rintro (_ | ⟨x₁, y₁, first⟩) (_ | ⟨x₂, y₂, second⟩) same
  · rfl
  · cases same
  · cases same
  · cases same
    rfl

theorem onCurve_ofGroup (element : Group) : (ofGroup element).onCurve = true := by
  cases element with
  | zero => rfl
  | some x y nonsingular => exact decide_eq_true ((nonsingular_iff x y).mp nonsingular)

theorem exists_ofGroup {point : Point} (on : point.onCurve = true) :
    ∃ element, ofGroup element = point := by
  cases point with
  | infinity => exact ⟨0, rfl⟩
  | affine x y => exact ⟨.some x y ((nonsingular_iff x y).mpr (of_decide_eq_true on)), rfl⟩

theorem slope_of_ne {x₁ x₂ y₁ y₂ : Fp} (different : x₁ ≠ x₂) :
    weierstrass.slope x₁ x₂ y₁ y₂ = (y₁ - y₂) * Fp.inverse (x₁ - x₂) := by
  rw [WeierstrassCurve.Affine.slope_of_X_ne different, Fp.inverse_eq, div_eq_mul_inv]

theorem slope_of_eq {x y₁ y₂ : Fp} (notOpposite : y₁ ≠ -y₂) :
    weierstrass.slope x x y₁ y₂ = 3 * x * x * Fp.inverse (2 * y₁) := by
  have unequal : y₁ ≠ weierstrass.negY x y₂ := by rwa [negY_eq]
  rw [WeierstrassCurve.Affine.slope_of_Y_ne rfl unequal, negY_eq, Fp.inverse_eq]
  simp only [weierstrass]
  rw [div_eq_mul_inv]
  ring_nf

theorem ofGroup_add (left right : Group) :
    ofGroup (left + right) = (ofGroup left).add (ofGroup right) := by
  rcases left with _ | ⟨x₁, y₁, first⟩
  · exact congrArg ofGroup (zero_add right)
  rcases right with _ | ⟨x₂, y₂, second⟩
  · exact congrArg ofGroup (add_zero _)
  simp only [ofGroup_some, add]
  by_cases sameX : x₁ = x₂
  · subst sameX
    by_cases opposite : y₁ = -y₂
    · rw [if_pos rfl, if_pos opposite, WeierstrassCurve.Affine.Point.add_of_Y_eq rfl, ofGroup_zero]
      rwa [negY_eq]
    · have unequal : y₁ ≠ weierstrass.negY x₁ y₂ := by rwa [negY_eq]
      rw [if_pos rfl, if_neg opposite, WeierstrassCurve.Affine.Point.add_of_Y_ne unequal,
        ofGroup_some, slope_of_eq opposite, addX_eq, addY_eq, alongSlope]
  · rw [if_neg sameX, WeierstrassCurve.Affine.Point.add_of_X_ne sameX, ofGroup_some,
      slope_of_ne sameX, addX_eq, addY_eq, alongSlope]

theorem ofGroup_neg (element : Group) : ofGroup (-element) = (ofGroup element).neg := by
  rcases element with _ | ⟨x, y, nonsingular⟩
  · rfl
  · rw [WeierstrassCurve.Affine.Point.neg_some]
    simp only [ofGroup_some, neg, negY_eq]

end Point

end StakeLottery.Curve
