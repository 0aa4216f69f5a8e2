import Mathlib
import StakeLottery.Proofs.Curve.Multiple

/-!
The group has prime order. The generator's order divides the number of points; the first
coordinate and a parity tell the points apart, so that they are fewer than three times the order;
and they are not twice the order, since no point has order two.
-/

namespace StakeLottery.Curve

open scoped Fp

namespace Point

theorem onCurve_generator : generator.onCurve = true := by decide +kernel

theorem minus_seven_not_cube (x : Fp) : x ^ 3 ≠ -7 := by
  intro cube
  have nonzero : x ≠ 0 := by
    rintro rfl
    rw [zero_pow (by decide)] at cube
    exact absurd cube (by decide +kernel)
  have exponents : 3 * ((fieldPrime - 1) / 3) = Fintype.card Fp - 1 := by
    rw [Fintype.card_fin]
    decide
  have residue : Fp.power (-7) ((fieldPrime - 1) / 3) ≠ 1 := by decide +kernel
  rw [Fp.power_eq, ← cube, ← pow_mul, exponents] at residue
  exact residue (FiniteField.pow_card_sub_one_eq_one x nonzero)

/-- No point of the curve has a second coordinate of zero, as minus seven is not a cube. -/
theorem y_ne_zero {x y : Fp} (on : (affine x y).onCurve = true) : y ≠ 0 := by
  rintro rfl
  have equation : 0 * 0 = cubic x := of_decide_eq_true on
  apply minus_seven_not_cube x
  unfold cubic at equation
  linear_combination -equation

theorem exists_generator : ∃ base, ofGroup base = generator ∧ base ≠ 0 := by
  obtain ⟨base, generates⟩ := exists_ofGroup onCurve_generator
  refine ⟨base, generates, ?_⟩
  rintro rfl
  cases generates

theorem ofGroup_groupOrder_nsmul {element : Group} (generates : ofGroup element = generator) :
    groupOrder • element = 0 := by
  apply ofGroup_injective
  have computed : generator.times groupOrder = infinity := by decide +kernel
  rw [ofGroup_nsmul, generates, computed, ofGroup_zero]

/-- The first coordinate and the parity of the second, which tell the points apart. -/
def tag : Group → Option (Fp × Bool)
  | .zero => none
  | .some x y _ => some (x, y.isOdd)

theorem tag_injective : Function.Injective tag := by
  rintro (_ | ⟨x₁, y₁, first⟩) (_ | ⟨x₂, y₂, second⟩) same
  · rfl
  · cases same
  · cases same
  · simp only [tag, Option.some.injEq, Prod.mk.injEq] at same
    obtain ⟨rfl, parity⟩ := same
    have squares := ((nonsingular_iff _ _).mp first).trans ((nonsingular_iff _ _).mp second).symm
    have sameY := Fp.eq_of_mul_self_eq squares parity
    subst sameY
    rfl

instance : Finite Group := Finite.of_injective tag tag_injective

theorem card_group_le : Nat.card Group ≤ fieldPrime * 2 + 1 := by
  have tags : Nat.card (Option (Fp × Bool)) = fieldPrime * 2 + 1 := by
    rw [Finite.card_option, Nat.card_prod, Nat.card_fin, Nat.card_eq_fintype_card,
      Fintype.card_bool]
  rw [← tags]
  exact Nat.card_le_card_of_injective tag tag_injective

theorem add_self_ne_zero {element : Group} (nonzero : element ≠ 0) : element + element ≠ 0 := by
  cases element with
  | zero => exact absurd rfl nonzero
  | some x y nonsingular =>
      intro doubled
      have on := onCurve_ofGroup (.some x y nonsingular)
      have opposite := eq_neg_of_add_eq_zero_left doubled
      rw [WeierstrassCurve.Affine.Point.neg_some, WeierstrassCurve.Affine.Point.some.injEq,
        negY_eq, eq_neg_iff_add_eq_zero, ← two_mul] at opposite
      exact mul_ne_zero Jacobian.two_ne_zero (y_ne_zero on) opposite.2

theorem card_group : Nat.card Group = groupOrder := by
  obtain ⟨base, generates, baseNonzero⟩ := exists_generator
  have orderOfBase : addOrderOf base = groupOrder :=
    addOrderOf_eq_prime (ofGroup_groupOrder_nsmul generates) baseNonzero
  obtain ⟨cosets, count⟩ : groupOrder ∣ Nat.card Group := by
    rw [← orderOfBase]
    exact addOrderOf_dvd_natCard base
  have positive : 0 < Nat.card Group := Nat.card_pos
  have bound := card_group_le
  have few : cosets = 1 ∨ cosets = 2 := by
    unfold groupOrder at count
    unfold fieldPrime at bound
    omega
  rcases few with one | two
  · rw [count, one, mul_one]
  · rw [two, mul_comm] at count
    obtain ⟨element, orderTwo⟩ :=
      exists_prime_addOrderOf_dvd_card' (G := Group) 2 (Dvd.intro _ count.symm)
    have doubled : element + element = 0 := by
      rw [← two_nsmul, ← orderTwo]
      exact addOrderOf_nsmul_eq_zero element
    have nonzero : element ≠ 0 := by
      rintro rfl
      rw [addOrderOf_zero] at orderTwo
      omega
    exact absurd doubled (add_self_ne_zero nonzero)

theorem groupOrder_nsmul (element : Group) : groupOrder • element = 0 := by
  rw [← card_group]
  exact card_nsmul_eq_zero'

theorem addOrderOf_eq {element : Group} (nonzero : element ≠ 0) :
    addOrderOf element = groupOrder :=
  addOrderOf_eq_prime (groupOrder_nsmul element) nonzero

theorem nsmul_eq_zero_iff {element : Group} (nonzero : element ≠ 0) (count : Nat) :
    count • element = 0 ↔ groupOrder ∣ count := by
  rw [← addOrderOf_eq nonzero]
  exact addOrderOf_dvd_iff_nsmul_eq_zero.symm

theorem zsmul_eq_zero_iff {element : Group} (nonzero : element ≠ 0) (count : Int) :
    count • element = 0 ↔ (groupOrder : Int) ∣ count := by
  rw [← addOrderOf_eq nonzero]
  exact addOrderOf_dvd_iff_zsmul_eq_zero.symm

theorem eq_of_nsmul_eq {element : Group} (nonzero : element ≠ 0) {first second : Nat}
    (firstBelow : first < groupOrder) (secondBelow : second < groupOrder)
    (same : first • element = second • element) : first = second := by
  rw [nsmul_eq_nsmul_iff_modEq, addOrderOf_eq nonzero] at same
  exact Nat.ModEq.eq_of_lt_of_lt same firstBelow secondBelow

theorem nsmul_ne_zero {element : Group} (nonzero : element ≠ 0) {count : Nat}
    (positive : 0 < count) (below : count < groupOrder) : count • element ≠ 0 := by
  rw [Ne, nsmul_eq_zero_iff nonzero]
  exact Nat.not_dvd_of_pos_of_lt positive below

theorem mod_nsmul (element : Group) (count : Nat) :
    (count % groupOrder) • element = count • element := by
  conv_rhs => rw [← Nat.mod_add_div count groupOrder, add_nsmul, mul_nsmul, groupOrder_nsmul,
    nsmul_zero, add_zero]

theorem exists_nsmul_eq {base : Group} (nonzero : base ≠ 0) (element : Group) :
    ∃ scalar, scalar < groupOrder ∧ scalar • base = element := by
  have isMultiple : element ∈ AddSubmonoid.multiples base :=
    mem_multiples_of_prime_card card_group nonzero
  obtain ⟨scalar, isMultiple⟩ := isMultiple
  refine ⟨scalar % groupOrder, Nat.mod_lt _ (by decide), ?_⟩
  rw [mod_nsmul]
  exact isMultiple

end Point

end StakeLottery.Curve
