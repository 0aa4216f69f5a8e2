import Mathlib
import StakeLottery.Curve.Field
import StakeLottery.Proofs.Number.PrimeCertificate

/-!
The coordinate field is a field: the power by the prime less two is the inverse. The power that
serves as a square root finds a root of every square, and nothing else.
-/

namespace StakeLottery.Curve.Fp

theorem power_val (base : Fp) (exponent : Nat) :
    (power base exponent).val = base.val ^ exponent % fieldPrime := by
  unfold power
  refine doubleAndAdd_holds
    (fun count (value : Fp) => value.val = base.val ^ count % fieldPrime)
    ?_ ?_ ?_ exponent
  · rfl
  · intro count value holds
    rw [Fin.val_mul, holds, ← Nat.mul_mod, ← pow_add, two_mul]
  · intro count value holds
    rw [Fin.val_mul, holds, Nat.mod_mul_mod, ← pow_succ]

theorem coprime_val {value : Fp} (nonzero : value ≠ 0) : value.val.Coprime fieldPrime := by
  have positive : 0 < value.val := Nat.pos_of_ne_zero fun zero => nonzero (Fin.ext zero)
  exact (Nat.coprime_of_lt_prime positive.ne' value.isLt fieldPrime_prime).symm

theorem mul_inverse {value : Fp} (nonzero : value ≠ 0) : value * inverse value = 1 := by
  apply Fin.ext
  have fermat := Nat.ModEq.pow_totient (coprime_val nonzero)
  rw [Nat.totient_prime fieldPrime_prime] at fermat
  rw [Fin.val_mul, inverse, power_val, Nat.mul_mod_mod, ← pow_succ']
  exact fermat

theorem power_zero {exponent : Nat} (positive : exponent ≠ 0) : power 0 exponent = 0 := by
  apply Fin.ext
  rw [power_val, Fin.val_zero, Nat.zero_pow (Nat.pos_of_ne_zero positive), Nat.zero_mod]

theorem inverse_zero : inverse 0 = 0 :=
  power_zero (by decide)

instance : Nontrivial Fp := ⟨0, 1, by decide⟩

/-- The field that inverses make of a commutative ring. -/
@[reducible] def fieldOfInverse {Element : Type} [CommRing Element] [Nontrivial Element]
    (inverse : Element → Element)
    (mul_inverse : ∀ value : Element, value ≠ 0 → value * inverse value = 1)
    (inverse_zero : inverse 0 = 0) : Field Element where
  inv := inverse
  mul_inv_cancel := mul_inverse
  inv_zero := inverse_zero
  nnqsmul := _
  nnqsmul_def := fun _ _ => rfl
  qsmul := _
  qsmul_def := fun _ _ => rfl

open Fin.CommRing in
scoped instance instField : Field Fp :=
  fieldOfInverse inverse (fun _ => mul_inverse) inverse_zero

theorem inverse_eq (value : Fp) : inverse value = value⁻¹ := rfl

theorem power_eq (base : Fp) (exponent : Nat) : power base exponent = base ^ exponent := by
  unfold power
  refine doubleAndAdd_holds (fun count (value : Fp) => value = base ^ count)
    ?_ ?_ ?_ exponent
  · exact (pow_zero base).symm
  · rintro count value rfl
    rw [two_mul, pow_add]
  · rintro count value rfl
    rw [pow_succ]

theorem sqrt?_mul_self {value root : Fp} (found : sqrt? value = some root) :
    root * root = value := by
  simp only [sqrt?, Option.ite_none_right_eq_some, Option.some.injEq] at found
  obtain ⟨squares, rfl⟩ := found
  exact squares

theorem power_mul_self (root : Fp) :
    power (root * root) ((fieldPrime + 1) / 4) * power (root * root) ((fieldPrime + 1) / 4) =
      root * root := by
  have exponents : (fieldPrime + 1) / 4 + (fieldPrime + 1) / 4 +
      ((fieldPrime + 1) / 4 + (fieldPrime + 1) / 4) = fieldPrime + 1 := by decide
  have fermat : root ^ fieldPrime = root := by
    have frobenius := FiniteField.pow_card root
    rwa [Fintype.card_fin] at frobenius
  rw [power_eq, ← pow_add, mul_pow, ← pow_add, exponents, pow_succ, fermat]

theorem exists_sqrt? (root : Fp) :
    ∃ found, sqrt? (root * root) = some found ∧ (found = root ∨ found = -root) := by
  refine ⟨power (root * root) ((fieldPrime + 1) / 4), ?_, ?_⟩
  · simp only [sqrt?, power_mul_self, if_true]
  · exact mul_self_eq_mul_self_iff.mp (power_mul_self root)

theorem isOdd_neg {value : Fp} (nonzero : value ≠ 0) : isOdd (-value) = !isOdd value := by
  have positive : 0 < value.val := Nat.pos_of_ne_zero fun zero => nonzero (Fin.ext zero)
  have bound : value.val < fieldPrime := value.isLt
  have odd : fieldPrime % 2 = 1 := by decide
  have opposite : (-value).val = fieldPrime - value.val := by
    rw [Fin.val_neg, if_neg nonzero]
  simp only [isOdd, opposite, ← decide_not, decide_eq_decide]
  omega

theorem eq_of_mul_self_eq {first second : Fp} (squares : first * first = second * second)
    (parity : isOdd first = isOdd second) : first = second := by
  rcases mul_self_eq_mul_self_iff.mp squares with same | opposite
  · exact same
  · by_cases zero : second = 0
    · rw [opposite, zero, neg_zero]
    · rw [opposite, isOdd_neg zero] at parity
      exact absurd parity (Bool.not_ne_self _)

end StakeLottery.Curve.Fp
