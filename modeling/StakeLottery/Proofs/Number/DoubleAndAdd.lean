import Mathlib
import StakeLottery.Number.DoubleAndAdd

/-!
What double and add computes. A relation between numbers and elements that doubling and adding the
base respect holds between the multiplier and the result.
-/

namespace StakeLottery

variable {Element : Type} {double addBase : Element → Element}

theorem div_two_pow_eq (multiplier places : Nat) :
    multiplier / 2 ^ places =
      2 * (multiplier / 2 ^ (places + 1)) + (multiplier.testBit places).toNat := by
  rw [Nat.pow_succ, ← Nat.div_div_eq_div_mul, Nat.toNat_testBit]
  omega

/-- The digits below a place turn a running value for the number without those digits into one for
the whole number. -/
theorem foldl_digits_holds {Holds : Nat → Element → Prop}
    (doubled : ∀ count value, Holds count value → Holds (2 * count) (double value))
    (added : ∀ count value, Holds count value → Holds (count + 1) (addBase value))
    (multiplier places : Nat) (value : Element) (holds : Holds (multiplier / 2 ^ places) value) :
    Holds multiplier
      (((List.range places).reverse.map multiplier.testBit).foldl
        (fun value digit => if digit then addBase (double value) else double value) value) := by
  induction places generalizing value with
  | zero => simpa using holds
  | succ places ih =>
      rw [List.range_succ, List.reverse_append, List.map_append, List.foldl_append]
      apply ih
      have next := doubled _ value holds
      rw [div_two_pow_eq]
      simp only [List.reverse_singleton, List.map_singleton, List.foldl_cons, List.foldl_nil]
      cases multiplier.testBit places with
      | false => exact next
      | true => exact added _ _ next

theorem doubleAndAdd_holds (Holds : Nat → Element → Prop) {start : Element}
    (initial : Holds 0 start)
    (doubled : ∀ count value, Holds count value → Holds (2 * count) (double value))
    (added : ∀ count value, Holds count value → Holds (count + 1) (addBase value))
    (multiplier : Nat) :
    Holds multiplier (doubleAndAdd double addBase start multiplier) := by
  apply foldl_digits_holds doubled added
  rwa [Nat.div_eq_of_lt Nat.lt_log2_self]

end StakeLottery
