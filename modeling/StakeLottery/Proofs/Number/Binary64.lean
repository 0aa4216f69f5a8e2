import Mathlib
import StakeLottery.Number.Quantity

/-!
What a word of 64 bits means as a floating point number. Its fields are a sign, an exponent that is
counted from 1023 below, and a fraction of 52 bits. A word means one thing, and its exact value is
the one that it means.
-/

namespace StakeLottery

inductive Meaning where
  | notANumber
  | infinite (negative : Bool)
  | exact (value : ℚ)

/-- The format's table. The fraction follows a leading one, unless the exponent is zero; the
greatest exponent is that of the infinities and of what is not a number. -/
def Meaning.ofFields (negative : Bool) (exponent fraction : Nat) : Meaning :=
  if exponent = 0 then
    .exact ((-1 : ℚ) ^ negative.toNat * ((fraction : ℚ) / 2 ^ 52) * 2 ^ (-1022 : ℤ))
  else if exponent ≠ 2047 then
    .exact ((-1 : ℚ) ^ negative.toNat * (1 + (fraction : ℚ) / 2 ^ 52) *
      2 ^ ((exponent : ℤ) - 1023))
  else if fraction = 0 then .infinite negative
  else .notANumber

namespace Binary64

def word (negative : Bool) (exponent fraction : Nat) : Nat :=
  negative.toNat * 2 ^ 63 + exponent * 2 ^ 52 + fraction

def Means (number : Binary64) (meaning : Meaning) : Prop :=
  ∃ negative exponent fraction, exponent < 2 ^ 11 ∧ fraction < 2 ^ 52 ∧
    number.bits.toNat = word negative exponent fraction ∧
    meaning = Meaning.ofFields negative exponent fraction

variable {number : Binary64}

theorem fields_of_word {negative : Bool} {exponent fraction : Nat} (small : exponent < 2 ^ 11)
    (below : fraction < 2 ^ 52) (written : number.bits.toNat = word negative exponent fraction) :
    number.isNegative = negative ∧ number.exponentField = exponent ∧
      number.fractionField = fraction := by
  simp only [isNegative, exponentField, fractionField, written, word, magnitudeValues,
    fractionValues]
  cases negative
  · rw [Bool.toNat_false]
    exact ⟨decide_eq_false (by omega), by omega, by omega⟩
  · rw [Bool.toNat_true]
    exact ⟨decide_eq_true (by omega), by omega, by omega⟩

theorem bits_eq_word (number : Binary64) :
    number.bits.toNat = word number.isNegative number.exponentField number.fractionField := by
  have below := number.bits.toNat_lt
  cases sign : number.isNegative with
  | false =>
      have low : ¬0x8000000000000000 ≤ number.bits.toNat := of_decide_eq_false sign
      simp only [word, exponentField, fractionField, fractionValues, Bool.toNat_false]
      omega
  | true =>
      have high : 0x8000000000000000 ≤ number.bits.toNat := of_decide_eq_true sign
      simp only [word, exponentField, fractionField, fractionValues, Bool.toNat_true]
      omega

theorem means_iff {meaning : Meaning} :
    number.Means meaning ↔
      meaning = .ofFields number.isNegative number.exponentField number.fractionField := by
  constructor
  · rintro ⟨negative, exponent, fraction, small, below, written, rfl⟩
    obtain ⟨rfl, rfl, rfl⟩ := fields_of_word small below written
    rfl
  · intro same
    refine ⟨_, _, _, ?_, ?_, number.bits_eq_word, same⟩
    · exact Nat.mod_lt _ (by decide)
    · exact Nat.mod_lt _ (by decide)

theorem Means.unique {meaning other : Meaning} (means : number.Means meaning)
    (meansToo : number.Means other) : meaning = other :=
  (means_iff.mp means).trans (means_iff.mp meansToo).symm

theorem scale_eq (significand : Nat) (exponent : ℤ) :
    scale significand exponent = (significand : ℚ) * 2 ^ exponent := by
  cases exponent with
  | ofNat power =>
      rw [scale, Int.ofNat_eq_natCast, zpow_natCast, Nat.pow_eq]
      push_cast
      rfl
  | negSucc power =>
      rw [scale, Rat.mkRat_eq_div, zpow_negSucc, div_eq_mul_inv, Nat.pow_eq]
      push_cast
      rfl

theorem value?_of_finite (finite : number.exponentField ≠ 2047) :
    number.value? = some ((-1 : ℚ) ^ number.isNegative.toNat *
      ((number.significand : ℚ) * 2 ^ number.exponent)) := by
  have isFinite : number.isFinite = true := decide_eq_true finite
  simp only [value?, isFinite, if_true, scale_eq, Option.some.injEq]
  cases number.isNegative <;> simp

theorem two_zpow_eq (exponent : ℤ) : (2 : ℚ) ^ exponent = 2 ^ 52 * 2 ^ (exponent - 52) := by
  rw [← zpow_natCast, ← zpow_add₀ two_ne_zero]
  congr 1
  omega

theorem value?_eq_some_iff {value : ℚ} :
    number.value? = some value ↔ number.Means (.exact value) := by
  rw [means_iff, Meaning.ofFields]
  by_cases least : number.exponentField = 0
  · have unit : (2 : ℚ) ^ (-1022 : ℤ) = 2 ^ 52 * 2 ^ (-1074 : ℤ) := two_zpow_eq (-1022)
    rw [value?_of_finite (by omega), significand, exponent, if_pos least, if_pos least,
      if_pos least, Option.some.injEq, Meaning.exact.injEq, unit, eq_comm]
    refine Eq.congr_right ?_
    ring
  by_cases greatest : number.exponentField = 2047
  · have infinite : number.isFinite = false := decide_eq_false (not_not_intro greatest)
    rw [if_neg least, if_neg (not_not_intro greatest), value?, infinite,
      if_neg Bool.false_ne_true]
    split <;> simp
  · rw [value?_of_finite greatest, significand, exponent, if_neg least, if_neg least,
      if_neg least, if_pos greatest, Option.some.injEq, Meaning.exact.injEq,
      two_zpow_eq ((number.exponentField : ℤ) - 1023), eq_comm]
    refine Eq.congr_right ?_
    rw [sub_sub, fractionValues]
    push_cast
    ring

theorem isNaN_iff : number.isNaN = true ↔ number.Means .notANumber := by
  rw [means_iff, Meaning.ofFields, isNaN, Bool.and_eq_true, decide_eq_true_eq, decide_eq_true_eq]
  by_cases least : number.exponentField = 0
  · simp [least]
  by_cases greatest : number.exponentField = 2047
  · by_cases zero : number.fractionField = 0 <;> simp [greatest, zero]
  · simp [least, greatest]

theorem isZero_iff :
    number.isZero = true ↔ number.Means (.exact 0) := by
  rw [means_iff, Meaning.ofFields, isZero, Bool.and_eq_true, decide_eq_true_eq, decide_eq_true_eq]
  refine Iff.trans ?_ eq_comm
  have sign : (-1 : ℚ) ^ number.isNegative.toNat ≠ 0 := pow_ne_zero _ (by norm_num)
  by_cases least : number.exponentField = 0
  · simp [least, sign]
  by_cases greatest : number.exponentField = 2047
  · by_cases zero : number.fractionField = 0 <;> simp [greatest, zero]
  · have significand : 1 + (number.fractionField : ℚ) / 2 ^ 52 ≠ 0 := by positivity
    have power : (2 : ℚ) ^ ((number.exponentField : ℤ) - 1023) ≠ 0 := by positivity
    simp [least, greatest, sign, significand, power]

theorem truncate?_eq_none {meaning : Meaning} (means : number.Means meaning)
    (inexact : ∀ value, meaning ≠ .exact value) : number.truncate? = none := by
  rw [truncate?, Option.map_eq_none_iff, Option.eq_none_iff_forall_ne_some]
  intro value given
  exact inexact value (means.unique (value?_eq_some_iff.mp given))

theorem truncate?_of_means {exact : ℚ} (means : number.Means (.exact exact)) :
    number.truncate? = some (if 0 ≤ exact then ⌊exact⌋ else ⌈exact⌉) := by
  rw [truncate?, value?_eq_some_iff.mpr means, Option.map_some, Option.some.injEq]
  split
  · next nonnegative =>
      rw [Int.tdiv_eq_ediv_of_nonneg (Rat.num_nonneg.mpr nonnegative), Rat.floor_def']
  · next negative =>
      have opposite : 0 ≤ (-exact).num := Rat.num_nonneg.mpr (by linarith)
      have ceiling : ⌈exact⌉ = -⌊-exact⌋ := by rw [Int.floor_neg, neg_neg]
      rw [ceiling, Rat.floor_def', ← Int.tdiv_eq_ediv_of_nonneg opposite, Rat.neg_num, Rat.neg_den,
        Int.neg_tdiv, neg_neg]

end Binary64

namespace Quantity

def Means : Quantity → Meaning → Prop
  | integer value, meaning => meaning = .exact value
  | real number, meaning => number.Means meaning

variable {quantity : Quantity}

theorem existsUnique_means (quantity : Quantity) : ∃! meaning, quantity.Means meaning := by
  cases quantity with
  | integer value => exact existsUnique_eq
  | real number =>
      simp only [Means, Binary64.means_iff]
      exact existsUnique_eq

theorem value?_eq_some_iff {value : ℚ} :
    quantity.value? = some value ↔ quantity.Means (.exact value) := by
  cases quantity with
  | integer given => rw [value?, Means, Option.some.injEq, Meaning.exact.injEq, eq_comm]
  | real number => exact Binary64.value?_eq_some_iff

theorem isNaN_iff : quantity.isNaN = true ↔ quantity.Means .notANumber := by
  cases quantity with
  | integer given => simp [isNaN, Means]
  | real number => exact Binary64.isNaN_iff

end Quantity

end StakeLottery
