import Mathlib
import StakeLottery.Lottery.Difficulty
import StakeLottery.Proofs.Number.Decimal
import StakeLottery.Proofs.Outcome

/-!
Difficulties are the exact values from zero to one, and a hash wins at a difficulty if the fraction
that it is of the hash space is not beyond it.
-/

namespace StakeLottery

theorem Binary64.isNaN_of_value? {number : Binary64} {value : Rat}
    (valued : number.value? = some value) : number.isNaN = false := by
  unfold Binary64.value? at valued
  split at valued
  case isFalse => cases valued
  rename_i finite
  have exponent : number.exponentField ≠ 2047 := of_decide_eq_true finite
  simp only [Binary64.isNaN, exponent, decide_false, Bool.false_and]

namespace Quantity

variable {difficulty : Quantity}

/-- The quantity is no integer of more digits than text may have. -/
def IsWritable (quantity : Quantity) : Prop :=
  ∀ integer, quantity = .integer integer → integer.natAbs < Decimal.textBound

theorem isSome_text?_iff : difficulty.text?.isSome = true ↔ difficulty.IsWritable := by
  cases difficulty with
  | integer value => simp [text?, IsWritable, Decimal.isSome_text?, Decimal.hasText_iff]
  | real number => simp [text?, IsWritable]

theorem ofOutside_of_isWritable (written : difficulty.IsWritable) :
    DifficultyError.ofOutside difficulty = .outOfRange difficulty :=
  if_pos (isSome_text?_iff.mpr written)

theorem ofOutside_integer {value : Int} (long : Decimal.textBound ≤ value.natAbs) :
    DifficultyError.ofOutside (.integer value) = .unwritable := by
  refine if_neg fun named => ?_
  exact absurd (isSome_text?_iff.mp named value rfl) (Nat.not_lt.mpr long)

theorem isNaN_of_value? {value : Rat} (valued : difficulty.value? = some value) :
    difficulty.isNaN = false := by
  cases difficulty with
  | integer _ => rfl
  | real number => exact Binary64.isNaN_of_value? valued

theorem threshold_ok_iff {threshold : Int} :
    difficulty.threshold = .ok threshold ↔
      ∃ value, difficulty.value? = some value ∧ 0 ≤ value ∧ value ≤ 1 ∧
        (value * (hashSpace : Rat)).floor = threshold := by
  constructor
  · intro valid
    unfold Quantity.threshold at valid
    split at valid
    case isTrue => cases valid
    split at valid
    case h_2 => cases valid
    rename_i value valued
    split at valid
    case isFalse => cases valid
    rename_i inRange
    exact ⟨value, valued, inRange.1, inRange.2, Except.ok.inj valid⟩
  · rintro ⟨value, valued, nonnegative, atMostOne, rfl⟩
    have inRange : 0 ≤ value ∧ value ≤ 1 := ⟨nonnegative, atMostOne⟩
    simp only [Quantity.threshold, isNaN_of_value? valued, valued, inRange, Bool.false_eq_true,
      if_false, and_self, if_true]

theorem exists_threshold {value : Rat} (valued : difficulty.value? = some value)
    (nonnegative : 0 ≤ value) (atMostOne : value ≤ 1) :
    ∃ threshold, difficulty.threshold = .ok threshold :=
  ⟨_, threshold_ok_iff.mpr ⟨value, valued, nonnegative, atMostOne, rfl⟩⟩

end Quantity

theorem beatsThreshold_floor {hash : Bytes} {value : Rat} :
    beatsThreshold hash (value * (hashSpace : Rat)).floor = true ↔ hashRatio hash ≤ value := by
  have positive : (0 : Rat) < (hashSpace : Rat) := by
    exact_mod_cast (by decide : 0 < hashSpace)
  rw [beatsThreshold, decide_eq_true_eq, Rat.le_floor_iff, hashRatio, Rat.mkRat_eq_div,
    div_le_iff₀ positive]

theorem wins_of_threshold {hash : Bytes} {difficulty : Quantity} {threshold : Int}
    (valid : difficulty.threshold = .ok threshold) :
    wins hash difficulty = .ok (beatsThreshold hash threshold) := by
  rw [wins, valid]
  rfl

end StakeLottery
