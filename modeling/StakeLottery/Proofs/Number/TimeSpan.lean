import StakeLottery.Proofs.Number.Binary64
import StakeLottery.Round.Request

/-!
Quantities as time spans. Every floating point number is one. An integer is, unless the floating
point number that is nearest to it would be beyond the largest finite one.
-/

namespace StakeLottery

theorem roundHalfEven_bounds (numerator denominator : Nat) :
    numerator / denominator ≤ roundHalfEven numerator denominator ∧
      roundHalfEven numerator denominator ≤ numerator / denominator + 1 := by
  unfold roundHalfEven
  dsimp only
  split
  · omega
  split <;> omega

theorem lt_roundHalfEven_iff {numerator denominator odd : Nat} (isOdd : odd % 2 = 1)
    (near : numerator / denominator = odd) :
    odd < roundHalfEven numerator denominator ↔ denominator ≤ 2 * (numerator % denominator) := by
  unfold roundHalfEven
  dsimp only
  rw [near]
  split
  · omega
  split <;> omega

namespace Binary64

theorem spacing_one {value : Nat} (positive : 0 < value) :
    spacing value 1 = (value.log2 : Int) - 52 := by
  have reached : 1 * Nat.pow 2 value.log2 ≤ value := by
    rw [Nat.one_mul]
    exact Nat.log2_self_le positive.ne'
  have isZero : Nat.log2 1 = 0 := by decide
  have estimate : (value.log2 : Int) - ((1 : Nat).log2 : Nat) = Int.ofNat value.log2 := by
    simp [isZero]
  rw [spacing]
  simp only [estimate, decide_eq_true reached, if_true, Int.ofNat_eq_natCast]
  omega

theorem log2_bounds {value : Nat} (positive : 0 < value) :
    2 ^ value.log2 ≤ value ∧ value < 2 ^ (value.log2 + 1) :=
  ⟨Nat.log2_self_le positive.ne', Nat.lt_log2_self⟩

theorem magnitudeBits_of_large {value power : Nat} (positive : 0 < value)
    (size : value.log2 = power + 52) :
    magnitudeBits value 1 = infinityBits ↔
      971 < power ∨ power = 971 ∧ 2 ^ 53 ≤ roundHalfEven value (2 ^ power) := by
  obtain ⟨lower, upper⟩ := log2_bounds positive
  obtain ⟨below, above⟩ := roundHalfEven_bounds value (2 ^ power)
  rw [size] at lower upper
  have quotientLower : 2 ^ 52 ≤ value / 2 ^ power := by
    rw [Nat.le_div_iff_mul_le (by positivity), ← Nat.pow_add, Nat.add_comm 52]
    exact lower
  have quotientUpper : value / 2 ^ power < 2 ^ 53 := by
    rw [Nat.div_lt_iff_lt_mul (by positivity), ← Nat.pow_add, Nat.add_comm 53]
    exact upper
  have isPower : spacing value 1 = Int.ofNat power := by
    rw [spacing_one positive, size]
    simp
  clear lower upper
  have bits : magnitudeBits value 1 =
      min ((power + 1075) * 2 ^ 52 + (roundHalfEven value (2 ^ power) - 2 ^ 52)) infinityBits := by
    rw [magnitudeBits]
    simp only [isPower, Nat.one_mul, Nat.pow_eq]
    rw [if_neg (by simp only [fractionValues]; omega)]
    rfl
  rw [bits, infinityBits, fractionValues]
  omega

theorem magnitudeBits_of_small {value : Nat} (positive : 0 < value) (size : value.log2 < 52) :
    magnitudeBits value 1 < infinityBits := by
  obtain ⟨-, upper⟩ := log2_bounds positive
  obtain ⟨places, count⟩ : ∃ places, 52 - value.log2 = places + 1 := ⟨51 - value.log2, by omega⟩
  have isPower : spacing value 1 = Int.negSucc places := by
    rw [spacing_one positive, Int.negSucc_eq]
    omega
  have bound : value * 2 ^ (places + 1) < 2 ^ 53 := by
    have split : (2 : ℕ) ^ 53 = 2 ^ (value.log2 + 1) * 2 ^ (places + 1) := by
      rw [← Nat.pow_add]
      congr 1
      omega
    rw [split]
    exact Nat.mul_lt_mul_of_pos_right upper (by positivity)
  have exact : roundHalfEven (value * 2 ^ (places + 1)) 1 = value * 2 ^ (places + 1) := by
    simp [roundHalfEven, Nat.mod_one]
  rw [magnitudeBits]
  simp only [isPower, Nat.pow_eq, exact, infinityBits, fractionValues]
  split <;> omega

theorem le_roundHalfEven_iff {value place : Nat} (upper : value < 2 ^ (place + 54)) :
    2 ^ 53 ≤ roundHalfEven value (2 ^ (place + 1)) ↔ 2 ^ (place + 54) ≤ value + 2 ^ place := by
  have double : 2 ^ (place + 1) = 2 * 2 ^ place := Nat.pow_succ'
  have top : 2 ^ (place + 54) = 2 ^ 53 * 2 ^ (place + 1) := by
    rw [← Nat.pow_add]
    congr 1
    omega
  have unit : 0 < 2 ^ (place + 1) := Nat.two_pow_pos _
  have quotient : value / 2 ^ (place + 1) < 2 ^ 53 := by
    rwa [Nat.div_lt_iff_lt_mul unit, ← top]
  obtain ⟨-, near⟩ := roundHalfEven_bounds value (2 ^ (place + 1))
  by_cases last : value / 2 ^ (place + 1) = 2 ^ 53 - 1
  · have rounds := lt_roundHalfEven_iff (by decide) last
    have division := Nat.div_add_mod value (2 ^ (place + 1))
    rw [last] at division
    omega
  · have under : value / 2 ^ (place + 1) < 2 ^ 53 - 1 := by omega
    rw [Nat.div_lt_iff_lt_mul unit] at under
    omega

/-- The natural number midway between the largest finite number and the power of two after it. -/
def firstInfinite : Nat := 2 ^ 1024 - 2 ^ 970

theorem firstInfinite_pos : 0 < firstInfinite := by
  have positive (small large : Nat) (less : small < large) : 0 < 2 ^ large - 2 ^ small :=
    Nat.sub_pos_of_lt (Nat.pow_lt_pow_right one_lt_two less)
  exact positive 970 1024 (by decide)

theorem firstInfinite_le_iff {value place : Nat} (isLast : place = 970) :
    firstInfinite ≤ value ↔ 2 ^ (place + 54) ≤ value + 2 ^ place := by
  -- The power of two after the largest finite number is never computed.
  rw [isLast, firstInfinite, show 1024 = 970 + 54 from rfl]
  exact Nat.sub_le_iff_le_add

theorem magnitudeBits_eq_infinityBits_iff_of_place {value place : Nat} (isLast : place = 970)
    (positive : 0 < value) :
    magnitudeBits value 1 = infinityBits ↔ 2 ^ (place + 54) ≤ value + 2 ^ place := by
  obtain ⟨lower, upper⟩ := log2_bounds positive
  have double : 2 ^ (place + 53) + 2 ^ (place + 53) = 2 ^ (place + 54) := by
    rw [← Nat.two_mul, ← Nat.pow_succ']
  have finite (fewBits : value.log2 < place + 53) : ¬2 ^ (place + 54) ≤ value + 2 ^ place := by
    rw [Nat.not_le, ← double]
    exact Nat.add_lt_add_of_lt_of_le
      (upper.trans_le (Nat.pow_le_pow_right two_pos fewBits))
      (Nat.pow_le_pow_right two_pos (Nat.le_add_right _ _))
  by_cases small : value.log2 < 52
  · exact iff_of_false (magnitudeBits_of_small positive small).ne
      (finite (small.trans (by omega)))
  obtain ⟨power, size⟩ : ∃ power, value.log2 = power + 52 := ⟨value.log2 - 52, by omega⟩
  rw [magnitudeBits_of_large positive size]
  rcases lt_trichotomy power (place + 1) with below | isPlace | above
  · exact iff_of_false (by omega) (finite (by omega))
  · have rounds : 2 ^ 53 ≤ roundHalfEven value (2 ^ power) ↔
        2 ^ (place + 54) ≤ value + 2 ^ place := by
      rw [isPlace]
      refine le_roundHalfEven_iff ?_
      rwa [size, isPlace, show place + 1 + 52 + 1 = place + 54 by omega] at upper
    have isOnly : power = 971 := by omega
    rw [or_iff_right (by omega), and_iff_right isOnly, rounds]
  · have beyond : 2 ^ (place + 54) ≤ 2 ^ value.log2 :=
      Nat.pow_le_pow_right two_pos (by omega)
    exact iff_of_true (.inl (by omega)) (Nat.le_add_right_of_le (beyond.trans lower))

theorem magnitudeBits_eq_infinityBits_iff {value : Nat} (positive : 0 < value) :
    magnitudeBits value 1 = infinityBits ↔ firstInfinite ≤ value :=
  (magnitudeBits_eq_infinityBits_iff_of_place rfl positive).trans (firstInfinite_le_iff rfl).symm

theorem magnitudeBits_le_infinityBits (numerator denominator : Nat) :
    magnitudeBits numerator denominator ≤ infinityBits := by
  have capped (power : Int) (significand : Nat) :
      (if significand < fractionValues then significand
        else min ((power + 1075).toNat * fractionValues + (significand - fractionValues))
          infinityBits) ≤ infinityBits := by
    split
    · rename_i small
      exact (Nat.le_of_lt small).trans (by decide)
    · exact Nat.min_le_right _ _
  exact capped _ _

theorem ofMagnitudeBits_isFinite_eq_false_iff {negative : Bool} {magnitude : Nat}
    (bounded : magnitude ≤ infinityBits) :
    (ofMagnitudeBits negative magnitude).isFinite = false ↔ magnitude = infinityBits := by
  simp only [infinityBits, fractionValues] at bounded
  rw [isFinite, decide_eq_false_iff_not, not_not, exponentField, ofMagnitudeBits,
    UInt64.toNat_ofNat', infinityBits]
  simp only [fractionValues, magnitudeValues]
  split <;> omega

theorem isInfinite_iff {number : Binary64} :
    (number.isInfinite && number.isNegative) = true ↔ number.Means (.infinite true) := by
  rw [means_iff, Meaning.ofFields, isInfinite, Bool.and_eq_true, Bool.and_eq_true,
    decide_eq_true_eq, decide_eq_true_eq]
  by_cases least : number.exponentField = 0
  · simp [least]
  by_cases greatest : number.exponentField = 2047
  · by_cases zero : number.fractionField = 0 <;> cases number.isNegative <;> simp [greatest, zero]
  · simp [least, greatest]

end Binary64

namespace Quantity

theorem isTimeSpan_eq_false_iff {timeout : Quantity} :
    timeout.isTimeSpan = false ↔
      ∃ value, timeout = .integer value ∧ Binary64.firstInfinite ≤ value.natAbs := by
  cases timeout with
  | real number => simp [isTimeSpan]
  | integer value =>
      have unit := Binary64.firstInfinite_pos
      rw [isTimeSpan, Binary64.ofQuotient]
      by_cases isZero : value.natAbs = 0
      · rw [if_pos isZero, Binary64.ofMagnitudeBits_isFinite_eq_false_iff (Nat.zero_le _)]
        refine iff_of_false (by decide) ?_
        rintro ⟨given, same, beyond⟩
        cases same
        omega
      · rw [if_neg isZero, Binary64.ofMagnitudeBits_isFinite_eq_false_iff
            (Binary64.magnitudeBits_le_infinityBits _ _),
          Binary64.magnitudeBits_eq_infinityBits_iff (Nat.pos_of_ne_zero isZero)]
        simp

def AtMostZero (quantity : Quantity) : Prop :=
  (∃ value ≤ 0, quantity.Means (.exact value)) ∨ quantity.Means (.infinite true)

theorem isNonPositive_iff {timeout : Quantity} :
    timeout.isNonPositive = true ↔ timeout.AtMostZero := by
  cases timeout with
  | integer value =>
      simp only [isNonPositive, decide_eq_true_eq, AtMostZero, Means, Meaning.exact.injEq,
        reduceCtorEq, or_false, exists_eq_right]
      exact_mod_cast Iff.rfl
  | real number =>
      cases given : number.value? with
      | some exact =>
          have means := Binary64.value?_eq_some_iff.mp given
          simp only [isNonPositive, given, decide_eq_true_eq, AtMostZero, Means]
          constructor
          · intro nonpositive
            exact .inl ⟨exact, nonpositive, means⟩
          · rintro (⟨other, nonpositive, meansToo⟩ | infinite)
            · obtain rfl := Option.some.inj
                (given.symm.trans (Binary64.value?_eq_some_iff.mpr meansToo))
              exact nonpositive
            · rw [Binary64.means_iff] at means infinite
              cases means.trans infinite.symm
      | none =>
          simp only [isNonPositive, given, AtMostZero, Means, ← Binary64.value?_eq_some_iff,
            reduceCtorEq, and_false, exists_false, false_or]
          exact Binary64.isInfinite_iff

end Quantity

end StakeLottery
