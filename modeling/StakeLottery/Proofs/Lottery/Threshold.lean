import Mathlib
import StakeLottery.Proofs.Lottery.Difficulty
import StakeLottery.Proofs.Number.Binary64

/-!
The threshold of a difficulty. In integers it draws the line that the exact value of the difficulty
draws between fractions of the hash space, for every word of 64 bits and every integer.
-/

namespace StakeLottery

namespace Bytes

theorem toNat_eq_ofDigits (bytes : Bytes) :
    toNat bytes = Nat.ofDigits 256 (bytes.reverse.map UInt8.toNat) := by
  induction bytes using List.reverseRecOn with
  | nil => rfl
  | append_singleton higher last ih =>
      rw [toNat_append_singleton, List.reverse_append, ih]
      simp only [List.reverse_singleton, List.singleton_append, List.map_cons, Nat.ofDigits_cons]
      omega

theorem toNat_eq_zero_iff (bytes : Bytes) : toNat bytes = 0 ↔ ∀ byte ∈ bytes, byte = 0 := by
  induction bytes using List.reverseRecOn with
  | nil => simp [toNat]
  | append_singleton higher last ih =>
      rw [toNat_append_singleton, Nat.add_eq_zero_iff, Nat.mul_eq_zero, ih,
        List.forall_mem_append, List.forall_mem_singleton, ← UInt8.toNat_inj]
      simp

end Bytes

theorem hashSpace_eq : (hashSpace : ℚ) = 2 ^ 256 := by
  have space : hashSpace = 2 ^ 256 := by decide
  rw [space]
  push_cast
  rfl

theorem hashRatio_eq (hash : Bytes) : hashRatio hash = (hash.toNat : ℚ) / 2 ^ 256 := by
  rw [hashRatio, Rat.mkRat_eq_div, hashSpace_eq]
  rfl

namespace Quantity

variable {difficulty : Quantity} {value : ℚ}

/-- Why a difficulty is refused: it is not a number, or it is not from zero to one. An integer that
is too long to be named in the refusal ends it with another error. -/
inductive Refused (difficulty : Quantity) : DifficultyError → Prop
  | notANumber (means : difficulty.Means .notANumber) : Refused difficulty .notANumber
  | infinite {negative : Bool} (means : difficulty.Means (.infinite negative)) :
      Refused difficulty (.outOfRange difficulty)
  | outside {value : ℚ} (means : difficulty.Means (.exact value))
      (beyond : value < 0 ∨ 1 < value) (named : difficulty.IsWritable) :
      Refused difficulty (.outOfRange difficulty)
  | tooLong {value : Int} (given : difficulty = .integer value)
      (long : Decimal.textBound ≤ value.natAbs) : Refused difficulty .unwritable

theorem Means.unique {meaning other : Meaning} (means : difficulty.Means meaning)
    (meansOther : difficulty.Means other) : meaning = other :=
  (existsUnique_means difficulty).unique means meansOther

theorem threshold_of_notANumber (means : difficulty.Means .notANumber) :
    difficulty.threshold = .error .notANumber := by
  rw [threshold, if_pos (isNaN_iff.mpr means)]

theorem isWritable_of_infinite {negative : Bool} (means : difficulty.Means (.infinite negative)) :
    difficulty.IsWritable := by
  rintro integer rfl
  cases means

theorem threshold_of_infinite {negative : Bool} (means : difficulty.Means (.infinite negative)) :
    difficulty.threshold = .error (.outOfRange difficulty) := by
  have isNumber : ¬difficulty.isNaN = true := by
    intro isNaN
    cases means.unique (isNaN_iff.mp isNaN)
  have valueless : difficulty.value? = none := by
    rw [Option.eq_none_iff_forall_ne_some]
    intro value valued
    cases means.unique (value?_eq_some_iff.mp valued)
  rw [threshold, if_neg isNumber, valueless,
    ofOutside_of_isWritable (isWritable_of_infinite means)]

theorem threshold_of_outside (means : difficulty.Means (.exact value))
    (beyond : value < 0 ∨ 1 < value) :
    difficulty.threshold = .error (.ofOutside difficulty) := by
  have valued := value?_eq_some_iff.mpr means
  have isNumber : ¬difficulty.isNaN = true := Bool.eq_false_iff.mp (isNaN_of_value? valued)
  have outOfRange : ¬(0 ≤ value ∧ value ≤ 1) := by
    rwa [not_and_or, not_le, not_le]
  rw [threshold, if_neg isNumber, valued]
  exact if_neg outOfRange

theorem outside_of_long {value : Int} (long : Decimal.textBound ≤ value.natAbs) :
    (value : ℚ) < 0 ∨ 1 < (value : ℚ) := by
  have more : 1 < value.natAbs := (Decimal.lt_textBound (by decide)).trans_le long
  have beyond : value < 0 ∨ 1 < value := by omega
  exact_mod_cast beyond

theorem threshold_of_long {value : Int} (long : Decimal.textBound ≤ value.natAbs) :
    (integer value).threshold = .error .unwritable := by
  have means : (integer value).Means (.exact value) := rfl
  rw [threshold_of_outside means (outside_of_long long), ofOutside_integer long]

theorem threshold_of_inside (means : difficulty.Means (.exact value)) (nonnegative : 0 ≤ value)
    (atMostOne : value ≤ 1) : difficulty.threshold = .ok ⌊value * 2 ^ 256⌋ := by
  rw [threshold_ok_iff]
  refine ⟨value, value?_eq_some_iff.mpr means, nonnegative, atMostOne, ?_⟩
  rw [hashSpace_eq]
  rfl

theorem threshold_error_iff {error : DifficultyError} :
    difficulty.threshold = .error error ↔ difficulty.Refused error := by
  constructor
  · intro refused
    -- What the difficulty means settles the threshold, and so the error is the one of its kind.
    obtain ⟨meaning, means, -⟩ := existsUnique_means difficulty
    cases meaning with
    | notANumber =>
        cases (threshold_of_notANumber means).symm.trans refused
        exact .notANumber means
    | infinite negative =>
        cases (threshold_of_infinite means).symm.trans refused
        exact .infinite means
    | exact value =>
        by_cases beyond : value < 0 ∨ 1 < value
        · have outside := threshold_of_outside means beyond
          by_cases named : difficulty.IsWritable
          · rw [ofOutside_of_isWritable named] at outside
            cases outside.symm.trans refused
            exact .outside means beyond named
          · simp only [IsWritable, not_forall, Nat.not_lt] at named
            obtain ⟨given, rfl, long⟩ := named
            cases (threshold_of_long long).symm.trans refused
            exact .tooLong rfl long
        · rw [not_or, not_lt, not_lt] at beyond
          cases (threshold_of_inside means beyond.1 beyond.2).symm.trans refused
  · rintro (means | means | ⟨means, beyond, named⟩ | ⟨rfl, long⟩)
    · exact threshold_of_notANumber means
    · exact threshold_of_infinite means
    · rw [threshold_of_outside means beyond, ofOutside_of_isWritable named]
    · exact threshold_of_long long

end Quantity

theorem floor_mem_hashSpace {value : ℚ} (nonnegative : 0 ≤ value) (atMostOne : value ≤ 1) :
    0 ≤ ⌊value * 2 ^ 256⌋ ∧ ⌊value * 2 ^ 256⌋ ≤ 2 ^ 256 := by
  constructor
  · exact Int.floor_nonneg.mpr (by positivity)
  · have below : value * 2 ^ 256 ≤ 2 ^ 256 := mul_le_of_le_one_left (by positivity) atMostOne
    exact_mod_cast (Int.floor_le (value * 2 ^ 256)).trans below

theorem wins_of_means {difficulty : Quantity} {value : ℚ} (means : difficulty.Means (.exact value))
    (nonnegative : 0 ≤ value) (atMostOne : value ≤ 1) (hash : Bytes) :
    wins hash difficulty = .ok (decide (hashRatio hash ≤ value)) := by
  have inside := Quantity.threshold_of_inside means nonnegative atMostOne
  have line : beatsThreshold hash ⌊value * 2 ^ 256⌋ = true ↔ hashRatio hash ≤ value := by
    rw [← hashSpace_eq]
    exact beatsThreshold_floor
  rw [wins_of_threshold inside, Except.ok.injEq, Bool.eq_iff_iff, line, decide_eq_true_eq]

theorem hashRatio_lt_one {hash : Bytes} (size : hash.length = 32) : hashRatio hash < 1 := by
  have below : hash.toNat < 2 ^ 256 := by
    have inCapacity := Bytes.toNat_lt hash
    rwa [size] at inCapacity
  rw [hashRatio_eq, div_lt_one (by positivity)]
  exact_mod_cast below

theorem hashRatio_le_iff_of_lt {hash : Bytes} {value : ℚ} (nonnegative : 0 ≤ value)
    (tiny : value < 2 ^ (-256 : ℤ)) : hashRatio hash ≤ value ↔ ∀ byte ∈ hash, byte = 0 := by
  rw [hashRatio_eq, div_le_iff₀ (by positivity), ← Bytes.toNat_eq_zero_iff]
  constructor
  · intro atMost
    have belowOne : value * 2 ^ 256 < 1 := by
      rwa [zpow_neg, zpow_ofNat, ← one_div, lt_div_iff₀ (by positivity)] at tiny
    have first : (hash.toNat : ℚ) < 1 := atMost.trans_lt belowOne
    exact Nat.lt_one_iff.mp (by exact_mod_cast first)
  · intro zero
    rw [zero, Nat.cast_zero]
    positivity

/-- A difficulty is refused unless it means a value from zero to one, and the hashes that are at
most this value win. -/
theorem exact_line_between_hashes (difficulty : Quantity) :
    (∃! meaning, difficulty.Means meaning) ∧
    (∀ error, difficulty.threshold = .error error ↔ difficulty.Refused error) ∧
    ∀ value, difficulty.Means (.exact value) → 0 ≤ value → value ≤ 1 →
      (difficulty.threshold = .ok ⌊value * 2 ^ 256⌋ ∧
        0 ≤ ⌊value * 2 ^ 256⌋ ∧ ⌊value * 2 ^ 256⌋ ≤ 2 ^ 256) ∧
      (∀ (greater : Quantity) (greaterValue : ℚ), greater.Means (.exact greaterValue) →
        value ≤ greaterValue → greaterValue ≤ 1 →
          ∃ threshold greaterThreshold, difficulty.threshold = .ok threshold ∧
            greater.threshold = .ok greaterThreshold ∧ threshold ≤ greaterThreshold) ∧
      (∀ hash : Bytes,
        hashRatio hash = ((Nat.ofDigits 256 (hash.reverse.map UInt8.toNat) : ℕ) : ℚ) / 2 ^ 256 ∧
          wins hash difficulty = .ok (decide (hashRatio hash ≤ value))) ∧
      (value = 1 → ∀ hash : Bytes, hash.length = 32 → wins hash difficulty = .ok true) ∧
      (value < 2 ^ (-256 : ℤ) → ∀ hash : Bytes,
        wins hash difficulty = .ok (decide (∀ byte ∈ hash, byte = 0))) := by
  refine ⟨difficulty.existsUnique_means, fun error => Quantity.threshold_error_iff, ?_⟩
  intro value means nonnegative atMostOne
  have inside := Quantity.threshold_of_inside means nonnegative atMostOne
  have winning := wins_of_means means nonnegative atMostOne
  refine ⟨⟨inside, floor_mem_hashSpace nonnegative atMostOne⟩, ?_, ?_, ?_, ?_⟩
  · intro greater greaterValue greaterMeans ordered greaterAtMostOne
    refine ⟨_, _, inside, Quantity.threshold_of_inside greaterMeans (nonnegative.trans ordered)
      greaterAtMostOne, ?_⟩
    exact Int.floor_le_floor (mul_le_mul_of_nonneg_right ordered (by positivity))
  · intro hash
    refine ⟨?_, winning hash⟩
    rw [hashRatio_eq, Bytes.toNat_eq_ofDigits]
  · rintro rfl hash size
    rw [winning, decide_eq_true (hashRatio_lt_one size).le]
  · intro tiny hash
    rw [winning]
    simp only [hashRatio_le_iff_of_lt nonnegative tiny]

theorem exact_line_between_hashes_extremes :
    (Quantity.real ⟨1⟩).Means (.exact (2 ^ (-1074 : ℤ))) ∧
    (Quantity.integer 1).Means (.exact 1) ∧
    (∃ threshold greatest, (Quantity.real ⟨1⟩).threshold = .ok threshold ∧
      (Quantity.integer 1).threshold = .ok greatest ∧ threshold ≤ greatest) ∧
    wins (List.replicate 31 0 ++ [1]) (.real ⟨1⟩) = .ok false ∧
    wins (List.replicate 32 255) (.integer 1) = .ok true := by
  have fields : (2 : ℚ) ^ (-1074 : ℤ) = (-1) ^ 0 * (((1 : ℕ) : ℚ) / 2 ^ 52) * 2 ^ (-1022 : ℤ) := by
    rw [Binary64.two_zpow_eq (-1022), pow_zero, one_mul, Nat.cast_one, one_div,
      inv_mul_cancel_left₀ (by positivity)]
    rfl
  have least : (Quantity.real ⟨1⟩).Means (.exact (2 ^ (-1074 : ℤ))) :=
    ⟨false, 0, 1, by decide, by decide, by decide, congrArg Meaning.exact fields⟩
  have one : (Quantity.integer 1).Means (.exact 1) := congrArg Meaning.exact Int.cast_one.symm
  have tiny : (2 : ℚ) ^ (-1074 : ℤ) < 2 ^ (-256 : ℤ) := zpow_lt_zpow_right₀ one_lt_two (by decide)
  have small : (2 : ℚ) ^ (-1074 : ℤ) ≤ 1 := zpow_le_one_of_nonpos₀ one_le_two (by decide)
  have positive : (0 : ℚ) ≤ 2 ^ (-1074 : ℤ) := by positivity
  obtain ⟨-, monotone, -, -, zeroOnly⟩ :=
    (exact_line_between_hashes (.real ⟨1⟩)).2.2 _ least positive small
  obtain ⟨-, -, -, certain, -⟩ :=
    (exact_line_between_hashes (.integer 1)).2.2 _ one zero_le_one le_rfl
  refine ⟨least, one, monotone _ _ one small le_rfl, ?_, certain rfl _ (by decide)⟩
  rw [zeroOnly tiny]
  decide

/-- The least integer without a text is beyond one, and its refusal does not say so. -/
theorem long_difficulty_unnamed :
    (Quantity.integer Decimal.textBound).Means (.exact Decimal.textBound) ∧
    1 < (Decimal.textBound : ℚ) ∧
    (∀ difficulty, (Quantity.integer Decimal.textBound).threshold ≠
      .error (.outOfRange difficulty)) ∧
    (Quantity.integer Decimal.textBound).threshold ≠ .error .notANumber := by
  have more : 1 < Decimal.textBound := Decimal.lt_textBound (by decide)
  have unnamed : (Quantity.integer Decimal.textBound).threshold = .error .unwritable :=
    Quantity.threshold_of_long (Int.natAbs_natCast _).ge
  generalize Decimal.textBound = bound at more unnamed ⊢
  refine ⟨rfl, by exact_mod_cast more, ?_, ?_⟩
  · rw [unnamed]
    exact fun difficulty same => by cases same
  · rw [unnamed]
    exact fun same => by cases same

end StakeLottery
