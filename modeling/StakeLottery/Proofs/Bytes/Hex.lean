import Mathlib
import StakeLottery.Bytes.Hex
import StakeLottery.Proofs.Text.Ascii

/-!
The hexadecimal texts of a byte string. Which of them is written: the one in lower case with no
blank. Which are read: those that differ from it in the case of letters and in the blanks around
its pairs of digits, and no others.
-/

namespace StakeLottery.Hex

def IsPlainDigit (char : Char) : Prop :=
  '0' ≤ char ∧ char ≤ '9' ∨ 'a' ≤ char ∧ char ≤ 'f'

instance (char : Char) : Decidable (IsPlainDigit char) :=
  inferInstanceAs (Decidable ('0' ≤ char ∧ char ≤ '9' ∨ 'a' ≤ char ∧ char ≤ 'f'))

/-- Whole pairs of digits in lower case, and nothing else. -/
def IsPlain (text : String) : Prop :=
  text.toList.length % 2 = 0 ∧ ∀ char ∈ text.toList, IsPlainDigit char

/-- The texts of a byte string: blanks stand before, between and after its pairs of digits, and
each digit has either case. -/
inductive Spells : List Char → Bytes → Prop where
  | nil : Spells [] []
  | blank {char : Char} {text : List Char} {bytes : Bytes} (isBlank : isAsciiBlank char = true)
      (rest : Spells text bytes) : Spells (char :: text) bytes
  | pair {high low : Char} {text : List Char} {byte : UInt8} {bytes : Bytes}
      (isHigh : high = digit (byte.toNat / 16) ∨ high = (digit (byte.toNat / 16)).toUpper)
      (isLow : low = digit (byte.toNat % 16) ∨ low = (digit (byte.toNat % 16)).toUpper)
      (rest : Spells text bytes) : Spells (high :: low :: text) (byte :: bytes)

theorem isPlainDigit_digit {value : Nat} (bound : value < 16) : IsPlainDigit (digit value) := by
  have checked : ∀ small : Fin 16, IsPlainDigit (digit small.val) := by decide
  exact checked ⟨value, bound⟩

theorem toNat_lt_of_digitValue? {char : Char} {value : Nat}
    (reads : digitValue? char = some value) : char.toNat < 128 := by
  rw [digitValue?] at reads
  split_ifs at reads with decimal lower upper
  · exact toNat_lt_of_le decimal.2 (by decide)
  · exact toNat_lt_of_le lower.2 (by decide)
  · exact toNat_lt_of_le upper.2 (by decide)

theorem length_digits (bytes : Bytes) : (digits bytes).length = 2 * bytes.length := by
  induction bytes with
  | nil => rfl
  | cons byte rest ih =>
      rw [digits, List.flatMap_cons, ← digits, List.length_append, ih, List.length_cons]
      change 2 + 2 * rest.length = 2 * (rest.length + 1)
      omega

theorem exists_digit {char : Char} (plain : IsPlainDigit char) :
    ∃ value < 16, digit value = char := by
  have checked : ∀ code < 128, IsPlainDigit (Char.ofNat code) →
      ∃ value < 16, digit value = Char.ofNat code := by decide
  have small : char.toNat < 128 := by
    rcases plain with ⟨-, upper⟩ | ⟨-, upper⟩ <;> exact toNat_lt_of_le upper (by decide)
  obtain ⟨code, ascii, rfl⟩ := exists_code small
  exact checked code ascii plain

theorem halves_of_pair {high low : Nat} (highBound : high < 16) (lowBound : low < 16) :
    (UInt8.ofNat (high * 16 + low)).toNat / 16 = high ∧
      (UInt8.ofNat (high * 16 + low)).toNat % 16 = low := by
  rw [UInt8.toNat_ofNat']
  constructor <;> omega

theorem isPlain_render (bytes : Bytes) : IsPlain (render bytes) := by
  rw [IsPlain, render, String.toList_ofList]
  constructor
  · rw [length_digits]
    omega
  · intro char member
    obtain ⟨byte, -, written⟩ := List.mem_flatMap.mp member
    have small : byte.toNat < 256 := byte.toNat_lt
    rcases List.mem_pair.mp written with rfl | rfl
    · exact isPlainDigit_digit (by omega)
    · exact isPlainDigit_digit (by omega)

theorem exists_digits {chars : List Char} (paired : chars.length % 2 = 0)
    (plain : ∀ char ∈ chars, IsPlainDigit char) : ∃ bytes, digits bytes = chars := by
  induction chars using List.twoStepInduction with
  | nil => exact ⟨[], rfl⟩
  | singleton char => simp at paired
  | cons_cons high low rest ih _ =>
      have pairedRest : rest.length % 2 = 0 := by
        simp only [List.length_cons] at paired
        omega
      obtain ⟨bytes, sameRest⟩ := ih pairedRest fun char member =>
        plain char (List.mem_cons_of_mem _ (List.mem_cons_of_mem _ member))
      obtain ⟨highValue, highBound, isHigh⟩ := exists_digit (plain high (by simp))
      obtain ⟨lowValue, lowBound, isLow⟩ := exists_digit (plain low (by simp))
      obtain ⟨quotient, remainder⟩ := halves_of_pair highBound lowBound
      refine ⟨UInt8.ofNat (highValue * 16 + lowValue) :: bytes, ?_⟩
      rw [digits, List.flatMap_cons, ← digits, sameRest, pair, quotient, remainder, isHigh, isLow]
      rfl

theorem isPlain_iff {text : String} : IsPlain text ↔ ∃ bytes, render bytes = text := by
  constructor
  · rintro ⟨paired, plain⟩
    obtain ⟨bytes, same⟩ := exists_digits paired plain
    exact ⟨bytes, by rw [render, same, String.ofList_toList]⟩
  · rintro ⟨bytes, rfl⟩
    exact isPlain_render bytes

theorem digitValue?_eq_some_iff {char : Char} {value : Nat} :
    digitValue? char = some value ↔
      value < 16 ∧ (char = digit value ∨ char = (digit value).toUpper) := by
  constructor
  · intro reads
    have checked : ∀ code < 128, ∀ value ∈ digitValue? (Char.ofNat code), value < 16 ∧
        (Char.ofNat code = digit value ∨ Char.ofNat code = (digit value).toUpper) := by decide
    obtain ⟨code, ascii, rfl⟩ := exists_code (toNat_lt_of_digitValue? reads)
    exact checked code ascii value reads
  · rintro ⟨bound, spelled⟩
    have checked : ∀ small : Fin 16, digitValue? (digit small.val) = some small.val ∧
      digitValue? (digit small.val).toUpper = some small.val := by decide
    rcases spelled with rfl | rfl
    · exact (checked ⟨value, bound⟩).1
    · exact (checked ⟨value, bound⟩).2

theorem isAsciiBlank_of_digitValue? {char : Char} {value : Nat}
    (reads : digitValue? char = some value) : isAsciiBlank char = false := by
  have checked : ∀ small : Fin 16, isAsciiBlank (digit small.val) = false ∧
      isAsciiBlank (digit small.val).toUpper = false := by decide
  obtain ⟨bound, rfl | rfl⟩ := digitValue?_eq_some_iff.mp reads
  · exact (checked ⟨value, bound⟩).1
  · exact (checked ⟨value, bound⟩).2

theorem readDigits_blank {char : Char} (isBlank : isAsciiBlank char = true) (text : List Char) :
    readDigits (char :: text) = readDigits text := by
  cases text with
  | nil => simp [readDigits, isBlank]
  | cons next rest => simp [readDigits, isBlank]

theorem readDigits_pair {high low : Char} {highValue lowValue : Nat} (text : List Char)
    (readsHigh : digitValue? high = some highValue) (readsLow : digitValue? low = some lowValue) :
    readDigits (high :: low :: text) =
      (readDigits text).map (UInt8.ofNat (highValue * 16 + lowValue) :: ·) := by
  rw [readDigits, isAsciiBlank_of_digitValue? readsHigh, readsHigh, readsLow]
  cases readDigits text <;> rfl

theorem readDigits_eq_some_iff {text : List Char} {bytes : Bytes} :
    readDigits text = some bytes ↔ Spells text bytes := by
  constructor
  · intro reads
    induction text using readDigits.induct generalizing bytes with
    | case1 =>
        cases reads
        exact .nil
    | case2 char isBlank =>
        rw [readDigits_blank isBlank] at reads
        cases reads
        exact .blank isBlank .nil
    | case3 char notBlank => simp [readDigits, notBlank] at reads
    | case4 high low rest isBlank ih =>
        rw [readDigits_blank isBlank] at reads
        exact .blank isBlank (ih reads)
    | case5 high low rest notBlank ih =>
        rw [readDigits, if_neg notBlank] at reads
        obtain ⟨highValue, readsHigh, reads⟩ := Option.bind_eq_some_iff.mp reads
        obtain ⟨lowValue, readsLow, reads⟩ := Option.bind_eq_some_iff.mp reads
        obtain ⟨others, readsRest, reads⟩ := Option.bind_eq_some_iff.mp reads
        cases reads
        obtain ⟨highBound, isHigh⟩ := digitValue?_eq_some_iff.mp readsHigh
        obtain ⟨lowBound, isLow⟩ := digitValue?_eq_some_iff.mp readsLow
        obtain ⟨quotient, remainder⟩ := halves_of_pair highBound lowBound
        exact .pair (by rwa [quotient]) (by rwa [remainder]) (ih readsRest)
  · intro spells
    induction spells with
    | nil => rfl
    | blank isBlank _ ih => rw [readDigits_blank isBlank, ih]
    | @pair high low text byte bytes isHigh isLow _ ih =>
        have small : byte.toNat < 256 := byte.toNat_lt
        have readsHigh := digitValue?_eq_some_iff.mpr ⟨by omega, isHigh⟩
        have readsLow := digitValue?_eq_some_iff.mpr ⟨by omega, isLow⟩
        rw [readDigits_pair text readsHigh readsLow, ih, Nat.div_add_mod', UInt8.ofNat_toNat]
        rfl

end StakeLottery.Hex
