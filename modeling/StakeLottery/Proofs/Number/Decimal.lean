import Mathlib
import StakeLottery.Number.Decimal
import StakeLottery.Proofs.Text.Ascii

/-!
The decimal text of an integer is read as that integer, also with white space around it. Integers
of ordinary size have a text.
-/

namespace StakeLottery.Decimal

theorem separatedDigits?_of_isDigit {chars : List Char} (nonempty : chars ≠ [])
    (areDigits : ∀ char ∈ chars, char.isDigit = true) :
    separatedDigits? chars = some (chars.map fun char => char.toNat - '0'.toNat) := by
  induction chars using separatedDigits?.induct with
  | case1 => contradiction
  | case2 char =>
      rw [separatedDigits?, decimalDigit?_of_isDigit (areDigits char (by simp))]
      rfl
  | case3 char rest _ => exact absurd (areDigits '_' (by simp)) (by decide)
  | case4 char next rest notSeparator ih =>
      have readsFirst := decimalDigit?_of_isDigit (areDigits char (by simp))
      have readsOthers := ih (List.cons_ne_nil _ _) fun other member =>
        areDigits other (List.mem_cons_of_mem _ member)
      rw [separatedDigits?, readsFirst, readsOthers]
      · rfl
      · exact notSeparator

theorem ofDigitValues_map (chars : List Char) :
    ofDigitValues (chars.map fun char => char.toNat - '0'.toNat) = Nat.ofDigitChars 10 chars 0 := by
  rw [ofDigitValues, List.foldl_map, Nat.ofDigitChars]
  simp only [Nat.mul_comm]

theorem digits_ne_nil (value : Nat) : digits value ≠ [] :=
  Nat.toDigits_ne_nil

theorem isDigit_of_mem_digits {value : Nat} {char : Char} (member : char ∈ digits value) :
    char.isDigit :=
  Nat.isDigit_of_mem_toDigits (by decide) (by decide) member

theorem separatedDigits?_digits (value : Nat) :
    ∃ values, separatedDigits? (digits value) = some values ∧
      values.length = (digits value).length ∧ ofDigitValues values = value := by
  refine ⟨_, separatedDigits?_of_isDigit (digits_ne_nil value) fun _ => isDigit_of_mem_digits,
    List.length_map _, ?_⟩
  rw [ofDigitValues_map, digits, Nat.ofDigitChars_ten_toDigits]

theorem splitSign_digits (value : Nat) : splitSign (digits value) = (false, digits value) := by
  obtain ⟨first, rest, split⟩ := List.exists_cons_of_ne_nil (digits_ne_nil value)
  have isDigit : first.isDigit = true :=
    isDigit_of_mem_digits (split ▸ List.mem_cons_self : first ∈ digits value)
  rw [split]
  unfold splitSign
  split
  · next same =>
      rw [(List.cons.inj same).1] at isDigit
      exact absurd isDigit (by decide)
  · next same =>
      rw [(List.cons.inj same).1] at isDigit
      exact absurd isDigit (by decide)
  · rfl

theorem splitSign_characters (value : Int) :
    splitSign (characters value) = (decide (value < 0), digits value.natAbs) := by
  cases value with
  | ofNat magnitude =>
      have notNegative : ¬ Int.ofNat magnitude < 0 := by simp
      rw [decide_eq_false notNegative]
      exact splitSign_digits magnitude
  | negSucc magnitude =>
      rw [decide_eq_true (Int.negSucc_lt_zero magnitude)]
      rfl

theorem characters_ne_nil (value : Int) : characters value ≠ [] := by
  cases value with
  | ofNat magnitude => exact digits_ne_nil magnitude
  | negSucc magnitude => exact List.cons_ne_nil _ _

theorem isBlank_of_mem_characters {value : Int} {char : Char}
    (member : char ∈ characters value) : isBlank char = false := by
  cases value with
  | ofNat magnitude => exact isBlank_of_isDigit (isDigit_of_mem_digits member)
  | negSucc magnitude =>
      rcases List.mem_cons.mp member with rfl | written
      · decide
      · exact isBlank_of_isDigit (isDigit_of_mem_digits written)

theorem length_digits_le {value : Int} (written : hasText value = true) :
    (digits value.natAbs).length ≤ maxDigits := by
  have positive : 0 < maxDigits := by decide
  rw [hasText, decide_eq_true_iff] at written
  unfold textBound at written
  generalize maxDigits = limit at positive written ⊢
  exact (Nat.length_toDigits_le_iff (by decide) positive).mpr written

theorem text?_eq_some_iff {value : Int} {text : String} :
    text? value = some text ↔ hasText value = true ∧ render value = text := by
  unfold text?
  split <;> simp_all

theorem isSome_text? (value : Int) : (text? value).isSome = hasText value := by
  unfold text?
  split <;> simp_all

theorem text?_of_hasText {value : Int} (written : hasText value = true) :
    text? value = some (render value) :=
  if_pos written

theorem text?_eq_none_iff {value : Int} : text? value = none ↔ hasText value = false := by
  rw [← isSome_text?, Option.isSome_eq_false_iff, Option.isNone_iff_eq_none]

theorem hasText_iff {value : Int} : hasText value = true ↔ value.natAbs < textBound :=
  decide_eq_true_iff

theorem hasText_eq_false_iff {value : Int} : hasText value = false ↔ textBound ≤ value.natAbs := by
  rw [hasText, decide_eq_false_iff_not, Nat.not_lt]

theorem lt_textBound {value : Nat} (small : value < 10 ^ 20) : value < textBound := by
  have more : 20 ≤ maxDigits := by decide
  unfold textBound
  generalize maxDigits = places at more ⊢
  exact small.trans_le (Nat.pow_le_pow_right (by decide) more)

/-- Integers of twenty digits have a text, and so all that fit eight bytes. -/
theorem hasText_of_small {value : Int} (small : value.natAbs < 10 ^ 20) : hasText value = true :=
  hasText_iff.mpr (lt_textBound small)

theorem read?_characters {value : Int} {before after : List Char}
    (blankBefore : ∀ char ∈ before, isBlank char = true)
    (blankAfter : ∀ char ∈ after, isBlank char = true) (written : hasText value = true) :
    read? (String.ofList (before ++ characters value ++ after)) = some value := by
  have trimmed := trimBlanks_append (characters_ne_nil value) blankBefore blankAfter
    fun _ => isBlank_of_mem_characters
  obtain ⟨values, reads, sameLength, magnitude⟩ := separatedDigits?_digits value.natAbs
  have short : values.length ≤ maxDigits := sameLength.trans_le (length_digits_le written)
  have signed : (if decide (value < 0) = true then -(value.natAbs : Int) else value.natAbs) =
      value := by
    simp only [decide_eq_true_eq]
    split <;> omega
  rw [read?, String.toList_ofList, trimmed, splitSign_characters]
  simp only [reads, Option.bind_eq_bind, Option.bind_some, short, guard_true, magnitude,
    signed]
  rfl

end StakeLottery.Decimal
