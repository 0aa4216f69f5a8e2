import Mathlib
import StakeLottery.Text.Blank
import StakeLottery.Text.DecimalDigit

/-!
ASCII characters, which are few enough to check one by one, and the white space around a text.
-/

namespace StakeLottery

theorem exists_code {char : Char} (ascii : char.toNat < 128) :
    ∃ code < 128, Char.ofNat code = char :=
  ⟨char.toNat, ascii, Char.ofNat_toNat char⟩

theorem toNat_lt_of_le {char bound : Char} (below : char ≤ bound) (ascii : bound.toNat < 128) :
    char.toNat < 128 :=
  Nat.lt_of_le_of_lt (UInt32.le_iff_toNat_le.mp below) ascii

theorem toNat_lt_of_isDigit {char : Char} (isDigit : char.isDigit = true) : char.toNat < 128 :=
  (Char.isDigit_iff_toNat.mp isDigit).2.trans_lt (by decide)

theorem decimalDigit?_of_isDigit {char : Char} (isDigit : char.isDigit = true) :
    decimalDigit? char = some (char.toNat - '0'.toNat) := by
  have checked : ∀ code < 128, (Char.ofNat code).isDigit = true →
      decimalDigit? (Char.ofNat code) = some ((Char.ofNat code).toNat - '0'.toNat) := by decide
  obtain ⟨code, ascii, rfl⟩ := exists_code (toNat_lt_of_isDigit isDigit)
  exact checked code ascii isDigit

theorem isBlank_of_isDigit {char : Char} (isDigit : char.isDigit = true) :
    isBlank char = false := by
  have checked : ∀ code < 128, (Char.ofNat code).isDigit = true →
      isBlank (Char.ofNat code) = false := by decide
  obtain ⟨code, ascii, rfl⟩ := exists_code (toNat_lt_of_isDigit isDigit)
  exact checked code ascii isDigit

theorem trimBlanks_append {before text after : List Char} (nonempty : text ≠ [])
    (blankBefore : ∀ char ∈ before, isBlank char = true)
    (blankAfter : ∀ char ∈ after, isBlank char = true)
    (visible : ∀ char ∈ text, isBlank char = false) :
    trimBlanks (before ++ text ++ after) = text := by
  obtain ⟨first, rest, rfl⟩ := List.exists_cons_of_ne_nil nonempty
  have visibleFirst : isBlank first = false := visible first List.mem_cons_self
  have visibleLast : (first :: rest).reverse.dropWhile isBlank = (first :: rest).reverse := by
    refine List.dropWhile_eq_self_iff.mpr fun bound => ?_
    rw [visible _ (List.mem_reverse.mp (List.getElem_mem bound))]
    exact Bool.false_ne_true
  have trimmedBefore : (before ++ first :: rest ++ after).dropWhile isBlank =
      first :: rest ++ after := by
    rw [List.append_assoc, List.dropWhile_append_of_pos blankBefore, List.cons_append,
      List.dropWhile_cons_of_neg (by simp [visibleFirst])]
  have blankReverse : ∀ char ∈ after.reverse, isBlank char = true :=
    fun char member => blankAfter char (List.mem_reverse.mp member)
  rw [trimBlanks, trimmedBefore, List.reverse_append, List.dropWhile_append_of_pos blankReverse,
    visibleLast, List.reverse_reverse]

end StakeLottery
