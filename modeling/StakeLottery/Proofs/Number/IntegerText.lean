import Mathlib
import StakeLottery.Number.Decimal
import StakeLottery.Proofs.Text.Ascii

/-!
The texts of an integer: all that are read as one. White space stands around it, a sign before it,
and its digits are of any script, with single underscores between them.
-/

namespace StakeLottery

theorem exists_trimmed (text : List Char) :
    ∃ before after, text = before ++ trimBlanks text ++ after ∧
      (∀ char ∈ before, isBlank char = true) ∧ ∀ char ∈ after, isBlank char = true := by
  refine ⟨text.takeWhile isBlank, (text.dropWhile isBlank).rtakeWhile isBlank, ?_, ?_, ?_⟩
  · change text = text.takeWhile isBlank ++ (text.dropWhile isBlank).rdropWhile isBlank ++ _
    rw [List.append_assoc, List.rdropWhile_append_rtakeWhile, List.takeWhile_append_dropWhile]
  · exact fun char => List.mem_takeWhile_imp
  · exact fun char => List.mem_rtakeWhile_imp

theorem isBlank_of_decimalDigit? {char : Char} {digit : Nat}
    (isDigit : decimalDigit? char = some digit) : isBlank char = false := by
  have checked : ∀ first ∈ digitZeros, ∀ offset < 10,
      isBlank (Char.ofNat (first + offset)) = false := by decide
  obtain ⟨first, found, -⟩ := Option.map_eq_some_iff.mp isDigit
  have inRun := List.find?_some found
  rw [Bool.and_eq_true, decide_eq_true_eq, decide_eq_true_eq] at inRun
  have blankless := checked first (List.mem_of_find?_eq_some found) (char.toNat - first) (by omega)
  rwa [Nat.add_sub_cancel' inRun.1, Char.ofNat_toNat] at blankless

namespace Decimal

/-- Digits of any script, at least one, with at most one underscore between two of them. -/
inductive SpellsDigits : List Char → List Nat → Prop where
  | last {char : Char} {digit : Nat} (isDigit : decimalDigit? char = some digit) :
      SpellsDigits [char] [digit]
  | next {char : Char} {digit : Nat} {text : List Char} {digits : List Nat}
      (isDigit : decimalDigit? char = some digit) (others : SpellsDigits text digits) :
      SpellsDigits (char :: text) (digit :: digits)
  | separated {char : Char} {digit : Nat} {text : List Char} {digits : List Nat}
      (isDigit : decimalDigit? char = some digit) (others : SpellsDigits text digits) :
      SpellsDigits (char :: '_' :: text) (digit :: digits)

inductive SpellsSigned : List Char → Int → Prop where
  | unsigned {text : List Char} {digits : List Nat} (spelled : SpellsDigits text digits)
      (few : digits.length ≤ 4300) : SpellsSigned text (Nat.ofDigits 10 digits.reverse)
  | plus {text : List Char} {digits : List Nat} (spelled : SpellsDigits text digits)
      (few : digits.length ≤ 4300) : SpellsSigned ('+' :: text) (Nat.ofDigits 10 digits.reverse)
  | minus {text : List Char} {digits : List Nat} (spelled : SpellsDigits text digits)
      (few : digits.length ≤ 4300) : SpellsSigned ('-' :: text) (-Nat.ofDigits 10 digits.reverse)

def Spells (text : List Char) (value : Int) : Prop :=
  ∃ before signed after, text = before ++ signed ++ after ∧
    (∀ char ∈ before, isBlank char = true) ∧ (∀ char ∈ after, isBlank char = true) ∧
    SpellsSigned signed value

theorem SpellsDigits.isDigit_head {char : Char} {rest : List Char} {digits : List Nat}
    (spelled : SpellsDigits (char :: rest) digits) : (decimalDigit? char).isSome = true := by
  cases spelled <;> simp [*]

theorem separatedDigits?_next {char following : Char} {rest : List Char}
    (notSeparator : following ≠ '_') :
    separatedDigits? (char :: following :: rest) = (decimalDigit? char).bind fun digit =>
      (separatedDigits? (following :: rest)).map (digit :: ·) := by
  rw [separatedDigits?]
  · cases decimalDigit? char <;> cases separatedDigits? (following :: rest) <;> rfl
  · exact notSeparator

theorem separatedDigits?_eq_some_iff {text : List Char} {digits : List Nat} :
    separatedDigits? text = some digits ↔ SpellsDigits text digits := by
  constructor
  · intro reads
    induction text using separatedDigits?.induct generalizing digits with
    | case1 => cases reads
    | case2 char =>
        obtain ⟨digit, isDigit, rfl⟩ := Option.map_eq_some_iff.mp reads
        exact .last isDigit
    | case3 char rest ih =>
        obtain ⟨digit, isDigit, reads⟩ := Option.bind_eq_some_iff.mp reads
        obtain ⟨others, readsOthers, reads⟩ := Option.bind_eq_some_iff.mp reads
        cases reads
        exact .separated isDigit (ih readsOthers)
    | case4 char next rest notSeparator ih =>
        rw [separatedDigits?_next notSeparator] at reads
        obtain ⟨digit, isDigit, reads⟩ := Option.bind_eq_some_iff.mp reads
        obtain ⟨others, readsOthers, rfl⟩ := Option.map_eq_some_iff.mp reads
        exact .next isDigit (ih readsOthers)
  · intro spelled
    induction spelled with
    | last isDigit => simp [separatedDigits?, isDigit]
    | separated isDigit others ih => simp [separatedDigits?, isDigit, ih]
    | @next char digit text digits isDigit others ih =>
        cases text with
        | nil => cases others
        | cons following rest =>
            -- What follows is a digit or more of them, and no digit is an underscore.
            have notSeparator : following ≠ '_' := by
              rintro rfl
              exact absurd others.isDigit_head (by decide)
            rw [separatedDigits?_next notSeparator, isDigit, ih]
            rfl

theorem ofDigitValues_eq (digits : List Nat) :
    (ofDigitValues digits : Int) = Nat.ofDigits 10 digits.reverse := by
  have natural : ofDigitValues digits = Nat.ofDigits 10 digits.reverse := by
    rw [Nat.ofDigits_eq_foldr, List.foldr_reverse, ofDigitValues]
    simp only [Nat.cast_id, Nat.add_comm, Nat.mul_comm]
  rw [natural, Nat.coe_ofDigits]
  rfl

theorem spellsSigned_iff {signed : List Char} {value : Int} :
    SpellsSigned signed value ↔ ∃ digits, SpellsDigits (splitSign signed).2 digits ∧
      digits.length ≤ 4300 ∧
      value = if (splitSign signed).1 then -Nat.ofDigits 10 digits.reverse
        else Nat.ofDigits 10 digits.reverse := by
  constructor
  · intro spells
    cases spells with
    | plus spelled few => exact ⟨_, spelled, few, rfl⟩
    | minus spelled few => exact ⟨_, spelled, few, rfl⟩
    | unsigned spelled few =>
        have unsigned : splitSign signed = (false, signed) := by
          unfold splitSign
          split
          · exact absurd spelled.isDigit_head (by decide)
          · exact absurd spelled.isDigit_head (by decide)
          · rfl
        rw [unsigned]
        exact ⟨_, spelled, few, rfl⟩
  · rintro ⟨digits, spelled, few, rfl⟩
    unfold splitSign at spelled ⊢
    split at spelled
    · exact .minus spelled few
    · exact .plus spelled few
    · exact .unsigned spelled few

theorem SpellsDigits.visible {text : List Char} {digits : List Nat}
    (spelled : SpellsDigits text digits) : ∀ char ∈ text, isBlank char = false := by
  have visibleMark : isBlank '_' = false := by decide
  induction spelled with
  | last isDigit => simpa using isBlank_of_decimalDigit? isDigit
  | next isDigit _ ih => exact List.forall_mem_cons.mpr ⟨isBlank_of_decimalDigit? isDigit, ih⟩
  | separated isDigit _ ih =>
      exact List.forall_mem_cons.mpr
        ⟨isBlank_of_decimalDigit? isDigit, List.forall_mem_cons.mpr ⟨visibleMark, ih⟩⟩

theorem SpellsDigits.ne_nil {text : List Char} {digits : List Nat}
    (spelled : SpellsDigits text digits) : text ≠ [] := by
  cases spelled <;> exact List.cons_ne_nil _ _

theorem SpellsSigned.visible {signed : List Char} {value : Int}
    (spells : SpellsSigned signed value) :
    signed ≠ [] ∧ ∀ char ∈ signed, isBlank char = false := by
  have visibleSigns : isBlank '+' = false ∧ isBlank '-' = false := by decide
  cases spells with
  | unsigned spelled _ => exact ⟨spelled.ne_nil, spelled.visible⟩
  | plus spelled _ =>
      exact ⟨List.cons_ne_nil _ _, List.forall_mem_cons.mpr ⟨visibleSigns.1, spelled.visible⟩⟩
  | minus spelled _ =>
      exact ⟨List.cons_ne_nil _ _, List.forall_mem_cons.mpr ⟨visibleSigns.2, spelled.visible⟩⟩

theorem spells_iff {text : List Char} {value : Int} :
    Spells text value ↔ SpellsSigned (trimBlanks text) value := by
  constructor
  · rintro ⟨before, signed, after, rfl, blankBefore, blankAfter, spells⟩
    obtain ⟨nonempty, visible⟩ := spells.visible
    rwa [trimBlanks_append nonempty blankBefore blankAfter visible]
  · intro spells
    obtain ⟨before, after, split, blankBefore, blankAfter⟩ := exists_trimmed text
    exact ⟨before, trimBlanks text, after, split, blankBefore, blankAfter, spells⟩

theorem read?_eq_some_iff {text : String} {value : Int} :
    read? text = some value ↔ Spells text.toList value := by
  rw [spells_iff, spellsSigned_iff, read?]
  simp only [Option.bind_eq_bind, Option.bind_eq_some_iff, separatedDigits?_eq_some_iff,
    ofDigitValues_eq, maxDigits]
  refine exists_congr fun digits => and_congr_right fun _ => ?_
  constructor
  · rintro ⟨_, guarded, reads⟩
    exact ⟨(Option.guard_eq_some' _).mp guarded, (Option.some.inj reads).symm⟩
  · rintro ⟨few, rfl⟩
    exact ⟨(), if_pos few, rfl⟩

end Decimal

end StakeLottery
