import Mathlib
import StakeLottery.Lottery.Ticket
import StakeLottery.Proofs.Digest.Sha256
import StakeLottery.Proofs.Number.Decimal

/-!
What a ticket's hash commits to. The text that is hashed splits at its plus signs, which no digit
is, so that it holds one output, one index and one committee.
-/

namespace StakeLottery

theorem eq_of_append_mark {Symbol : Type} {mark : Symbol} {first second firstTail secondTail :
    List Symbol} (unmarkedFirst : mark ∉ first) (unmarkedSecond : mark ∉ second)
    (same : first ++ mark :: firstTail = second ++ mark :: secondTail) :
    first = second ∧ firstTail = secondTail := by
  induction first generalizing second with
  | nil =>
      cases second with
      | nil => exact ⟨rfl, (List.cons.inj same).2⟩
      | cons symbol rest =>
          have isMark : mark = symbol := (List.cons.inj same).1
          exact absurd (isMark ▸ List.mem_cons_self) unmarkedSecond
  | cons symbol rest ih =>
      cases second with
      | nil =>
          have isMark : symbol = mark := (List.cons.inj same).1
          exact absurd (isMark ▸ List.mem_cons_self) unmarkedFirst
      | cons other others =>
          obtain ⟨sameHead, sameRest⟩ := List.cons.inj same
          have unmarkedRest := fun member => unmarkedFirst (List.mem_cons_of_mem symbol member)
          have unmarkedOthers := fun member => unmarkedSecond (List.mem_cons_of_mem other member)
          obtain ⟨isRest, sameTail⟩ := ih unmarkedRest unmarkedOthers sameRest
          exact ⟨by rw [sameHead, isRest], sameTail⟩

theorem Bytes.map_ofAscii {text : List Char} (ascii : ∀ char ∈ text, char.toNat < 128) :
    (ofAscii text).map (fun byte => Char.ofNat byte.toNat) = text := by
  rw [ofAscii, List.map_map]
  refine (List.map_congr_left fun char member => ?_).trans (List.map_id text)
  have small : char.toNat < 256 := (ascii char member).trans (by decide)
  rw [Function.comp_apply, UInt8.toNat_ofNat', Nat.mod_eq_of_lt small, Char.ofNat_toNat, id]

namespace Hex

theorem digits_injective {first second : Bytes} (same : digits first = digits second) :
    first = second := by
  have reads := congrArg readDigits same
  rw [readDigits_digits, readDigits_digits] at reads
  exact Option.some.inj reads

theorem mem_digits {bytes : Bytes} {char : Char} (member : char ∈ digits bytes) :
    char.toNat < 128 ∧ char ≠ '+' := by
  have checked : ∀ value < 16, (digit value).toNat < 128 ∧ digit value ≠ '+' := by decide
  obtain ⟨byte, -, written⟩ := List.mem_flatMap.mp member
  have small : byte.toNat < 256 := byte.toNat_lt
  rcases List.mem_pair.mp written with rfl | rfl
  · exact checked _ (by omega)
  · exact checked _ (by omega)

end Hex

namespace Decimal

theorem digits_injective {first second : Nat} (same : digits first = digits second) :
    first = second := by
  have values := congrArg (Nat.ofDigitChars 10 · 0) same
  simpa only [digits, Nat.ofDigitChars_ten_toDigits] using values

theorem sign_not_mem_digits (value : Nat) : '-' ∉ digits value := by
  intro member
  exact absurd (isDigit_of_mem_digits member) (by decide)

theorem characters_injective {first second : Int}
    (same : characters first = characters second) : first = second := by
  cases first with
  | ofNat first =>
      cases second with
      | ofNat second => exact congrArg Int.ofNat (digits_injective same)
      | negSucc second =>
          have signed : '-' ∈ characters (.negSucc second) := List.mem_cons_self
          rw [← same] at signed
          exact absurd signed (sign_not_mem_digits first)
  | negSucc first =>
      cases second with
      | ofNat second =>
          have signed : '-' ∈ characters (.negSucc first) := List.mem_cons_self
          rw [same] at signed
          exact absurd signed (sign_not_mem_digits second)
      | negSucc second =>
          have sameDigits := digits_injective (List.cons.inj same).2
          exact congrArg Int.negSucc (Nat.succ.inj sameDigits)

theorem mem_characters {value : Int} {char : Char} (member : char ∈ characters value) :
    char.toNat < 128 ∧ char ≠ '+' := by
  have ofDigit : ∀ {magnitude : Nat}, char ∈ digits magnitude →
      char.toNat < 128 ∧ char ≠ '+' := by
    intro magnitude written
    obtain ⟨lower, upper⟩ := Char.isDigit_iff_toNat.mp (isDigit_of_mem_digits written)
    refine ⟨upper.trans_lt (by decide), ?_⟩
    rintro rfl
    exact absurd lower (by decide)
  cases value with
  | ofNat value => exact ofDigit member
  | negSucc value =>
      rcases List.mem_cons.mp member with rfl | written
      · decide
      · exact ofDigit written

end Decimal

namespace Ticket

theorem isWritable_iff {index committee : Int} :
    isWritable index committee = true ↔
      Decimal.hasText index = true ∧ Decimal.hasText committee = true :=
  Bool.and_eq_true_iff

theorem hash?_eq_some {output digest : Bytes} {index committee : Int} :
    hash? output index committee = some digest ↔
      isWritable index committee = true ∧ hash output index committee = digest := by
  unfold hash?
  split <;> simp_all

theorem hash?_of_isWritable {output : Bytes} {index committee : Int}
    (written : isWritable index committee = true) :
    hash? output index committee = some (hash output index committee) :=
  if_pos written

theorem hash?_of_unwritable {output : Bytes} {index committee : Int}
    (unwritten : isWritable index committee = false) : hash? output index committee = none :=
  if_neg (Bool.eq_false_iff.mp unwritten)

theorem hash?_eq_none_iff {output : Bytes} {index committee : Int} :
    hash? output index committee = none ↔
      Decimal.hasText index = false ∨ Decimal.hasText committee = false := by
  rw [← Bool.and_eq_false_iff, hash?, ite_eq_right_iff, Bool.eq_false_iff]
  simp [isWritable]

theorem preimage_injective {firstOutput secondOutput : Bytes}
    {firstIndex secondIndex firstCommittee secondCommittee : Int}
    (same : preimage firstOutput firstIndex firstCommittee =
      preimage secondOutput secondIndex secondCommittee) :
    firstOutput = secondOutput ∧ firstIndex = secondIndex ∧ firstCommittee = secondCommittee := by
  have unmarked : ∀ output : Bytes, '+' ∉ Hex.digits output :=
    fun output member => (Hex.mem_digits member).2 rfl
  have unmarkedInt : ∀ value : Int, '+' ∉ Decimal.characters value :=
    fun value member => (Decimal.mem_characters member).2 rfl
  obtain ⟨sameOutput, sameTail⟩ := eq_of_append_mark (unmarked _) (unmarked _) same
  obtain ⟨sameIndex, sameCommittee⟩ :=
    eq_of_append_mark (unmarkedInt _) (unmarkedInt _) sameTail
  exact ⟨Hex.digits_injective sameOutput, Decimal.characters_injective sameIndex,
    Decimal.characters_injective sameCommittee⟩

theorem preimage_ascii (output : Bytes) (index committee : Int) :
    ∀ char ∈ preimage output index committee, char.toNat < 128 := by
  intro char member
  simp only [preimage, List.mem_append, List.mem_cons] at member
  rcases member with written | rfl | written | rfl | written
  · exact (Hex.mem_digits written).1
  · decide
  · exact (Decimal.mem_characters written).1
  · decide
  · exact (Decimal.mem_characters written).1

theorem ofAscii_preimage_injective {firstOutput secondOutput : Bytes}
    {firstIndex secondIndex firstCommittee secondCommittee : Int}
    (same : Bytes.ofAscii (preimage firstOutput firstIndex firstCommittee) =
      Bytes.ofAscii (preimage secondOutput secondIndex secondCommittee)) :
    firstOutput = secondOutput ∧ firstIndex = secondIndex ∧ firstCommittee = secondCommittee := by
  have sameText := congrArg (List.map fun byte => Char.ofNat byte.toNat) same
  rw [Bytes.map_ofAscii (preimage_ascii _ _ _), Bytes.map_ofAscii (preimage_ascii _ _ _)]
    at sameText
  exact preimage_injective sameText

theorem collides_of_hash_eq {firstOutput secondOutput : Bytes}
    {firstIndex secondIndex firstCommittee secondCommittee : Int}
    (same : hash firstOutput firstIndex firstCommittee =
      hash secondOutput secondIndex secondCommittee)
    (different : ¬(firstOutput = secondOutput ∧ firstIndex = secondIndex ∧
      firstCommittee = secondCommittee)) :
    Sha256.CollidesTwice (Bytes.ofAscii (preimage firstOutput firstIndex firstCommittee))
      (Bytes.ofAscii (preimage secondOutput secondIndex secondCommittee)) :=
  ⟨fun sameBytes => different (ofAscii_preimage_injective sameBytes), same⟩

end Ticket

end StakeLottery
