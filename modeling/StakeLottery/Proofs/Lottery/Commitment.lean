import StakeLottery.Proofs.Lottery.Ticket

/-!
The hash of a ticket as a commitment. It is taken of the bytes of a text, the output in hexadecimal
and two integers joined by plus signs. Texts are the same only for the same three fields, so tickets
with one hash are the same ticket or a collision of the double digest.
-/

namespace StakeLottery

theorem Bytes.toList_eq (array : ByteArray) : array.toList = array.data.toList := by
  have loop (place : Nat) (collected : List UInt8) :
      ByteArray.toList.loop array place collected =
        collected.reverse ++ array.data.toList.drop place := by
    fun_induction ByteArray.toList.loop array place collected with
    | case1 place collected inside ih =>
        have here : place < array.data.toList.length := by simpa using inside
        rw [ih, List.drop_eq_getElem_cons here]
        simp [ByteArray.get!, inside]
    | case2 place collected outside =>
        rw [List.drop_eq_nil_of_le (by simpa using Nat.le_of_not_lt outside), List.append_nil]
  exact loop 0 []

theorem Bytes.ofText_ofList {text : List Char} (ascii : ∀ char ∈ text, char.toNat < 128) :
    ofText (String.ofList text) = ofAscii text := by
  have single (char : Char) (small : char.toNat < 128) :
      String.utf8EncodeChar char = [UInt8.ofNat char.toNat] :=
    if_pos (Nat.le_of_lt_succ small)
  rw [ofText, String.toUTF8_eq_toByteArray, String.toByteArray_ofList, toList_eq,
    List.utf8Encode, List.toList_data_toByteArray, ofAscii, ← List.flatMap_pure_eq_map]
  exact List.flatMap_congr fun char member => single char (ascii char member)

theorem Decimal.render_eq_toString (value : Int) : render value = toString value := by
  cases value with
  | ofNat value => exact Nat.repr_eq_ofList_toDigits.symm
  | negSucc value =>
      change String.ofList ('-' :: digits (value + 1)) = "-" ++ Nat.repr (value + 1)
      rw [Nat.repr_eq_ofList_toDigits, ← String.toList_inj]
      simp [digits]

namespace Ticket

def text (output : Bytes) (index committee : Int) : String :=
  Hex.render output ++ "+" ++ toString index ++ "+" ++ toString committee

theorem text_eq (output : Bytes) (index committee : Int) :
    text output index committee = String.ofList (preimage output index committee) := by
  rw [text, preimage, ← Decimal.render_eq_toString, ← Decimal.render_eq_toString,
    ← String.toList_inj]
  simp [Hex.render, Decimal.render]

theorem ofText_text (output : Bytes) (index committee : Int) :
    Bytes.ofText (text output index committee) =
      Bytes.ofAscii (preimage output index committee) := by
  rw [text_eq, Bytes.ofText_ofList (preimage_ascii output index committee)]

theorem hash?_eq_bind (output : Bytes) (index committee : Int) :
    hash? output index committee = do
      let indexText ← Decimal.text? index
      let committeeText ← Decimal.text? committee
      return Sha256.hashTwice
        (Bytes.ofText (Hex.render output ++ "+" ++ indexText ++ "+" ++ committeeText)) := by
  cases indexWritten : Decimal.hasText index with
  | false =>
      rw [hash?_of_unwritable (by simp [isWritable, indexWritten]),
        Decimal.text?_eq_none_iff.mpr indexWritten]
      rfl
  | true =>
      cases committeeWritten : Decimal.hasText committee with
      | false =>
          rw [hash?_of_unwritable (by simp [isWritable, committeeWritten]),
            Decimal.text?_of_hasText indexWritten, Decimal.text?_eq_none_iff.mpr committeeWritten]
          rfl
      | true =>
          rw [hash?_of_isWritable (isWritable_iff.mpr ⟨indexWritten, committeeWritten⟩),
            Decimal.text?_of_hasText indexWritten, Decimal.text?_of_hasText committeeWritten,
            hash, ← ofText_text, text, Decimal.render_eq_toString, Decimal.render_eq_toString]
          rfl

/-- Tickets of one hash are the same, or their texts collide. -/
theorem hash_commits (output otherOutput : Bytes)
    (index otherIndex committee otherCommittee : Int) :
    (hash? output index committee = do
      let indexText ← Decimal.text? index
      let committeeText ← Decimal.text? committee
      return Sha256.hashTwice
        (Bytes.ofText (Hex.render output ++ "+" ++ indexText ++ "+" ++ committeeText))) ∧
    hash output index committee =
      Sha256.hashTwice (Bytes.ofText (text output index committee)) ∧
    (text output index committee = text otherOutput otherIndex otherCommittee ↔
      output = otherOutput ∧ index = otherIndex ∧ committee = otherCommittee) ∧
    (hash output index committee = hash otherOutput otherIndex otherCommittee ↔
      (output = otherOutput ∧ index = otherIndex ∧ committee = otherCommittee) ∨
      Sha256.CollidesTwice (Bytes.ofText (text output index committee))
        (Bytes.ofText (text otherOutput otherIndex otherCommittee))) := by
  refine ⟨hash?_eq_bind output index committee, by rw [ofText_text, hash], ?_, ?_⟩
  · constructor
    · intro same
      rw [text_eq, text_eq, String.ofList_inj] at same
      exact preimage_injective same
    · rintro ⟨rfl, rfl, rfl⟩
      rfl
  · rw [ofText_text, ofText_text]
    constructor
    · intro same
      by_cases fields : output = otherOutput ∧ index = otherIndex ∧ committee = otherCommittee
      · exact .inl fields
      · exact .inr (collides_of_hash_eq same fields)
    · rintro (⟨rfl, rfl, rfl⟩ | ⟨-, same⟩)
      · rfl
      · exact same

end Ticket

end StakeLottery
