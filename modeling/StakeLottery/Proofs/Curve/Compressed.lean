import Mathlib
import StakeLottery.Curve.Compressed
import StakeLottery.Proofs.Curve.Order

/-!
The compressed form of a point. What is decoded lies on the curve, every affine point of the curve
is decoded from its compressed form, and no other bytes are decoded to it.
-/

namespace StakeLottery.Curve

open scoped Fp

namespace Fp

theorem val_lt_capacity (value : Fp) : value.val < Bytes.capacity 32 :=
  Nat.lt_trans value.isLt (by decide)

theorem ofNat_val (value : Fp) : ofNat value.val = value :=
  Fin.ext (Nat.mod_eq_of_lt value.isLt)

end Fp

namespace Point

theorem length_compress (x y : Fp) : (compress x y).length = compressedLength := by
  rw [compress, List.length_cons, Bytes.length_ofNat]
  rfl

theorem hasCompressedForm_compress (x y : Fp) : hasCompressedForm (compress x y) = true := by
  simp only [hasCompressedForm, length_compress, decide_true, Bool.true_and]
  cases parity : y.isOdd <;> simp [compress, parity]

theorem compress_head (x y : Fp) : decide ((compress x y).head? = some 3) = y.isOdd := by
  cases parity : y.isOdd <;> simp [compress, parity]

theorem compress_tail (x y : Fp) : Bytes.toNat (compress x y).tail = x.val := by
  rw [compress, List.tail_cons, Bytes.toNat_ofNat 32 x.val x.val_lt_capacity]

theorem decompress_val {x y : Fp} (on : (affine x y).onCurve = true) :
    decompress y.isOdd x.val = .ok (affine x y) := by
  have equation : y * y = cubic x := of_decide_eq_true on
  obtain ⟨root, found, same⟩ := Fp.exists_sqrt? y
  rw [equation] at found
  have inRange : ¬fieldPrime ≤ x.val := Nat.not_le.mpr x.isLt
  simp only [decompress, if_neg inRange, Fp.ofNat_val, found]
  rcases same with rfl | rfl
  · rw [if_pos rfl]
  · rw [Fp.isOdd_neg (y_ne_zero on), if_neg (Bool.not_ne_self _), neg_neg]

theorem decode_compress {x y : Fp} (on : (affine x y).onCurve = true) :
    decode (compress x y) = .ok (affine x y) := by
  rw [decode, if_pos (hasCompressedForm_compress x y), compress_head, compress_tail,
    decompress_val on]

theorem onCurve_of_decompress {odd : Bool} {number : Nat} {point : Point}
    (decoded : decompress odd number = .ok point) :
    ∃ x y, point = affine x y ∧ (affine x y).onCurve = true := by
  unfold decompress at decoded
  split at decoded
  · cases decoded
  split at decoded
  · cases decoded
  · rename_i root found
    cases decoded
    have squares := Fp.sqrt?_mul_self found
    refine ⟨_, _, rfl, decide_eq_true ?_⟩
    split
    · exact squares
    · rw [neg_mul_neg, squares]

theorem onCurve_of_decode {bytes : Bytes} {point : Point} (decoded : decode bytes = .ok point) :
    ∃ x y, point = affine x y ∧ (affine x y).onCurve = true := by
  unfold decode at decoded
  split at decoded
  · exact onCurve_of_decompress decoded
  · cases decoded

theorem onCurve_decode {bytes : Bytes} {point : Point} (decoded : decode bytes = .ok point) :
    point.onCurve = true := by
  obtain ⟨x, y, rfl, on⟩ := onCurve_of_decode decoded
  exact on

theorem encode_decompress {odd : Bool} {number : Nat} {point : Point}
    (decoded : decompress odd number = .ok point) :
    point.encode = .ok ((if odd then 3 else 2) :: Bytes.ofNat 32 number) := by
  obtain ⟨x, y, rfl, on⟩ := onCurve_of_decompress decoded
  unfold decompress at decoded
  split at decoded
  · cases decoded
  rename_i inRange
  split at decoded
  · cases decoded
  rename_i root found
  cases decoded
  have sameX : (Fp.ofNat number).val = number := Nat.mod_eq_of_lt (Nat.not_le.mp inRange)
  have parity : (if root.isOdd = odd then root else -root).isOdd = odd := by
    by_cases same : root.isOdd = odd
    · rw [if_pos same, same]
    · have rootNonzero : root ≠ 0 := by
        rintro rfl
        have yNonzero := y_ne_zero on
        rw [neg_zero, ite_self] at yNonzero
        exact yNonzero rfl
      rw [if_neg same, Fp.isOdd_neg rootNonzero]
      exact Bool.not_eq.mpr same
  rw [encode, compress, parity, sameX]

theorem encode_decode {bytes : Bytes} {point : Point} (decoded : decode bytes = .ok point) :
    point.encode = .ok bytes := by
  unfold decode at decoded
  split at decoded
  case isFalse => cases decoded
  case isTrue form =>
    rw [encode_decompress decoded]
    cases bytes with
    | nil => cases form
    | cons head tail =>
        simp only [hasCompressedForm, List.length_cons, List.head?_cons,
          Option.some.injEq, Bool.and_eq_true, Bool.or_eq_true, decide_eq_true_eq] at form
        obtain ⟨length, isForm⟩ := form
        have width : tail.length = 32 := Nat.succ.inj length
        rw [List.tail_cons, ← width, Bytes.ofNat_toNat]
        rcases isForm with rfl | rfl
        · rfl
        · rfl

theorem length_encode {point : Point} {bytes : Bytes} (encodes : point.encode = .ok bytes) :
    bytes.length = compressedLength := by
  cases point with
  | infinity => cases encodes
  | affine x y =>
      rw [← Except.ok.inj encodes]
      exact length_compress x y

theorem decode_encode {point : Point} (on : point.onCurve = true) {bytes : Bytes}
    (encodes : point.encode = .ok bytes) : decode bytes = .ok point := by
  cases point with
  | infinity => cases encodes
  | affine x y =>
      rw [← Except.ok.inj encodes]
      exact decode_compress on

theorem exists_encode {element : Group} (nonzero : element ≠ 0) :
    ∃ bytes, (ofGroup element).encode = .ok bytes ∧ bytes.length = compressedLength ∧
      decode bytes = .ok (ofGroup element) := by
  cases element with
  | zero => exact absurd rfl nonzero
  | some x y nonsingular =>
      exact ⟨compress x y, rfl, length_compress x y,
        decode_compress (onCurve_ofGroup (.some x y nonsingular))⟩

end Point

end StakeLottery.Curve
