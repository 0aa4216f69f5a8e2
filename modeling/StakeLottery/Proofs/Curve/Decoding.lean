import Mathlib
import StakeLottery.Proofs.Curve.Compressed

/-!
Which bytes are the compressed form of a point, and why all others are refused: for their form, for
a coordinate beyond the field, or because the cubic of the coordinate has no root.
-/

namespace StakeLottery.Curve

open scoped Fp

theorem Fp.sqrt?_eq_none_iff {value : Fp} :
    sqrt? value = none ↔ ∀ root : Fp, root * root ≠ value := by
  constructor
  · rintro absent root rfl
    obtain ⟨found, isRoot, -⟩ := exists_sqrt? root
    cases absent.symm.trans isRoot
  · intro rootless
    cases found : sqrt? value with
    | none => rfl
    | some root => exact absurd (sqrt?_mul_self found) (rootless root)

namespace Point

def Compresses (bytes : Bytes) : Point → Prop
  | infinity => False
  | affine x y => y * y = cubic x ∧
      bytes = (if y.val % 2 = 1 then 3 else 2) :: Bytes.ofNat 32 x.val

def HasForm (bytes : Bytes) : Prop :=
  bytes.length = 33 ∧ (bytes.head? = some 2 ∨ bytes.head? = some 3)

/-- Why bytes are not the compressed form of a point, by the first of three reasons. -/
inductive Undecodable (bytes : Bytes) : PointError → Prop
  | encoding (malformed : ¬HasForm bytes) : Undecodable bytes .encoding
  | outOfRange (form : HasForm bytes) (beyond : fieldPrime ≤ Bytes.toNat bytes.tail) :
      Undecodable bytes .outOfRange
  | notOnCurve (form : HasForm bytes) (inRange : Bytes.toNat bytes.tail < fieldPrime)
      (offCurve : ∀ y : Fp, y * y ≠ cubic (Fp.ofNat (Bytes.toNat bytes.tail))) :
      Undecodable bytes .notOnCurve

theorem compress_eq (x y : Fp) :
    compress x y = (if y.val % 2 = 1 then 3 else 2) :: Bytes.ofNat 32 x.val := by
  simp only [compress, Fp.isOdd, decide_eq_true_eq]

theorem compresses_iff {bytes : Bytes} {point : Point} :
    Compresses bytes point ↔ point.onCurve = true ∧ point.encode = .ok bytes := by
  cases point with
  | infinity => simp [Compresses, encode]
  | affine x y =>
      simp only [Compresses, onCurve, decide_eq_true_eq, encode, Except.ok.injEq, compress_eq]
      exact and_congr_right fun _ => eq_comm

theorem encode_ok_iff {bytes : Bytes} {point : Point} (on : point.onCurve = true) :
    point.encode = .ok bytes ↔ Compresses bytes point := by
  rw [compresses_iff]
  exact (and_iff_right on).symm

theorem decode_ok_iff {bytes : Bytes} {point : Point} :
    decode bytes = .ok point ↔ Compresses bytes point := by
  rw [compresses_iff]
  constructor
  · intro decoded
    exact ⟨onCurve_decode decoded, encode_decode decoded⟩
  · rintro ⟨on, encodes⟩
    exact decode_encode on encodes

theorem hasCompressedForm_iff {bytes : Bytes} :
    hasCompressedForm bytes = true ↔ HasForm bytes := by
  simp only [hasCompressedForm, Bool.and_eq_true, Bool.or_eq_true, decide_eq_true_eq]
  exact Iff.rfl

theorem decompress_error_iff {odd : Bool} {number : Nat} {error : PointError} :
    decompress odd number = .error error ↔
      (fieldPrime ≤ number ∧ error = .outOfRange) ∨
        (number < fieldPrime ∧ (∀ y : Fp, y * y ≠ cubic (Fp.ofNat number)) ∧
          error = .notOnCurve) := by
  rw [← Fp.sqrt?_eq_none_iff]
  unfold decompress
  by_cases beyond : fieldPrime ≤ number
  · simp [beyond, Nat.not_lt.mpr beyond, eq_comm]
  · have inRange : number < fieldPrime := Nat.not_le.mp beyond
    cases Fp.sqrt? (cubic (Fp.ofNat number)) with
    | none => simp [beyond, inRange, eq_comm]
    | some root => simp [beyond]

theorem decode_error_iff {bytes : Bytes} {error : PointError} :
    decode bytes = .error error ↔ Undecodable bytes error := by
  unfold decode
  by_cases form : HasForm bytes
  · rw [if_pos (hasCompressedForm_iff.mpr form), decompress_error_iff]
    constructor
    · rintro (⟨beyond, rfl⟩ | ⟨inRange, offCurve, rfl⟩)
      · exact .outOfRange form beyond
      · exact .notOnCurve form inRange offCurve
    · intro undecodable
      cases undecodable with
      | encoding malformed => exact absurd form malformed
      | outOfRange _ beyond => exact .inl ⟨beyond, rfl⟩
      | notOnCurve _ inRange offCurve => exact .inr ⟨inRange, offCurve, rfl⟩
  · rw [if_neg (mt hasCompressedForm_iff.mp form)]
    constructor
    · intro refused
      cases refused
      exact .encoding form
    · intro undecodable
      cases undecodable with
      | encoding _ => rfl
      | outOfRange hasForm _ => exact absurd hasForm form
      | notOnCurve hasForm _ _ => exact absurd hasForm form

theorem hasForm_of_compresses {bytes : Bytes} {point : Point}
    (compressed : Compresses bytes point) : HasForm bytes := by
  by_contra malformed
  cases (decode_error_iff.mpr (.encoding malformed)).symm.trans (decode_ok_iff.mpr compressed)

theorem ne_infinity_of_compresses {bytes : Bytes} {point : Point}
    (compressed : Compresses bytes point) : point ≠ infinity := by
  rintro rfl
  exact compressed

theorem times_eq_multiple {point : Point} (on : point.onCurve = true) (count : Nat) :
    point.times count = multiple count point := by
  obtain ⟨element, rfl⟩ := exists_ofGroup on
  rw [← ofGroup_nsmul]
  induction count with
  | zero => rw [zero_nsmul, ofGroup_zero, multiple]
  | succ count ih => rw [succ_nsmul, ofGroup_add, multiple, ih]

end Point

end StakeLottery.Curve
