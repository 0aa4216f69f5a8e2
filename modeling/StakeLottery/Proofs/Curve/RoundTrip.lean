import Mathlib
import StakeLottery.Proofs.Curve.Decoding

/-!
Compressed points and coordinates, as plain numbers. Decoding and encoding are inverse between the
bytes that are accepted and the points of the curve, and what is accepted is told from the bytes
alone: their form, and a number that is the first coordinate of a point.
-/

namespace StakeLottery.Curve

open scoped Fp

structure IsPoint (x y : Nat) : Prop where
  x_lt : x < fieldPrime
  y_lt : y < fieldPrime
  equation : y ^ 2 ≡ x ^ 3 + 7 [MOD fieldPrime]

def IsAbscissa (x : Nat) : Prop :=
  x < fieldPrime ∧ ∃ y, y ^ 2 ≡ x ^ 3 + 7 [MOD fieldPrime]

theorem fieldPrime_eq : fieldPrime = 2 ^ 256 - 2 ^ 32 - 977 := by decide

namespace Point

def ofNats (x y : Nat) : Point :=
  affine (Fp.ofNat x) (Fp.ofNat y)

theorem val_ofNat {number : Nat} (inRange : number < fieldPrime) :
    (Fp.ofNat number).val = number :=
  Nat.mod_eq_of_lt inRange

theorem mul_self_val (y : Fp) : (y * y).val ≡ y.val ^ 2 [MOD fieldPrime] := by
  rw [Fin.val_mul, sq]
  exact Nat.mod_modEq _ _

theorem cubic_val (x : Fp) : (cubic x).val ≡ x.val ^ 3 + 7 [MOD fieldPrime] := by
  rw [cubic, Fin.val_add, Fin.val_mul, Fin.val_mul, pow_succ, sq]
  refine (Nat.mod_modEq _ _).trans (Nat.ModEq.add_right 7 ?_)
  exact (Nat.mod_modEq _ _).trans (Nat.ModEq.mul_right _ (Nat.mod_modEq _ _))

theorem mul_self_eq_cubic_iff {x y : Fp} :
    y * y = cubic x ↔ y.val ^ 2 ≡ x.val ^ 3 + 7 [MOD fieldPrime] := by
  constructor
  · intro equation
    have same := cubic_val x
    rw [← equation] at same
    exact (mul_self_val y).symm.trans same
  · intro congruent
    have same := (mul_self_val y).trans (congruent.trans (cubic_val x).symm)
    exact Fin.ext (same.eq_of_lt_of_lt (y * y).isLt (cubic x).isLt)

theorem onCurve_affine_iff {x y : Fp} : (affine x y).onCurve = true ↔ IsPoint x.val y.val := by
  rw [onCurve, decide_eq_true_eq, mul_self_eq_cubic_iff]
  constructor
  · exact fun equation => ⟨x.isLt, y.isLt, equation⟩
  · exact fun isPoint => isPoint.equation

theorem onCurve_ofNats {x y : Nat} (isPoint : IsPoint x y) : (ofNats x y).onCurve = true := by
  rw [ofNats, onCurve_affine_iff, val_ofNat isPoint.x_lt, val_ofNat isPoint.y_lt]
  exact isPoint

theorem exists_ofNats {point : Point} (on : point.onCurve = true) (finite : point ≠ infinity) :
    ∃ x y, point = ofNats x y ∧ IsPoint x y ∧ 0 < y := by
  cases point with
  | infinity => exact absurd rfl finite
  | affine x y =>
      have positive : 0 < y.val := Nat.pos_of_ne_zero fun zero => y_ne_zero on (Fin.ext zero)
      refine ⟨x.val, y.val, ?_, onCurve_affine_iff.mp on, positive⟩
      rw [ofNats, Fp.ofNat_val, Fp.ofNat_val]

theorem encode_ofNats {x y : Nat} (isPoint : IsPoint x y) :
    (ofNats x y).encode = .ok ((if y % 2 = 1 then 3 else 2) :: Bytes.ofNat 32 x) := by
  rw [ofNats, encode, compress_eq, val_ofNat isPoint.x_lt, val_ofNat isPoint.y_lt]

theorem isAbscissa_iff {number : Nat} :
    IsAbscissa number ↔
      number < fieldPrime ∧ ∃ root : Fp, root * root = cubic (Fp.ofNat number) := by
  refine and_congr_right fun inRange => ?_
  simp only [mul_self_eq_cubic_iff, val_ofNat inRange]
  constructor
  · rintro ⟨y, congruent⟩
    refine ⟨Fp.ofNat y, ?_⟩
    exact ((Nat.mod_modEq y fieldPrime).pow 2).trans congruent
  · rintro ⟨root, congruent⟩
    exact ⟨root.val, congruent⟩

theorem exists_decode_iff {bytes : Bytes} :
    (∃ point, decode bytes = .ok point) ↔ HasForm bytes ∧ IsAbscissa (Bytes.toNat bytes.tail) := by
  rw [isAbscissa_iff]
  constructor
  · rintro ⟨point, decoded⟩
    have form := hasForm_of_compresses (decode_ok_iff.mp decoded)
    have unrefused : ∀ error, ¬Undecodable bytes error := by
      intro error undecodable
      cases decoded.symm.trans (decode_error_iff.mpr undecodable)
    have inRange : Bytes.toNat bytes.tail < fieldPrime := by
      by_contra beyond
      exact unrefused _ (.outOfRange form (Nat.not_lt.mp beyond))
    refine ⟨form, inRange, ?_⟩
    by_contra rootless
    exact unrefused _ (.notOnCurve form inRange fun root square => rootless ⟨root, square⟩)
  · rintro ⟨form, inRange, root, square⟩
    cases decoded : decode bytes with
    | ok point => exact ⟨point, rfl⟩
    | error error =>
        cases decode_error_iff.mp decoded with
        | encoding malformed => exact absurd form malformed
        | outOfRange _ beyond => exact absurd inRange (Nat.not_lt.mpr beyond)
        | notOnCurve _ _ offCurve => exact absurd square (offCurve root)

theorem exists_coordinates_of_decode {bytes : Bytes} {point : Point}
    (decoded : decode bytes = .ok point) :
    ∃ x y, point = ofNats x y ∧ IsPoint x y ∧ 0 < y ∧
      bytes = (if y % 2 = 1 then 3 else 2) :: Bytes.ofNat 32 x := by
  have finite := ne_infinity_of_compresses (decode_ok_iff.mp decoded)
  obtain ⟨x, y, rfl, isPoint, positive⟩ := exists_ofNats (onCurve_decode decoded) finite
  refine ⟨x, y, rfl, isPoint, positive, ?_⟩
  have encodes := encode_decode decoded
  rw [encode_ofNats isPoint] at encodes
  exact (Except.ok.inj encodes).symm

/-- Decoding and encoding are inverse. What is decoded has the form of a compressed point and writes
the first coordinate of one. -/
theorem compressed_points_round_trip :
    (fieldPrime = 2 ^ 256 - 2 ^ 32 - 977 ∧ fieldPrime.Prime ∧ fieldPrime % 4 = 3) ∧
    (∀ bytes point, decode bytes = .ok point →
      ∃ x y, point = ofNats x y ∧ IsPoint x y ∧ 0 < y ∧
        bytes.head?.map (fun first => first.toNat % 2) = some (y % 2) ∧
        point.encode = .ok bytes) ∧
    (∀ x y, IsPoint x y →
      ∃ bytes, (ofNats x y).encode = .ok bytes ∧ decode bytes = .ok (ofNats x y)) ∧
    (∀ bytes, (∃ point, decode bytes = .ok point) ↔
      bytes.length = 33 ∧ (bytes.head? = some 2 ∨ bytes.head? = some 3) ∧
        IsAbscissa (Bytes.toNat bytes.tail)) ∧
    ∀ bytes error, decode bytes = .error error ↔ Undecodable bytes error := by
  refine ⟨⟨fieldPrime_eq, fieldPrime_prime, by decide⟩, ?_, ?_, ?_, ?_⟩
  · intro bytes point decoded
    obtain ⟨x, y, same, isPoint, positive, spelled⟩ := exists_coordinates_of_decode decoded
    refine ⟨x, y, same, isPoint, positive, ?_, encode_decode decoded⟩
    rw [spelled, List.head?_cons, Option.map_some, Option.some.injEq]
    by_cases odd : y % 2 = 1
    · rw [if_pos odd, odd]
      rfl
    · rw [if_neg odd, Nat.mod_two_ne_one.mp odd]
      rfl
  · intro x y isPoint
    have encodes := encode_ofNats isPoint
    exact ⟨_, encodes, decode_encode (onCurve_ofNats isPoint) encodes⟩
  · intro bytes
    rw [exists_decode_iff, HasForm, and_assoc]
  · intro bytes error
    exact decode_error_iff

theorem compressed_points_round_trip_generator :
    ∃ bytes x y, generator.encode = .ok bytes ∧ decode bytes = .ok generator ∧
      generator = ofNats x y ∧ IsPoint x y ∧
      bytes.head?.map (fun first => first.toNat % 2) = some (y % 2) := by
  obtain ⟨-, decodes, encodes, -⟩ := compressed_points_round_trip
  obtain ⟨bytes, encoded, decoded⟩ := encodes
    0x79be667ef9dcbbac55a06295ce870b07029bfcdb2dce28d959f2815b16f81798
    0x483ada7726a3c4655da4fbfc0e1108a8fd17b448a68554199c47d08ffb10d4b8
    ⟨by decide, by decide, by decide +kernel⟩
  obtain ⟨x, y, same, isPoint, -, parity, -⟩ := decodes bytes generator decoded
  exact ⟨bytes, x, y, encoded, decoded, same, isPoint, parity⟩

end Point

end StakeLottery.Curve
