import StakeLottery.Proofs.Ecvrf.Relation
import StakeLottery.Proofs.Key.Material

/-!
Keys of one scalar. The bytes of a scalar, a key that was loaded from a file and a key that is ready
for use make the same key, and the public key tells the scalar.
-/

namespace StakeLottery

open Curve
open scoped Curve.Fp

namespace SecretKey

/-- Why bytes are the scalar of no key, by the first of three reasons. -/
inductive Unusable (bytes : Bytes) : KeyError → Prop
  | wrongLength (length : bytes.length ≠ 32) : Unusable bytes (.wrongLength bytes.length)
  | zero (length : bytes.length = 32) (isZero : bytes.toNat = 0) : Unusable bytes .zeroScalar
  | tooLarge (length : bytes.length = 32) (beyond : groupOrder ≤ bytes.toNat) :
      Unusable bytes .scalarTooLarge

theorem exists_ofBytes {bytes : Bytes} :
    (∃ key, ofBytes bytes = .ok key) ↔
      bytes.length = 32 ∧ 0 < bytes.toNat ∧ bytes.toNat < groupOrder := by
  constructor
  · rintro ⟨key, made⟩
    obtain ⟨length, isScalar⟩ := ofBytes_eq_ok.mp made
    rw [← isScalar]
    exact ⟨length, key.positive, key.below_order⟩
  · rintro ⟨length, positive, below⟩
    exact ⟨⟨bytes.toNat, positive, below⟩, ofBytes_eq_ok.mpr ⟨length, rfl⟩⟩

theorem ofBytes_eq_error {bytes : Bytes} {error : KeyError} :
    ofBytes bytes = .error error ↔ Unusable bytes error := by
  unfold ofBytes ofScalar
  constructor
  · intro failed
    split at failed
    · rename_i length
      split at failed
      · split at failed
        · cases failed
        · rename_i atLeast
          cases failed
          exact .tooLarge length (Nat.not_lt.mp atLeast)
      · rename_i notPositive
        cases failed
        exact .zero length (Nat.eq_zero_of_not_pos notPositive)
    · rename_i length
      cases failed
      exact .wrongLength length
  · intro unusable
    cases unusable with
    | wrongLength length => rw [if_neg length]
    | zero length isZero =>
        rw [if_pos length, dif_neg (by rw [isZero]; exact Nat.lt_irrefl 0)]
    | tooLarge length beyond =>
        have positive : 0 < bytes.toNat := Nat.lt_of_lt_of_le (by decide) beyond
        rw [if_pos length, dif_pos positive, dif_neg (Nat.not_lt.mpr beyond)]

theorem toBytes_of_ofBytes {bytes : Bytes} {key : SecretKey} (made : ofBytes bytes = .ok key) :
    key.toBytes = bytes := by
  obtain ⟨length, isScalar⟩ := ofBytes_eq_ok.mp made
  rw [toBytes, isScalar, ← length, Bytes.ofNat_toNat]

theorem publicPoint_eq_multiple (key : SecretKey) :
    key.publicPoint = Point.multiple key.scalar generator :=
  Point.times_eq_multiple Point.onCurve_generator key.scalar

theorem publicPoint_injective : Function.Injective publicPoint := by
  intro key other same
  obtain ⟨base, generates, nonzero, isMultiple⟩ := key.exists_publicPoint
  obtain ⟨otherBase, otherGenerates, -, otherIsMultiple⟩ := other.exists_publicPoint
  obtain rfl := Point.ofGroup_injective (otherGenerates.trans generates.symm)
  rw [isMultiple, otherIsMultiple] at same
  exact eq_of_scalar (Point.eq_of_nsmul_eq nonzero key.below_order other.below_order
    (Point.ofGroup_injective same))

theorem publicKey_injective : Function.Injective publicKey := by
  intro key other same
  apply publicPoint_injective
  have decoded := Point.decode_encode key.onCurve_publicPoint key.encode_publicPoint
  rw [same, Point.decode_encode other.onCurve_publicPoint other.encode_publicPoint] at decoded
  exact (Except.ok.inj decoded).symm

end SecretKey

namespace Ecvrf

theorem provenOutput_eq_keyError {publicKey input proof : Bytes} {error : ProofError}
    (ofKey : error = .keyForm ∨ error = .keyPoint) :
    provenOutput publicKey input proof = .error error ↔
      publicKeyPoint publicKey = .error error := by
  rw [provenOutput, Except.bind_eq_error, or_iff_left]
  rintro ⟨keyPoint, -, failed⟩
  simp only [Except.bind_eq_error, Except.mapError_eq_error, Except.elim_eq_error,
    ProofParts.read_error_iff] at failed
  rcases failed with (⟨-, rfl⟩ | ⟨-, -, rfl⟩) | ⟨parts, -, ⟨_, -, rfl⟩ | ⟨gamma, -, ⟨-, rfl⟩ |
    ⟨inputPoint, -, ⟨_, -, rfl⟩ | ⟨expected, -, failed⟩⟩⟩⟩
  case inr.inr.inr.inr =>
    split at failed
    · cases failed
    · cases failed
      simp at ofKey
  all_goals simp at ofKey

theorem provenOutput_publicKey_ne (key : SecretKey) {error : ProofError}
    (ofKey : error = .keyForm ∨ error = .keyPoint) (input proof : Bytes) :
    provenOutput key.publicKey input proof ≠ .error error := by
  rw [Ne, provenOutput_eq_keyError ofKey, publicKeyPoint_publicKey]
  nofun

end Ecvrf

namespace SecretKey

/-- Keys are made of the bytes of a scalar from one to below the group order, and all forms of one
scalar evaluate alike. -/
theorem forms_agree :
    (∀ bytes : Bytes,
      ((∃ key, ofLoadedOrBytes .absent (some bytes) = .ok key) ↔
        bytes.length = 32 ∧ 0 < bytes.toNat ∧ bytes.toNat < groupOrder) ∧
      (∀ error, ofLoadedOrBytes .absent (some bytes) = .error error ↔ Unusable bytes error) ∧
      ∀ key, ofLoadedOrBytes .absent (some bytes) = .ok key →
        key.toBytes = bytes ∧ key.publicKey.length = 33 ∧
        (Point.multiple bytes.toNat generator).encode = .ok key.publicKey ∧
        Ecvrf.publicKeyPoint key.publicKey = .ok (Point.multiple bytes.toNat generator) ∧
        (∀ input proof, Ecvrf.provenOutput key.publicKey input proof ≠ .error .keyForm ∧
          Ecvrf.provenOutput key.publicKey input proof ≠ .error .keyPoint) ∧
        LoadedKey.onCurve? .secp256k1 bytes.toNat = some (.secp256k1 key) ∧
        ∀ material ∈ [KeyMaterial.raw bytes, .loaded (.secp256k1 key), .ready key],
          ∃ other, material.secretKey = .ok other ∧ other.publicKey = key.publicKey ∧
            ∀ input, Ecvrf.evaluate other input = Ecvrf.evaluate key input) ∧
    ∀ key other : SecretKey, key.publicKey = other.publicKey → key.scalar = other.scalar := by
  refine ⟨fun bytes => ⟨exists_ofBytes, fun _ => ofBytes_eq_error, fun key made => ?_⟩,
    fun key other same => congrArg scalar (publicKey_injective same)⟩
  obtain ⟨-, isScalar⟩ := ofBytes_eq_ok.mp made
  have isMultiple : key.publicPoint = Point.multiple bytes.toNat generator := by
    rw [publicPoint_eq_multiple, isScalar]
  have encodes := key.encode_publicPoint
  have parses := Ecvrf.publicKeyPoint_publicKey key
  rw [isMultiple] at encodes parses
  have loads : LoadedKey.onCurve? .secp256k1 bytes.toNat = some (.secp256k1 key) := by
    rw [LoadedKey.onCurve?, if_pos rfl, ofScalar_eq_ok.mpr isScalar]
    rfl
  refine ⟨toBytes_of_ofBytes made, Point.length_encode encodes, encodes, parses, fun input proof =>
    ⟨Ecvrf.provenOutput_publicKey_ne key (.inl rfl) input proof,
      Ecvrf.provenOutput_publicKey_ne key (.inr rfl) input proof⟩, loads, fun material form => ?_⟩
  have usable : material.secretKey = .ok key := by
    simp only [List.mem_cons, List.not_mem_nil, or_false] at form
    rcases form with rfl | rfl | rfl
    · exact made
    · rfl
    · rfl
  exact ⟨key, usable, rfl, fun _ => rfl⟩

def unitBytes : Bytes := List.replicate 31 0 ++ [1]

theorem forms_agree_unit :
    ofLoadedOrBytes .absent (some unitBytes) = .ok Ecvrf.unitKey ∧
      Ecvrf.unitKey.toBytes = unitBytes ∧ generator.encode = .ok Ecvrf.unitKey.publicKey := by
  have made : ofLoadedOrBytes .absent (some unitBytes) = .ok Ecvrf.unitKey :=
    ofBytes_eq_ok.mpr ⟨by decide, by decide⟩
  obtain ⟨rightBytes, -, encodes, -⟩ := (forms_agree.1 unitBytes).2.2 _ made
  exact ⟨made, rightBytes, encodes⟩

end SecretKey

end StakeLottery
