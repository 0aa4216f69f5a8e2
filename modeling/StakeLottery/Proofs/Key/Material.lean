import StakeLottery.Key.Material

/-!
Usable and unusable key material. Every form of a private key is used by its scalar alone. What has
no scalar on secp256k1 between one and the group order is refused.
-/

namespace StakeLottery

open Curve

theorem SecretKey.eq_of_scalar {key other : SecretKey} (same : key.scalar = other.scalar) :
    key = other := by
  cases key
  cases other
  cases same
  rfl

theorem SecretKey.ofScalar_eq_ok {scalar : Nat} {key : SecretKey} :
    ofScalar scalar = .ok key ↔ key.scalar = scalar := by
  unfold ofScalar
  constructor
  · intro made
    split at made
    · split at made
      · cases made
        rfl
      · cases made
    · cases made
  · rintro rfl
    rw [dif_pos key.positive, dif_pos key.below_order]

theorem SecretKey.ofBytes_eq_ok {bytes : Bytes} {key : SecretKey} :
    ofBytes bytes = .ok key ↔ bytes.length = 32 ∧ key.scalar = bytes.toNat := by
  unfold ofBytes
  split
  · rename_i length
    rw [ofScalar_eq_ok, and_iff_right length]
  · rename_i otherLength
    simp [otherLength]

namespace KeyMaterial

inductive HasScalar : KeyMaterial → Nat → Prop
  | raw {bytes : Bytes} (length : bytes.length = 32) (positive : 0 < bytes.toNat)
      (below : bytes.toNat < groupOrder) : HasScalar (.raw bytes) bytes.toNat
  | loaded (key : SecretKey) : HasScalar (.loaded (.secp256k1 key)) key.scalar
  | ready (key : SecretKey) : HasScalar (.ready key) key.scalar

/-- There is no material, or none that a key can be made of. -/
inductive Refused : KeyMaterial → Prop
  | absent : Refused .absent
  | wrongLength {bytes : Bytes} (length : bytes.length ≠ 32) : Refused (.raw bytes)
  | zero {bytes : Bytes} (isZero : bytes.toNat = 0) : Refused (.raw bytes)
  | tooLarge {bytes : Bytes} (beyond : groupOrder ≤ bytes.toNat) : Refused (.raw bytes)
  | otherCurve : Refused (.loaded .otherKind)
  | unrelated : Refused .unrelated

theorem hasScalar_iff {material : KeyMaterial} {key : SecretKey} :
    material.HasScalar key.scalar ↔ material.secretKey = .ok key := by
  constructor
  · generalize isScalar : key.scalar = scalar
    intro has
    cases has with
    | raw length positive below => exact SecretKey.ofBytes_eq_ok.mpr ⟨length, isScalar⟩
    | loaded given => exact congrArg Except.ok (SecretKey.eq_of_scalar isScalar.symm)
    | ready given => exact congrArg Except.ok (SecretKey.eq_of_scalar isScalar.symm)
  · intro usable
    cases material with
    | raw bytes =>
        obtain ⟨length, isScalar⟩ := SecretKey.ofBytes_eq_ok.mp usable
        have positive := key.positive
        have below := key.below_order
        rw [isScalar] at positive below ⊢
        exact .raw length positive below
    | loaded given =>
        cases given with
        | secp256k1 given =>
            cases usable
            exact .loaded key
        | otherKind => cases usable
    | ready given =>
        cases usable
        exact .ready key
    | absent => cases usable
    | unrelated => cases usable

theorem refused_iff {material : KeyMaterial} :
    material.Refused ↔ ∃ error, material.secretKey = .error error := by
  constructor
  · intro refused
    cases given : material.secretKey with
    | error error => exact ⟨error, rfl⟩
    | ok key =>
        have has := hasScalar_iff.mpr given
        generalize key.scalar = scalar at has
        cases has with
        | raw length positive below =>
            cases refused <;> omega
        | loaded => cases refused
        | ready => cases refused
  · rintro ⟨error, unusable⟩
    cases material with
    | absent => exact .absent
    | unrelated => exact .unrelated
    | loaded given =>
        cases given with
        | secp256k1 given => cases unusable
        | otherKind => exact .otherCurve
    | ready given => cases unusable
    | raw bytes =>
        by_cases length : bytes.length = 32
        · rcases Nat.eq_zero_or_pos bytes.toNat with isZero | positive
          · exact .zero isZero
          by_cases below : bytes.toNat < groupOrder
          · cases unusable.symm.trans (SecretKey.ofBytes_eq_ok.mpr
              ⟨length, rfl⟩ : SecretKey.ofBytes bytes = .ok ⟨bytes.toNat, positive, below⟩)
          · exact .tooLarge (Nat.not_lt.mp below)
        · exact .wrongLength length

theorem refused_or_hasScalar (material : KeyMaterial) :
    material.Refused ∨ ∃ key : SecretKey, material.HasScalar key.scalar := by
  cases given : material.secretKey with
  | error error => exact .inl (refused_iff.mpr ⟨error, given⟩)
  | ok key => exact .inr ⟨key, hasScalar_iff.mpr given⟩

theorem HasScalar.exists_key {material : KeyMaterial} {scalar : Nat}
    (has : material.HasScalar scalar) : ∃ key : SecretKey, key.scalar = scalar := by
  cases has with
  | raw _ positive below => exact ⟨⟨_, positive, below⟩, rfl⟩
  | loaded key => exact ⟨key, rfl⟩
  | ready key => exact ⟨key, rfl⟩

end KeyMaterial

end StakeLottery
