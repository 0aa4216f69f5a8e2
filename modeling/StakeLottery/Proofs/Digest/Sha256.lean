import StakeLottery.Digest.Sha256

/-!
Digests have 32 bytes. Two messages collide if they differ and have one double digest.
-/

namespace StakeLottery.Sha256

theorem length_hash (message : Bytes) : (hash message).length = 32 := by
  simp [hash, Words.toBytes, wordBytes]

theorem length_hashTwice (message : Bytes) : (hashTwice message).length = 32 :=
  length_hash _

def CollidesTwice (first second : Bytes) : Prop :=
  first ≠ second ∧ hashTwice first = hashTwice second

end StakeLottery.Sha256
