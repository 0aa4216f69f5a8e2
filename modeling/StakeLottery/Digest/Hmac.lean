import StakeLottery.Digest.Sha256

/-!
Keyed digests: HMAC over SHA-256.
-/

namespace StakeLottery.Hmac

/-- A key as one block of 64 bytes: a longer key is replaced by its digest, and the rest of the
block is zero. -/
def keyBlock (key : Bytes) : Bytes :=
  let short := if 64 < key.length then Sha256.hash key else key
  short ++ List.replicate (64 - short.length) 0

def digest (key message : Bytes) : Bytes :=
  let block := keyBlock key
  let inner := Sha256.hash (block.map (· ^^^ 0x36) ++ message)
  Sha256.hash (block.map (· ^^^ 0x5c) ++ inner)

end StakeLottery.Hmac
