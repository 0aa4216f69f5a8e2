import StakeLottery.Bytes.Basic

/-!
SHA-256. A message is padded to whole blocks of sixteen words, and the blocks are folded one by
one into a chaining value of eight words.
-/

namespace StakeLottery.Sha256

structure Words where
  a : UInt32
  b : UInt32
  c : UInt32
  d : UInt32
  e : UInt32
  f : UInt32
  g : UInt32
  h : UInt32

def initial : Words :=
  ⟨0x6a09e667, 0xbb67ae85, 0x3c6ef372, 0xa54ff53a, 0x510e527f, 0x9b05688c, 0x1f83d9ab,
   0x5be0cd19⟩

def stepConstants : List UInt32 :=
  [0x428a2f98, 0x71374491, 0xb5c0fbcf, 0xe9b5dba5, 0x3956c25b, 0x59f111f1, 0x923f82a4, 0xab1c5ed5,
   0xd807aa98, 0x12835b01, 0x243185be, 0x550c7dc3, 0x72be5d74, 0x80deb1fe, 0x9bdc06a7, 0xc19bf174,
   0xe49b69c1, 0xefbe4786, 0x0fc19dc6, 0x240ca1cc, 0x2de92c6f, 0x4a7484aa, 0x5cb0a9dc, 0x76f988da,
   0x983e5152, 0xa831c66d, 0xb00327c8, 0xbf597fc7, 0xc6e00bf3, 0xd5a79147, 0x06ca6351, 0x14292967,
   0x27b70a85, 0x2e1b2138, 0x4d2c6dfc, 0x53380d13, 0x650a7354, 0x766a0abb, 0x81c2c92e, 0x92722c85,
   0xa2bfe8a1, 0xa81a664b, 0xc24b8b70, 0xc76c51a3, 0xd192e819, 0xd6990624, 0xf40e3585, 0x106aa070,
   0x19a4c116, 0x1e376c08, 0x2748774c, 0x34b0bcb5, 0x391c0cb3, 0x4ed8aa4a, 0x5b9cca4f, 0x682e6ff3,
   0x748f82ee, 0x78a5636f, 0x84c87814, 0x8cc70208, 0x90befffa, 0xa4506ceb, 0xbef9a3f7, 0xc67178f2]

def rotateRight (word amount : UInt32) : UInt32 :=
  (word >>> amount) ||| (word <<< (32 - amount))

def scheduledWord (two seven fifteen sixteen : UInt32) : UInt32 :=
  let low := rotateRight fifteen 7 ^^^ rotateRight fifteen 18 ^^^ (fifteen >>> 3)
  let high := rotateRight two 17 ^^^ rotateRight two 19 ^^^ (two >>> 10)
  sixteen + low + seven + high

def schedule (block : List UInt32) : Array UInt32 :=
  (List.range 48).foldl
    (fun words place =>
      words.push (scheduledWord (words.getD (place + 14) 0) (words.getD (place + 9) 0)
        (words.getD (place + 1) 0) (words.getD place 0)))
    block.toArray

def step (state : Words) (constant word : UInt32) : Words :=
  let choice := (state.e &&& state.f) ^^^ ((~~~ state.e) &&& state.g)
  let majority := (state.a &&& state.b) ^^^ (state.a &&& state.c) ^^^ (state.b &&& state.c)
  let high := rotateRight state.e 6 ^^^ rotateRight state.e 11 ^^^ rotateRight state.e 25
  let low := rotateRight state.a 2 ^^^ rotateRight state.a 13 ^^^ rotateRight state.a 22
  let first := state.h + high + choice + constant + word
  ⟨first + low + majority, state.a, state.b, state.c, state.d + first, state.e, state.f, state.g⟩

def steps : List UInt32 → List UInt32 → Words → Words
  | constant :: constants, word :: words, state => steps constants words (step state constant word)
  | _, _, state => state

def compress (chaining : Words) (block : List UInt32) : Words :=
  let final := steps stepConstants (schedule block).toList chaining
  ⟨chaining.a + final.a, chaining.b + final.b, chaining.c + final.c, chaining.d + final.d,
   chaining.e + final.e, chaining.f + final.f, chaining.g + final.g, chaining.h + final.h⟩

/-- The padding after a message of a given length: one bit, zeros up to eight bytes before the
end of a block, and the length in bits. -/
def padding (length : Nat) : Bytes :=
  0x80 :: (List.replicate ((119 - length % 64) % 64) 0 ++ Bytes.ofNat 8 (8 * length))

def word (first second third fourth : UInt8) : UInt32 :=
  (first.toUInt32 <<< 24) ||| (second.toUInt32 <<< 16) ||| (third.toUInt32 <<< 8) |||
    fourth.toUInt32

def words : Bytes → List UInt32
  | first :: second :: third :: fourth :: rest => word first second third fourth :: words rest
  | _ => []

def firstBlocks : Nat → List UInt32 → List (List UInt32)
  | 0, _ => []
  | count + 1, message => message.take 16 :: firstBlocks count (message.drop 16)

def blocks (message : List UInt32) : List (List UInt32) :=
  firstBlocks (message.length / 16) message

def wordBytes (word : UInt32) : Bytes :=
  [(word >>> 24).toUInt8, (word >>> 16).toUInt8, (word >>> 8).toUInt8, word.toUInt8]

def Words.toBytes (value : Words) : Bytes :=
  [value.a, value.b, value.c, value.d, value.e, value.f, value.g, value.h].flatMap wordBytes

def hash (message : Bytes) : Bytes :=
  ((blocks (words (message ++ padding message.length))).foldl compress initial).toBytes

def hashTwice (message : Bytes) : Bytes :=
  hash (hash message)

end StakeLottery.Sha256
