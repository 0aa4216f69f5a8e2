import StakeLottery.Bytes.Basic

/-!
The public input of a round and its canonical encoding, which is what the verifiable random
function is evaluated on.
-/

namespace StakeLottery

/-- What a round is drawn for. The phase is part of the input, so that an output of one phase has
no use in another one. -/
inductive Phase where
  | propose
  | vote
  | commit
  deriving DecidableEq, Repr

namespace Phase

def toInt : Phase → Int
  | propose => 0
  | vote => 1
  | commit => 2

def ofInt? (value : Int) : Option Phase :=
  [propose, vote, commit].find? fun phase => phase.toInt = value

def name : Phase → String
  | propose => "PROPOSE"
  | vote => "VOTE"
  | commit => "COMMIT"

end Phase

/-- The public input of a round. Nothing bounds its integers until it is encoded. -/
structure RoundInput where
  seed : Bytes
  height : Int
  round : Int
  phase : Int
  deriving DecidableEq, Repr

namespace RoundInput

def separator : Bytes :=
  Bytes.ofAscii "sortition-input-v1".toList

def fits (width : Nat) (value : Int) : Bool :=
  -(Bytes.capacity width : Int) ≤ 2 * value && 2 * value < (Bytes.capacity width : Int)

def encodable (input : RoundInput) : Bool :=
  input.seed.length < Bytes.capacity 4 && fits 8 input.height && fits 4 input.round &&
    fits 4 input.phase

def toBytes (input : RoundInput) : Bytes :=
  separator ++ Bytes.ofNat 4 input.seed.length ++ input.seed ++ Bytes.ofInt 8 input.height ++
    Bytes.ofInt 4 input.round ++ Bytes.ofInt 4 input.phase

def encode? (input : RoundInput) : Option Bytes :=
  if input.encodable then some input.toBytes else none

def decode? (bytes : Bytes) : Option RoundInput := do
  guard (bytes.take separator.length = separator)
  let body := bytes.drop separator.length
  guard (4 ≤ body.length)
  let seedLength := Bytes.toNat (body.take 4)
  let tail := body.drop 4
  guard (tail.length = seedLength + 16)
  let numbers := tail.drop seedLength
  return {
    seed := tail.take seedLength
    height := Bytes.toInt (numbers.take 8)
    round := Bytes.toInt ((numbers.drop 8).take 4)
    phase := Bytes.toInt (numbers.drop 12) }

end RoundInput

end StakeLottery
