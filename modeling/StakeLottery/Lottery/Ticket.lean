import StakeLottery.Bytes.Hex
import StakeLottery.Digest.Sha256
import StakeLottery.Lottery.Difficulty
import StakeLottery.Number.Decimal

/-!
Tickets. Each ticket of a participant is a draw of its own: its hash commits to the participant's
random output of the round, the index of the ticket and the committee it is drawn for.
-/

namespace StakeLottery.Ticket

/-- The text that a ticket's hash commits to: the output in hexadecimal, the index and the
committee, joined by plus signs. -/
def preimage (output : Bytes) (index committee : Int) : List Char :=
  Hex.digits output ++ '+' :: (Decimal.characters index ++ '+' :: Decimal.characters committee)

def isWritable (index committee : Int) : Bool :=
  Decimal.hasText index && Decimal.hasText committee

/-- The double digest of a ticket's text, as if its integers might have any number of digits. -/
def hash (output : Bytes) (index committee : Int) : Bytes :=
  Sha256.hashTwice (Bytes.ofAscii (preimage output index committee))

def hash? (output : Bytes) (index committee : Int) : Option Bytes :=
  if isWritable index committee then some (hash output index committee) else none

def draw? (output : Bytes) (index committee threshold : Int) : Option (Option Bytes) := do
  let ticketHash ← hash? output index committee
  return if beatsThreshold ticketHash threshold then some ticketHash else none

end StakeLottery.Ticket
