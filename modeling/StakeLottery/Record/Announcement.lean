import StakeLottery.Record.RoundInput

/-!
The records of a won ticket, as they travel between participants.
-/

namespace StakeLottery

structure Credential where
  input : Option RoundInput
  output : Bytes
  proof : Bytes
  publicKey : Bytes
  deriving DecidableEq, Repr

structure Selection where
  hash : Bytes
  index : Int
  committee : Int
  deriving DecidableEq, Repr

/-- The message that announces a winning ticket. Parts that never arrived are absent. -/
structure Announcement where
  selection : Option Selection
  credential : Option Credential
  deriving DecidableEq, Repr

def Announcement.index? (announcement : Announcement) : Option Int :=
  announcement.selection.map (·.index)

end StakeLottery
