import StakeLottery.Bytes.Basic
import StakeLottery.Number.Quantity

/-!
The chain state that participants consult but do not own: addresses, ticket counts and
difficulties. Each answer may be a failure. An inquiry is a computation that consults the chain;
beside its outcome it keeps the questions that were asked.
-/

namespace StakeLottery

structure Chain (Failure : Type) where
  address : (publicKey : Bytes) → Except Failure String
  ticketCount : (address : String) → (height : Int) → Except Failure Int
  difficulty : (height round : Int) → Except Failure Quantity

inductive Question where
  | address (publicKey : Bytes)
  | ticketCount (address : String) (height : Int)
  | difficulty (height round : Int)
  deriving DecidableEq, Repr

/-- The questions asked, in their order, and the outcome. -/
structure Inquiry (Error Value : Type) where
  asked : List Question
  outcome : Except Error Value

namespace Inquiry

variable {Error Value Result : Type}

def of (outcome : Except Error Value) : Inquiry Error Value :=
  ⟨[], outcome⟩

def ask (question : Question) (answer : Except Error Value) : Inquiry Error Value :=
  ⟨[question], answer⟩

def andThen (first : Inquiry Error Value) (next : Value → Inquiry Error Result) :
    Inquiry Error Result :=
  match first.outcome with
  | .error error => ⟨first.asked, .error error⟩
  | .ok value => ⟨first.asked ++ (next value).asked, (next value).outcome⟩

instance : Monad (Inquiry Error) where
  pure value := of (.ok value)
  bind := andThen

def fail (error : Error) : Inquiry Error Value :=
  of (.error error)

def require (condition : Bool) (error : Error) : Inquiry Error Unit :=
  of (if condition then .ok () else .error error)

end Inquiry

end StakeLottery
