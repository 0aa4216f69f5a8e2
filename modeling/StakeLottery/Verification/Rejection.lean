import StakeLottery.Ecvrf.Verification
import StakeLottery.Number.Quantity

/-!
Rejections of announcements, each with a reason that a program can act on and a message.
-/

namespace StakeLottery

inductive RejectionReason where
  | malformed
  | ticketIndex
  | contextMismatch
  | proof
  | ticketHash
  | difficulty
  deriving DecidableEq, Repr

namespace RejectionReason

def all : List RejectionReason :=
  [malformed, ticketIndex, contextMismatch, proof, ticketHash, difficulty]

def text : RejectionReason → String
  | malformed => "malformed"
  | ticketIndex => "ticket_index"
  | contextMismatch => "context_mismatch"
  | proof => "vrf_proof"
  | ticketHash => "sort_hash"
  | difficulty => "difficulty"

def ofText? (text : String) : Option RejectionReason :=
  all.find? fun reason => reason.text = text

end RejectionReason

inductive Rejection where
  | malformed
  | ticketIndex (index count : Int) (address : String) (height : Int)
  | heightMismatch (announced expected : Int)
  | seedMismatch
  | phaseMismatch (announced expected : Int)
  | proof (error : Ecvrf.ProofError)
  | ticketHash (index : Int)
  | difficulty (index : Int) (required : Quantity)
  deriving DecidableEq, Repr

namespace Rejection

def reason : Rejection → RejectionReason
  | malformed => .malformed
  | ticketIndex .. => .ticketIndex
  | heightMismatch .. => .contextMismatch
  | seedMismatch => .contextMismatch
  | phaseMismatch .. => .contextMismatch
  | proof _ => .proof
  | ticketHash _ => .ticketHash
  | difficulty .. => .difficulty

/-- The message of a rejection. It cannot be written where one of its integers has no text. -/
def message? : Rejection → Option String
  | malformed => some "Sort message is missing proof, sort hash or input"
  | ticketIndex index count address height => do
    let indexText ← Decimal.text? index
    let countText ← Decimal.text? count
    let heightText ← Decimal.text? height
    return s!"Sort index {indexText} outside ticket count {countText} of {address}, " ++
      s!"height {heightText}"
  | heightMismatch announced expected => do
    let announcedText ← Decimal.text? announced
    let expectedText ← Decimal.text? expected
    return s!"Height mismatch: {announcedText} != {expectedText}"
  | seedMismatch => some "Seed mismatch"
  | phaseMismatch announced expected => do
    let announcedText ← Decimal.text? announced
    let expectedText ← Decimal.text? expected
    return s!"Phase mismatch: {announcedText} != {expectedText}"
  | proof error => some error.message
  | ticketHash index => do
    let indexText ← Decimal.text? index
    return s!"Sort hash mismatch for index {indexText}"
  | difficulty index required => do
    let indexText ← Decimal.text? index
    let requiredText ← required.text?
    return s!"Ticket {indexText} does not meet difficulty {requiredText}"

end Rejection

structure Verdict where
  accepted : Bool
  reason : Option RejectionReason
  message : String
  deriving DecidableEq, Repr

namespace Verdict

def acceptance : Verdict := ⟨true, none, ""⟩

def ofRejection (rejection : Rejection) (message : String) : Verdict :=
  ⟨false, some rejection.reason, message⟩

end Verdict

end StakeLottery
