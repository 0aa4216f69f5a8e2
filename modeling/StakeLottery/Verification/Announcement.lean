import StakeLottery.Chain
import StakeLottery.Lottery.Ticket
import StakeLottery.Record.Announcement
import StakeLottery.Settings.Basic
import StakeLottery.Verification.Rejection

/-!
Verification of announcements. The checks run in one fixed order and end at the first that fails:
structure, ownership of the ticket, context, random output, ticket hash, difficulty. At or below
the bootstrap height every announcement is accepted and nothing is consulted.
-/

namespace StakeLottery

structure LocalContext where
  height : Int
  phase : Int
  seed : Bytes
  deriving DecidableEq, Repr

/-- Why a verification fails: the announcement is rejected, the chain gives no answer, the local
context has no encoding, the chain's difficulty is none, or an integer has no text. -/
inductive VerificationError (Failure : Type) where
  | rejected (rejection : Rejection) (message : String)
  | chain (failure : Failure)
  | unencodable
  | difficulty (error : DifficultyError)
  | unwritable

def VerificationError.ofRejection {Failure : Type} (rejection : Rejection) :
    VerificationError Failure :=
  rejection.message?.elim .unwritable (.rejected rejection)

structure CompleteAnnouncement where
  selection : Selection
  credential : Credential
  input : RoundInput

def Announcement.complete? (announcement : Announcement) : Option CompleteAnnouncement := do
  let credential ← announcement.credential
  let selection ← announcement.selection
  let input ← credential.input
  return ⟨selection, credential, input⟩

namespace LocalContext

def roundInput (context : LocalContext) (round : Int) : RoundInput :=
  ⟨context.seed, context.height, round, context.phase⟩

end LocalContext

namespace Verification

variable {Failure : Type}

abbrev Check (Failure Value : Type) := Inquiry (VerificationError Failure) Value

def rejectUnless (condition : Bool) (rejection : Rejection) : Check Failure Unit :=
  .require condition (.ofRejection rejection)

def trust (context : LocalContext) : Check Failure Unit :=
  .require (Decimal.hasText context.height) .unwritable

def checkOwnership (chain : Chain Failure) (settings : Settings) (context : LocalContext)
    (message : CompleteAnnouncement) : Check Failure Unit := do
  let publicKey := message.credential.publicKey
  let snapshot := settings.snapshotHeight context.height
  let address ← Inquiry.ask (.address publicKey) ((chain.address publicKey).mapError .chain)
  let count ← Inquiry.ask (.ticketCount address snapshot)
    ((chain.ticketCount address snapshot).mapError .chain)
  let index := message.selection.index
  rejectUnless (0 ≤ index && index < count) (.ticketIndex index count address context.height)

/-- The announced input must be one of the local context: first the height, then the seed, then
the phase. -/
def checkContext (context : LocalContext) (message : CompleteAnnouncement) :
    Check Failure Unit := do
  rejectUnless (message.input.height = context.height)
    (.heightMismatch message.input.height context.height)
  rejectUnless (message.input.seed = context.seed) .seedMismatch
  rejectUnless (message.input.phase = context.phase)
    (.phaseMismatch message.input.phase context.phase)

def checkOutput (context : LocalContext) (message : CompleteAnnouncement) :
    Check Failure Unit := do
  let encoded ← Inquiry.of <|
    match (context.roundInput message.input.round).encode? with
    | some encoded => .ok encoded
    | none => .error .unencodable
  let credential := message.credential
  Inquiry.of <|
    (Ecvrf.verify credential.publicKey encoded ⟨credential.output, credential.proof⟩).mapError
      fun error => .ofRejection (.proof error)

def checkTicketHash (message : CompleteAnnouncement) : Check Failure Unit := do
  let selection := message.selection
  let expected ← Inquiry.of <|
    match Ticket.hash? message.credential.output selection.index selection.committee with
    | some hash => .ok hash
    | none => .error .unwritable
  rejectUnless (expected = selection.hash) (.ticketHash selection.index)

def checkDifficulty (chain : Chain Failure) (context : LocalContext)
    (message : CompleteAnnouncement) : Check Failure Unit := do
  let round := message.input.round
  let difficulty ← Inquiry.ask (.difficulty context.height round)
    ((chain.difficulty context.height round).mapError .chain)
  let won ← Inquiry.of ((wins message.selection.hash difficulty).mapError .difficulty)
  rejectUnless won (.difficulty message.selection.index difficulty)

def verify (chain : Chain Failure) (settings : Settings) (context : LocalContext)
    (announcement : Option Announcement) : Check Failure Unit :=
  if context.height ≤ settings.bootstrapHeight then trust context
  else
    match announcement.bind Announcement.complete? with
    | none => Inquiry.fail (.ofRejection .malformed)
    | some message => do
      checkOwnership chain settings context message
      checkContext context message
      checkOutput context message
      checkTicketHash message
      checkDifficulty chain context message

def verdictOf : Except (VerificationError Failure) Unit → Except (VerificationError Failure) Verdict
  | .ok () => .ok .acceptance
  | .error (.rejected rejection message) => .ok (.ofRejection rejection message)
  | .error error => .error error

def judge (chain : Chain Failure) (settings : Settings) (context : LocalContext)
    (announcement : Option Announcement) : Check Failure Verdict :=
  let verification := verify chain settings context announcement
  ⟨verification.asked, verdictOf verification.outcome⟩

def keepAccepted {Item : Type} (chain : Chain Failure) (settings : Settings)
    (context : LocalContext) (announcement : Item → Option Announcement) :
    List Item → Check Failure (List Item)
  | [] => pure []
  | item :: rest => do
    let verdict ← judge chain settings context (announcement item)
    let others ← keepAccepted chain settings context announcement rest
    return if verdict.accepted then item :: others else others

end Verification

end StakeLottery
