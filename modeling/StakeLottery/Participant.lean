import StakeLottery.Chain
import StakeLottery.Ecvrf.Evaluation
import StakeLottery.Key.Material
import StakeLottery.Settings.Basic

/-!
The participant's part in a round: with a usable key it looks up its tickets and the difficulty,
evaluates the random function on the round's input, and draws its tickets.
-/

namespace StakeLottery

/-- Why a participant's round fails. A ticket count without a text cannot be reported. -/
inductive ParticipationError (Failure : Type) where
  | chain (failure : Failure)
  | unencodable
  | evaluation (error : Ecvrf.EvaluationError)
  | round (error : RoundError)
  | unwritable

inductive InputError where
  | unencodable
  | evaluation (error : Ecvrf.EvaluationError)
  deriving DecidableEq, Repr

def SecretKey.evaluateInput (key : SecretKey) (input : RoundInput) :
    Except InputError Ecvrf.Evaluation :=
  match input.encode? with
  | none => .error .unencodable
  | some encoded => (Ecvrf.evaluate key encoded).mapError .evaluation

def SecretKey.credential (key : SecretKey) (input : RoundInput)
    (evaluation : Ecvrf.Evaluation) : Credential where
  input := some input
  output := evaluation.output
  proof := evaluation.proof
  publicKey := key.publicKey

structure Participant (Failure : Type) where
  settings : Settings
  chain : Chain Failure
  material : KeyMaterial

namespace Participant

variable {Failure : Type}

def inputError : InputError → ParticipationError Failure
  | .unencodable => .unencodable
  | .evaluation error => .evaluation error

def request (settings : Settings) (credential : Credential) (count : Int)
    (difficulty : Quantity) : RoundRequest where
  output := credential.output
  count := count
  committee := settings.committee
  difficulty := difficulty
  credential := credential
  timeout := settings.roundTimeout

def drawAndReport (request : RoundRequest) (batchSize : Nat) (arrival : Arrival) (tokenSet : Bool) :
    Inquiry (ParticipationError Failure) (List Announcement) := do
  let ending := request.run batchSize arrival tokenSet
  let announcements ← Inquiry.of (ending.outcome.mapError .round)
  Inquiry.require (Decimal.hasText request.count) .unwritable
  return announcements

def playWith (participant : Participant Failure) (key : SecretKey) (arrival : Arrival)
    (tokenSet : Bool) (input : RoundInput) :
    Inquiry (ParticipationError Failure) (List Announcement) := do
  let chain := participant.chain
  let snapshot := participant.settings.snapshotHeight input.height
  let address ← Inquiry.ask (.address key.publicKey)
    ((chain.address key.publicKey).mapError .chain)
  let count ← Inquiry.ask (.ticketCount address snapshot)
    ((chain.ticketCount address snapshot).mapError .chain)
  let difficulty ← Inquiry.ask (.difficulty input.height input.round)
    ((chain.difficulty input.height input.round).mapError .chain)
  let evaluation ← Inquiry.of ((key.evaluateInput input).mapError inputError)
  let request := request participant.settings (key.credential input evaluation) count difficulty
  drawAndReport request participant.settings.sizes.batch arrival tokenSet

/-- Without a usable key there is no part to play, and the chain is not consulted. -/
def play (participant : Participant Failure) (arrival : Arrival) (tokenSet : Bool)
    (input : RoundInput) : Inquiry (ParticipationError Failure) (Option (List Announcement)) :=
  match participant.material.secretKey with
  | .error _ => pure none
  | .ok key => do
    let announcements ← participant.playWith key arrival tokenSet input
    return some announcements

end Participant

end StakeLottery
