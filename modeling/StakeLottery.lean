import StakeLottery.Bytes.Hex
import StakeLottery.Number.Quantity
import StakeLottery.Number.RealText
import StakeLottery.Digest.Hmac
import StakeLottery.Curve.Compressed
import StakeLottery.Curve.Jacobian
import StakeLottery.Ecvrf.Verification
import StakeLottery.Json.Printer
import StakeLottery.Json.Reader
import StakeLottery.Lottery.Ticket
import StakeLottery.Record.Wire
import StakeLottery.Round.Pool
import StakeLottery.Settings.Environment
import StakeLottery.Verification.Announcement
import StakeLottery.Key.Pem.PrivateKey
import StakeLottery.Participant
import StakeLottery.Proofs.Ecvrf.Malleability
import StakeLottery.Proofs.Ecvrf.Relation
import StakeLottery.Proofs.Ecvrf.Uniqueness
import StakeLottery.Proofs.Lottery.Commitment
import StakeLottery.Proofs.Participation.Precedence
import StakeLottery.Proofs.Verification.Precedence
import StakeLottery.Proofs.Round.Forgotten
import StakeLottery.Proofs.Lottery.Threshold
import StakeLottery.Proofs.Participation
import StakeLottery.Proofs.Participation.Verdict
import StakeLottery.Proofs.Verification.Isolation
import StakeLottery.Proofs.Verification.Replay
import StakeLottery.Proofs.Verification.Tampering
import StakeLottery.Proofs.Curve.RoundTrip
import StakeLottery.Proofs.Ecvrf.InputPoint
import StakeLottery.Proofs.Record.Canonical
import StakeLottery.Proofs.Round.Restriction
import StakeLottery.Proofs.Settings.Readers
import StakeLottery.Proofs.Key.Agreement
import StakeLottery.Proofs.Record.Decoding
