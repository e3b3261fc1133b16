import PeerGate.Text.Blank
import PeerGate.Text.Quoted
import PeerGate.Credential.Status
import PeerGate.Policy.Decision
import PeerGate.Config.Decode
import PeerGate.Scenario
import PeerGate.Main
import PeerGate.Proofs.Standing
import PeerGate.Proofs.DecisionRule
import PeerGate.Proofs.RoundTrip
import PeerGate.Proofs.Nesting
import PeerGate.Proofs.Locality
import PeerGate.Proofs.Compiling
import PeerGate.Proofs.Appending
import PeerGate.Peer.Tasks
import PeerGate.Proofs.Generations
import PeerGate.Proofs.Sameness
import PeerGate.SelfContext.Tasks
import PeerGate.Proofs.SharedInstance
import PeerGate.Proofs.Connection
import PeerGate.Peer.Clock
import PeerGate.Proofs.IdleTiming
import PeerGate.Proofs.StatusLines
import PeerGate.Proofs.FailedLookup
import PeerGate.Proofs.Flushes
import PeerGate.Proofs.Swaps
import PeerGate.Proofs.Boundaries
import PeerGate.Proofs.Refusals
import PeerGate.Proofs.Serving
import PeerGate.Proofs.Numerals
import PeerGate.Proofs.StatusRecord
import PeerGate.Proofs.Override
import PeerGate.Proofs.Spacing
import PeerGate.Proofs.Respacing
import PeerGate.Proofs.Tokenized
import PeerGate.Proofs.RadixNumerals
