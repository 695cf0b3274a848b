import Telematics.Identity.Json
import Telematics.Main
import Telematics.Message.Sequence
import Telematics.Proofs.Bridge.Answer
import Telematics.Proofs.Bridge.Dispatch
import Telematics.Proofs.Bridge.Notification
import Telematics.Proofs.Channel.Closing
import Telematics.Proofs.Channel.Stall
import Telematics.Proofs.Conversation.Operations
import Telematics.Proofs.Dialogue.Backlog
import Telematics.Proofs.Endpoint.RoundTrip
import Telematics.Proofs.Link.Split
import Telematics.Proofs.Listener.Whole
import Telematics.Proofs.Message.Counting
import Telematics.Proofs.Message.Handling
import Telematics.Proofs.Session.Delivery
import Telematics.Proofs.Shutdown.Completion
import Telematics.Proofs.Shutdown.Convergence
import Telematics.Proofs.Shutdown.Account
import Telematics.Proofs.Shutdown.Belated
import Telematics.Proofs.Shutdown.Length
import Telematics.Proofs.Shutdown.Nesting
import Telematics.Proofs.Shutdown.Once
import Telematics.Proofs.Shutdown.Order
import Telematics.Proofs.Shutdown.Staging
import Telematics.Proofs.Shutdown.Standstill
import Telematics.Proofs.Snapshot.Canonical
import Telematics.Proofs.Snapshot.Reading
import Telematics.Proofs.Wire.Canonical
import Telematics.Proofs.Worker.Protocol
import Telematics.Status.Json
import Telematics.Worker.Job
