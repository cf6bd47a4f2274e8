import Outbox.Main
import Outbox.Proofs.Sink.Apart
import Outbox.Proofs.Sink.Loop
import Outbox.Proofs.Sink.Loss
import Outbox.Proofs.Sink.Interleavings
import Outbox.Proofs.Sink.Recovery
import Outbox.Proofs.Sink.Survival
import Outbox.Proofs.Service.Startup
import Outbox.Proofs.Service.Accounts
import Outbox.Proofs.Destination.SideBySide
import Outbox.Proofs.Sink.Ownership
import Outbox.Proofs.Sink.Queue
import Outbox.Proofs.Sink.FailedRollover
import Outbox.Proofs.Sink.Neighbours
import Outbox.Proofs.Sink.RolledOrder
import Outbox.Proofs.LiveFile.Seats
import Outbox.Proofs.Sink.Sizes
import Outbox.Proofs.LiveFile.Search
import Outbox.Proofs.LiveFile.Statistics
import Outbox.Proofs.Sink.Statistics
import Outbox.Proofs.Sink.Leftovers
import Outbox.Proofs.Reader.Forwarding
import Outbox.Proofs.FailureLog.Totals
import Outbox.Proofs.Sink.Flushes
import Outbox.Proofs.Sink.Age
