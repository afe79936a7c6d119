import PicoBroker.Broker.SecureWires
import PicoBroker.Broker.SlotCells
import PicoBroker.Config.Buffers
import PicoBroker.Contracts.Artifacts
import PicoBroker.Contracts.Authentication
import PicoBroker.Contracts.Capacity
import PicoBroker.Contracts.Chunking
import PicoBroker.Contracts.Compilation
import PicoBroker.Contracts.Configuration
import PicoBroker.Contracts.Conversations
import PicoBroker.Contracts.Deliverability
import PicoBroker.Contracts.Envelopes
import PicoBroker.Contracts.FailedConnect
import PicoBroker.Contracts.Filters
import PicoBroker.Contracts.Framing
import PicoBroker.Contracts.HandOver
import PicoBroker.Contracts.Handshakes
import PicoBroker.Contracts.IdentityStorage
import PicoBroker.Contracts.Preparations
import PicoBroker.Contracts.PubackPromise
import PicoBroker.Contracts.RateLimit
import PicoBroker.Contracts.RecipientSearch
import PicoBroker.Contracts.RetainFlag
import PicoBroker.Contracts.RetainedMap
import PicoBroker.Contracts.RetainedReplay
import PicoBroker.Contracts.Retries
import PicoBroker.Contracts.RoutingEffect
import PicoBroker.Contracts.RoutingPaths
import PicoBroker.Contracts.SecurePackets
import PicoBroker.Contracts.SubscriberIsolation
import PicoBroker.Contracts.Subscriptions
import PicoBroker.Contracts.TlsReads
import PicoBroker.Contracts.TlsWrites
import PicoBroker.Contracts.TopicMatching
import PicoBroker.Contracts.Updates
import PicoBroker.Contracts.Wakeups
import PicoBroker.Contracts.WillDelivery
import PicoBroker.Invariants.ActiveSlots
import PicoBroker.Invariants.Addressing
import PicoBroker.Invariants.Candidates
import PicoBroker.Invariants.ClientIds
import PicoBroker.Invariants.Generations
import PicoBroker.Invariants.IdReuse
import PicoBroker.Invariants.Lifetimes
import PicoBroker.Invariants.PacketIds
import PicoBroker.Invariants.Persistence
import PicoBroker.Invariants.Recipients
import PicoBroker.Invariants.Reconnects
import PicoBroker.Invariants.RecordStream
import PicoBroker.Invariants.ReferenceCounts
import PicoBroker.Invariants.Retransmissions
import PicoBroker.Invariants.Signals
import PicoBroker.Invariants.Teardown
import PicoBroker.Invariants.Thresholds
import PicoBroker.Invariants.TopicNames
import PicoBroker.Invariants.WorkerPool
import PicoBroker.Server.Frontends
import PicoBroker.Server.Workers
import PicoBroker.Tls.Handshake
import PicoBroker.Tls.Session
import PicoBroker.Tls.Streams
