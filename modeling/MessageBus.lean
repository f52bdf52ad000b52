import MessageBus.Audit
import MessageBus.Cache
import MessageBus.Cancellation
import MessageBus.Catalog
import MessageBus.Config
import MessageBus.Correlation
import MessageBus.Database.Call
import MessageBus.Database.Catalog
import MessageBus.Database.Column
import MessageBus.Database.Delivery
import MessageBus.Database.Form
import MessageBus.Database.Record
import MessageBus.Database.Session
import MessageBus.Database.Value
import MessageBus.Error
import MessageBus.Fiber
import MessageBus.Json.Description
import MessageBus.Json.Form
import MessageBus.Json.Reader
import MessageBus.Json.RowForm
import MessageBus.Json.Value
import MessageBus.Json.Writer
import MessageBus.Key
import MessageBus.Lifecycle
import MessageBus.Log
import MessageBus.Number.Double
import MessageBus.Number.Shortest
import MessageBus.Payload.Decoding
import MessageBus.Payload.Registry
import MessageBus.Payload.Serializer
import MessageBus.Payload.Shape
import MessageBus.Program
import MessageBus.Proofs.Answering
import MessageBus.Proofs.Atomicity
import MessageBus.Proofs.Backoff
import MessageBus.Proofs.Balance
import MessageBus.Proofs.Bookkeeping
import MessageBus.Proofs.CacheHistory
import MessageBus.Proofs.Caching
import MessageBus.Proofs.Catalog
import MessageBus.Proofs.Chains
import MessageBus.Proofs.Checkpoints
import MessageBus.Proofs.ClaimReply
import MessageBus.Proofs.Claimability
import MessageBus.Proofs.Conservation
import MessageBus.Proofs.Conversation
import MessageBus.Proofs.Delivery
import MessageBus.Proofs.Dispatch
import MessageBus.Proofs.Draining
import MessageBus.Proofs.Encoding
import MessageBus.Proofs.Endings
import MessageBus.Proofs.Eviction
import MessageBus.Proofs.Failure
import MessageBus.Proofs.FanOut
import MessageBus.Proofs.Fencing
import MessageBus.Proofs.Finality
import MessageBus.Proofs.Frame
import MessageBus.Proofs.Growth
import MessageBus.Proofs.Handling
import MessageBus.Proofs.Identity
import MessageBus.Proofs.Interleaving
import MessageBus.Proofs.Invalidation
import MessageBus.Proofs.Isolation
import MessageBus.Proofs.Journal
import MessageBus.Proofs.JsonText
import MessageBus.Proofs.Lease
import MessageBus.Proofs.LifeCycle
import MessageBus.Proofs.Order
import MessageBus.Proofs.Ownership
import MessageBus.Proofs.Passage
import MessageBus.Proofs.Performance
import MessageBus.Proofs.Plan
import MessageBus.Proofs.PolicyColumns
import MessageBus.Proofs.Polling
import MessageBus.Proofs.Progress
import MessageBus.Proofs.Publishing
import MessageBus.Proofs.Receipt
import MessageBus.Proofs.References
import MessageBus.Proofs.Registration
import MessageBus.Proofs.Reregistration
import MessageBus.Proofs.Restart
import MessageBus.Proofs.Retries
import MessageBus.Proofs.RoundTrip
import MessageBus.Proofs.Rounds
import MessageBus.Proofs.Run
import MessageBus.Proofs.Selection
import MessageBus.Proofs.Settling
import MessageBus.Proofs.SnapshotNames
import MessageBus.Proofs.Spans
import MessageBus.Proofs.Startup
import MessageBus.Proofs.Surroundings
import MessageBus.Proofs.TicketRows
import MessageBus.Proofs.TicketStep
import MessageBus.Proofs.Traffic
import MessageBus.Proofs.Transaction
import MessageBus.Proofs.Transitions
import MessageBus.Proofs.Unclaimed
import MessageBus.Proofs.Workers
import MessageBus.Publisher
import MessageBus.Queue
import MessageBus.Report
import MessageBus.Report.Answer
import MessageBus.Report.Call
import MessageBus.Report.Config
import MessageBus.Report.Error
import MessageBus.Report.Named
import MessageBus.Report.Outcome
import MessageBus.Routine
import MessageBus.Schema
import MessageBus.Snapshot
import MessageBus.Startup.Plan
import MessageBus.Startup.Registration
import MessageBus.Store.Basic
import MessageBus.Store.Call
import MessageBus.Store.Catalog
import MessageBus.Store.Delivery
import MessageBus.Store.Record
import MessageBus.Table
import MessageBus.Text.Blank
import MessageBus.Text.Hex
import MessageBus.Text.Numeral
import MessageBus.Text.Printable
import MessageBus.Text.Quoted
import MessageBus.Text.Shown
import MessageBus.Text.Utf8
import MessageBus.Ticket
import MessageBus.Ticket.Outcome
import MessageBus.Ticket.Policy
import MessageBus.Ticket.State
import MessageBus.Time.Calendar
import MessageBus.Time.Clock
import MessageBus.Time.Duration
import MessageBus.Time.Instant
import MessageBus.Time.Timestamp
import MessageBus.Uuid
import MessageBus.Worker.Config
import MessageBus.Worker.Poll
import MessageBus.Worker.Run
import MessageBus.Worker.Stats
