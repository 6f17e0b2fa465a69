import EventLedger.Address.Database
import EventLedger.Address.Domain
import EventLedger.Address.DomainTable
import EventLedger.Address.Host
import EventLedger.Address.Ip
import EventLedger.Address.Percent
import EventLedger.Address.Punycode
import EventLedger.Address.Url
import EventLedger.Audit.Canonical
import EventLedger.Audit.Filter
import EventLedger.Audit.Forwarder
import EventLedger.Audit.Ledger
import EventLedger.Audit.Page
import EventLedger.Audit.QueryParams
import EventLedger.Audit.Record
import EventLedger.Audit.RecordOrder
import EventLedger.Audit.Service
import EventLedger.Audit.StateDiff
import EventLedger.Audit.Statistics
import EventLedger.Audit.StorageError
import EventLedger.Audit.Store
import EventLedger.Audit.Store.Memory
import EventLedger.Audit.Validation
import EventLedger.Audit.Violation
import EventLedger.Audit.Wire
import EventLedger.Decimal.Binary64
import EventLedger.Decimal.Shortest
import EventLedger.Digest.Sha256
import EventLedger.Dispatch.Backoff
import EventLedger.Dispatch.Delivery
import EventLedger.Dispatch.Dispatcher
import EventLedger.Dispatch.Registry
import EventLedger.Dispatch.Task
import EventLedger.Dispatch.Timeline
import EventLedger.Dispatch.Turn
import EventLedger.Event.ActorKind
import EventLedger.Event.Envelope
import EventLedger.Event.EventType
import EventLedger.Event.Rejection
import EventLedger.Json.Basic
import EventLedger.Json.Decode
import EventLedger.Json.Printer
import EventLedger.Json.Reader
import EventLedger.Json.Scalar
import EventLedger.Main
import EventLedger.Proofs.Audit.AppendOnly
import EventLedger.Proofs.Audit.BatchAgreement
import EventLedger.Proofs.Audit.BusyMemory
import EventLedger.Proofs.Audit.CorrelationSearch
import EventLedger.Proofs.Audit.Counting
import EventLedger.Proofs.Audit.DefaultRequests
import EventLedger.Proofs.Audit.ExactlyOnce
import EventLedger.Proofs.Audit.Exactness
import EventLedger.Proofs.Audit.Forwarding
import EventLedger.Proofs.Audit.Growth
import EventLedger.Proofs.Audit.Listing
import EventLedger.Proofs.Audit.Namesakes
import EventLedger.Proofs.Audit.Operations
import EventLedger.Proofs.Audit.Pages
import EventLedger.Proofs.Audit.Parameters
import EventLedger.Proofs.Audit.Patch
import EventLedger.Proofs.Audit.Places
import EventLedger.Proofs.Audit.Recordable
import EventLedger.Proofs.Audit.Recording
import EventLedger.Proofs.Audit.RefusedEvents
import EventLedger.Proofs.Audit.ReportWindow
import EventLedger.Proofs.Audit.Resubmission
import EventLedger.Proofs.Audit.RoundTrip
import EventLedger.Proofs.Audit.ScalarSearch
import EventLedger.Proofs.Audit.Sealing
import EventLedger.Proofs.Audit.TamperEvidence
import EventLedger.Proofs.Audit.UnreadableParameters
import EventLedger.Proofs.Audit.VerbatimHits
import EventLedger.Proofs.Audit.WrittenSearch
import EventLedger.Proofs.Digest.Collision
import EventLedger.Proofs.Dispatch.Chronicle
import EventLedger.Proofs.Dispatch.Course
import EventLedger.Proofs.Dispatch.Deadlines
import EventLedger.Proofs.Dispatch.Deferral
import EventLedger.Proofs.Dispatch.Delivered
import EventLedger.Proofs.Dispatch.Encapsulation
import EventLedger.Proofs.Dispatch.Endings
import EventLedger.Proofs.Dispatch.Foreground
import EventLedger.Proofs.Dispatch.Isolation
import EventLedger.Proofs.Dispatch.Likeness
import EventLedger.Proofs.Dispatch.Punctuality
import EventLedger.Proofs.Dispatch.Roster
import EventLedger.Proofs.Dispatch.Schedule
import EventLedger.Proofs.Dispatch.Serving
import EventLedger.Proofs.Dispatch.Snapshot
import EventLedger.Proofs.Dispatch.Subscriptions
import EventLedger.Proofs.Event.Grammar
import EventLedger.Proofs.Event.Tags
import EventLedger.Proofs.Json.Members
import EventLedger.Proofs.Json.Quoted
import EventLedger.Proofs.Json.Scalars
import EventLedger.Proofs.Json.Typed
import EventLedger.Proofs.Settings
import EventLedger.Proofs.Sql.ActorRanking
import EventLedger.Proofs.Sql.Agreement
import EventLedger.Proofs.Sql.Binding
import EventLedger.Proofs.Sql.Clauses
import EventLedger.Proofs.Sql.Grouping
import EventLedger.Proofs.Sql.Inquiry
import EventLedger.Proofs.Sql.Patterns
import EventLedger.Proofs.Sql.ReadBack
import EventLedger.Proofs.Sql.Table
import EventLedger.Proofs.Sql.Tokens
import EventLedger.Proofs.Text.ByteOrder
import EventLedger.Proofs.Text.Delimited
import EventLedger.Proofs.Text.Lowercase
import EventLedger.Proofs.Text.Numbers
import EventLedger.Proofs.Text.Trimmed
import EventLedger.Proofs.Time.Calendar
import EventLedger.Proofs.Time.Linear
import EventLedger.Proofs.Time.ReadBack
import EventLedger.Proofs.Time.Windows
import EventLedger.Proofs.Time.Written
import EventLedger.Proofs.Uuid
import EventLedger.Proofs.Verification.Accounting
import EventLedger.Proofs.Verification.Options
import EventLedger.Proofs.Verification.Quiet
import EventLedger.Proofs.Verification.Report
import EventLedger.Proofs.Verification.Walk
import EventLedger.Rehearsal.Script
import EventLedger.Rehearsal.Stage
import EventLedger.Rehearsal.UnreliableStore
import EventLedger.Settings
import EventLedger.Sql.Condition
import EventLedger.Sql.DriverError
import EventLedger.Sql.Pattern
import EventLedger.Sql.Row
import EventLedger.Sql.Statement
import EventLedger.Sql.Store
import EventLedger.Text.Blank
import EventLedger.Text.CaseTable
import EventLedger.Text.CombiningClass
import EventLedger.Text.Composed
import EventLedger.Text.Composite
import EventLedger.Text.Direction
import EventLedger.Text.Integer
import EventLedger.Text.Joining
import EventLedger.Text.Lowercase
import EventLedger.Text.Mark
import EventLedger.Text.Quoted
import EventLedger.Text.Ranges
import EventLedger.Text.Segments
import EventLedger.Text.Unassigned
import EventLedger.Text.Utf8
import EventLedger.Time.Date
import EventLedger.Time.Instant
import EventLedger.Time.Printer
import EventLedger.Time.Reader
import EventLedger.Uuid
import EventLedger.Verification.CommandLine
import EventLedger.Verification.Connecting
import EventLedger.Verification.Report
import EventLedger.Verification.Walk
