import EventLedger.Audit.Ledger
import EventLedger.Audit.QueryParams

/-!
# The service over a ledger

What a web layer asks of the ledger, with errors that carry an HTTP status.

* `Receipt`: the acknowledgement of a stored record;
* `ServiceError`, `ServiceError.status`: why a request failed;
* `Service.ingest` and the other requests;
* `StatisticsRange`, `Limits.statisticsRange`: the range of a report whose ends are optional.
-/

namespace EventLedger

/-- The acknowledgement of a stored record. -/
structure Receipt where
  id : Uuid
  sequenceNumber : Int
  storedAt : Instant

/-- The receipt of a record. -/
def Record.receipt (r : Record) : Receipt := ⟨r.id, r.sequenceNumber, r.storedAt⟩

/-- Why a request failed. -/
inductive ServiceError where
  | invalid (violations : List Violation)
  | emptyBatch
  | batchTooLarge (size limit : Nat)
  | notFound (id : Uuid)
  | storage (error : StorageError)

namespace ServiceError

/-- An error of the ledger seen by the service. -/
def ofLedger : LedgerError → ServiceError
  | .invalid vs => .invalid vs
  | .storage e => .storage e

/-- The error in words. -/
def message : ServiceError → String
  | invalid vs => violationsMessage vs
  | emptyBatch => "batch cannot be empty"
  | batchTooLarge size limit =>
    "batch of " ++ toString size ++ " records exceeds the maximum of " ++ toString limit
  | notFound id => "audit record " ++ id.text ++ " not found"
  | storage e => e.message

/-- The HTTP status of the error. -/
def status : ServiceError → Nat
  | invalid _ => 400
  | emptyBatch => 400
  | notFound _ => 404
  | batchTooLarge _ _ => 413
  | storage e => if e.transient then 503 else 500

end ServiceError

/-- A violation in a JSON document. -/
def Violation.toJson (v : Violation) : Json :=
  .obj (Json.whenPresent "index" Json.ofNat v.index
    ++ [("field", .str v.field), ("message", .str v.fault.message)])

/-- The body of an answer about violations. -/
def violationsBody (vs : List Violation) : Json :=
  .obj [
    ("error", .str "validation_error"),
    ("message", .str (violationsMessage vs)),
    ("details", .arr (vs.map Violation.toJson))]

/-- The range of a report. -/
inductive StatisticsRange where
  | range (r : DateRange)
  | refused (violations : List Violation)
  /-- The start would lie outside the calendar. -/
  | leavesCalendar

/-- The range of a report asked for at the instant `now`: a missing end is `now`, a missing start
lies one window before the end. The window is worked out whenever one end is given. -/
def Limits.statisticsRange (l : Limits) (now : Instant) (start finish : Option Instant) :
    StatisticsRange :=
  match start, finish with
  | none, none =>
    match l.lastDays? now with
    | some r => .range r
    | none => .leavesCalendar
  | start, finish =>
    let finish := finish.getD now
    match l.windowBefore? finish with
    | none => .leavesCalendar
    | some windowStart =>
      match DateRange.make (start.getD windowStart) finish with
      | .ok r => .range r
      | .error vs => .refused vs

namespace Service

variable {m : Type → Type} [Monad m]

/-- An answer of the ledger. -/
def ofLedger {α : Type} (action : ExceptT LedgerError m α) : ExceptT ServiceError m α :=
  action.adapt .ofLedger

/-- One submission taken in. -/
def ingest (ledger : Ledger m) (fresh : FreshIds) (now : Instant) (s : Submission) :
    ExceptT ServiceError m Receipt := do
  let record ← ofLedger (ledger.submit fresh now s)
  pure record.receipt

/-- A batch taken in as a whole. -/
def ingestBatch (ledger : Ledger m) (fresh : Nat → FreshIds) (now : Instant)
    (batch : List Submission) : ExceptT ServiceError m (List Receipt) := do
  if batch.isEmpty then throw .emptyBatch
  if ledger.limits.maxBatchSize < batch.length then
    throw (.batchTooLarge batch.length ledger.limits.maxBatchSize)
  let records ← ofLedger (ledger.submitBatch fresh now batch)
  pure (records.map Record.receipt)

/-- The record of an id, which has to be there. -/
def get (ledger : Ledger m) (id : Uuid) : ExceptT ServiceError m Record := do
  match ← ofLedger (ledger.find? id) with
  | some record => pure record
  | none => throw (.notFound id)

/-- The page asked for, or the first one. -/
def pageOrFirst (ledger : Ledger m) (p : Option PageRequest) : PageRequest :=
  p.getD ledger.limits.firstPage

/-- The records of one business transaction. -/
def byCorrelation (ledger : Ledger m) (correlationId : String) (p : Option PageRequest) :
    ExceptT ServiceError m (Option (Page Record)) :=
  ofLedger (ledger.byCorrelation correlationId (pageOrFirst ledger p))

/-- The records about one resource. -/
def byResource (ledger : Ledger m) (kind id : String) (p : Option PageRequest) :
    ExceptT ServiceError m (Option (Page Record)) :=
  ofLedger (ledger.byResource kind id (pageOrFirst ledger p))

/-- The records about one actor. -/
def byActor (ledger : Ledger m) (id : String) (p : Option PageRequest) :
    ExceptT ServiceError m (Option (Page Record)) :=
  ofLedger (ledger.byActor id (pageOrFirst ledger p))

/-- The records that a search finds. -/
def search (ledger : Ledger m) (q : QueryParams) : ExceptT ServiceError m (Option (Page Record)) :=
  match q.parse ledger.limits.defaultPageSize with
  | .ok (f, p, o) => ofLedger (ledger.query f p o)
  | .error vs => throw (.invalid vs)

/-- The report on a range of time. -/
def statistics (ledger : Ledger m) (range : DateRange) : ExceptT ServiceError m Statistics :=
  ofLedger (ledger.statistics range)

end Service

end EventLedger
