import EventLedger.Audit.Canonical
import EventLedger.Audit.Page
import EventLedger.Audit.Store
import EventLedger.Audit.Validation

/-!
# The ledger

The ledger checks and seals what is handed in and reads back what is stored. It has no operation
that changes or removes a record.

* `Limits`: sizes of batches and pages, and the window of statistics;
* `Ledger.submit`, `Ledger.submitBatch`: writing;
* `Ledger.find?`, `Ledger.query` and its special cases: reading;
* `Limits.lastDays?`, `Ledger.statistics`: the report and its usual range.
-/

namespace EventLedger

/-- The limits of a ledger. -/
structure Limits where
  maxBatchSize : Nat
  defaultPageSize : Nat
  maxPageSize : Nat
  /-- How many days statistics go back if nothing else is said. -/
  statsWindowDays : Nat
  deriving DecidableEq, Repr

namespace Limits

/-- The usual limits. -/
def standard : Limits := ⟨100, PageRequest.defaultSize, 100, 30⟩

/-- The first page of the usual size. -/
def firstPage (l : Limits) : PageRequest := .first l.defaultPageSize

/-- The window of statistics that ends at `finish`; nothing if it leaves the calendar. -/
def windowBefore? (l : Limits) (finish : Instant) : Option Instant :=
  finish.addDays? (-(l.statsWindowDays : Int))

/-- The usual range of statistics at the instant `now`; nothing if it leaves the calendar. -/
def lastDays? (l : Limits) (now : Instant) : Option DateRange :=
  (l.windowBefore? now).map fun start => ⟨start, now⟩

/-- What is wrong with the size of a batch. -/
def batchFault (l : Limits) (size : Nat) : Option Fault :=
  if size = 0 then some .emptyBatch
  else if l.maxBatchSize < size then some (.batchTooLarge size l.maxBatchSize)
  else none

end Limits

/-- A store with the rules for writing to it and reading from it. -/
structure Ledger (m : Type → Type) where
  store : Store m
  limits : Limits

namespace Ledger

variable {m : Type → Type} [Monad m]

/-- An answer of the store. -/
def ofStore {α : Type} (action : ExceptT StorageError m α) : ExceptT LedgerError m α :=
  action.adapt .storage

/-- Nothing is wrong. -/
def ensure (violations : List Violation) : ExceptT LedgerError m Unit :=
  if violations.isEmpty then pure () else throw (.invalid violations)

/-- One submission checked, sealed and stored. -/
def submit (ledger : Ledger m) (fresh : FreshIds) (now : Instant) (s : Submission) :
    ExceptT LedgerError m Record := do
  ensure s.violations
  let stored ← ofStore (ledger.store.append [s.seal fresh now])
  match stored.getLast? with
  | some record => pure record
  | none => throw (.storage ⟨.decode, "store returned no row for a single append"⟩)

/-- A batch sealed at one instant, each element with fresh ids of its own. -/
def sealBatch (fresh : Nat → FreshIds) (now : Instant) (batch : List Submission) :
    List SealedEntry :=
  batch.mapIdx fun i s => s.seal (fresh i) now

/-- A batch checked, sealed and stored as a whole; one fault refuses all of it. -/
def submitBatch (ledger : Ledger m) (fresh : Nat → FreshIds) (now : Instant)
    (batch : List Submission) : ExceptT LedgerError m (List Record) := do
  ensure ((ledger.limits.batchFault batch.length).toList.map (.single "records"))
  ensure (batchViolations batch)
  ofStore (ledger.store.append (sealBatch fresh now batch))

/-- The record of an id. -/
def find? (ledger : Ledger m) (id : Uuid) : ExceptT LedgerError m (Option Record) :=
  ofStore (ledger.store.fetchById id)

/-- A page of the admitted records in order. A page behind the last one is empty without being
fetched. Nothing if the query breaks off at the place of the page. -/
def query (ledger : Ledger m) (f : Filter) (p : PageRequest) (o : RecordOrder) :
    ExceptT LedgerError m (Option (Page Record)) := do
  ensure (p.violations ledger.limits.maxPageSize)
  ensure f.violations
  let total ← ofStore (ledger.store.count f)
  match p.offset? with
  | none => pure none
  | some offset => do
    let items ←
      if offset < total then ofStore (ledger.store.fetchPage f o p.limit offset) else pure []
    pure (some ⟨items, .of p total.toNat⟩)

/-- The records of one business transaction in the order of storing. -/
def byCorrelation (ledger : Ledger m) (correlationId : String) (p : PageRequest) :
    ExceptT LedgerError m (Option (Page Record)) :=
  ledger.query (.ofCorrelation correlationId) p .causal

/-- The records about one resource, the latest first. -/
def byResource (ledger : Ledger m) (kind id : String) (p : PageRequest) :
    ExceptT LedgerError m (Option (Page Record)) :=
  ledger.query (.ofResource kind id) p .recent

/-- The records about one actor, the latest first. -/
def byActor (ledger : Ledger m) (id : String) (p : PageRequest) :
    ExceptT LedgerError m (Option (Page Record)) :=
  ledger.query (.ofActor id) p .recent

/-- The report on a range of time. -/
def statistics (ledger : Ledger m) (range : DateRange) : ExceptT LedgerError m Statistics := do
  let totalEvents ← ofStore (ledger.store.count (.within range))
  let byCategory ← ofStore (ledger.store.countByCategory range)
  let daily ← ofStore (ledger.store.dailyCounts range dailyLimit)
  let topEventTypes ← ofStore (ledger.store.topEventTypes range topLimit)
  let topActors ← ofStore (ledger.store.topActors range topLimit)
  pure { range, totalEvents, byCategory, daily, topEventTypes, topActors }

end Ledger

end EventLedger
