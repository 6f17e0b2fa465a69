import EventLedger.Audit.Wire
import EventLedger.Sql.Condition
import EventLedger.Sql.DriverError

/-!
# Rows

* `Row`: the values of a row by the names of its columns;
* `AuditRow`: a row of the table of records, each column with its type;
* `AuditRow.ofRow`, `AuditRow.record`: a row read as a record.
-/

namespace EventLedger.Sql

/-- The values of a row by the names of its columns. -/
abbrev Row := List (String × Value)

/-! ## Columns -/

/-- The problem of a column that holds nothing. -/
def unexpectedNull : String := "unexpected null; try decoding as an `Option`"

/-- The problem of a column that holds a value of another type. -/
def mismatchedTypes : String := "mismatched types"

/-- A value read from a column; a missing column holds nothing. -/
def readColumn {α : Type} (row : Row) (name : String) (read : Value → Option α) :
    Except DriverError α :=
  match row.lookup name with
  | none => .error (.columnDecode name unexpectedNull)
  | some .null => .error (.columnDecode name unexpectedNull)
  | some v =>
    match read v with
    | some a => .ok a
    | none => .error (.columnDecode name mismatchedTypes)

/-- A value read from a column that may hold nothing. -/
def readOptional {α : Type} (row : Row) (name : String) (read : Value → Option α) :
    Except DriverError (Option α) :=
  match row.lookup name with
  | none => .ok none
  | some .null => .ok none
  | some _ => (readColumn row name read).map some

namespace Value

/-- A text. -/
def text? : Value → Option String
  | .text s => some s
  | _ => none

/-- A whole number. -/
def int? : Value → Option Int
  | .int n => some n
  | _ => none

/-- A truth value. -/
def bool? : Value → Option Bool
  | .bool b => some b
  | _ => none

/-- An identifier. -/
def uuid? : Value → Option Uuid
  | .uuid u => some u
  | _ => none

/-- An instant. -/
def instant? : Value → Option Instant
  | .timestamp n => some (.ofLinearMicroseconds n)
  | _ => none

/-- A day. -/
def date? : Value → Option Date
  | .date d => some d
  | _ => none

/-- A JSON value. -/
def json? : Value → Option Json
  | .json j => some j
  | _ => none

end Value

/-! ## Rows of the table of records -/

/-- A row of the table of records. -/
structure AuditRow where
  id : Uuid
  sequenceNumber : Int
  eventType : String
  category : String
  occurredAt : Instant
  storedAt : Instant
  correlationId : String
  causationId : Option String
  actorType : String
  actorId : String
  resourceType : String
  resourceId : String
  action : String
  reason : Option String
  description : Option String
  sourceService : String
  payload : Json
  metadata : List (String × Json)
  stateChange : Option StateChange
  retentionClass : String
  containsPii : Bool
  checksum : String

namespace AuditRow

/-- The typed columns of a row. -/
def ofRow (row : Row) : Except DriverError AuditRow := do
  let required {α : Type} (c : Column) (read : Value → Option α) := readColumn row c.name read
  let optional {α : Type} (c : Column) (read : Value → Option α) := readOptional row c.name read
  let id ← required .id Value.uuid?
  let sequenceNumber ← required .sequenceNumber Value.int?
  let eventType ← required .eventType Value.text?
  let category ← required .category Value.text?
  let occurredAt ← required .occurredAt Value.instant?
  let storedAt ← required .storedAt Value.instant?
  let correlationId ← required .correlationId Value.text?
  let causationId ← optional .causationId Value.text?
  let actorType ← required .actorType Value.text?
  let actorId ← required .actorId Value.text?
  let resourceType ← required .resourceType Value.text?
  let resourceId ← required .resourceId Value.text?
  let action ← required .action Value.text?
  let reason ← optional .reason Value.text?
  let description ← optional .description Value.text?
  let sourceService ← required .sourceService Value.text?
  let payload ← required .payload Value.json?
  let metadata ← required .metadata fun v => v.json?.bind Json.members?
  let stateChange ← optional .stateChange fun v => v.json?.bind StateChange.ofJson?
  let retentionClass ← required .retentionClass Value.text?
  let containsPii ← required .containsPii Value.bool?
  let checksum ← required .checksum Value.text?
  pure {
    id, sequenceNumber, eventType, category, occurredAt, storedAt, correlationId, causationId,
    actorType, actorId, resourceType, resourceId, action, reason, description, sourceService,
    payload, metadata, stateChange, retentionClass, containsPii, checksum }

/-- The record of a row; its kind of actor and its retention class have to be known ones. -/
def record (row : AuditRow) : Except StorageError Record :=
  match ActorKind.ofWord? row.actorType, Retention.ofWord? row.retentionClass with
  | none, _ => .error ⟨.decode, ActorKind.unknownMessage row.actorType⟩
  | some _, none => .error ⟨.decode, Retention.unknownMessage row.retentionClass⟩
  | some kind, some retention => .ok {
      id := row.id
      sequenceNumber := row.sequenceNumber
      eventType := row.eventType
      category := row.category
      timestamp := row.occurredAt
      storedAt := row.storedAt
      correlationId := row.correlationId
      causationId := row.causationId
      actor := ⟨kind, row.actorId⟩
      resource := ⟨row.resourceType, row.resourceId⟩
      action := row.action
      reason := row.reason
      description := row.description
      sourceService := row.sourceService
      payload := row.payload
      metadata := row.metadata
      stateChange := row.stateChange
      retention := retention
      containsPii := row.containsPii
      checksum := row.checksum }

end AuditRow

/-- The record of the values of a row. -/
def readRecord (row : Row) : Except StorageError Record := do
  ((← (AuditRow.ofRow row).mapError DriverError.storageError)).record

end EventLedger.Sql
