import EventLedger.Audit.Store
import EventLedger.Sql.Row

/-!
# Records in a database

* `insertion`, `selection`, `pageSelection`, `counting` and the rankings: the statements;
* `Connection`: what a database does with statements;
* `store`: the operations of a store over a connection.
-/

namespace EventLedger.Sql

/-! ## Statements -/

/-- The columns of a selection, in order. -/
def selectedColumns : List Column := [
  .id, .sequenceNumber, .eventType, .category, .occurredAt, .storedAt, .correlationId,
  .causationId, .actorType, .actorId, .resourceType, .resourceId, .action, .reason, .description,
  .sourceService, .payload, .metadata, .stateChange, .retentionClass, .containsPii, .checksum]

/-- Names of columns with commas between them. -/
def columnList (columns : List Column) : String := ", ".intercalate (columns.map Column.name)

/-- The start of every selection of records. -/
def selection : Piece := .text ("SELECT " ++ columnList selectedColumns ++ " FROM audit_records")

/-- The columns of a new row with their values, in order. -/
def insertedValues (e : SealedEntry) : List (Column × Value) := [
  (.id, .uuid e.id),
  (.eventType, .text e.eventType),
  (.category, .text e.category),
  (.occurredAt, .ofInstant e.timestamp),
  (.correlationId, .text e.correlationId),
  (.causationId, .ofText? e.causationId),
  (.actorType, .text e.actor.kind.word),
  (.actorId, .text e.actor.id),
  (.resourceType, .text e.resource.kind),
  (.resourceId, .text e.resource.id),
  (.action, .text e.action),
  (.reason, .ofText? e.reason),
  (.description, .ofText? e.description),
  (.sourceService, .text e.sourceService),
  (.payload, .json e.payload),
  (.metadata, .json (.obj e.metadata)),
  (.stateChange, (e.stateChange.map fun c => Value.json c.toJson).getD .null),
  (.retentionClass, .text e.retention.word),
  (.containsPii, .bool e.containsPii),
  (.checksum, .text e.checksum)]

/-- Places with commas between them. -/
def placeList : List Value → Statement
  | [] => []
  | [v] => [.place v]
  | v :: w :: rest => .place v :: .text ", " :: placeList (w :: rest)

/-- The statement that writes one record. -/
def insertion (e : SealedEntry) : Statement :=
  let values := insertedValues e
  .text ("INSERT INTO audit_records ( " ++ columnList (values.map (·.1)) ++ " ) VALUES (") ::
    placeList (values.map (·.2)) ++ [.text ") RETURNING sequence_number, stored_at"]

/-- The statement that reads the record of an id. -/
def idSelection (id : Uuid) : Statement := [selection, .text " WHERE id = ", .place (.uuid id)]

/-- The statement that reads a part of the admitted records in order. -/
def pageSelection (f : Filter) (o : RecordOrder) (limit offset : Int) : Statement :=
  selection :: whereClause f ++ orderClause o ++
    [.text " LIMIT ", .place (.int limit), .text " OFFSET ", .place (.int offset)]

/-- The statement that counts the admitted records. -/
def counting (f : Filter) : Statement :=
  .text "SELECT COUNT(*) FROM audit_records" :: whereClause f

/-- The clause that selects the rows of a range of time. -/
def rangeClause (r : DateRange) : Statement := [
  .text " FROM audit_records WHERE occurred_at BETWEEN ", .place (.ofInstant r.start),
  .text " AND ", .place (.ofInstant r.finish)]

/-- A statement that counts the rows of a range in groups. A limit is bound as a signed number of 64
bits. -/
def grouping (selected grouped order : String) (r : DateRange) (limit : Option Nat) : Statement :=
  .text ("SELECT " ++ selected ++ ", COUNT(*) AS count") :: rangeClause r ++
    [.text (" GROUP BY " ++ grouped ++ " ORDER BY " ++ order)] ++
    match limit with
    | some n => [.text " LIMIT ", .place (.int (Int.bmod n (Nat.pow 2 64)))]
    | none => []

/-- The statement that counts categories. -/
def categoryCounting (r : DateRange) : Statement :=
  grouping "category" "category" "count DESC, category COLLATE \"C\" ASC" r none

/-- The statement that counts days. -/
def dayCounting (r : DateRange) (limit : Nat) : Statement :=
  grouping "(occurred_at AT TIME ZONE 'UTC')::date AS day" "day" "day DESC" r (some limit)

/-- The statement that counts event types. -/
def eventTypeCounting (r : DateRange) (limit : Nat) : Statement :=
  grouping "event_type" "event_type" "count DESC, event_type COLLATE \"C\" ASC" r (some limit)

/-- The statement that counts actors. -/
def actorCounting (r : DateRange) (limit : Nat) : Statement :=
  grouping "actor_id, actor_type" "actor_id, actor_type"
    "count DESC, actor_id COLLATE \"C\" ASC, actor_type ASC" r (some limit)

/-! ## The store -/

/-- What a database does with statements. -/
structure Connection (m : Type → Type) where
  startTransaction : ExceptT DriverError m Unit
  commit : ExceptT DriverError m Unit
  rollback : m Unit
  query : Statement → ExceptT DriverError m (List Row)

variable {m : Type → Type} [Monad m]

/-- An action of the driver as an action of the store. -/
def ofDriver {α : Type} (action : ExceptT DriverError m α) : ExceptT StorageError m α :=
  action.adapt DriverError.storageError

/-- What was read, or why it could not be. -/
def orThrow {ε α : Type} (result : Except ε α) : ExceptT ε m α := .mk (pure result)

/-- The first row of an answer that has to have one. -/
def firstRow (rows : List Row) : Except DriverError Row :=
  match rows with
  | row :: _ => .ok row
  | [] => .error .rowNotFound

/-- One entry written and numbered by the database. -/
def insertEntry (c : Connection m) (e : SealedEntry) : ExceptT DriverError m Record := do
  let row ← orThrow (firstRow (← c.query (insertion e)))
  let sequenceNumber ← orThrow (readColumn row Column.sequenceNumber.name Value.int?)
  let storedAt ← orThrow (readColumn row Column.storedAt.name Value.instant?)
  pure (e.stored sequenceNumber storedAt)

/-- Entries written one after another and made final. -/
def insertAll (c : Connection m) (entries : List SealedEntry) :
    ExceptT DriverError m (List Record) := do
  let records ← entries.mapM (insertEntry c)
  c.commit
  pure records

/-- All entries written, or none. -/
def append (c : Connection m) (entries : List SealedEntry) :
    ExceptT DriverError m (List Record) := do
  c.startTransaction
  .mk do
    match ← (insertAll c entries).run with
    | .ok records => pure (.ok records)
    | .error e => do
      c.rollback
      pure (.error e)

/-- A count with its name, read from a row. -/
def readCount (column : Column) (row : Row) : Except DriverError (String × Int) := do
  let name ← readColumn row column.name Value.text?
  let count ← readColumn row "count" Value.int?
  pure (name, count)

/-- A count with its day, read from a row. -/
def readDayCount (row : Row) : Except DriverError (Date × Int) := do
  let day ← readColumn row "day" Value.date?
  let count ← readColumn row "count" Value.int?
  pure (day, count)

/-- A count with its actor, read from a row. -/
def readActorCount (row : Row) : Except StorageError (Actor × Int) := do
  let (id, kind, count) ← (do
    let id ← readColumn row Column.actorId.name Value.text?
    let kind ← readColumn row Column.actorType.name Value.text?
    let count ← readColumn row "count" Value.int?
    pure (id, kind, count) : Except DriverError _).mapError DriverError.storageError
  match ActorKind.ofWord? kind with
  | some kind => .ok (⟨kind, id⟩, count)
  | none => .error ⟨.decode, ActorKind.unknownMessage kind⟩

/-- The rows of a statement, read one by one. -/
def readRows {α : Type} (c : Connection m) (s : Statement) (read : Row → Except DriverError α) :
    ExceptT StorageError m (List α) :=
  ofDriver do orThrow ((← c.query s).mapM read)

/-- The store over a connection. -/
def store (c : Connection m) : Store m where
  append entries := ofDriver (append c entries)
  fetchById id := do
    match ← ofDriver (c.query (idSelection id)) with
    | [] => pure none
    | row :: _ => some <$> orThrow (readRecord row)
  fetchPage f o limit offset := do
    orThrow ((← ofDriver (c.query (pageSelection f o limit offset))).mapM readRecord)
  count f := ofDriver do
    orThrow (readColumn (← orThrow (firstRow (← c.query (counting f)))) "count" Value.int?)
  countByCategory r := readRows c (categoryCounting r) (readCount .category)
  dailyCounts r limit := List.reverse <$> readRows c (dayCounting r limit) readDayCount
  topEventTypes r limit := readRows c (eventTypeCounting r limit) (readCount .eventType)
  topActors r limit := do
    orThrow ((← ofDriver (c.query (actorCounting r limit))).mapM readActorCount)

end EventLedger.Sql
