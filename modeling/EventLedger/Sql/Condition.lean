import EventLedger.Audit.RecordOrder
import EventLedger.Sql.Pattern
import EventLedger.Sql.Statement

/-!
# Conditions and orders of a selection

* `Column`: the columns of the table of records;
* `Condition`, `Filter.conditions`: the conditions that a filter stands for;
* `whereClause`, `orderClause`: their text.
-/

namespace EventLedger.Sql

/-- The columns of the table of records. -/
inductive Column where
  | id
  | sequenceNumber
  | eventType
  | category
  | occurredAt
  | storedAt
  | correlationId
  | causationId
  | actorType
  | actorId
  | resourceType
  | resourceId
  | action
  | reason
  | description
  | sourceService
  | payload
  | metadata
  | stateChange
  | retentionClass
  | containsPii
  | checksum
  deriving DecidableEq, Repr

/-- The name of a column. -/
def Column.name : Column → String
  | id => "id"
  | sequenceNumber => "sequence_number"
  | eventType => "event_type"
  | category => "category"
  | occurredAt => "occurred_at"
  | storedAt => "stored_at"
  | correlationId => "correlation_id"
  | causationId => "causation_id"
  | actorType => "actor_type"
  | actorId => "actor_id"
  | resourceType => "resource_type"
  | resourceId => "resource_id"
  | action => "action"
  | reason => "reason"
  | description => "description"
  | sourceService => "source_service"
  | payload => "payload"
  | metadata => "metadata"
  | stateChange => "state_change"
  | retentionClass => "retention_class"
  | containsPii => "contains_pii"
  | checksum => "checksum"

/-- A condition on a row. -/
inductive Condition where
  /-- The column holds one of the texts. -/
  | oneOf (column : Column) (texts : List String)
  | equals (column : Column) (text : String)
  /-- The column matches a pattern. -/
  | like (column : Column) (pattern : String)
  | atLeast (column : Column) (microseconds : Int)
  | atMost (column : Column) (microseconds : Int)
  /-- Description, reason or a scalar in the metadata matches a pattern, letter case put aside. -/
  | mentions (pattern : String)

/-- The text of a condition. -/
def Condition.pieces : Condition → Statement
  | .oneOf c ts => [.text (c.name ++ " = ANY("), .place (.texts ts), .text ")"]
  | .equals c t => [.text (c.name ++ " = "), .place (.text t)]
  | .like c p => [.text (c.name ++ " LIKE "), .place (.text p)]
  | .atLeast c t => [.text (c.name ++ " >= "), .place (.timestamp t)]
  | .atMost c t => [.text (c.name ++ " <= "), .place (.timestamp t)]
  | .mentions p => [
      .text "(description ILIKE ", .place (.text p),
      .text " OR reason ILIKE ", .place (.text p),
      .text (" OR EXISTS (SELECT 1 FROM jsonb_path_query(metadata, 'strict $.**') AS leaf(value)" ++
        " WHERE jsonb_typeof(leaf.value) IN ('string', 'number', 'boolean')" ++
        " AND leaf.value #>> '\x7b\x7d' ILIKE "),
      .place (.text p), .text "))"]

/-- The condition that a column holds one of the texts; no text at all sets no condition. -/
def oneOf? (column : Column) (texts : List String) : Option Condition :=
  if texts.isEmpty then none else some (.oneOf column texts)

/-- The conditions that a filter stands for, each one where it is set. -/
def possibleConditions (f : Filter) : List (Option Condition) := [
  oneOf? .eventType f.eventTypes,
  f.category.map fun c => .like .category (Pattern.startPattern c),
  oneOf? .actorType (f.actorKinds.map ActorKind.word),
  oneOf? .actorId f.actorIds,
  oneOf? .resourceType f.resourceTypes,
  oneOf? .resourceId f.resourceIds,
  f.correlationId.map (.equals .correlationId),
  f.causationId.map (.equals .causationId),
  f.dateFrom.map fun t => .atLeast .occurredAt t.linearMicroseconds,
  f.dateTo.map fun t => .atMost .occurredAt t.linearMicroseconds,
  oneOf? .sourceService f.sourceServices,
  f.search.map fun s => .mentions (Pattern.partPattern s)]

/-- The conditions that a filter stands for. -/
def conditions (f : Filter) : List Condition := (possibleConditions f).filterMap id

/-- The clause that selects the rows a filter admits. -/
def whereClause (f : Filter) : Statement :=
  .text " WHERE TRUE" :: (conditions f).flatMap fun c => .text " AND " :: c.pieces

/-- The word for a direction. -/
def directionWord : Direction → String
  | .ascending => "ASC"
  | .descending => "DESC"

/-- The sort key in front of the sequence number, with its collation. -/
def sortKey : SortField → Option String
  | .timestamp => some "occurred_at"
  | .eventType => some "event_type COLLATE \"C\""
  | .sequenceNumber => none

/-- The clause that puts rows in order. -/
def orderClause (o : RecordOrder) : Statement :=
  let direction := directionWord o.direction
  let key :=
    match sortKey o.field with
    | some k => k ++ " " ++ direction ++ ", "
    | none => ""
  [.text (" ORDER BY " ++ key ++ "sequence_number " ++ direction)]

end EventLedger.Sql
