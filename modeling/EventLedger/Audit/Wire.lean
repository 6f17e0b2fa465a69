import EventLedger.Audit.Record
import EventLedger.Json.Scalar

/-!
# Audit records in JSON documents

For each stage a writer and a reader. Absent parts of a submission are written as null; those of a
record are left out, apart from its reason.
-/

namespace EventLedger

/-! ## Parts -/

/-- An actor in a JSON document. -/
def Actor.toJson (a : Actor) : Json := .obj [("type", a.kind.toJson), ("id", .str a.id)]

/-- The members of an actor. -/
def Actor.reader : Json.MemberReader Actor := do
  let kind ← Json.required "type" ActorKind.ofJson?
  let id ← Json.required "id" Json.text?
  pure { kind, id }

/-- The actor that a JSON value denotes. -/
def Actor.ofJson? (j : Json) : Option Actor := Json.typed Actor.reader j

/-- A resource in a JSON document. -/
def Resource.toJson (r : Resource) : Json := .obj [("type", .str r.kind), ("id", .str r.id)]

/-- The members of a resource. -/
def Resource.reader : Json.MemberReader Resource := do
  let kind ← Json.required "type" Json.text?
  let id ← Json.required "id" Json.text?
  pure { kind, id }

/-- The resource that a JSON value denotes. -/
def Resource.ofJson? (j : Json) : Option Resource := Json.typed Resource.reader j

/-- A retention class in a JSON document. -/
def Retention.toJson (r : Retention) : Json := .str r.word

/-- The retention class that a JSON value denotes. -/
def Retention.ofJson? (j : Json) : Option Retention := (Json.word? j).bind Retention.ofWord?

/-- A change of state in a JSON document. -/
def StateChange.toJson (c : StateChange) : Json :=
  .obj [("before", Json.orNullOf id c.before), ("after", Json.orNullOf id c.after)]

/-- The members of a change of state. -/
def StateChange.reader : Json.MemberReader StateChange := do
  let before ← Json.optional "before" some
  let after ← Json.optional "after" some
  pure { before, after }

/-- The change of state that a JSON value denotes. -/
def StateChange.ofJson? (j : Json) : Option StateChange := Json.typed StateChange.reader j

/-! ## Submissions -/

/-- A submission in a JSON document. -/
def Submission.toJson (s : Submission) : Json :=
  .obj [
    ("id", Json.orNullOf Json.ofUuid s.id),
    ("eventType", .str s.eventType),
    ("timestamp", Json.orNullOf Json.ofInstant s.timestamp),
    ("correlationId", Json.ofText? s.correlationId),
    ("causationId", Json.ofText? s.causationId),
    ("actor", s.actor.toJson),
    ("resource", s.resource.toJson),
    ("action", .str s.action),
    ("reason", Json.ofText? s.reason),
    ("description", Json.ofText? s.description),
    ("sourceService", .str s.sourceService),
    ("payload", s.payload),
    ("metadata", .obj s.metadata),
    ("stateChange", Json.orNullOf StateChange.toJson s.stateChange),
    ("retentionClass", s.retention.toJson),
    ("containsPii", .bool s.containsPii)]

/-- The members of a submission. -/
def Submission.reader : Json.MemberReader Submission := do
  let id ← Json.optional "id" Json.uuid?
  let eventType ← Json.required "eventType" Json.text?
  let timestamp ← Json.optional "timestamp" Json.instant?
  let correlationId ← Json.optional "correlationId" Json.text?
  let causationId ← Json.optional "causationId" Json.text?
  let actor ← Json.required "actor" Actor.ofJson?
  let resource ← Json.required "resource" Resource.ofJson?
  let action ← Json.required "action" Json.text?
  let reason ← Json.optional "reason" Json.text?
  let description ← Json.optional "description" Json.text?
  let sourceService ← Json.required "sourceService" Json.text?
  let payload ← Json.defaulted "payload" Json.null some
  let metadata ← Json.defaulted "metadata" [] Json.members?
  let stateChange ← Json.optional "stateChange" StateChange.ofJson?
  let retention ← Json.defaulted "retentionClass" .standard Retention.ofJson?
  let containsPii ← Json.defaulted "containsPii" false Json.bool?
  pure {
    id, eventType, timestamp, correlationId, causationId, actor, resource, action, reason,
    description, sourceService, payload, metadata, stateChange, retention, containsPii }

/-- The submission that a JSON value denotes. -/
def Submission.ofJson? (j : Json) : Option Submission := Json.typed Submission.reader j

/-! ## Records -/

/-- A record in a JSON document. -/
def Record.toJson (r : Record) : Json :=
  .obj ([
      ("id", Json.ofUuid r.id),
      ("sequenceNumber", .int r.sequenceNumber),
      ("eventType", .str r.eventType),
      ("category", .str r.category),
      ("timestamp", Json.ofInstant r.timestamp),
      ("storedAt", Json.ofInstant r.storedAt),
      ("correlationId", .str r.correlationId)]
    ++ Json.whenPresent "causationId" .str r.causationId
    ++ [
      ("actor", r.actor.toJson),
      ("resource", r.resource.toJson),
      ("action", .str r.action),
      ("reason", Json.ofText? r.reason)]
    ++ Json.whenPresent "description" .str r.description
    ++ [
      ("sourceService", .str r.sourceService),
      ("payload", r.payload),
      ("metadata", .obj r.metadata)]
    ++ Json.whenPresent "stateChange" StateChange.toJson r.stateChange
    ++ [
      ("retentionClass", r.retention.toJson),
      ("containsPii", .bool r.containsPii),
      ("checksum", .str r.checksum)])

/-- The members of a record. -/
def Record.reader : Json.MemberReader Record := do
  let id ← Json.required "id" Json.uuid?
  let sequenceNumber ← Json.required "sequenceNumber" (Json.integer? Text.i64)
  let eventType ← Json.required "eventType" Json.text?
  let category ← Json.required "category" Json.text?
  let timestamp ← Json.required "timestamp" Json.instant?
  let storedAt ← Json.required "storedAt" Json.instant?
  let correlationId ← Json.required "correlationId" Json.text?
  let causationId ← Json.optional "causationId" Json.text?
  let actor ← Json.required "actor" Actor.ofJson?
  let resource ← Json.required "resource" Resource.ofJson?
  let action ← Json.required "action" Json.text?
  let reason ← Json.optional "reason" Json.text?
  let description ← Json.optional "description" Json.text?
  let sourceService ← Json.required "sourceService" Json.text?
  let payload ← Json.required "payload" some
  let metadata ← Json.required "metadata" Json.members?
  let stateChange ← Json.optional "stateChange" StateChange.ofJson?
  let retention ← Json.required "retentionClass" Retention.ofJson?
  let containsPii ← Json.required "containsPii" Json.bool?
  let checksum ← Json.required "checksum" Json.text?
  pure {
    id, sequenceNumber, eventType, category, timestamp, storedAt, correlationId, causationId,
    actor, resource, action, reason, description, sourceService, payload, metadata, stateChange,
    retention, containsPii, checksum }

/-- The record that a JSON value denotes. -/
def Record.ofJson? (j : Json) : Option Record := Json.typed Record.reader j

end EventLedger
