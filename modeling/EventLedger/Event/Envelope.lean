import EventLedger.Event.EventType
import EventLedger.Json.Scalar

/-!
# Event envelopes

Every event travels in an envelope that names it, places it in time, links it to other events and
says who is responsible.

* `Attribution`, `checkAttribution`: who did it, from where and why;
* `Envelope`, `Envelope.check`: the envelope and the first fault it may have;
* `Envelope.fresh`: an envelope for a new event;
* `Envelope.toJson`, `Envelope.ofJson?`: the form in JSON documents.
-/

namespace EventLedger

/-- Who is responsible for an event. -/
structure Attribution where
  actorId : String
  actorKind : ActorKind
  /-- The emitting part of the platform. -/
  source : String
  reason : Option String

/-- Actor and source are named, and a reason is given where the kind of actor needs one. -/
def checkAttribution (a : Attribution) : Except Rejection Unit :=
  if Text.blank a.actorId then .error .emptyActorId
  else if Text.blank a.source then .error .emptySource
  else if a.actorKind.needsReason ∧ a.reason.all Text.blank then
    .error (.missingReason a.actorKind)
  else .ok ()

/-- An event on its way. -/
structure Envelope where
  eventId : Uuid
  eventType : String
  timestamp : Instant
  /-- Common to all events of one business transaction. -/
  correlationId : String
  /-- The event that caused this one. -/
  causationId : Option String
  payload : Json
  metadata : Attribution

namespace Envelope

/-- The event type is well formed and the event attributed. -/
def check (e : Envelope) : Except Rejection Unit := do
  checkEventType e.eventType
  checkAttribution e.metadata

/-- A new event; without a correlation id it starts a group of its own. -/
def fresh (eventId correlation : Uuid) (now : Instant) (eventType : String) (payload : Json)
    (metadata : Attribution) (correlationId causationId : Option String) : Envelope where
  eventId := eventId
  eventType := eventType
  timestamp := now
  correlationId := correlationId.getD correlation.text
  causationId := causationId
  payload := payload
  metadata := metadata

end Envelope

/-! ## JSON documents -/

/-- An attribution in a JSON document. -/
def Attribution.toJson (a : Attribution) : Json :=
  .obj ([("actorId", .str a.actorId), ("actorType", a.actorKind.toJson), ("source", .str a.source)]
    ++ Json.whenPresent "reason" .str a.reason)

/-- The members of an attribution. -/
def Attribution.reader : Json.MemberReader Attribution := do
  let actorId ← Json.required "actorId" Json.text?
  let actorKind ← Json.required "actorType" ActorKind.ofJson?
  let source ← Json.required "source" Json.text?
  let reason ← Json.optional "reason" Json.text?
  pure { actorId, actorKind, source, reason }

/-- The attribution that a JSON value denotes. -/
def Attribution.ofJson? (j : Json) : Option Attribution := Json.typed Attribution.reader j

/-- An envelope in a JSON document. -/
def Envelope.toJson (e : Envelope) : Json :=
  .obj ([("eventId", Json.ofUuid e.eventId), ("eventType", .str e.eventType),
      ("timestamp", Json.ofInstant e.timestamp), ("correlationId", .str e.correlationId)]
    ++ Json.whenPresent "causationId" .str e.causationId
    ++ [("payload", e.payload), ("metadata", e.metadata.toJson)])

/-- The members of an envelope. -/
def Envelope.reader : Json.MemberReader Envelope := do
  let eventId ← Json.required "eventId" Json.uuid?
  let eventType ← Json.required "eventType" Json.text?
  let timestamp ← Json.required "timestamp" Json.instant?
  let correlationId ← Json.required "correlationId" Json.text?
  let causationId ← Json.optional "causationId" Json.text?
  let payload ← Json.required "payload" some
  let metadata ← Json.required "metadata" Attribution.ofJson?
  pure { eventId, eventType, timestamp, correlationId, causationId, payload, metadata }

/-- The envelope that a JSON value denotes. -/
def Envelope.ofJson? (j : Json) : Option Envelope := Json.typed Envelope.reader j

end EventLedger
