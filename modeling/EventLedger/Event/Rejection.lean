import EventLedger.Event.ActorKind

/-!
# Rejected events

* `Rejection`: why an event is not delivered to anybody;
* `Rejection.message`: the wording.
-/

namespace EventLedger

/-- Why an event is not fit for delivery. -/
inductive Rejection where
  /-- The event type is empty or blank. -/
  | emptyEventType
  /-- The event type has more than `limit` characters. -/
  | eventTypeTooLong (limit : Nat)
  /-- The event type is not a dotted tag. -/
  | malformedEventType (eventType : String)
  /-- The actor is not named. -/
  | emptyActorId
  /-- The emitting part of the platform is not named. -/
  | emptySource
  /-- An actor of this kind has to state a reason. -/
  | missingReason (kind : ActorKind)
  deriving DecidableEq, Repr

/-- The wording of a rejection. -/
def Rejection.message : Rejection → String
  | .emptyEventType => "eventType cannot be empty"
  | .eventTypeTooLong limit => "eventType must be at most " ++ toString limit ++ " characters"
  | .malformedEventType eventType =>
    "eventType must be a dotted tag like 'trip.created', got '" ++ eventType ++ "'"
  | .emptyActorId => "metadata.actorId cannot be empty"
  | .emptySource => "metadata.source cannot be empty"
  | .missingReason kind => "metadata.reason is required when actorType is " ++ kind.word

end EventLedger
