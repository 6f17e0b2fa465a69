import EventLedger.Audit.Ledger
import EventLedger.Dispatch.Backoff
import EventLedger.Dispatch.Dispatcher

/-!
# From events to records

The forwarder is a handler that records every event it receives. The record has the id of the event,
so that an event delivered twice is recorded once.

* `Envelope.submission`: the record of an event;
* `Forwarder.handle`: recording with repeated attempts;
* `Forwarder.options`: how the forwarder is registered.
-/

namespace EventLedger

/-- A member of a payload that is a text, trimmed and not blank. -/
def payloadText? (payload : Json) (name : String) : Option String :=
  match payload.member? name with
  | some (.str s) => Text.nonBlank? s
  | _ => none

/-- A member of a payload that names something: a text that is not blank, or a number. -/
def payloadId? (payload : Json) (name : String) : Option String :=
  match payload.member? name with
  | some (.str s) => Text.nonBlank? s
  | some (.int n) => some (toString n)
  | some (.float x) => some (Json.floatText x)
  | _ => none

/-- A member of a payload that is a truth value. -/
def payloadFlag? (payload : Json) (name : String) : Option Bool :=
  (payload.member? name).bind Json.bool?

/-- The record of an event. The payload names the resource, or else the category and the id of the
event do; the action is the last segment of the event type. -/
def Envelope.submission (e : Envelope) : Submission where
  id := some e.eventId
  eventType := e.eventType
  timestamp := some e.timestamp
  correlationId := some e.correlationId
  causationId := e.causationId
  actor := ⟨e.metadata.actorKind, e.metadata.actorId⟩
  resource := {
    kind := (payloadText? e.payload "resourceType").getD (category e.eventType)
    id := ((payloadId? e.payload "resourceId").or (payloadId? e.payload "id")).getD e.eventId.text }
  action := lastPart e.eventType
  reason := e.metadata.reason
  description := payloadText? e.payload "description"
  sourceService := e.metadata.source
  payload := e.payload
  metadata := []
  stateChange := (e.payload.member? "stateChange").bind StateChange.ofJson?
  retention := ((payloadText? e.payload "retentionClass").bind Retention.ofWord?).getD .standard
  containsPii := (payloadFlag? e.payload "containsPii").getD false

namespace Forwarder

/-- The name of the forwarder's registration. -/
def subscriptionId : String := "audit-ledger"

/-- The greatest priority, which is served last. -/
def priority : Int := 2147483647

/-- The forwarder is served behind all other handlers and never stops delivery. -/
def options : SubscribeOptions where
  priority := some priority
  continueOnError := true
  subscriptionId := some subscriptionId

variable {σ : Type}

/-- One attempt to record a submission. -/
def attempt (ledger : Ledger (StateM σ)) (fresh : FreshIds) (now : Instant) (s : Submission) :
    Task σ (Except LedgerError Record) :=
  .act (ledger.submit fresh now s).run

/-- A record of the id is in the ledger. -/
def alreadyRecorded (ledger : Ledger (StateM σ)) (id : Uuid) : Task σ Bool :=
  (Task.act (ledger.find? id).run).bind fun
    | .ok (some _) => .done true
    | _ => .done false

/-- An event recorded. Failures of the store that may pass are tried again; a broken rule is no
failure if the event is in the ledger already. -/
def handle (ledger : Ledger (StateM σ)) (b : Backoff) (fresh : FreshIds) (now : Instant)
    (e : Envelope) : Task σ Completion :=
  (retry b LedgerError.transient (attempt ledger fresh now e.submission)).bind fun
    | .ok _ => .done .succeeded
    | .error error =>
      if error.isConstraint then
        (alreadyRecorded ledger e.eventId).bind fun recorded =>
          .done (if recorded then .succeeded else .failed error.message)
      else .done (.failed error.message)

end Forwarder

end EventLedger
