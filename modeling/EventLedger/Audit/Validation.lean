import EventLedger.Audit.Violation
import EventLedger.Event.EventType

/-!
# Validation of submissions

Every rule is checked, so that one answer names all that is wrong with a submission or a batch.

* `checkRequired`, `checkLength`: rules for one text;
* `Submission.violations`: what is wrong with a submission;
* `batchViolations`: the same for every element of a batch.
-/

namespace EventLedger

/-- The greatest length of an identifier. -/
def identifierLimit : Nat := 255

/-- The greatest length of an action. -/
def actionLimit : Nat := 64

/-- The greatest length of a reason or a description. -/
def textLimit : Nat := 2000

/-- A text that must not be blank nor too long. -/
def checkRequired (limit : Nat) (value : String) : Option Fault :=
  if Text.blank value then some .empty
  else if limit < value.length then some (.tooLong limit)
  else none

/-- A text that must not be too long. -/
def checkLength (limit : Nat) (value : String) : Option Fault :=
  if limit < value.length then some (.tooLong limit) else none

/-- The fault of an event type. -/
def eventTypeFault (eventType : String) : Option Fault :=
  match checkEventType eventType with
  | .ok () => none
  | .error .emptyEventType => some .empty
  | .error (.eventTypeTooLong limit) => some (.tooLong limit)
  | .error (.malformedEventType tag) => some (.malformedTag tag)
  | .error other => some (.stated other.message)

/-- The fault of a missing reason. -/
def reasonFault (kind : ActorKind) (reason : Option String) : Option Fault :=
  if kind.needsReason ∧ reason.all Text.blank then some (.reasonRequired kind) else none

/-- What is wrong with each field of a submission, in the order of the report. -/
def Submission.fieldFaults (s : Submission) : List (String × Option Fault) := [
  ("eventType", eventTypeFault s.eventType),
  ("actor.id", checkRequired identifierLimit s.actor.id),
  ("resource.type", checkRequired identifierLimit s.resource.kind),
  ("resource.id", checkRequired identifierLimit s.resource.id),
  ("sourceService", checkRequired identifierLimit s.sourceService),
  ("action", checkRequired actionLimit s.action),
  ("correlationId", s.correlationId.bind (checkRequired identifierLimit)),
  ("causationId", s.causationId.bind (checkRequired identifierLimit)),
  ("reason", reasonFault s.actor.kind s.reason),
  ("reason", s.reason.bind (checkLength textLimit)),
  ("description", s.description.bind (checkLength textLimit))]

/-- The violations of a submission, which stands at `index` in its batch. -/
def Submission.violationsAt (index : Option Nat) (s : Submission) : List Violation :=
  s.fieldFaults.filterMap fun (field, fault) => fault.map (⟨index, field, ·⟩)

/-- The violations of a single submission. -/
def Submission.violations (s : Submission) : List Violation := s.violationsAt none

/-- The violations of a batch, its elements counted from `start`. -/
def batchViolationsFrom (start : Nat) : List Submission → List Violation
  | [] => []
  | s :: rest => s.violationsAt (some start) ++ batchViolationsFrom (start + 1) rest

/-- The violations of all elements of a batch. -/
def batchViolations (batch : List Submission) : List Violation := batchViolationsFrom 0 batch

end EventLedger
