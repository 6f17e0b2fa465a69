import EventLedger.Audit.Record
import EventLedger.Time.Printer

/-!
# Violations

* `Fault`, `Fault.message`: why a value is not acceptable;
* `Violation`, `Violation.text`: the field at fault, in a batch with the place of its element;
* `violationsMessage`: all violations in one message.
-/

namespace EventLedger

/-- Why a value is not acceptable. -/
inductive Fault where
  | empty
  | tooLong (limit : Nat)
  | malformedTag (tag : String)
  /-- An actor of this kind has to state a reason. -/
  | reasonRequired (kind : ActorKind)
  | emptyBatch
  | batchTooLarge (size limit : Nat)
  /-- A range starts after its end. -/
  | rangeReversed (start finish : Instant)
  | belowOne
  | notBetweenOneAnd (limit : Nat)
  /-- A parameter could not be read. -/
  | unreadable (value problem : String)
  /-- A problem in words of its own. -/
  | stated (message : String)

/-- The wording of a fault. -/
def Fault.message : Fault → String
  | .empty => "cannot be empty"
  | .tooLong limit => "must be at most " ++ toString limit ++ " characters"
  | .malformedTag tag => "must be a dotted tag like 'trip.created', got '" ++ tag ++ "'"
  | .reasonRequired kind => "is required when actor type is " ++ kind.word
  | .emptyBatch => "batch cannot be empty"
  | .batchTooLarge size limit =>
    "batch of " ++ toString size ++ " exceeds the maximum of " ++ toString limit
  | .rangeReversed start finish =>
    "start " ++ start.displayText ++ " is after end " ++ finish.displayText
  | .belowOne => "must be at least 1"
  | .notBetweenOneAnd limit => "must be between 1 and " ++ toString limit
  | .unreadable value problem => "'" ++ value ++ "': " ++ problem
  | .stated message => message

/-- A field that is not acceptable. -/
structure Violation where
  /-- The place of the element in its batch. -/
  index : Option Nat
  field : String
  fault : Fault

/-- A violation outside a batch. -/
def Violation.single (field : String) (fault : Fault) : Violation := ⟨none, field, fault⟩

/-- A violation in words: place, field and fault. -/
def Violation.text (v : Violation) : String :=
  let place :=
    match v.index with
    | some i => "[" ++ toString i ++ "] "
    | none => ""
  place ++ v.field ++ ": " ++ v.fault.message

/-- All violations in one message. -/
def violationsMessage (vs : List Violation) : String :=
  "validation failed: " ++ "; ".intercalate (vs.map Violation.text)

end EventLedger
