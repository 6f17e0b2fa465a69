import EventLedger.Event.ActorKind
import EventLedger.Time.Instant
import EventLedger.Uuid

/-!
# Audit records

A submission is what a producer hands in. Sealing completes it, and storing gives it its place in
the ledger.

* `Actor`, `Resource`, `Retention`, `StateChange`: the parts of a record;
* `Details`: what a producer states and nobody changes;
* `Submission`, `SealedEntry`, `Record`: the three stages.
-/

namespace EventLedger

/-- Who did something. -/
structure Actor where
  kind : ActorKind
  id : String
  deriving DecidableEq, Repr

/-- What it was done to. -/
structure Resource where
  kind : String
  id : String
  deriving DecidableEq, Repr

/-- How long a record has to be kept. -/
inductive Retention where
  | standard
  | extended
  | permanent
  deriving DecidableEq, Repr

namespace Retention

/-- The name of a retention class. -/
def word : Retention → String
  | standard => "standard"
  | extended => "extended"
  | permanent => "permanent"

/-- The retention class of a name. -/
def ofWord? (s : String) : Option Retention :=
  if s = "standard" then some standard
  else if s = "extended" then some extended
  else if s = "permanent" then some permanent
  else none

/-- The message about a name that no retention class has. -/
def unknownMessage (s : String) : String := "unknown retention class: " ++ s

/-- Every retention class is read back from its name. -/
theorem ofWord?_word (r : Retention) : ofWord? r.word = some r := by cases r <;> rfl

end Retention

/-- The state of a resource before and after an action. -/
structure StateChange where
  before : Option Json
  after : Option Json

/-- What a producer states about an action. -/
structure Details where
  eventType : String
  causationId : Option String
  actor : Actor
  resource : Resource
  action : String
  reason : Option String
  description : Option String
  sourceService : String
  payload : Json
  metadata : List (String × Json)
  stateChange : Option StateChange
  retention : Retention
  containsPii : Bool

/-- A record handed in. What is missing is filled in when it is sealed. -/
structure Submission extends Details where
  id : Option Uuid
  timestamp : Option Instant
  correlationId : Option String

/-- A complete record that waits for its place in the ledger. -/
structure SealedEntry extends Details where
  id : Uuid
  category : String
  timestamp : Instant
  correlationId : String
  checksum : String

/-- A record of the ledger. -/
structure Record extends SealedEntry where
  sequenceNumber : Int
  storedAt : Instant

/-- A sealed entry at its place in the ledger. -/
def SealedEntry.stored (e : SealedEntry) (sequenceNumber : Int) (storedAt : Instant) : Record :=
  { e with sequenceNumber, storedAt }

end EventLedger
