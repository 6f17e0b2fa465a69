import EventLedger.Audit.Wire
import EventLedger.Digest.Sha256
import EventLedger.Event.EventType
import EventLedger.Json.Printer
import EventLedger.Text.Lowercase

/-!
# Sealing

A record is sealed by the digest of one text that holds its identity, its place in time and what was
done to what by whom and why. The components stand in fixed order with `|` between them; inside a
component `|` and a backslash have a backslash in front. An absent reason is written as a backslash
and `0`, which no escaped text equals.

* `Canonical`, `Canonical.text`: the sealed fields and the text that is hashed;
* `Canonical.checksum`, `Record.intact`: the digest, and its test;
* `Submission.seal`: a submission completed and sealed.
-/

namespace EventLedger

/-- The fields that a checksum covers. -/
structure Canonical where
  id : Uuid
  correlationId : String
  eventType : String
  timestamp : Instant
  actor : Actor
  resource : Resource
  action : String
  reason : Option String

namespace Canonical

/-- One character of a component. -/
def escapeChar (c : Char) : List Char := if c = '|' ∨ c = '\\' then ['\\', c] else [c]

/-- A component with its escapes. -/
def escape (s : String) : List Char := s.toList.flatMap escapeChar

/-- The mark of an absent reason. -/
def absent : List Char := ['\\', '0']

/-- The components in order, the reason apart. -/
def components (c : Canonical) : List String :=
  [c.id.text, c.correlationId, c.eventType, c.timestamp.sealText, c.actor.toJson.compact,
    c.resource.toJson.compact, c.action]

/-- The last component. -/
def reasonPart (c : Canonical) : List Char :=
  match c.reason with
  | some reason => escape reason
  | none => absent

/-- The text that is hashed. -/
def text (c : Canonical) : String :=
  String.ofList (c.components.flatMap (fun s => escape s ++ ['|']) ++ c.reasonPart)

/-- The digest that seals the fields. -/
def checksum (c : Canonical) : String := Digest.sha256Hex c.text

/-- A checksum belongs to the fields; the case of its letters does not matter. -/
def sealedBy (c : Canonical) (checksum : String) : Bool :=
  Text.lowerAscii c.checksum == Text.lowerAscii checksum

end Canonical

/-- The sealed fields of an entry. -/
def SealedEntry.canonical (e : SealedEntry) : Canonical where
  id := e.id
  correlationId := e.correlationId
  eventType := e.eventType
  timestamp := e.timestamp
  actor := e.actor
  resource := e.resource
  action := e.action
  reason := e.reason

/-- The sealed fields of a record. -/
def Record.canonical (r : Record) : Canonical := r.toSealedEntry.canonical

/-- The checksum of a record belongs to its fields. -/
def Record.intact (r : Record) : Bool := r.canonical.sealedBy r.checksum

/-- Identifiers that are used where a submission brings none. -/
structure FreshIds where
  record : Uuid
  correlation : Uuid

/-- The correlation id of a submission, unless it is blank. -/
def Submission.statedCorrelation? (s : Submission) : Option String :=
  s.correlationId.filter fun c => !Text.blank c

/-- A submission completed at the instant `now` and sealed. Its time is cut to microseconds, the
precision of the store, so that a record read back has the same seal. -/
def Submission.seal (s : Submission) (fresh : FreshIds) (now : Instant) : SealedEntry :=
  let entry : SealedEntry := { s.toDetails with
    id := s.id.getD fresh.record
    category := category s.eventType
    timestamp := (s.timestamp.getD now).toMicroseconds
    correlationId := s.statedCorrelation?.getD fresh.correlation.text
    checksum := "" }
  { entry with checksum := entry.canonical.checksum }

end EventLedger
