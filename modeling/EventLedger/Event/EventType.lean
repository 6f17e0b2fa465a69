import EventLedger.Event.Rejection
import EventLedger.Text.Blank
import EventLedger.Text.Segments

/-!
# Event types

An event type is a dotted tag such as `trip.created`: segments of ASCII letters, digits, `_` and `-`
with dots between them.

* `tagSegment`, `dottedTag`: the grammar;
* `checkEventType`: the grammar with a limit of length and the first fault named;
* `category`, `lastPart`: the first and the last segment.
-/

namespace EventLedger

/-- The greatest length of an event type, in characters. -/
def eventTypeLimit : Nat := 128

/-- A character of a segment. -/
def tagChar (c : Char) : Bool :=
  ('a' ≤ c && c ≤ 'z') || ('A' ≤ c && c ≤ 'Z') || ('0' ≤ c && c ≤ '9') || c == '_' || c == '-'

/-- One segment of an event type. -/
def tagSegment (cs : List Char) : Bool := !cs.isEmpty && cs.all tagChar

/-- Segments with dots between them. -/
def dottedTag (cs : List Char) : Bool := (Text.segments '.' cs).all tagSegment

/-- The event type is a dotted tag within the limit of length. -/
def checkEventType (eventType : String) : Except Rejection Unit :=
  if Text.blank eventType then .error .emptyEventType
  else if eventTypeLimit < eventType.length then .error (.eventTypeTooLong eventTypeLimit)
  else if dottedTag eventType.toList then .ok ()
  else .error (.malformedEventType eventType)

/-- The first segment of an event type. -/
def category (eventType : String) : String :=
  String.ofList (Text.firstSegment '.' eventType.toList)

/-- The last segment of an event type. -/
def lastPart (eventType : String) : String :=
  String.ofList (Text.lastSegment '.' eventType.toList)

end EventLedger
