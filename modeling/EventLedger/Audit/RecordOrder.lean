import EventLedger.Audit.Record
import EventLedger.Json.Decode
import EventLedger.Text.Lowercase

/-!
# The order of listed records

* `SortField`, `Direction`: the key and the direction of an order, with their names;
* `RecordOrder.compare`: how two records are ordered; the sequence number decides between equal
  keys;
* `RecordOrder.sort`: a list of records in order.
-/

namespace EventLedger

/-- What records are ordered by. -/
inductive SortField where
  | timestamp
  | sequenceNumber
  | eventType
  deriving DecidableEq, Repr

namespace SortField

/-- The name of a field. -/
def word : SortField → String
  | timestamp => "timestamp"
  | sequenceNumber => "sequenceNumber"
  | eventType => "eventType"

/-- The field of a name. -/
def ofWord? (s : String) : Option SortField :=
  if s = "timestamp" then some timestamp
  else if s = "sequenceNumber" then some sequenceNumber
  else if s = "eventType" then some eventType
  else none

/-- The field of a name, or the message about a name that no field has. -/
def read (s : String) : Except String SortField :=
  match ofWord? s with
  | some f => .ok f
  | none => .error ("unsupported sort field: " ++ s)

end SortField

/-- Upwards or downwards. -/
inductive Direction where
  | ascending
  | descending
  deriving DecidableEq, Repr

namespace Direction

/-- The name of a direction. -/
def word : Direction → String
  | ascending => "asc"
  | descending => "desc"

/-- The direction of a name. -/
def ofWord? (s : String) : Option Direction :=
  if s = "asc" then some ascending else if s = "desc" then some descending else none

/-- The direction of a name in any letter case, or the message about any other name. -/
def read (s : String) : Except String Direction :=
  match ofWord? (Text.lowerAscii s) with
  | some d => .ok d
  | none => .error ("unsupported sort order: " ++ Text.lowerAscii s)

/-- An ordering seen in this direction. -/
def apply : Direction → Ordering → Ordering
  | ascending, o => o
  | descending, o => o.swap

end Direction

/-- A field and a direction. -/
structure RecordOrder where
  field : SortField
  direction : Direction
  deriving DecidableEq, Repr

namespace RecordOrder

/-- In the order of storing. -/
def causal : RecordOrder := ⟨.sequenceNumber, .ascending⟩

/-- The latest first. -/
def recent : RecordOrder := ⟨.timestamp, .descending⟩

/-- How two records are ordered by a field alone. -/
def compareField (a b : Record) : SortField → Ordering
  | .timestamp => a.timestamp.compare b.timestamp
  | .sequenceNumber => .eq
  | .eventType => compareOfLessAndEq a.eventType b.eventType

/-- How two records are ordered. -/
def compare (o : RecordOrder) (a b : Record) : Ordering :=
  o.direction.apply
    ((compareField a b o.field).then (compareOfLessAndEq a.sequenceNumber b.sequenceNumber))

/-- A record may stand in front of another. -/
def precedes (o : RecordOrder) (a b : Record) : Bool := o.compare a b != .gt

/-- Records in order; those of one place keep the order they come in. -/
def sort (o : RecordOrder) (rs : List Record) : List Record := rs.mergeSort o.precedes

/-- An order in a JSON document. -/
def toJson (o : RecordOrder) : Json :=
  .obj [("field", .str o.field.word), ("order", .str o.direction.word)]

/-- The members of an order. -/
def reader : Json.MemberReader RecordOrder := do
  let field ← Json.required "field" fun j => (Json.word? j).bind SortField.ofWord?
  let direction ← Json.required "order" fun j => (Json.word? j).bind Direction.ofWord?
  pure { field, direction }

/-- The order that a JSON value denotes. -/
def ofJson? (j : Json) : Option RecordOrder := Json.typed reader j

end RecordOrder

end EventLedger
