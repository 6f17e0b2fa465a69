import EventLedger.Json.Decode
import EventLedger.Time.Printer
import EventLedger.Time.Reader
import EventLedger.Uuid

/-!
# Identifiers and instants in JSON documents

Both are written as texts.
-/

namespace EventLedger.Json

/-- An identifier. -/
def ofUuid (u : Uuid) : Json := .str u.text

/-- The identifier that a JSON text denotes. -/
def uuid? (j : Json) : Option Uuid := (text? j).bind Uuid.read?

/-- An instant. -/
def ofInstant (t : Instant) : Json := .str t.wireText

/-- The instant that a JSON text denotes. -/
def instant? (j : Json) : Option Instant :=
  (text? j).bind fun s =>
    match Instant.read s with
    | .ok t => some t
    | .error _ => none

/-- An optional value, null where there is none. -/
def orNullOf {α : Type} (write : α → Json) : Option α → Json
  | some a => write a
  | none => .null

/-- A member that is left out where there is no value. -/
def whenPresent {α : Type} (name : String) (write : α → Json) : Option α → List (String × Json)
  | some a => [(name, write a)]
  | none => []

end EventLedger.Json
