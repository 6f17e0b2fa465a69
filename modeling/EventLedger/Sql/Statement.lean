import EventLedger.Json.Basic
import EventLedger.Time.Instant
import EventLedger.Uuid

/-!
# Statements with bound values

A statement is text with places for values. The values travel beside the text, which names them by
their number.

* `Value`: what a column holds or a place is bound to;
* `Piece`, `Statement`: text and places;
* `Statement.text`, `Statement.values`: the two halves that are sent.
-/

namespace EventLedger.Sql

/-- A value of the database. -/
inductive Value where
  | null
  | text (s : String)
  | texts (ss : List String)
  | uuid (u : Uuid)
  /-- Microseconds since 2000-01-01T00:00:00Z. -/
  | timestamp (microseconds : Int)
  | date (d : Date)
  | int (n : Int)
  | bool (b : Bool)
  | json (j : Json)

namespace Value

/-- An instant as the database keeps it. -/
def ofInstant (t : Instant) : Value := .timestamp t.linearMicroseconds

/-- A text that may be absent. -/
def ofText? : Option String → Value
  | some s => .text s
  | none => .null

end Value

/-- A part of a statement. -/
inductive Piece where
  | text (s : String)
  /-- A place with the value bound to it. -/
  | place (v : Value)

/-- The parts of a statement in order. -/
abbrev Statement := List Piece

namespace Statement

/-- The text of a statement whose first place has number `n`. -/
def textFrom (n : Nat) : Statement → String
  | [] => ""
  | .text s :: rest => s ++ textFrom n rest
  | .place _ :: rest => "$" ++ toString n ++ textFrom (n + 1) rest

/-- The text of a statement, its places numbered from one. -/
def text (s : Statement) : String := textFrom 1 s

/-- The bound values in order. -/
def values (s : Statement) : List Value :=
  s.filterMap fun
    | .text _ => none
    | .place v => some v

end Statement

end EventLedger.Sql
