import EventLedger.Json.Decode

/-!
# Kinds of actors

Somebody or something is responsible for every event. Only an administrator has to state a reason.

* `ActorKind`, `ActorKind.word`, `ActorKind.ofWord?`: the kinds and their names;
* `ActorKind.rank`: their order;
* `ActorKind.needsReason`: the kinds that have to state a reason.
-/

namespace EventLedger

/-- The kind of actor responsible for an event. -/
inductive ActorKind where
  | user
  | agent
  | admin
  | system
  | service
  deriving DecidableEq, Repr

namespace ActorKind

/-- The name of a kind. -/
def word : ActorKind → String
  | user => "user"
  | agent => "agent"
  | admin => "admin"
  | system => "system"
  | service => "service"

/-- The kind of a name. -/
def ofWord? (s : String) : Option ActorKind :=
  if s = "user" then some user
  else if s = "agent" then some agent
  else if s = "admin" then some admin
  else if s = "system" then some system
  else if s = "service" then some service
  else none

/-- The message about a name that no kind has. -/
def unknownMessage (s : String) : String := "unknown actor type: " ++ s

/-- The place of a kind in the order of kinds. -/
def rank : ActorKind → Nat
  | user => 0
  | agent => 1
  | admin => 2
  | system => 3
  | service => 4

/-- An actor of this kind has to state a reason. -/
def needsReason : ActorKind → Bool
  | admin => true
  | _ => false

/-- A kind in a JSON document. -/
def toJson (k : ActorKind) : Json := .str k.word

/-- The kind that a JSON value denotes. -/
def ofJson? (j : Json) : Option ActorKind := (Json.word? j).bind ofWord?

/-- Every kind is read back from its name. -/
theorem ofWord?_word (k : ActorKind) : ofWord? k.word = some k := by cases k <;> rfl

end ActorKind

end EventLedger
