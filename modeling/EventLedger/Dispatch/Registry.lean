/-!
# Subscriptions

Handlers are registered for one event type or for all. They are served by priority, lower numbers
first, and in the order of registration among equals.

* `Registration`, `Registry`: a handler with its conditions, and all of them;
* `Registry.register`, `Registry.unsubscribe`, `Registry.release`, `Registry.clear`,
  `Registry.dispose`: changes;
* `Registry.handlersFor`, `Registry.count`: what an event type is delivered to.
-/

namespace EventLedger

/-- A registered handler. -/
structure Registration (η : Type) where
  /-- The number of registrations before this one. -/
  ordinal : Nat
  /-- The name by which it can be removed; several may share one. -/
  subscriptionId : String
  priority : Int
  /-- Delivery goes on behind this handler when it fails. -/
  continueOnError : Bool
  handler : η

/-- All registered handlers. -/
structure Registry (η : Type) where
  /-- The handlers of single event types; no type stands here without a handler. -/
  byType : List (String × List (Registration η))
  /-- The handlers of all event types. -/
  wildcard : List (Registration η)
  nextOrdinal : Nat
  disposed : Bool

/-- The event type that stands for all. -/
def wildcardType : String := "*"

/-- What a registration leaves with its owner: it removes that registration and no other. -/
structure Handle where
  subscriptionId : String
  eventType : String
  ordinal : Nat
  deriving DecidableEq, Repr

namespace Registry

variable {η : Type}

/-- No handler yet. -/
def empty : Registry η := ⟨[], [], 0, false⟩

/-- A registration put behind the others of its type. -/
def addTo (eventType : String) (r : Registration η) :
    List (String × List (Registration η)) → List (String × List (Registration η))
  | [] => [(eventType, [r])]
  | (t, rs) :: rest =>
    if t = eventType then (t, rs ++ [r]) :: rest else (t, rs) :: addTo eventType r rest

/-- A handler registered for an event type. -/
def register (eventType subscriptionId : String) (priority : Int) (continueOnError : Bool)
    (handler : η) (g : Registry η) : Handle × Registry η :=
  let r : Registration η := ⟨g.nextOrdinal, subscriptionId, priority, continueOnError, handler⟩
  let handle : Handle := ⟨subscriptionId, eventType, g.nextOrdinal⟩
  if eventType = wildcardType then
    (handle, { g with wildcard := g.wildcard ++ [r], nextOrdinal := g.nextOrdinal + 1 })
  else
    (handle, { g with byType := addTo eventType r g.byType, nextOrdinal := g.nextOrdinal + 1 })

/-- All registrations, those of single types first. -/
def all (g : Registry η) : List (Registration η) := g.byType.flatMap (·.2) ++ g.wildcard

/-- The smaller of two ordinals. -/
def older : Option Nat → Nat → Option Nat
  | none, n => some n
  | some m, n => some (min m n)

/-- The ordinal of the oldest registration that satisfies `p`. -/
def oldest (p : Registration η → Bool) (g : Registry η) : Option Nat :=
  ((g.all.filter p).map (·.ordinal)).foldl older none

/-- The registrations without the one of an ordinal; a type left without handlers goes too. -/
def withoutOrdinal (n : Nat) (g : Registry η) : Registry η :=
  let keep (rs : List (Registration η)) := rs.filter (·.ordinal != n)
  { g with
    byType := (g.byType.map fun (t, rs) => (t, keep rs)).filter fun (_, rs) => !rs.isEmpty
    wildcard := keep g.wildcard }

/-- The oldest registration that satisfies `p` removed, and whether there was one. -/
def removeOldest (p : Registration η → Bool) (g : Registry η) : Bool × Registry η :=
  match g.oldest p with
  | some n => (true, g.withoutOrdinal n)
  | none => (false, g)

/-- The oldest registration of a name removed, and whether there was one. -/
def unsubscribe (subscriptionId : String) (g : Registry η) : Bool × Registry η :=
  g.removeOldest fun r => r.subscriptionId == subscriptionId

/-- The registration of a handle removed, and whether it was still there. -/
def release (h : Handle) (g : Registry η) : Bool × Registry η :=
  g.removeOldest fun r => r.ordinal == h.ordinal

/-- All registrations removed. -/
def clear (g : Registry η) : Registry η := { g with byType := [], wildcard := [] }

/-- All registrations removed for good. -/
def dispose (g : Registry η) : Registry η := { g.clear with disposed := true }

/-- The handlers of one event type alone. -/
def specific (eventType : String) (g : Registry η) : List (Registration η) :=
  (g.byType.lookup eventType).getD []

/-- The number of handlers that an event type is delivered to. -/
def count (eventType : String) (g : Registry η) : Nat :=
  (if eventType = wildcardType then 0 else (g.specific eventType).length) + g.wildcard.length

/-- A registration is served before another. -/
def servedBefore (a b : Registration η) : Bool :=
  a.priority < b.priority || (a.priority == b.priority && a.ordinal ≤ b.ordinal)

/-- The handlers that an event type is delivered to, in the order of delivery. -/
def handlersFor (eventType : String) (g : Registry η) : List (Registration η) :=
  (g.specific eventType ++ g.wildcard).mergeSort servedBefore

end Registry

end EventLedger
