import EventLedger.Dispatch.Registry
import EventLedger.Dispatch.Task
import EventLedger.Event.Envelope

/-!
# Delivery

An envelope goes to one handler after the other. A handler that fails, panics or takes too long is
noted, and delivery goes on unless its registration says otherwise.

* `Completion`, `HandlerFault`: how a handler ends, and what may be wrong with it;
* `invoke`: a handler within its time;
* `deliver`: all handlers in order;
* `PublishResult`: what the publisher is told.
-/

namespace EventLedger

/-- How a handler ends by itself. -/
inductive Completion where
  | succeeded
  | failed (message : String)
  /-- It panicked, with a text or without one. -/
  | panicked (message : Option String)
  deriving DecidableEq, Repr

/-- Why an invocation of a handler failed. -/
inductive HandlerFault where
  | failed (message : String)
  | timedOut (limit : Nat)
  | panicked (message : Option String)
  deriving DecidableEq, Repr

namespace HandlerFault

/-- The fault in words. -/
def message : HandlerFault → String
  | failed m => m
  | timedOut limit => "handler timed out after " ++ toString limit ++ " ms"
  | panicked m => "handler panicked: " ++ m.getD "unknown panic"

/-- The handler took too long. -/
def isTimeout : HandlerFault → Bool
  | timedOut _ => true
  | _ => false

end HandlerFault

/-- The fault of a handler that ended, or was cut off at `limit`. -/
def faultOf (limit : Nat) : Option Completion → Option HandlerFault
  | none => some (.timedOut limit)
  | some .succeeded => none
  | some (.failed m) => some (.failed m)
  | some (.panicked m) => some (.panicked m)

/-- One handler that was invoked, and its fault. -/
structure Attempt where
  subscriptionId : String
  fault : Option HandlerFault
  deriving DecidableEq, Repr

/-- One failed invocation, as the publisher is told. -/
structure HandlerFailure where
  subscriptionId : String
  message : String
  timedOut : Bool
  deriving DecidableEq, Repr

/-- What the publisher is told. -/
structure PublishResult where
  eventId : Uuid
  handlersInvoked : Nat
  handlersSucceeded : Nat
  errors : List HandlerFailure
  /-- The handlers have run; otherwise the numbers are a promise. -/
  awaited : Bool
  deriving DecidableEq

namespace Attempt

/-- The failure of an attempt. -/
def failure? (a : Attempt) : Option HandlerFailure :=
  a.fault.map fun f => ⟨a.subscriptionId, f.message, f.isTimeout⟩

/-- The attempt succeeded. -/
def succeeded (a : Attempt) : Bool := a.fault.isNone

end Attempt

namespace PublishResult

/-- The result of a delivery that was waited for. -/
def ofAttempts (eventId : Uuid) (attempts : List Attempt) : PublishResult where
  eventId := eventId
  handlersInvoked := attempts.length
  handlersSucceeded := attempts.countP Attempt.succeeded
  errors := attempts.filterMap Attempt.failure?
  awaited := true

/-- The result of a delivery that nobody waits for. -/
def optimistic (eventId : Uuid) (handlers : Nat) : PublishResult where
  eventId := eventId
  handlersInvoked := handlers
  handlersSucceeded := handlers
  errors := []
  awaited := false

/-- Every handler succeeded. -/
def allSucceeded (r : PublishResult) : Bool :=
  r.errors.isEmpty && r.handlersInvoked == r.handlersSucceeded

end PublishResult

variable {σ η : Type}

/-- How a handler of any kind takes an envelope. -/
abbrev Handling (σ η : Type) := η → Envelope → Task σ Completion

/-- A handler invoked with a time limit. -/
def invoke (handle : Handling σ η) (limit : Nat) (e : Envelope) (r : Registration η) :
    Task σ Attempt :=
  ((handle r.handler e).within limit).bind fun c => .done ⟨r.subscriptionId, faultOf limit c⟩

/-- An envelope delivered to handlers in order, up to a failing one that stops delivery. -/
def deliver (handle : Handling σ η) (limit : Nat) (e : Envelope) :
    List (Registration η) → Task σ (List Attempt)
  | [] => .done []
  | r :: rest => (invoke handle limit e r).bind fun a =>
    if a.succeeded || r.continueOnError then
      (deliver handle limit e rest).bind fun later => .done (a :: later)
    else .done [a]

end EventLedger
