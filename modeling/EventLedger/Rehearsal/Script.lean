import EventLedger.Dispatch.Backoff
import EventLedger.Dispatch.Dispatcher

/-!
# Scripts for handlers

A rehearsal runs dispatcher and ledger with handlers that follow a script. A handler may use the
dispatcher that delivers to it, so steps of the dispatcher may be part of a script.

* `Script`, `Cue`, `Deed`: what a handler does, deed by deed;
* `StepFault`: why a step cannot be taken as it is written;
* `Step`: one use of the dispatcher;
* `Handler`: a scripted handler, or the forwarder.
-/

namespace EventLedger.Rehearsal

/-- Why a step cannot be taken as it is written. -/
inductive StepFault where
  /-- A value has not the form that it should have. -/
  | wrongForm
  /-- What should be a text is none, or not there. -/
  | noText (field : String)
  /-- There is no such step. -/
  | unknown
  deriving DecidableEq, Repr

mutual

/-- What a handler does when an envelope is delivered to it. -/
inductive Script where
  /-- The name stands in the log; with `logsEnvelope` the envelope does, too. -/
  | mk (name : String) (logsEnvelope : Bool) (cues : List Cue)

/-- A deed, done at every delivery or at one of them only, counted from one. -/
inductive Cue where
  | mk (onlyCall : Option Nat) (deed : Deed)

/-- One deed of a handler. -/
inductive Deed where
  | sleep (ms : Nat)
  | fail (message : String)
  /-- A panic with a text or without one. -/
  | panic (message : Option String)
  | note (message : String)
  | use (step : Step)

/-- One use of the dispatcher. -/
inductive Step where
  /-- The handle is kept under the name of the script. -/
  | subscribe (script : Script) (eventType : String) (options : SubscribeOptions)
  /-- Without an identifier the step is at fault, but not before the dispatcher is asked for. -/
  | unsubscribe (subscriptionId : Option String)
  /-- The handle kept under a name is used up. -/
  | release (name : String)
  | publish (eventType : String) (payload : Json) (metadata : Attribution)
      (options : PublishOptions)
  | publishRaw (envelope : Envelope) (options : PublishOptions)
  | count (eventType : String)
  | clear
  | dispose
  | inspect
  | faulty (fault : StepFault)

end

/-- The name of a scripted handler. -/
def Script.name : Script → String
  | .mk name _ _ => name

/-- A handler of a rehearsal. -/
inductive Handler where
  /-- Its number tells it from other handlers with the same script. -/
  | scripted (number : Nat) (script : Script)
  | forwarder (backoff : Backoff)

/-- The answer to a step. -/
inductive Reply where
  | subscribed (handle : Handle)
  /-- Whether there was something to remove. -/
  | removed (found : Bool)
  /-- No handle is kept under the name. -/
  | noHandle
  | published (result : PublishResult)
  | refused (error : DispatchError)
  | counted (handlers : Nat)
  | cleared
  | disposed (value : Bool)
  /-- The state of the dispatcher: disposed, event types with handlers, handlers of all types. -/
  | inspected (disposed : Bool) (eventTypes wildcardHandlers : Nat)
  /-- There is no dispatcher any more. -/
  | dropped
  | faulty (fault : StepFault)

/-- A line of the log. -/
inductive LogEntry where
  | delivered (handler : String) (envelope : Option Envelope)
  | noted (message : String)
  /-- The answer to a step of a handler. -/
  | replied (handler : String) (reply : Reply)

end EventLedger.Rehearsal
