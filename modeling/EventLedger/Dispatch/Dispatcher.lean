import EventLedger.Dispatch.Delivery

/-!
# The dispatcher

* `DispatcherSettings`: time limit and priority where nothing else is said;
* `SubscribeOptions`, `subscribe`: a handler registered;
* `PublishOptions`, `Host`, `publish`, `publishRaw`: an event checked and delivered, or put aside
  for delivery in the background;
* `DispatchError`: why an event was not accepted.
-/

namespace EventLedger

/-- Why the dispatcher refuses its service. -/
inductive DispatchError where
  | rejected (r : Rejection)
  | disposed
  deriving DecidableEq, Repr

/-- The refusal in words. -/
def DispatchError.message : DispatchError → String
  | .rejected r => "event validation failed: " ++ r.message
  | .disposed => "event dispatcher has been disposed"

/-- What holds where a caller says nothing else. -/
structure DispatcherSettings where
  /-- The time of each handler in milliseconds. -/
  handlerTimeout : Nat
  defaultPriority : Int
  deriving DecidableEq, Repr

/-- Thirty seconds, and priority 100. -/
def DispatcherSettings.standard : DispatcherSettings := ⟨30000, 100⟩

/-- How a handler wants to be registered. -/
structure SubscribeOptions where
  priority : Option Int := none
  continueOnError : Bool := true
  subscriptionId : Option String := none

/-- How an event is to be delivered. -/
structure PublishOptions where
  /-- The time of each handler in milliseconds. -/
  timeout : Option Nat := none
  awaitHandlers : Bool := true
  correlationId : Option String := none
  causationId : Option String := none

variable {σ η : Type}

/-- A handler registered, unless the dispatcher is disposed; `generated` names it where the options
do not. -/
def subscribe (settings : DispatcherSettings) (generated : Uuid) (eventType : String)
    (options : SubscribeOptions) (handler : η) (g : Registry η) :
    Except DispatchError Handle × Registry η :=
  if g.disposed then (.error .disposed, g)
  else
    let (handle, g) := g.register eventType (options.subscriptionId.getD generated.text)
      (options.priority.getD settings.defaultPriority) options.continueOnError handler
    (.ok handle, g)

/-- A delivery that nobody waits for. -/
structure Deferred (η : Type) where
  envelope : Envelope
  handlers : List (Registration η)
  limit : Nat

/-- What a dispatcher needs of the state it works on. -/
structure Host (σ η : Type) where
  settings : DispatcherSettings
  registry : σ → Registry η
  /-- Puts a delivery aside for the background. -/
  defer : Deferred η → σ → σ
  handle : Handling σ η

/-- The delivery put aside, as a task of its own. -/
def Deferred.task (handle : Handling σ η) (d : Deferred η) : Task σ Unit :=
  (deliver handle d.limit d.envelope d.handlers).bind fun _ => .done ()

/-- The handlers of an envelope as they are registered now, or why it is refused. -/
def accept (g : Registry η) (e : Envelope) : Except DispatchError (List (Registration η)) :=
  if g.disposed then .error .disposed
  else
    match e.check with
    | .ok () => .ok (g.handlersFor e.eventType)
    | .error r => .error (.rejected r)

/-- An envelope checked and delivered to the handlers registered at that moment. -/
def publishRaw (host : Host σ η) (e : Envelope) (options : PublishOptions) :
    Task σ (Except DispatchError PublishResult) :=
  Task.look.bind fun s =>
    match accept (host.registry s) e with
    | .error refusal => .done (.error refusal)
    | .ok handlers =>
      let limit := options.timeout.getD host.settings.handlerTimeout
      if options.awaitHandlers then
        (deliver host.handle limit e handlers).bind fun attempts =>
          .done (.ok (.ofAttempts e.eventId attempts))
      else
        (Task.change (host.defer ⟨e, handlers, limit⟩)).bind fun _ =>
          .done (.ok (.optimistic e.eventId handlers.length))

/-- A new event put into an envelope and published. -/
def publish (host : Host σ η) (eventId correlation : Uuid) (now : Instant) (eventType : String)
    (payload : Json) (metadata : Attribution) (options : PublishOptions) :
    Task σ (Except DispatchError PublishResult) :=
  publishRaw host
    (.fresh eventId correlation now eventType payload metadata options.correlationId
      options.causationId)
    options

end EventLedger
