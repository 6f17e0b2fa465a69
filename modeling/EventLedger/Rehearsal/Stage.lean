import EventLedger.Audit.Forwarder
import EventLedger.Dispatch.Timeline
import EventLedger.Rehearsal.Script
import EventLedger.Rehearsal.UnreliableStore

/-!
# The stage

* `Rig`: what stays the same during a rehearsal;
* `Publication`: a publication under way within a delivery;
* `Stage`: dispatcher, store and log as they are at one moment;
* `Script.follow`: a scripted handler that receives an envelope;
* `Rig.ledger`, `Rig.hostWith`: ledger and dispatcher on the stage;
* `Rig.step`, `Rig.perform`: a step of the dispatcher, and a task performed in virtual time;
* `Rig.attachForwarder`, `Stage.dropDispatcher`: changes no handler can make.
-/

namespace EventLedger.Rehearsal

/-- What stays the same during a rehearsal. -/
structure Rig where
  settings : DispatcherSettings
  limits : Limits
  /-- The instant that new events and records bear. -/
  now : Instant
  /-- The identifiers in the order in which they are used. -/
  identifier : Nat → Uuid

/-- A publication that a handler makes and waits for. -/
structure Publication where
  /-- The delivery that the handler belongs to; the foreground is number zero. -/
  delivery : Nat
  /-- How deep deliveries may still be nested in it. -/
  depth : Nat
  deriving DecidableEq, Repr

/-- Everything that steps change. -/
structure Stage where
  registry : Registry Handler
  /-- The stage has its dispatcher still. -/
  present : Bool
  /-- The publications under way; they hold on to the dispatcher. -/
  publications : List Publication
  store : UnreliableMemory
  /-- The deliveries that have not started yet. -/
  deferred : List (Deferred Handler)
  /-- The number of deliveries that have started in the background. -/
  begun : Nat
  /-- Handles by their names, the latest in front. -/
  handles : List (String × Handle)
  /-- The numbers of the handlers an envelope was delivered to. -/
  deliveries : List Nat
  /-- The number of scripted handlers so far. -/
  handlers : Nat
  /-- The number of identifiers used so far. -/
  identifiers : Nat
  log : List LogEntry

namespace Stage

/-- The empty stage. -/
def empty : Stage := ⟨.empty, true, [], .empty, [], 0, [], [], 0, 0, []⟩

/-- A line added to the log. -/
def note (entry : LogEntry) (s : Stage) : Stage := { s with log := s.log ++ [entry] }

/-- The log, and the stage with an empty one. -/
def takeLog (s : Stage) : List LogEntry × Stage := (s.log, { s with log := [] })

/-- A handle kept under a name. -/
def keep (name : String) (h : Handle) (s : Stage) : Stage :=
  { s with handles := (name, h) :: s.handles.filter fun (n, _) => n != name }

/-- The handle of a name, used up. -/
def takeHandle (name : String) (s : Stage) : Option Handle × Stage :=
  (s.handles.lookup name, { s with handles := s.handles.filter fun (n, _) => n != name })

/-- The dispatcher given up. It lives on in the publications under way. -/
def dropDispatcher (s : Stage) : Stage := { s with present := false }

/-- Handles find the dispatcher. -/
def dispatcherLives (s : Stage) : Bool := s.present || !s.publications.isEmpty

/-- A publication begun. -/
def openPublication (p : Publication) (s : Stage) : Stage :=
  { s with publications := p :: s.publications }

/-- A publication ended, and those within it, which were cut off if they were still under way. -/
def closePublication (p : Publication) (s : Stage) : Stage :=
  { s with
    publications := s.publications.filter fun q => q.delivery != p.delivery || p.depth < q.depth }

/-- One more delivery to a handler, and how many there were to it. -/
def countDelivery (number : Nat) (s : Stage) : Nat × Stage :=
  let deliveries := number :: s.deliveries
  (deliveries.count number, { s with deliveries })

/-- The registry changed, with an answer. -/
def onRegistry {α : Type} (action : Registry Handler → α × Registry Handler) : StateM Stage α :=
  fun s =>
    let (a, registry) := action s.registry
    (a, { s with registry })

/-- The handle of a name used up; without a dispatcher there is nothing to remove. -/
def release (name : String) : StateM Stage Reply := do
  match ← takeHandle name with
  | none => pure .noHandle
  | some handle =>
    if (← get).dispatcherLives then .removed <$> onRegistry (Registry.release handle)
    else pure (.removed false)

end Stage

/-- The answer to a publication. -/
def Reply.ofPublication : Except DispatchError PublishResult → Reply
  | .ok result => .published result
  | .error e => .refused e

/-! ## Scripted handlers -/

/-- The deeds of a scripted handler in order, at its delivery number `call`. -/
def followCues (perform : Step → Task Stage Reply) (name : String) (call : Nat) :
    List Cue → Task Stage Completion
  | [] => .done .succeeded
  | .mk onlyCall deed :: rest =>
    let following := followCues perform name call rest
    if onlyCall.all (· == call) then
      match deed with
      | .sleep ms => (Task.pause ms).bind fun _ => following
      | .fail message => .done (.failed message)
      | .panic message => .done (.panicked message)
      | .note message => (Task.change (Stage.note (.noted message))).bind fun _ => following
      | .use step => (perform step).bind fun reply =>
        (Task.change (Stage.note (.replied name reply))).bind fun _ => following
    else following

/-- A scripted handler that receives an envelope. -/
def Script.follow (perform : Step → Task Stage Reply) (number : Nat) (script : Script)
    (e : Envelope) : Task Stage Completion :=
  match script with
  | .mk name logsEnvelope cues =>
    (Task.act do
      modify (Stage.note (.delivered name (if logsEnvelope then some e else none)))
      Stage.countDelivery number).bind fun call => followCues perform name call cues

/-! ## Steps -/

namespace Rig

/-- The next identifier. -/
def freshId (rig : Rig) : StateM Stage Uuid :=
  fun s => (rig.identifier s.identifiers, { s with identifiers := s.identifiers + 1 })

/-- The identifiers of one submission. -/
def freshIds (rig : Rig) : StateM Stage FreshIds := do
  let record ← rig.freshId
  let correlation ← rig.freshId
  pure ⟨record, correlation⟩

/-- The ledger over the store of the stage. -/
def ledger (rig : Rig) : Ledger (StateM Stage) where
  store := (UnreliableMemory.store rig.now).within (·.store) fun store s => { s with store }
  limits := rig.limits

/-- A handler registered under a name; the options may leave its identifier open. -/
def register (rig : Rig) (name eventType : String) (options : SubscribeOptions)
    (handler : Handler) : StateM Stage Reply := do
  let generated ← rig.freshId
  match ← Stage.onRegistry (subscribe rig.settings generated eventType options handler) with
  | .ok handle => do
    modify (Stage.keep name handle)
    pure (.subscribed handle)
  | .error e => pure (.refused e)

/-- A scripted handler registered under its name. -/
def registerScript (rig : Rig) (script : Script) (eventType : String) (options : SubscribeOptions) :
    StateM Stage Reply := do
  let number := (← get).handlers
  modify fun s => { s with handlers := number + 1 }
  rig.register script.name eventType options (.scripted number script)

/-- The forwarder registered under the name `forwarder`. -/
def attachForwarder (rig : Rig) (b : Backoff) : StateM Stage Reply := do
  if (← get).present then
    rig.register "forwarder" wildcardType Forwarder.options (.forwarder b)
  else pure .dropped

/-- The dispatcher of the stage, whose handlers are run by `handle`. -/
def hostWith (rig : Rig) (handle : Handling Stage Handler) : Host Stage Handler where
  settings := rig.settings
  registry := (·.registry)
  defer d s := { s with deferred := s.deferred ++ [d] }
  handle := handle

/-- A publication from its beginning to its end. -/
def published (p : Publication) (task : Task Stage (Except DispatchError PublishResult)) :
    Task Stage Reply :=
  (Task.change (Stage.openPublication p)).bind fun _ =>
    task.bind fun r =>
      (Task.change (Stage.closePublication p)).bind fun _ => .done (.ofPublication r)

/-- One step of a dispatcher that is there; its handlers are run by `handle`, and a publication
counts as `p`. -/
def performPresent (rig : Rig) (p : Publication) (handle : Handling Stage Handler) :
    Step → Task Stage Reply
  | .subscribe script eventType options => .act (rig.registerScript script eventType options)
  | .unsubscribe (some id) => .act (.removed <$> Stage.onRegistry (Registry.unsubscribe id))
  | .unsubscribe none => .done (.faulty (.noText "id"))
  | .release name => .act (Stage.release name)
  | .publish eventType payload metadata options =>
    (Task.act rig.freshIds).bind fun fresh =>
      published p (EventLedger.publish (rig.hostWith handle) fresh.record fresh.correlation rig.now
        eventType payload metadata options)
  | .publishRaw e options => published p (EventLedger.publishRaw (rig.hostWith handle) e options)
  | .count eventType => Task.look.bind fun s => .done (.counted (s.registry.count eventType))
  | .clear => .act do
    Stage.onRegistry fun g => ((), g.clear)
    pure .cleared
  | .dispose => .act do
    Stage.onRegistry fun g => ((), g.dispose)
    pure (.disposed true)
  | .inspect => Task.look.bind fun s =>
    .done (.inspected s.registry.disposed s.registry.byType.length s.registry.wildcard.length)
  | .faulty fault => .done (.faulty fault)

/-- One step of the dispatcher; without one, handles alone can be used. A fault is found before the
dispatcher is asked for. -/
def performWith (rig : Rig) (p : Publication) (handle : Handling Stage Handler) :
    Step → Task Stage Reply
  | .release name => .act (Stage.release name)
  | .faulty fault => .done (.faulty fault)
  | step => Task.look.bind fun s =>
    if s.present then rig.performPresent p handle step else .done .dropped

/-- How deep deliveries may be nested in each other. -/
def nestingLimit : Nat := 1000

/-- A handler that receives an envelope in a delivery. Its own deliveries may be nested `depth`
deep; a deeper one never ends. When it begins, all publications of the handler before it are over.
-/
def handling (rig : Rig) (delivery : Nat) : (depth : Nat) → Handling Stage Handler
  | 0, _, _ => .never
  | depth + 1, handler, e =>
    (Task.change (Stage.closePublication ⟨delivery, depth⟩)).bind fun _ =>
      match handler with
      | .scripted number script =>
        script.follow (rig.performWith ⟨delivery, depth⟩ (rig.handling delivery depth)) number e
      | .forwarder b =>
        (Task.act rig.freshIds).bind fun fresh => Forwarder.handle rig.ledger b fresh rig.now e

/-- One step of the dispatcher. -/
def step (rig : Rig) : Step → Task Stage Reply :=
  rig.performWith ⟨0, nestingLimit⟩ (rig.handling 0 nestingLimit)

/-- A delivery in the background from its beginning to its end. -/
def deliveryTask (rig : Rig) (number : Nat) (d : Deferred Handler) : Task Stage Unit :=
  (d.task (rig.handling number nestingLimit)).bind fun _ =>
    Task.change (Stage.closePublication ⟨number, nestingLimit⟩)

/-- The deliveries put aside, as tasks that begin now. -/
def background (rig : Rig) : Background Stage := fun s =>
  (s.deferred.mapIdx fun i d => rig.deliveryTask (s.begun + i + 1) d,
    { s with deferred := [], begun := s.begun + s.deferred.length })

/-- How many turns and rounds the background may take between two moments of the foreground. -/
def turnLimit : Nat := 1000000

/-- A task performed on the stage, with the time it took; nothing if it never ends. -/
def perform {α : Type} (rig : Rig) (task : Task Stage α) (t : Timeline Stage) (s : Stage) :
    Option ((α × Nat) × Timeline Stage × Stage) :=
  (t.perform rig.background turnLimit task s).map fun (a, later, s) =>
    ((a, later.now - t.now), later, s)

end Rig

end EventLedger.Rehearsal
