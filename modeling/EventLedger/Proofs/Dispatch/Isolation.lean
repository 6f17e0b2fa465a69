import EventLedger.Proofs.Dispatch.Delivered
import EventLedger.Proofs.Dispatch.Serving

/-!
# Failing handlers and the others

A publication that is waited for is refused, or it has a result whatever the handlers do. A failing
handler keeps nobody else from being served, unless its registration says so.

* `Invocation`, `Invoked`: a handler with its end, and handlers invoked one after the other;
* `Exhaustive`: as many handlers were invoked as failing ones allow;
* **`exhaustive_of_ends_deliver`**: by recursion on the handlers;
* `PublishResult.Reports`: what the publisher is told about them;
* `ComesTo`, **`publication_isolates_failures`**.
-/

namespace EventLedger

open EventLedger.Task

variable {σ η : Type}

/-! ## Invocations -/

/-- A handler that was invoked, and how it ended; nothing if its time limit cut it off. -/
structure Invocation (η : Type) where
  registration : Registration η
  outcome : Option Completion

namespace Invocation

/-- The handler failed, panicked or took too long. -/
def failed (i : Invocation η) : Bool := i.outcome != some .succeeded

/-- Delivery ends here: the handler failed and is not to be passed over. -/
def stops (i : Invocation η) : Bool := i.failed && !i.registration.continueOnError

/-- What delivery notes about it. -/
def attempt (limit : Nat) (i : Invocation η) : Attempt :=
  ⟨i.registration.subscriptionId, faultOf limit i.outcome⟩

theorem succeeded_attempt (limit : Nat) (i : Invocation η) :
    (i.attempt limit).succeeded = !i.failed := by
  rcases i with ⟨r, _ | _ | _ | _⟩ <;> rfl

theorem goesOn_attempt (limit : Nat) (i : Invocation η) :
    ((i.attempt limit).succeeded || i.registration.continueOnError) = !i.stops := by
  rw [succeeded_attempt, stops, Bool.not_and, Bool.not_not]

end Invocation

/-- Handlers invoked one after the other, each within the time limit and with others at work. -/
inductive Invoked (rely : σ → σ → Prop) (handle : Handling σ η) (limit : Nat) (e : Envelope) :
    σ → List (Invocation η) → σ → Prop
  | nobody (s : σ) : Invoked rely handle limit e s [] s
  | first {i : Invocation η} {s mid later : σ} {others : List (Invocation η)} :
    ((handle i.registration.handler e).within limit).Ends rely s i.outcome mid →
    Invoked rely handle limit e mid others later →
    Invoked rely handle limit e s (i :: others) later

/-! ## As many as possible -/

/-- No handler stops delivery except, possibly, the last one. -/
def Unstopped (invocations : List (Invocation η)) : Prop :=
  ∀ i ∈ invocations.dropLast, i.stops = false

/-- The handlers invoked are the first ones, as many as possible without passing over one that stops
delivery. -/
structure Exhaustive (handlers : List (Registration η)) (invocations : List (Invocation η)) :
    Prop where
  inOrder : invocations.map (·.registration) <+: handlers
  unstopped : Unstopped invocations
  longest : ∀ more, (invocations ++ more).map (·.registration) <+: handlers →
    Unstopped (invocations ++ more) → more = []

theorem unstopped_cons {i : Invocation η} {others : List (Invocation η)} :
    Unstopped (i :: others) ↔ others = [] ∨ (i.stops = false ∧ Unstopped others) := by
  cases others with
  | nil => exact ⟨fun _ => Or.inl rfl, fun _ j hj => absurd hj List.not_mem_nil⟩
  | cons j rest =>
    rw [Unstopped, List.dropLast_cons_of_ne_nil (List.cons_ne_nil j rest), List.forall_mem_cons]
    exact ⟨Or.inr, fun h => h.resolve_left (List.cons_ne_nil j rest)⟩

namespace Exhaustive

theorem nobody : Exhaustive ([] : List (Registration η)) [] where
  inOrder := List.prefix_rfl
  unstopped := fun _ h => absurd h List.not_mem_nil
  longest _ h _ := List.map_eq_nil_iff.mp (List.prefix_nil.mp h)

theorem stopped {i : Invocation η} (hi : i.stops = true) (rest : List (Registration η)) :
    Exhaustive (i.registration :: rest) [i] where
  inOrder := ⟨rest, rfl⟩
  unstopped := unstopped_cons.mpr (Or.inl rfl)
  longest more _ hu := by
    rcases unstopped_cons.mp hu with h | ⟨h, -⟩
    · exact h
    · rw [hi] at h
      cases h

theorem first {i : Invocation η} (hi : i.stops = false) {rest : List (Registration η)}
    {others : List (Invocation η)} (h : Exhaustive rest others) :
    Exhaustive (i.registration :: rest) (i :: others) where
  inOrder := (List.prefix_cons_inj _).mpr h.inOrder
  unstopped := unstopped_cons.mpr (Or.inr ⟨hi, h.unstopped⟩)
  longest more hp hu := by
    rcases unstopped_cons.mp hu with h1 | ⟨-, h1⟩
    · exact (List.append_eq_nil_iff.mp h1).2
    · exact h.longest more ((List.prefix_cons_inj _).mp hp) h1

end Exhaustive

variable {rely : σ → σ → Prop} {handle : Handling σ η} {limit : Nat} {e : Envelope}

theorem invocation_of_ends {r : Registration η} {s later : σ} {a : Attempt}
    (h : (invoke handle limit e r).Ends rely s a later) :
    ∃ i : Invocation η, i.registration = r ∧
      ((handle r.handler e).within limit).Ends rely s i.outcome later ∧ a = i.attempt limit := by
  obtain ⟨outcome, h1, rfl⟩ := ends_invoke h
  exact ⟨⟨r, outcome⟩, rfl, h1, rfl⟩

/-- **A delivery goes as far as failing handlers allow**, and notes what it did. -/
theorem exhaustive_of_ends_deliver {handlers : List (Registration η)} {s later : σ}
    {attempts : List Attempt}
    (h : (deliver handle limit e handlers).Ends rely s attempts later) :
    ∃ invocations, Exhaustive handlers invocations ∧
      Invoked rely handle limit e s invocations later ∧
      attempts = invocations.map (·.attempt limit) := by
  induction handlers generalizing s attempts with
  | nil =>
    obtain ⟨rfl, rfl⟩ := ends_done h
    exact ⟨[], .nobody, .nobody _, rfl⟩
  | cons r rest ih =>
    obtain ⟨a, mid, h1, h2⟩ := ends_bind h
    obtain ⟨i, rfl, h3, rfl⟩ := invocation_of_ends h1
    -- the attempt and the flag of the registration decide together, which is what `stops` says
    rw [Invocation.goesOn_attempt] at h2
    cases hi : i.stops with
    | false =>
      rw [hi, if_pos (by decide)] at h2
      obtain ⟨noted, last, h5, h6⟩ := ends_bind h2
      obtain ⟨rfl, rfl⟩ := ends_done h6
      obtain ⟨others, h7, h8, rfl⟩ := ih h5
      exact ⟨i :: others, h7.first hi, .first h3 h8, rfl⟩
    | true =>
      rw [hi, if_neg (by decide)] at h2
      obtain ⟨rfl, rfl⟩ := ends_done h2
      exact ⟨[i], .stopped hi rest, .first h3 (.nobody _), rfl⟩

/-! ## The result -/

/-- A result tells of these invocations. -/
structure PublishResult.Reports (result : PublishResult) (eventId : Uuid)
    (invocations : List (Invocation η)) : Prop where
  eventId : result.eventId = eventId
  awaited : result.awaited = true
  invoked : result.handlersInvoked = invocations.length
  /-- The failing handlers in order, with the timeouts among them. -/
  failures : result.errors.map (fun f => (f.subscriptionId, f.timedOut)) =
    (invocations.filter (·.failed)).map fun i => (i.registration.subscriptionId, i.outcome.isNone)
  counted : result.handlersInvoked = result.handlersSucceeded + result.errors.length

theorem failures_attempts (limit : Nat) (invocations : List (Invocation η)) :
    ((invocations.map (·.attempt limit)).filterMap Attempt.failure?).map
        (fun f => (f.subscriptionId, f.timedOut)) =
      (invocations.filter (·.failed)).map
        fun i => (i.registration.subscriptionId, i.outcome.isNone) := by
  induction invocations with
  | nil => rfl
  | cons i others ih =>
    rcases i with ⟨r, _ | _ | _ | _⟩
    case some.succeeded => exact ih
    all_goals exact congrArg (_ :: ·) ih

theorem length_attempts (attempts : List Attempt) :
    attempts.length =
      attempts.countP Attempt.succeeded + (attempts.filterMap Attempt.failure?).length := by
  rw [List.length_filterMap_eq_countP, List.length_eq_countP_add_countP Attempt.succeeded]
  refine congrArg (_ + ·) (List.countP_congr fun a _ => ?_)
  rcases a with ⟨id, _ | fault⟩ <;> simp [Attempt.succeeded, Attempt.failure?]

theorem reports_ofAttempts (eventId : Uuid) (limit : Nat) (invocations : List (Invocation η)) :
    (PublishResult.ofAttempts eventId (invocations.map (·.attempt limit))).Reports eventId
      invocations where
  eventId := rfl
  awaited := rfl
  invoked := List.length_map _
  failures := failures_attempts limit invocations
  counted := length_attempts _

/-! ## Publications -/

/-- What a publication comes to that is waited for: an answer and a state. -/
inductive ComesTo (host : Host σ η) (rely : σ → σ → Prop) (limit : Nat) (e : Envelope) (s : σ) :
    Except DispatchError PublishResult → σ → Prop
  /-- It is refused, and the state is as it was. -/
  | disposed : (host.registry s).disposed = true → ComesTo host rely limit e s (.error .disposed) s
  | rejected {r : Rejection} : (host.registry s).disposed = false → e.check = .error r →
    ComesTo host rely limit e s (.error (.rejected r)) s
  | delivered {handlers : List (Registration η)} {invocations : List (Invocation η)}
    {result : PublishResult} {later : σ} : (host.registry s).disposed = false → e.check = .ok () →
    (host.registry s).Serves e.eventType handlers → Exhaustive handlers invocations →
    Invoked rely host.handle limit e s invocations later → result.Reports e.eventId invocations →
    ComesTo host rely limit e s (.ok result) later

theorem ComesTo.refused_iff {host : Host σ η} {s later : σ}
    {answer : Except DispatchError PublishResult} (h : ComesTo host rely limit e s answer later) :
    (∃ refusal, answer = .error refusal) ↔
      (host.registry s).disposed = true ∨ ∃ r, e.check = .error r := by
  cases h with
  | disposed h1 => exact ⟨fun _ => Or.inl h1, fun _ => ⟨_, rfl⟩⟩
  | rejected _ h1 => exact ⟨fun _ => Or.inr ⟨_, h1⟩, fun _ => ⟨_, rfl⟩⟩
  | delivered h1 h2 =>
    rw [h1, h2]
    constructor
    · rintro ⟨_, h⟩
      cases h
    · rintro (h | ⟨_, h⟩) <;> cases h

theorem comesTo_of_ends {host : Host σ η} {options : PublishOptions}
    (hawaited : options.awaitHandlers = true) {s later : σ}
    {answer : Except DispatchError PublishResult}
    (h : (publishRaw host e options).Ends rely s answer later) :
    ComesTo host rely (options.timeout.getD host.settings.handlerTimeout) e s answer later := by
  cases hd : (host.registry s).disposed with
  | true =>
    have h1 : accept (host.registry s) e = .error .disposed := by rw [accept, if_pos hd]
    obtain ⟨rfl, rfl⟩ := ends_publishRaw_refused h1 h
    exact .disposed hd
  | false =>
    cases hc : e.check with
    | error r =>
      have h1 : accept (host.registry s) e = .error (.rejected r) := by
        rw [accept, hd, if_neg Bool.false_ne_true, hc]
      obtain ⟨rfl, rfl⟩ := ends_publishRaw_refused h1 h
      exact .rejected hd hc
    | ok =>
      have h1 : accept (host.registry s) e = .ok ((host.registry s).handlersFor e.eventType) := by
        rw [accept, hd, if_neg Bool.false_ne_true, hc]
      obtain ⟨attempts, rfl, h2⟩ := ends_publishRaw h1 hawaited h
      obtain ⟨invocations, h3, h4, rfl⟩ := exhaustive_of_ends_deliver h2
      exact .delivered hd hc (Registry.serves_handlersFor _ _) h3 h4 (reports_ofAttempts _ _ _)

/-- **A publication that is waited for is refused without an effect, or it has a result whatever the
handlers do.** It is refused exactly if the dispatcher is disposed or the envelope is not valid.
Otherwise handlers are served in order, as many as failing ones allow, and the result tells of
them. A publication ends, whatever else is at work while its handlers wait. -/
theorem publication_isolates_failures (host : Host σ η) (rely : σ → σ → Prop) (p : Publishing)
    (options : PublishOptions) (s : σ) :
    (∃ answer, ((p.task host { options with awaitHandlers := true }).run s).result = some answer ∧
      (p.task host { options with awaitHandlers := true }).Ends Eq s answer
        ((p.task host { options with awaitHandlers := true }).run s).state) ∧
    ∀ answer later, (p.task host { options with awaitHandlers := true }).Ends rely s answer later →
      ComesTo host rely (options.timeout.getD host.settings.handlerTimeout) (p.delivered options) s
        answer later ∧
      ((∃ refusal, answer = .error refusal) ↔
        (host.registry s).disposed = true ∨ ∃ r, (p.delivered options).check = .error r) := by
  have h1 : p.delivered { options with awaitHandlers := true } = p.delivered options := by
    cases p <;> rfl
  rw [p.task_eq, h1]
  constructor
  · obtain ⟨answer, h⟩ := exists_result_run (stops_publishRaw host (p.delivered options) _) s
    exact ⟨answer, h, ends_of_run (fun _ => rfl) h⟩
  · intro answer later h
    have h2 := comesTo_of_ends rfl h
    exact ⟨h2, h2.refused_iff⟩

end EventLedger
