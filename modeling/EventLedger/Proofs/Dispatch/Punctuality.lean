import EventLedger.Proofs.Dispatch.Deadlines
import EventLedger.Proofs.Dispatch.Isolation

/-!
# The time of a publication

Handlers are served one after the other, each under the time limit. A publication that is waited for
takes as long as they take together, and nothing of a handler happens behind its limit.

* `Visit`, `Punctual`: handlers served one after the other, with the instants of what they do;
* **`punctual_of_deliver`**: by recursion on the handlers;
* `Host.planned`, **`publication_keeps_time`**.
-/

namespace EventLedger

open EventLedger.Task

variable {σ η : Type}

/-- A handler that was invoked, with what it did, and its waits. -/
structure Visit (σ η : Type) where
  invocation : Invocation η
  /-- What it did to the state, with the instants. -/
  changes : List (Nat × (σ → σ))
  waits : List Nat

/-- Handlers served one after the other under a limit: each keeps to its plan, and the next one
begins at the instant, and with the budget, at which it ended or was cut off. -/
inductive Punctual (plan : η → Plan σ) (limit : Nat) :
    (start budget : Nat) → List (Visit σ η) → Prop
  | nobody (start budget : Nat) : Punctual plan limit start budget []
  | next {start budget : Nat} {v : Visit σ η} {others : List (Visit σ η)} :
    (plan v.invocation.registration.handler).Kept limit (roomAt limit budget) start
      v.invocation.outcome v.changes v.waits.sum →
    Punctual plan limit (start + v.waits.sum) (v.waits.foldl budgetBehind budget) others →
    Punctual plan limit start budget (v :: others)

/-- How long plans take under a limit, one after the other. -/
def timeOf (plan : η → Plan σ) (limit : Nat) (visits : List (Visit σ η)) : Nat :=
  (visits.map fun v => (plan v.invocation.registration.handler).timeUnder limit).sum

namespace Punctual

variable {plan : η → Plan σ} {limit start budget : Nat} {visits : List (Visit σ η)}

theorem sum_waits (h : Punctual plan limit start budget visits) :
    (visits.flatMap (·.waits)).sum = timeOf plan limit visits := by
  induction h with
  | nobody => rfl
  | next hkept _ ih =>
    rw [List.flatMap_cons, List.sum_append_nat, ih, hkept.time_eq]
    rfl

theorem timeOf_le (plan : η → Plan σ) (limit : Nat) (visits : List (Visit σ η)) :
    timeOf plan limit visits ≤ visits.length * limit := by
  induction visits with
  | nil => simp [timeOf]
  | cons v others ih =>
    have hv := (plan v.invocation.registration.handler).timeUnder_le limit
    simp only [timeOf, List.map_cons, List.sum_cons, List.length_cons, Nat.succ_mul] at ih ⊢
    omega

end Punctual

variable (plan : η → Envelope → Plan σ) (limit : Nat) (e : Envelope)

/-- Handlers that do what is written. -/
def planned : Handling σ η := fun h e => (plan h e).task

theorem heedless_deliver (handlers : List (Registration η)) :
    (deliver (planned plan) limit e handlers).Heedless := by
  induction handlers with
  | nil => exact heedless_done _
  | cons r rest ih =>
    have hinvoke : (invoke (planned plan) limit e r).Heedless :=
      ((plan r.handler e).heedless_within limit).bind fun _ => heedless_done _
    refine hinvoke.bind fun a => ?_
    by_cases h : (a.succeeded || r.continueOnError) = true
    · rw [if_pos h]
      exact ih.bind fun _ => heedless_done _
    · rw [if_neg h]
      exact heedless_done _

theorem chronicle_invoke (r : Registration η) (budget start : Nat) (s : σ) :
    ∃ v : Visit σ η, v.invocation.registration = r ∧
      (plan r.handler e).Kept limit (roomAt limit budget) start v.invocation.outcome v.changes
        v.waits.sum ∧
      (invoke (planned plan) limit e r).chronicleFrom budget [] start s =
        ⟨⟨some (v.invocation.attempt limit), Plan.stateBehind s v.changes, v.waits⟩,
          Plan.replay s v.changes⟩ := by
  obtain ⟨outcome, changes, waits, hwithin, hkept⟩ :=
    (plan r.handler e).chronicle_within limit budget start [] s
  exact ⟨⟨⟨r, outcome⟩, changes, waits⟩, rfl, hkept, chronicleFrom_bind_done _ hwithin⟩

/-- **Handlers are served one after the other**, as far as failing ones allow. -/
theorem punctual_of_deliver (handlers : List (Registration η)) (budget start : Nat) (s : σ) :
    ∃ visits : List (Visit σ η), Exhaustive handlers (visits.map (·.invocation)) ∧
      Punctual (plan · e) limit start budget visits ∧
      (deliver (planned plan) limit e handlers).chronicleFrom budget [] start s =
        ⟨⟨some (visits.map (·.invocation.attempt limit)),
          Plan.stateBehind s (visits.flatMap (·.changes)), visits.flatMap (·.waits)⟩,
          Plan.replay s (visits.flatMap (·.changes))⟩ := by
  induction handlers generalizing budget start s with
  | nil => exact ⟨[], .nobody, .nobody _ _, rfl⟩
  | cons r rest ih =>
    obtain ⟨v, rfl, hkept, hinvoke⟩ := chronicle_invoke plan limit e r budget start s
    have hheedless : ∀ a : Attempt, Heedless
        (if (a.succeeded || v.invocation.registration.continueOnError) = true then
          (deliver (planned plan) limit e rest).bind fun later => .done (a :: later)
        else .done [a]) := by
      intro a
      split
      · exact (heedless_deliver plan limit e rest).bind fun _ => heedless_done _
      · exact heedless_done _
    rw [deliver, chronicleFrom_bind_of_eq hheedless hinvoke, Invocation.goesOn_attempt]
    cases hstops : v.invocation.stops with
    | false =>
      obtain ⟨others, hexhaustive, hpunctual, hrest⟩ := ih (v.waits.foldl budgetBehind budget)
        (start + v.waits.sum) (Plan.stateBehind s v.changes)
      refine ⟨v :: others, hexhaustive.first hstops, .next hkept hpunctual, ?_⟩
      rw [if_pos (by decide), chronicleFrom_bind_done _ hrest, List.flatMap_cons, List.flatMap_cons,
        Plan.stateBehind_append, Plan.replay_append]
      rfl
    | true =>
      refine ⟨[v], .stopped hstops rest, .next hkept (.nobody _ _), ?_⟩
      rw [if_neg (by decide)]
      simp [chronicleFrom, Chronicle.after]

/-! ## Publications -/

section Publication

variable (host : Host σ η) (options : PublishOptions) {e : Envelope} {budget now : Nat}
  {alarms : List Alarm} {s mid : σ}

theorem chronicle_publishRaw_refused {refusal : DispatchError}
    (h : accept (host.registry s) e = .error refusal) :
    (publishRaw host e options).chronicleFrom budget alarms now s =
      ⟨⟨some (.error refusal), s, []⟩, [(now, s)]⟩ := by
  rw [publishRaw, chronicleFrom_look_bind, h]
  rfl

theorem chronicle_publishRaw {handlers : List (Registration η)} {attempts : List Attempt}
    {waits : List Nat} {changes : List (Nat × σ)}
    (haccepted : accept (host.registry s) e = .ok handlers)
    (hawaited : options.awaitHandlers = true)
    (hdeliver : (deliver host.handle (options.timeout.getD host.settings.handlerTimeout) e
      handlers).chronicleFrom budget alarms now s = ⟨⟨some attempts, mid, waits⟩, changes⟩) :
    (publishRaw host e options).chronicleFrom budget alarms now s =
      ⟨⟨some (.ok (.ofAttempts e.eventId attempts)), mid, waits⟩, (now, s) :: changes⟩ := by
  rw [publishRaw, chronicleFrom_look_bind, haccepted]
  dsimp only
  rw [if_pos hawaited, chronicleFrom_bind_done _ hdeliver]
  rfl

end Publication

/-- The host with handlers that do what is written. -/
def Host.planned (host : Host σ η) (plan : η → Envelope → Plan σ) : Host σ η :=
  { host with handle := EventLedger.planned plan }

/-- **A publication that is waited for keeps to the time limit of each handler.** Handlers are invoked
in order, as far as failing ones allow, the next one when the one before has ended or was cut off. A
handler is cut off exactly if it has not ended in time: if it never ends, if it takes longer than the
limit, or if it is to end at the very limit and comes to more waits of no time there than the turn has
room for. What it does in front of the limit happens at its instant, and what it would do behind the
limit does not. The whole takes as long as the handlers take under the limit, one after the other. -/
theorem publication_keeps_time (host : Host σ η) (plan : η → Envelope → Plan σ) (e : Envelope)
    (options : PublishOptions) (budget : Nat) (s : σ) :
    ∃ c : Chronicle σ (Except DispatchError PublishResult),
      (publishRaw (host.planned plan) e { options with awaitHandlers := true }).chronicleFrom
        budget [] 0 s = c ∧
      (publishRaw (host.planned plan) e { options with awaitHandlers := true }).runFrom
        budget [] s = c.toOutcome ∧
      match accept (host.registry s) e with
      | .error refusal => c = ⟨⟨some (.error refusal), s, []⟩, [(0, s)]⟩
      | .ok handlers =>
        ∃ visits : List (Visit σ η), Exhaustive handlers (visits.map (·.invocation)) ∧
          Punctual (plan · e) (options.timeout.getD host.settings.handlerTimeout) 0 budget visits ∧
          c.result = some (.ok (.ofAttempts e.eventId (visits.map fun v =>
            v.invocation.attempt (options.timeout.getD host.settings.handlerTimeout)))) ∧
          c.changes = (0, s) :: Plan.replay s (visits.flatMap (·.changes)) ∧
          c.waits = visits.flatMap (·.waits) ∧
          c.elapsed = timeOf (plan · e) (options.timeout.getD host.settings.handlerTimeout)
            visits ∧
          c.elapsed ≤ visits.length * options.timeout.getD host.settings.handlerTimeout := by
  refine ⟨_, rfl, (chronicleFrom_toOutcome _ _ _ 0 _).symm, ?_⟩
  split
  · rename_i refusal h
    exact chronicle_publishRaw_refused _ _ h
  · rename_i handlers h
    obtain ⟨visits, hexhaustive, hpunctual, hdeliver⟩ := punctual_of_deliver plan
      (options.timeout.getD host.settings.handlerTimeout) e handlers budget 0 s
    have hpublish := chronicle_publishRaw (host.planned plan)
      { options with awaitHandlers := true } h rfl hdeliver
    have helapsed := hpunctual.sum_waits
    rw [hpublish]
    refine ⟨visits, hexhaustive, hpunctual, rfl, rfl, rfl, helapsed, ?_⟩
    exact Nat.le_trans (Nat.le_of_eq helapsed) (Punctual.timeOf_le _ _ visits)

/-! ## At the very limit -/

/-- A handler that comes to a hundred and forty waits of no time and succeeds. -/
def Plan.restless : Plan Unit := ⟨List.replicate 140 (.wait 0), some .succeeded⟩

/-- A dispatcher with this handler. -/
def Host.ofRestless : Host Unit Unit where
  settings := .standard
  registry _ := (Registry.empty.register "order.paid" "restless" 100 true ()).2
  defer _ s := s
  handle _ _ := Plan.restless.task

/-- The event that it handles. -/
def Envelope.orderPaid : Envelope where
  eventId := ⟨1⟩
  eventType := "order.paid"
  timestamp := .epoch
  correlationId := "corr-1"
  causationId := none
  payload := .null
  metadata := ⟨"user-9", .user, "payment-service", none⟩

theorem deliver_single (handle : Handling σ η) (limit : Nat) (e : Envelope) (r : Registration η) :
    deliver handle limit e [r] = (invoke handle limit e r).bind fun a => .done [a] :=
  congrArg _ (funext fun _ => ite_self _)

/-- With no time at all, a handler that takes none is reported as timed out. -/
theorem restless_timed_out :
    Plan.restless.finish.ms = 0 ∧ Plan.restless.ending = some .succeeded ∧
      ((publishRaw Host.ofRestless .orderPaid { timeout := some 0 }).run ()).result =
        some (.ok ⟨⟨1⟩, 1, 0, [⟨"restless", "handler timed out after 0 ms", true⟩], true⟩) := by
  refine ⟨by decide, rfl, ?_⟩
  have haccept : accept (Host.ofRestless.registry ()) .orderPaid =
      .ok [⟨0, "restless", 100, true, ()⟩] := accept_of_pairwise rfl rfl (by decide)
  obtain ⟨⟨⟨r, outcome⟩, changes, waits⟩, rfl, hkept, hinvoke⟩ :=
    chronicle_invoke (fun _ _ => Plan.restless) 0 .orderPaid
      (⟨0, "restless", 100, true, ()⟩ : Registration Unit) turnBudget 0 ()
  -- the turn has room for 128 of the waits at the limit
  obtain rfl : outcome = none := hkept.cut_iff.mpr (.inr (.inr (by decide +kernel)))
  have hdeliver := chronicleFrom_bind_done (fun a => [a]) hinvoke
  rw [← deliver_single] at hdeliver
  have hrun := chronicleFrom_toOutcome
    (publishRaw Host.ofRestless .orderPaid { timeout := some 0 }) turnBudget [] 0 ()
  rw [chronicle_publishRaw Host.ofRestless { timeout := some 0 } haccept rfl hdeliver] at hrun
  rw [run, ← hrun]
  rfl

end EventLedger
