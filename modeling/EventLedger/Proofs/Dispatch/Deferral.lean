import EventLedger.Proofs.Audit.Recordable
import EventLedger.Proofs.Dispatch.Foreground
import EventLedger.Proofs.Dispatch.Punctuality

/-!
# Deliveries that nobody waits for

A publication that is not waited for promises a result at once and puts the delivery aside. Done
later, the delivery comes to what it would have come to at once, whatever has become of the registry
in the meantime. What handlers ask of the dispatcher themselves they ask later, though; and they have
a turn of their own, where a publisher that waits for them may have used up much of its turn before.

* `count_of_accept`: the handlers promised are those counted;
* `alike_deliver`, `unhurried_deliver`: a delivery does not depend on more than its handlers do;
* **`deferred_delivers_alike`**;
* `Porter`: handlers that do depend on more, and `linger`, a publisher whose turn they share;
* `failing_porter_stops_both`, `porters_tell_them_apart`.
-/

namespace EventLedger

open EventLedger.Task

variable {σ η ω : Type}

/-! ## What is promised -/

theorem ne_wildcardType_of_check {eventType : String} (h : checkEventType eventType = .ok ()) :
    eventType ≠ wildcardType := by
  rintro rfl
  exact absurd (dottedTag_of_check h) (by decide)

/-- **The handlers of an accepted event are those that are counted.** -/
theorem count_of_accept {g : Registry η} {e : Envelope} {handlers : List (Registration η)}
    (h : accept g e = .ok handlers) : g.count e.eventType = handlers.length := by
  unfold accept at h
  split at h
  · cases h
  · split at h
    · rename_i hchecked
      have htype := ne_wildcardType_of_check (Envelope.check_eq_ok_iff.mp hchecked).1
      rw [← Except.ok.inj h, Registry.count, if_neg htype, Registry.handlersFor,
        List.length_mergeSort, List.length_append]
    · cases h

theorem runFrom_publishRaw_refused {host : Host σ η} {options : PublishOptions} {e : Envelope}
    {s : σ} {refusal : DispatchError} (h : accept (host.registry s) e = .error refusal)
    (budget : Nat) :
    (publishRaw host e options).runFrom budget [] s = ⟨some (.error refusal), s, []⟩ := by
  rw [← chronicleFrom_toOutcome _ budget [] 0 s, chronicle_publishRaw_refused host options h]

theorem runFrom_publishRaw_deferred {host : Host σ η} {options : PublishOptions} {e : Envelope}
    {s : σ} {handlers : List (Registration η)} (h : accept (host.registry s) e = .ok handlers)
    (hdeferred : options.awaitHandlers = false) (budget : Nat) :
    (publishRaw host e options).runFrom budget [] s =
      ⟨some (.ok (.optimistic e.eventId handlers.length)),
        host.defer ⟨e, handlers, options.timeout.getD host.settings.handlerTimeout⟩ s, []⟩ := by
  rw [← chronicleFrom_toOutcome _ budget [] 0 s, publishRaw, chronicleFrom_look_bind, h]
  dsimp only
  rw [hdeferred, if_neg Bool.false_ne_true]
  rfl

/-! ## What is done later -/

section

variable {handle : Handling σ η} {e : Envelope} {limit : Nat} {handlers : List (Registration η)}

theorem alike_deliver {view : σ → ω} (limit : Nat)
    (h : ∀ r ∈ handlers, (handle r.handler e).ConfinedTo view) :
    (deliver handle limit e handlers).ConfinedTo view := by
  induction handlers with
  | nil => exact .done []
  | cons r rest ih =>
    have hinvoke : (invoke handle limit e r).ConfinedTo view :=
      ((h r List.mem_cons_self).withinFrom true limit).bind fun _ => .done _
    have hrest := ih fun q hq => h q (List.mem_cons_of_mem r hq)
    refine hinvoke.bind fun a => ?_
    split
    · exact hrest.bind fun _ => .done _
    · exact .done [a]

theorem unhurried_deliver (h : ∀ r ∈ handlers, ((handle r.handler e).within limit).Unhurried) :
    (deliver handle limit e handlers).Unhurried := by
  induction handlers with
  | nil => trivial
  | cons r rest ih =>
    have hinvoke : (invoke handle limit e r).Unhurried :=
      (h r List.mem_cons_self).bind fun _ => trivial
    have hrest := ih fun q hq => h q (List.mem_cons_of_mem r hq)
    refine hinvoke.bind fun a => ?_
    split
    · exact hrest.bind fun _ => trivial
    · trivial

theorem account_deliver {view : σ → ω} {s later : σ}
    (hconfined : ∀ r ∈ handlers, (handle r.handler e).ConfinedTo view) (hlater : view later = view s)
    {budget budget' : Nat} (hbudget : budget = budget' ∨
      ∀ r ∈ handlers, ((handle r.handler e).within limit).Unhurried) (now : Nat) :
    ((deliver handle limit e handlers).chronicleFrom budget' [] now later).account view =
      ((deliver handle limit e handlers).chronicleFrom budget [] now s).account view := by
  rw [(alike_deliver limit hconfined).account_eq hlater]
  rcases hbudget with rfl | hunhurried
  · rfl
  · exact (unhurried_deliver hunhurried).account_eq view _ _ _ _ now s

theorem exists_account_deliver (handle : Handling σ η) (limit : Nat) (e : Envelope)
    (handlers : List (Registration η)) (view : σ → ω) (budget now : Nat) (s : σ) :
    ∃ invocations seen changes elapsed, Exhaustive handlers invocations ∧
      ((deliver handle limit e handlers).chronicleFrom budget [] now s).account view =
        ⟨some (invocations.map (·.attempt limit)), seen, changes, elapsed⟩ := by
  obtain ⟨attempts, hresult⟩ :=
    exists_result_runFrom (stops_deliver handle limit e handlers) budget [] s
  have hends : (deliver handle limit e handlers).Ends Eq s attempts _ :=
    ends_of_runFrom (fun _ => rfl) hresult
  obtain ⟨invocations, hexhaustive, -, rfl⟩ := exhaustive_of_ends_deliver hends
  rw [← chronicleFrom_toOutcome _ _ _ now] at hresult
  exact ⟨invocations, _, _, _, hexhaustive, by rw [← hresult]; rfl⟩

end

theorem account_publishRaw {host : Host σ η} {options : PublishOptions} {e : Envelope}
    {view : σ → ω} {budget now elapsed : Nat} {alarms : List Alarm} {s : σ} {seen : ω}
    {changes : List (Nat × ω)} {handlers : List (Registration η)} {attempts : List Attempt}
    (haccepted : accept (host.registry s) e = .ok handlers)
    (hawaited : options.awaitHandlers = true)
    (hdeliver : ((deliver host.handle (options.timeout.getD host.settings.handlerTimeout) e
      handlers).chronicleFrom budget alarms now s).account view =
        ⟨some attempts, seen, changes, elapsed⟩) :
    ((publishRaw host e options).chronicleFrom budget alarms now s).account view =
      ⟨some (.ok (.ofAttempts e.eventId attempts)), seen, (now, view s) :: changes, elapsed⟩ := by
  rw [publishRaw, chronicleFrom_look_bind, haccepted]
  dsimp only
  rw [if_pos hawaited, Chronicle.account_after, account_bind_done _ hdeliver]
  simp [Account.after, shown]

theorem Publishing.task_awaiting (p : Publishing) (host : Host σ η) (options : PublishOptions)
    (awaited : Bool) : p.task host { options with awaitHandlers := awaited } =
      publishRaw host (p.delivered options) { options with awaitHandlers := awaited } := by
  cases p <;> rfl

/-- **A delivery that nobody waits for comes to what it would have come to at once.** It is refused in
the same cases. Otherwise the publisher is told at once that all handlers succeed, as many as are
counted for the type of the event, and the delivery is put aside. It may begin in any state `later`
that looks like the one at the publication, whatever the registry has become, as long as its handlers
depend on nothing but what is looked at. It begins a turn of its own, as a publication performed in the
foreground does. A publisher that waits in a turn with another `budget` left makes no difference as long
as no handler comes to a wait of no time just when its limit is used up. The same handlers are then
invoked in the same order, as far as failing ones allow, and what they do looks the same at the same
instants from the beginning of the delivery on. -/
theorem deferred_delivers_alike (host : Host σ η) (p : Publishing) (options : PublishOptions)
    (s : σ) :
    match accept (host.registry s) (p.delivered options) with
    | .error refusal => ∀ awaited budget,
      (p.task host { options with awaitHandlers := awaited }).runFrom budget [] s =
        ⟨some (.error refusal), s, []⟩
    | .ok handlers =>
      let e := p.delivered options
      let limit := options.timeout.getD host.settings.handlerTimeout
      let promised := (host.registry s).count e.eventType
      let d : Deferred η := ⟨e, handlers, limit⟩
      (∀ budget, (p.task host { options with awaitHandlers := false }).runFrom budget [] s =
        ⟨some (.ok ⟨e.eventId, promised, promised, [], false⟩), host.defer d s, []⟩) ∧
      ∀ {ω : Type} (view : σ → ω) (later : σ) (budget : Nat),
        (∀ r ∈ handlers, (host.handle r.handler e).ConfinedTo view) → view later = view s →
        (budget = turnBudget ∨
          ∀ r ∈ handlers, ((host.handle r.handler e).within limit).Unhurried) →
        ∃ invocations seen changes time, Exhaustive handlers invocations ∧
          ((p.task host { options with awaitHandlers := true }).chronicleFrom
            budget [] 0 s).account view =
              ⟨some (.ok (.ofAttempts e.eventId (invocations.map (·.attempt limit)))), seen,
                (0, view s) :: changes, time⟩ ∧
          ((deliver host.handle limit e handlers).chronicleFrom turnBudget [] 0 later).account view =
            ⟨some (invocations.map (·.attempt limit)), seen, changes, time⟩ ∧
          ((d.task host.handle).chronicleFrom turnBudget [] 0 later).account view =
            ⟨some (), seen, changes, time⟩ ∧
          (budget = turnBudget → ∀ background : Background σ, background.Idle → ∀ fuel now turns,
            ∃ last, (Timeline.quiet now turns).perform background (fuel + 1)
              (p.task host { options with awaitHandlers := true }) s =
                some (.ok (.ofAttempts e.eventId (invocations.map (·.attempt limit))),
                  .quiet (now + time) turns, last) ∧ view last = seen) := by
  rw [p.task_awaiting, p.task_awaiting]
  split
  · rename_i refusal hrefused
    intro awaited budget
    rw [p.task_awaiting, runFrom_publishRaw_refused hrefused]
  · rename_i handlers haccepted
    dsimp only
    rw [count_of_accept haccepted]
    refine ⟨runFrom_publishRaw_deferred haccepted rfl, ?_⟩
    intro ω view later budget hconfined hlater hbudget
    obtain ⟨invocations, seen, changes, time, hexhaustive, hatOnce⟩ := exists_account_deliver
      host.handle (options.timeout.getD host.settings.handlerTimeout) (p.delivered options) handlers
      view budget 0 s
    have hlater := (account_deliver hconfined hlater hbudget 0).trans hatOnce
    have hawaited : ((publishRaw host (p.delivered options)
        { options with awaitHandlers := true }).chronicleFrom budget [] 0 s).account view =
          ⟨_, seen, (0, view s) :: changes, time⟩ := account_publishRaw haccepted rfl hatOnce
    refine ⟨invocations, seen, changes, time, hexhaustive, hawaited, hlater,
      account_bind_done (fun _ => ()) hlater, ?_⟩
    rintro rfl background hidle fuel now turns
    exact Timeline.perform_of_account hidle hawaited fuel now turns

/-! ## Handlers that depend on more -/

/-- The handlers of an example. -/
inductive Porter where
  /-- It takes five milliseconds, writes a number down and ends in some way. -/
  | noting (n : Nat) (c : Completion)
  /-- It writes down how many handlers the dispatcher counts. -/
  | asking
  /-- It comes to two waits of no time. -/
  | dawdling

namespace Porter

/-- A registry, the deliveries that were put aside, and the numbers written down. -/
structure Lodge where
  registry : Registry Porter
  deferred : List (Deferred Porter)
  log : List Nat

/-- A number written down in the log. -/
def write (n : Lodge → Nat) : Task Lodge Unit := .change fun l => { l with log := l.log ++ [n l] }

/-- What porters do with an event. -/
def handle : Handling Lodge Porter
  | noting n c, _ => (Task.pause 5).bind fun _ => (write fun _ => n).bind fun _ => .done c
  | asking, e => (write fun l => l.registry.count e.eventType).bind fun _ => .done .succeeded
  | dawdling, _ => (Task.pause 0).bind fun _ => (Task.pause 0).bind fun _ => .done .succeeded

/-- The dispatcher of the lodge. -/
def host : Host Lodge Porter where
  settings := .standard
  registry := (·.registry)
  defer d l := { l with deferred := l.deferred ++ [d] }
  handle := handle

/-- The registrations of porters, none of which may be passed over when it fails. -/
def enrolled (porters : List Porter) : List (Registration Porter) :=
  porters.zipIdx.map fun (p, n) => ⟨n, "porter", 100, false, p⟩

/-- The lodge whose porters wait for paid orders. -/
def lodge (porters : List Porter) : Lodge :=
  ⟨⟨[("order.paid", enrolled porters)], [], porters.length, false⟩, [], []⟩

/-- The lodge in which the dispatcher has been disposed. -/
def closed (l : Lodge) : Lodge := { l with registry := l.registry.dispose }

theorem confinedTo_log (n : Nat) (c : Completion) (e : Envelope) :
    (handle (noting n c) e).ConfinedTo (·.log) :=
  .wait _ _ fun _ => .step (fun _ _ hlog => congrArg (· ++ [n]) hlog) fun _ _ _ => .done c

theorem unhurried_noting (n : Nat) (c : Completion) (e : Envelope) (limit : Nat) :
    ((handle (noting n c) e).within limit).Unhurried := by
  have hbrisk : (handle (noting n c) e).Brisk limit :=
    And.intro rfl ⟨fun _ => by decide, fun _ _ => trivial⟩
  exact hbrisk.unhurried true

/-- Three porters, of which the second one fails. -/
def crew : List Porter := [noting 1 .succeeded, noting 2 (.failed "no"), noting 3 .succeeded]

/-- The delivery of a paid order to porters. -/
def delivery (limit : Nat) (porters : List Porter) : Deferred Porter :=
  ⟨.orderPaid, enrolled porters, limit⟩

end Porter

open Porter

/-- The third porter is not invoked, neither at once nor when the dispatcher has been disposed. -/
theorem failing_porter_stops_both :
    (publishRaw host .orderPaid { awaitHandlers := false }).run (lodge crew) =
      ⟨some (.ok ⟨⟨1⟩, 3, 3, [], false⟩), { lodge crew with deferred := [delivery 30000 crew] }, []⟩ ∧
    ((publishRaw host .orderPaid {}).chronicleFrom 1 [] 0 (lodge crew)).account (·.log) =
      ⟨some (.ok ⟨⟨1⟩, 2, 1, [⟨"porter", "no", false⟩], true⟩), [1, 2],
        [(0, []), (5, [1]), (10, [1, 2])], 10⟩ ∧
    (((delivery 30000 crew).task handle).chronicleFrom turnBudget [] 0 (closed (lodge crew))).account
      (·.log) = ⟨some (), [1, 2], [(5, [1]), (10, [1, 2])], 10⟩ := by
  have haccepted : accept (lodge crew).registry .orderPaid = .ok (enrolled crew) :=
    accept_of_pairwise rfl rfl (by decide)
  have hatOnce : ((publishRaw host .orderPaid {}).chronicleFrom 1 [] 0 (lodge crew)).account
      (·.log) = _ :=
    account_publishRaw haccepted rfl (by decide +kernel : Chronicle.account (·.log)
      ((deliver handle 30000 .orderPaid (enrolled crew)).chronicleFrom 1 [] 0 (lodge crew)) =
        ⟨some [⟨"porter", none⟩, ⟨"porter", some (.failed "no")⟩], [1, 2],
          [(5, [1]), (10, [1, 2])], 10⟩)
  have hporter : ∀ r ∈ enrolled crew, ∃ n c, r.handler = noting n c := by
    simp [enrolled, crew]
  have hconfined : ∀ r ∈ enrolled crew, (handle r.handler .orderPaid).ConfinedTo (·.log) := by
    intro r hr
    obtain ⟨n, c, h⟩ := hporter r hr
    exact h ▸ confinedTo_log n c .orderPaid
  have hunhurried : ∀ r ∈ enrolled crew,
      ((handle r.handler .orderPaid).within 30000).Unhurried := by
    intro r hr
    obtain ⟨n, c, h⟩ := hporter r hr
    exact h ▸ unhurried_noting n c .orderPaid 30000
  have h := deferred_delivers_alike host (.envelope .orderPaid) {} (lodge crew)
  split at h
  · rename_i hrefused
    cases haccepted.symm.trans hrefused
  · rename_i hhandlers
    cases haccepted.symm.trans hhandlers
    obtain ⟨hpromised, hlike⟩ := h
    obtain ⟨_, _, _, _, -, hawaited, -, htask, -⟩ := hlike (·.log) (closed (lodge crew)) 1 hconfined rfl
      (.inr hunhurried)
    refine ⟨hpromised turnBudget, hatOnce, ?_⟩
    obtain ⟨-, rfl, hchanges, rfl⟩ := Account.mk.inj (hatOnce.symm.trans hawaited)
    cases hchanges
    exact htask

/-- A publisher that has come to some waits of no time in its turn. -/
def linger : Nat → Task Lodge Unit
  | 0 => .done ()
  | n + 1 => (Task.pause 0).bind fun _ => linger n

theorem account_linger_bind {α : Type} (n : Nat) (f : Unit → Task Lodge α) (view : Lodge → ω)
    (budget now : Nat) (l : Lodge) :
    (((linger n).bind f).chronicleFrom (n + budget) [] now l).account view =
      ((f ()).chronicleFrom budget [] now l).account view := by
  induction n with
  | zero => rw [Nat.zero_add]; rfl
  | succ n ih =>
    have hstep : ((linger (n + 1)).bind f).chronicleFrom (n + 1 + budget) [] now l =
        (((linger n).bind f).chronicleFrom (n + budget) [] now l).after [0] [] := by
      have hroom : n + 1 + budget = n + budget + 1 := Nat.add_right_comm n 1 budget
      rw [hroom]
      rfl
    rw [hstep, Chronicle.account_after, ih]
    exact Account.after_zero _

/-- A porter that asks how many handlers there are is told something else later; and one that comes to
waits of no time at its limit is cut off, with the next one behind it, where the publisher has lingered
in its turn, and not in a turn of its own. -/
theorem porters_tell_them_apart :
    (((publishRaw host .orderPaid {}).chronicleFrom turnBudget [] 0 (lodge [asking])).account
        (·.log) = ⟨some (.ok ⟨⟨1⟩, 1, 1, [], true⟩), [1], [(0, []), (0, [1])], 0⟩ ∧
      (publishRaw host .orderPaid { awaitHandlers := false }).run (lodge [asking]) =
        ⟨some (.ok ⟨⟨1⟩, 1, 1, [], false⟩),
          { lodge [asking] with deferred := [delivery 30000 [asking]] }, []⟩ ∧
      (((delivery 30000 [asking]).task handle).chronicleFrom turnBudget [] 0
        (closed (lodge [asking]))).account (·.log) = ⟨some (), [0], [(0, [0])], 0⟩) ∧
    (((linger 127).bind fun _ => publishRaw host .orderPaid { timeout := some 0 }).chronicleFrom
        turnBudget [] 0 (lodge [dawdling, asking])).account (·.log) =
      ⟨some (.ok (.ofAttempts ⟨1⟩ [⟨"porter", some (.timedOut 0)⟩])), [], [(0, [])], 0⟩ ∧
    (((delivery 0 [dawdling, asking]).task handle).chronicleFrom turnBudget [] 0
      (lodge [dawdling, asking])).account (·.log) = ⟨some (), [2], [(0, [2])], 0⟩ := by
  have haccepted : accept (lodge [asking]).registry .orderPaid = .ok (enrolled [asking]) :=
    accept_of_pairwise rfl rfl (by decide)
  have haccepted' : accept (lodge [dawdling, asking]).registry .orderPaid =
      .ok (enrolled [dawdling, asking]) := accept_of_pairwise rfl rfl (by decide)
  have hpromised : (publishRaw host .orderPaid { awaitHandlers := false }).runFrom turnBudget []
      (lodge [asking]) = _ := runFrom_publishRaw_deferred haccepted rfl turnBudget
  have hasked : ((publishRaw host .orderPaid {}).chronicleFrom turnBudget [] 0
      (lodge [asking])).account (·.log) = ⟨some (.ok (.ofAttempts ⟨1⟩ [⟨"porter", none⟩])), [1],
        [(0, []), (0, [1])], 0⟩ := account_publishRaw haccepted rfl (by decide +kernel)
  refine ⟨⟨hasked, hpromised, by decide +kernel⟩, ?_, by decide +kernel⟩
  exact (account_linger_bind 127 _ (·.log) 1 0 _).trans
    (account_publishRaw haccepted' rfl (by decide +kernel))

end EventLedger
