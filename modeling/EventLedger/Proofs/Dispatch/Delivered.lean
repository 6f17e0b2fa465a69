import EventLedger.Dispatch.Dispatcher
import EventLedger.Proofs.Dispatch.Endings

/-!
# What a delivery brings about

Handlers are served one after the other, and each is cut off at its time limit. What one of them
brings about and no other undoes is there at the end, unless delivery was stopped before it.

* `keeps_deliver`, `stops_deliver`: a delivery keeps to what its handlers keep to, and ends;
* `StoppedBefore`: a failing handler has stopped delivery in front of another one;
* **`deliver_establishes`**;
* `Publishing`: an event or an envelope to publish.
-/

namespace EventLedger

open EventLedger.Task

variable {σ η : Type} {rely : σ → σ → Prop} {handle : Handling σ η} {e : Envelope}

theorem keeps_invoke (limit : Nat) {r : Registration η} (hk : (handle r.handler e).Keeps rely) :
    (invoke handle limit e r).Keeps rely := (hk.withinFrom true limit).bind fun _ => trivial

theorem stops_invoke (handle : Handling σ η) (limit : Nat) (e : Envelope) (r : Registration η) :
    (invoke handle limit e r).Stops := (stops_withinFrom _ true limit).bind fun _ => trivial

theorem keeps_deliver (limit : Nat) {handlers : List (Registration η)}
    (hk : ∀ r ∈ handlers, (handle r.handler e).Keeps rely) :
    (deliver handle limit e handlers).Keeps rely := by
  induction handlers with
  | nil => trivial
  | cons r rest ih =>
    refine (keeps_invoke limit (hk r List.mem_cons_self)).bind fun a => ?_
    by_cases h : (a.succeeded || r.continueOnError) = true
    · rw [if_pos h]
      exact (ih fun q hq => hk q (List.mem_cons_of_mem r hq)).bind fun _ => trivial
    · rw [if_neg h]
      trivial

theorem stops_deliver (handle : Handling σ η) (limit : Nat) (e : Envelope)
    (handlers : List (Registration η)) : (deliver handle limit e handlers).Stops := by
  induction handlers with
  | nil => trivial
  | cons r rest ih =>
    refine (stops_invoke handle limit e r).bind fun a => ?_
    by_cases h : (a.succeeded || r.continueOnError) = true
    · rw [if_pos h]
      exact ih.bind fun _ => trivial
    · rw [if_neg h]
      trivial

/-- The last attempt was one at a handler in front of `r`; it failed, and delivery was not to go on
behind it. -/
def StoppedBefore (r : Registration η) (handlers : List (Registration η))
    (attempts : List Attempt) : Prop :=
  ∃ served blocker rest earlier a, handlers = served ++ blocker :: rest ∧ r ∈ rest ∧
    attempts = earlier ++ [a] ∧ earlier.length = served.length ∧
    blocker.continueOnError = false ∧ a.subscriptionId = blocker.subscriptionId ∧
    a.succeeded = false

theorem StoppedBefore.cons {r : Registration η} {handlers : List (Registration η)}
    {attempts : List Attempt} (h : StoppedBefore r handlers attempts) (q : Registration η)
    (b : Attempt) : StoppedBefore r (q :: handlers) (b :: attempts) := by
  obtain ⟨served, blocker, rest, earlier, a, h1, h2, h3, h4, h5⟩ := h
  refine ⟨q :: served, blocker, rest, b :: earlier, a, ?_, h2, ?_, congrArg (· + 1) h4, h5⟩
  · rw [h1, List.cons_append]
  · rw [h3, List.cons_append]

theorem ends_invoke {limit : Nat} {r : Registration η} {s later : σ} {a : Attempt}
    (h : (invoke handle limit e r).Ends rely s a later) :
    ∃ outcome, ((handle r.handler e).within limit).Ends rely s outcome later ∧
      a = ⟨r.subscriptionId, faultOf limit outcome⟩ := by
  obtain ⟨outcome, mid, h1, h2⟩ := ends_bind h
  obtain ⟨rfl, rfl⟩ := ends_done h2
  exact ⟨outcome, h1, rfl⟩

theorem subscriptionId_of_ends_invoke {limit : Nat} {r : Registration η} {s later : σ} {a : Attempt}
    (h : (invoke handle limit e r).Ends rely s a later) : a.subscriptionId = r.subscriptionId := by
  obtain ⟨outcome, -, rfl⟩ := ends_invoke h
  rfl

/-- **What a handler brings about and nobody undoes** is there when the delivery ends, unless it was
stopped before that handler. -/
theorem deliver_establishes {P : σ → Prop} (hr : ∀ s, rely s s)
    (ht : ∀ {s mid later}, rely s mid → rely mid later → rely s later)
    (hP : ∀ {s later}, P s → rely s later → P later) {limit : Nat} {r : Registration η}
    (hinvoke : ∀ {s a later}, (invoke handle limit e r).Ends rely s a later → P later)
    {handlers : List (Registration η)} (hk : ∀ q ∈ handlers, (handle q.handler e).Keeps rely)
    (hmem : r ∈ handlers) {s later : σ} {attempts : List Attempt}
    (h : (deliver handle limit e handlers).Ends rely s attempts later) :
    P later ∨ StoppedBefore r handlers attempts := by
  induction handlers generalizing s attempts with
  | nil => exact absurd hmem List.not_mem_nil
  | cons q rest ih =>
    have hrest : ∀ p ∈ rest, (handle p.handler e).Keeps rely :=
      fun p hp => hk p (List.mem_cons_of_mem q hp)
    obtain ⟨a, mid, h1, h2⟩ := ends_bind h
    by_cases hgo : (a.succeeded || q.continueOnError) = true
    · rw [if_pos hgo] at h2
      obtain ⟨attempts', last, h3, h4⟩ := ends_bind h2
      obtain ⟨rfl, rfl⟩ := ends_done h4
      rcases List.mem_cons.mp hmem with rfl | hm
      · exact Or.inl (hP (hinvoke h1) (h3.kept hr ht (keeps_deliver limit hrest)))
      · exact (ih hrest hm h3).imp id fun h5 => h5.cons q a
    · rw [if_neg hgo] at h2
      obtain ⟨rfl, rfl⟩ := ends_done h2
      rcases List.mem_cons.mp hmem with rfl | hm
      · exact Or.inl (hinvoke h1)
      · have h3 := Bool.or_eq_false_iff.mp (Bool.not_eq_true _ ▸ hgo)
        exact Or.inr ⟨[], q, rest, [], a, rfl, hm, rfl, rfl, h3.2,
          subscriptionId_of_ends_invoke h1, h3.1⟩

/-! ## Publications -/

theorem stops_publishRaw (host : Host σ η) (e : Envelope) (options : PublishOptions) :
    (publishRaw host e options).Stops := by
  have h1 : (look : Task σ σ).Stops := fun _ => trivial
  refine h1.bind fun s => ?_
  cases accept (host.registry s) e with
  | error refusal => trivial
  | ok handlers =>
    dsimp only
    by_cases h : options.awaitHandlers = true
    · rw [if_pos h]
      exact (stops_deliver _ _ _ _).bind fun _ => trivial
    · rw [if_neg h]
      exact fun _ => trivial

theorem mem_of_accept {g : Registry η} {handlers : List (Registration η)}
    (h : accept g e = .ok handlers) {r : Registration η} (hr : r ∈ g.wildcard) : r ∈ handlers := by
  unfold accept at h
  split at h
  · cases h
  · split at h
    · rw [← Except.ok.inj h]
      exact List.mem_mergeSort.mpr (List.mem_append_right _ hr)
    · cases h

theorem accept_of_pairwise {g : Registry η} {e : Envelope} (hd : g.disposed = false)
    (hc : e.check = .ok ())
    (ho : (g.specific e.eventType ++ g.wildcard).Pairwise fun a b => Registry.servedBefore a b) :
    accept g e = .ok (g.specific e.eventType ++ g.wildcard) := by
  rw [accept, hd, if_neg Bool.false_ne_true, hc, Registry.handlersFor, List.mergeSort_of_pairwise ho]

theorem ends_publishRaw {host : Host σ η} {options : PublishOptions} {s later : σ}
    {handlers : List (Registration η)} {answer : Except DispatchError PublishResult}
    (haccepted : accept (host.registry s) e = .ok handlers)
    (hawaited : options.awaitHandlers = true)
    (h : (publishRaw host e options).Ends rely s answer later) :
    ∃ attempts, answer = .ok (.ofAttempts e.eventId attempts) ∧
      (deliver host.handle (options.timeout.getD host.settings.handlerTimeout) e handlers).Ends rely
        s attempts later := by
  have h1 := ends_look_bind h
  rw [haccepted] at h1
  dsimp only at h1
  rw [if_pos hawaited] at h1
  obtain ⟨attempts, last, h2, h3⟩ := ends_bind h1
  obtain ⟨rfl, rfl⟩ := ends_done h3
  exact ⟨attempts, rfl, h2⟩

theorem ends_publishRaw_refused {host : Host σ η} {options : PublishOptions} {s later : σ}
    {refusal : DispatchError} {answer : Except DispatchError PublishResult}
    (hrefused : accept (host.registry s) e = .error refusal)
    (h : (publishRaw host e options).Ends rely s answer later) :
    answer = .error refusal ∧ later = s := by
  have h1 := ends_look_bind h
  rw [hrefused] at h1
  exact ends_done h1

theorem run_publishRaw {host : Host σ η} {options : PublishOptions} {s : σ}
    {handlers : List (Registration η)} (haccepted : accept (host.registry s) e = .ok handlers)
    (hawaited : options.awaitHandlers = true) :
    (publishRaw host e options).run s =
      ((deliver host.handle (options.timeout.getD host.settings.handlerTimeout) e handlers).bind
        fun attempts => .done (.ok (.ofAttempts e.eventId attempts))).run s := by
  rw [publishRaw, run_look_bind, haccepted]
  dsimp only
  rw [if_pos hawaited]

/-- What is published: a new event or an envelope. -/
inductive Publishing where
  | event (eventId correlation : Uuid) (now : Instant) (eventType : String) (payload : Json)
    (metadata : Attribution)
  | envelope (e : Envelope)

namespace Publishing

/-- The envelope that is delivered. -/
def delivered (options : PublishOptions) : Publishing → Envelope
  | event eventId correlation now eventType payload metadata =>
    .fresh eventId correlation now eventType payload metadata options.correlationId
      options.causationId
  | envelope e => e

/-- The publication. -/
def task (host : Host σ η) (options : PublishOptions) :
    Publishing → Task σ (Except DispatchError PublishResult)
  | event eventId correlation now eventType payload metadata =>
    publish host eventId correlation now eventType payload metadata options
  | envelope e => publishRaw host e options

theorem task_eq (host : Host σ η) (options : PublishOptions) (p : Publishing) :
    p.task host options = publishRaw host (p.delivered options) options := by
  cases p <;> rfl

end Publishing

end EventLedger
