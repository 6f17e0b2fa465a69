import EventLedger.Proofs.Dispatch.Delivered
import EventLedger.Proofs.Dispatch.Subscriptions

/-!
# Who changes a registry

A registry is changed by its uses and by nothing else, also where handlers use the dispatcher that
delivers to them.

* `Host.Used`, `Host.Encapsulated`: a registry in use, and one that nothing but uses changes;
* **`Host.Encapsulated.keeps_publishRaw`**: publications use a registry no further than their handlers.
-/

namespace EventLedger

open EventLedger.Task

variable {σ η : Type}

theorem Ran.trans {settings : DispatcherSettings} {g mid later : Registry η}
    {past more : List (Use η × Answer)} (h : Ran settings g past mid)
    (hm : Ran settings mid more later) : Ran settings g (past ++ more) later := by
  induction h with
  | unused => exact hm
  | shuffled hp _ ih => exact .shuffled hp (ih hm)
  | used u _ ih => exact .used u (ih hm)

namespace Host

variable {host : Host σ η}

/-- The registry has been used, and anything else may have changed. -/
def Used (host : Host σ η) (s later : σ) : Prop :=
  ∃ past, Ran host.settings (host.registry s) past (host.registry later)

theorem used_of_eq {s later : σ} (h : host.registry later = host.registry s) :
    host.Used s later := ⟨[], h ▸ .unused _⟩

theorem Used.refl (s : σ) : host.Used s s := used_of_eq rfl

theorem Used.trans {s mid later : σ} (h : host.Used s mid) (hm : host.Used mid later) :
    host.Used s later := by
  obtain ⟨past, h⟩ := h
  obtain ⟨more, hm⟩ := hm
  exact ⟨past ++ more, h.trans hm⟩

/-- Nothing but uses changes the registry: neither a handler nor a delivery put aside. -/
structure Encapsulated (host : Host σ η) : Prop where
  handlers : ∀ handler e, (host.handle handler e).Keeps host.Used
  defer : ∀ d s, host.registry (host.defer d s) = host.registry s

theorem Encapsulated.keeps_publishRaw (h : host.Encapsulated) (e : Envelope)
    (options : PublishOptions) : (publishRaw host e options).Keeps host.Used := by
  refine Keeps.bind (fun s => ⟨Used.refl s, trivial⟩) fun s => ?_
  cases accept (host.registry s) e with
  | error refusal => trivial
  | ok handlers =>
    dsimp only
    by_cases ha : options.awaitHandlers = true
    · rw [if_pos ha]
      exact (keeps_deliver _ fun r _ => h.handlers r.handler e).bind fun _ => trivial
    · rw [if_neg ha]
      exact fun s => ⟨used_of_eq (h.defer _ s), trivial⟩

end Host

end EventLedger
