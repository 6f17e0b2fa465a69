import EventLedger.Proofs.Dispatch.Course
import EventLedger.Proofs.Dispatch.Encapsulation
import EventLedger.Proofs.Dispatch.Isolation

/-!
# The registry that a publication has seen

A publication looks at the registry once. Whatever is done with it later, by handlers, by the
publications of handlers or by others, does not change whom this publication serves.

* `Served`, `UnderWay`, **`course_deliver`**: a delivery at any moment, by recursion on the handlers;
* `Accepted`, `Progress`, `accept_cases`: what the uses of a registry up to some moment make of a
  publication;
* **`publication_keeps_snapshot`**;
* `Clerk`: a handler that removes one behind it, publishes and disposes the dispatcher.
-/

namespace EventLedger

open EventLedger.Task

variable {σ η : Type}

/-! ## Deliveries under way -/

/-- Handlers invoked one after the other, with others at work all the time. -/
inductive Served (rely : σ → σ → Prop) (handle : Handling σ η) (limit : Nat) (e : Envelope) :
    σ → List (Invocation η) → σ → Prop
  | nobody {s now : σ} : rely s now → Served rely handle limit e s [] now
  | first {i : Invocation η} {s mid now : σ} {others : List (Invocation η)} :
    ((handle i.registration.handler e).within limit).Course rely s (.done i.outcome) mid →
    Served rely handle limit e mid others now → Served rely handle limit e s (i :: others) now

/-- A handler is being invoked. Those in front of it have been, and none has stopped delivery. -/
inductive UnderWay (rely : σ → σ → Prop) (handle : Handling σ η) (limit : Nat) (e : Envelope)
    (handlers : List (Registration η)) (s now : σ) : Prop
  | intro (served : List (Invocation η)) {r : Registration η} {waiting : List (Registration η)}
    {mid : σ} {rest : Task σ Completion} :
    handlers = served.map (·.registration) ++ r :: waiting → (∀ i ∈ served, i.stops = false) →
    Served rely handle limit e s served mid → (handle r.handler e).Course rely mid rest now →
    UnderWay rely handle limit e handlers s now

section

variable {rely : σ → σ → Prop} {handle : Handling σ η} {limit : Nat} {e : Envelope}

theorem UnderWay.behind {i : Invocation η} {handlers : List (Registration η)} {s mid now : σ}
    (hi : ((handle i.registration.handler e).within limit).Course rely s (.done i.outcome) mid)
    (hgo : i.stops = false) (h : UnderWay rely handle limit e handlers mid now) :
    UnderWay rely handle limit e (i.registration :: handlers) s now := by
  obtain ⟨served, rfl, h2, h3, h4⟩ := h
  exact ⟨i :: served, rfl, List.forall_mem_cons.mpr ⟨hgo, h2⟩, .first hi h3, h4⟩

variable (hr : ∀ s, rely s s) (ht : ∀ {s mid later}, rely s mid → rely mid later → rely s later)
include hr ht

theorem course_invoke {r : Registration η} {rest : Task σ Attempt} {s now : σ}
    (h : (invoke handle limit e r).Course rely s rest now) :
    (rest.AtWork ∧ ∃ u, (handle r.handler e).Course rely s u now) ∨
      ∃ i : Invocation η, i.registration = r ∧ rest = .done (i.attempt limit) ∧
        ((handle r.handler e).within limit).Course rely s (.done i.outcome) now := by
  rcases course_map hr ht h with ⟨hw, u, hu, h1⟩ | ⟨outcome, h1, h2⟩
  · obtain ⟨v, -, -, -, h2⟩ := course_withinFrom h1 hu
    exact Or.inl ⟨hw, v, h2⟩
  · exact Or.inr ⟨⟨r, outcome⟩, rfl, h1, h2⟩

/-- **A delivery at any moment**: a handler is being invoked, or handlers have been served as far as
failing ones allow. -/
theorem course_deliver {handlers : List (Registration η)} {rest : Task σ (List Attempt)} {s now : σ}
    (h : (deliver handle limit e handlers).Course rely s rest now) :
    (rest.AtWork ∧ UnderWay rely handle limit e handlers s now) ∨
      ∃ invocations, Exhaustive handlers invocations ∧
        Served rely handle limit e s invocations now ∧
        rest = .done (invocations.map (·.attempt limit)) := by
  induction handlers generalizing s rest now with
  | nil =>
    obtain ⟨rfl, h1⟩ := course_done hr ht h
    exact Or.inr ⟨[], .nobody, .nobody h1, rfl⟩
  | cons r waiting ih =>
    rcases course_bind h with ⟨u, hw, rfl, h1⟩ | ⟨a, mid, h1, h2⟩
    · rcases course_invoke hr ht h1 with ⟨-, v, h2⟩ | ⟨i, -, rfl, -⟩
      · exact Or.inl ⟨hw.bind _, [], rfl, nofun, .nobody (hr s), h2⟩
      · exact absurd rfl (hw _)
    · rcases course_invoke hr ht h1 with ⟨hw, -⟩ | ⟨i, rfl, ha, h3⟩
      · exact absurd rfl (hw _)
      cases ha
      rw [Invocation.goesOn_attempt] at h2
      cases hi : i.stops with
      | false =>
        rw [hi, if_pos (by decide)] at h2
        rcases course_map hr ht h2 with ⟨hw, u, hu, h4⟩ | ⟨noted, rfl, h4⟩
        · rcases ih h4 with ⟨-, h5⟩ | ⟨_, -, -, rfl⟩
          · exact Or.inl ⟨hw, h5.behind h3 hi⟩
          · exact absurd rfl (hu _)
        · rcases ih h4 with ⟨hw, -⟩ | ⟨others, h5, h6, hn⟩
          · exact absurd rfl (hw _)
          · cases hn
            exact Or.inr ⟨i :: others, h5.first hi, .first h3 h6, rfl⟩
      | true =>
        rw [hi, if_neg (by decide)] at h2
        obtain ⟨rfl, h4⟩ := course_done hr ht h2
        exact Or.inr ⟨[i], .stopped hi waiting, .first h3 (.nobody h4), rfl⟩

end

/-! ## Publications under way -/

/-- The uses of a registry have disposed it. -/
def Disposed (past : List (Use η × Answer)) : Prop := ∃ answer, (.dispose, answer) ∈ past

/-- An envelope is accepted after these uses of a registry, and these are its handlers then. -/
structure Accepted (settings : DispatcherSettings) (past : List (Use η × Answer)) (e : Envelope)
    (handlers : List (Registration η)) : Prop where
  active : ¬ Disposed past
  valid : e.check = .ok ()
  handlers : handlers = (rosterOf settings past).handlersFor e.eventType

/-- How far a publication has come that has looked at the registry in the state `start`, after the
uses `past`. What has been done with the registry since does not matter. -/
inductive Progress (host : Host σ η) (options : PublishOptions) (e : Envelope)
    (past : List (Use η × Answer)) (start : σ) :
    Task σ (Except DispatchError PublishResult) → σ → Prop
  /-- It is about to look. -/
  | ready : Progress host options e past start (publishRaw host e options) start
  | disposed {now : σ} : Disposed past →
    Progress host options e past start (.done (.error .disposed)) now
  | rejected {r : Rejection} {now : σ} : ¬ Disposed past → e.check = .error r →
    Progress host options e past start (.done (.error (.rejected r))) now
  | serving {handlers : List (Registration η)}
    {rest : Task σ (Except DispatchError PublishResult)} {now : σ} :
    Accepted host.settings past e handlers → options.awaitHandlers = true → rest.AtWork →
    UnderWay host.Used host.handle (options.timeout.getD host.settings.handlerTimeout) e handlers
      start now →
    Progress host options e past start rest now
  | served {handlers : List (Registration η)} {invocations : List (Invocation η)} {now : σ} :
    Accepted host.settings past e handlers → options.awaitHandlers = true →
    Exhaustive handlers invocations →
    Served host.Used host.handle (options.timeout.getD host.settings.handlerTimeout) e start
      invocations now →
    Progress host options e past start (.done (.ok (.ofAttempts e.eventId
      (invocations.map (·.attempt (options.timeout.getD host.settings.handlerTimeout)))))) now
  /-- Nobody waits for the delivery, which is about to be put aside. -/
  | deferring {handlers : List (Registration η)}
    {rest : Task σ (Except DispatchError PublishResult)} {now : σ} :
    Accepted host.settings past e handlers → options.awaitHandlers = false → rest.AtWork →
    Progress host options e past start rest now
  | deferred {handlers : List (Registration η)} {mid now : σ} :
    Accepted host.settings past e handlers → options.awaitHandlers = false → host.Used start mid →
    host.Used (host.defer
      ⟨e, handlers, options.timeout.getD host.settings.handlerTimeout⟩ mid) now →
    Progress host options e past start (.done (.ok (.optimistic e.eventId handlers.length))) now

theorem Progress.refused {host : Host σ η} {options : PublishOptions} {e : Envelope}
    {past : List (Use η × Answer)} {start now : σ} {answer : Except DispatchError PublishResult}
    (h : Progress host options e past start (.done answer) now) (hd : Disposed past) :
    answer = .error .disposed := by
  generalize hr : Task.done answer = rest at h
  cases h with
  | ready => cases hr
  | disposed => cases hr; rfl
  | rejected h1 => exact absurd hd h1
  | serving h1 | served h1 | deferring h1 | deferred h1 => exact absurd hd h1.active

theorem accept_cases {settings : DispatcherSettings} {past : List (Use η × Answer)} {g : Registry η}
    (h : Ran settings .empty past g) (e : Envelope) :
    (accept g e = .error .disposed ∧ Disposed past) ∨
    (∃ r, accept g e = .error (.rejected r) ∧ ¬ Disposed past ∧ e.check = .error r) ∨
    ∃ handlers, accept g e = .ok handlers ∧ Accepted settings past e handlers := by
  have hg := (h.represents .empty Roster.sound_empty).2
  have hd : g.disposed = true ↔ Disposed past := by
    rw [hg.disposed, Roster.disposed_after, List.mem_map]
    constructor
    · rintro (hd | ⟨⟨u, answer⟩, hm, rfl⟩)
      · cases hd
      · exact ⟨answer, hm⟩
    · rintro ⟨answer, hm⟩
      exact Or.inr ⟨_, hm, rfl⟩
  by_cases h1 : g.disposed = true
  · exact Or.inl ⟨by rw [accept, if_pos h1], hd.mp h1⟩
  · have h2 : ¬ Disposed past := fun h => h1 (hd.mpr h)
    rw [accept, if_neg h1]
    cases hc : e.check with
    | error r => exact Or.inr (Or.inl ⟨r, rfl, h2, rfl⟩)
    | ok => exact Or.inr (Or.inr ⟨_, rfl, h2, hc, hg.handlersFor (Roster.sound_after _) _⟩)

/-- **A publication that has looked at the registry** goes on with what it has seen. -/
theorem progress_of_course {host : Host σ η} {options : PublishOptions} {e : Envelope}
    {past : List (Use η × Answer)} {start now : σ}
    {rest : Task σ (Except DispatchError PublishResult)}
    (hpast : Ran host.settings .empty past (host.registry start))
    (h : (match accept (host.registry start) e with
      | .error refusal => .done (.error refusal)
      | .ok handlers =>
        let limit := options.timeout.getD host.settings.handlerTimeout
        if options.awaitHandlers then
          (deliver host.handle limit e handlers).bind fun attempts =>
            .done (.ok (.ofAttempts e.eventId attempts))
        else
          (Task.change (host.defer ⟨e, handlers, limit⟩)).bind fun _ =>
            .done (.ok (.optimistic e.eventId handlers.length)) :
      Task σ (Except DispatchError PublishResult)).Course host.Used start rest now) :
    Progress host options e past start rest now := by
  rcases accept_cases hpast e with ⟨ha, hd⟩ | ⟨r, ha, hd, hc⟩ | ⟨handlers, ha, hacc⟩
  · rw [ha] at h
    rw [eq_of_course_done h]
    exact .disposed hd
  · rw [ha] at h
    rw [eq_of_course_done h]
    exact .rejected hd hc
  · rw [ha] at h
    dsimp only at h
    by_cases hw : options.awaitHandlers = true
    · rw [if_pos hw] at h
      rcases course_map Host.Used.refl Host.Used.trans h with
        ⟨hrest, u, hu, h1⟩ | ⟨attempts, rfl, h1⟩
      · rcases course_deliver Host.Used.refl Host.Used.trans h1 with ⟨-, h2⟩ | ⟨_, -, -, rfl⟩
        · exact .serving hacc hw hrest h2
        · exact absurd rfl (hu _)
      · rcases course_deliver Host.Used.refl Host.Used.trans h1 with
          ⟨hu, -⟩ | ⟨invocations, h2, h3, hd⟩
        · exact absurd rfl (hu _)
        · cases hd
          exact .served hacc hw h2 h3
    · rw [if_neg hw] at h
      have hw' : options.awaitHandlers = false := Bool.not_eq_true _ ▸ hw
      rcases course_map Host.Used.refl Host.Used.trans h with ⟨hrest, -⟩ | ⟨⟨⟩, rfl, h1⟩
      · exact .deferring hacc hw' hrest
      · rcases course_change Host.Used.refl Host.Used.trans h1 with ⟨hu, -⟩ | ⟨-, mid, h2, h3⟩
        · exact absurd rfl (hu _)
        · exact .deferred hacc hw' h2 h3

/-- **A publication serves whom the registry named when it looked.** It is begun after the uses
`before`, and seen at any moment. Its handlers go on using the registry, and others do so at all
times. It has looked once, when the uses `meanwhile` had been added, or is about to. What becomes of
it is told by the uses up to then: after a `dispose` it is refused, otherwise they name its handlers
in order. Those in `since` do not matter, and it can be brought to an end. A publication that a
handler makes is one more, begun after all uses up to that moment. -/
theorem publication_keeps_snapshot (host : Host σ η) (hhost : host.Encapsulated) (p : Publishing)
    (options : PublishOptions) {before : List (Use η × Answer)} {s : σ}
    (hs : Ran host.settings .empty before (host.registry s))
    {rest : Task σ (Except DispatchError PublishResult)} {now : σ}
    (h : (p.task host options).Course host.Used s rest now) :
    (∃ meanwhile since start, Ran host.settings (host.registry s) meanwhile (host.registry start) ∧
      Ran host.settings (host.registry start) since (host.registry now) ∧
      Progress host options (p.delivered options) (before ++ meanwhile) start rest now) ∧
    ∃ answer later, rest.Course host.Used now (.done answer) later := by
  rw [p.task_eq] at h
  refine ⟨?_, exists_end_of_stops (h.stops (stops_publishRaw host _ options)) now⟩
  have hk := hhost.keeps_publishRaw (p.delivered options) options
  rcases course_look_bind Host.Used.refl Host.Used.trans h with
    ⟨rfl, meanwhile, h1⟩ | ⟨start, ⟨meanwhile, h1⟩, h2⟩
  · exact ⟨meanwhile, [], now, h1, .unused _, .ready⟩
  · obtain ⟨since, h3⟩ := (h2.kept Host.Used.refl Host.Used.trans (hk start).2).1
    exact ⟨meanwhile, since, start, h1, h3, progress_of_course (hs.trans h1) h2⟩

/-! ## Handlers changed during a delivery -/

theorem swift?_publishRaw {host : Host σ η} {options : PublishOptions} {e : Envelope} {s later : σ}
    {handlers : List (Registration η)} {attempts : List Attempt}
    (haccepted : accept (host.registry s) e = .ok handlers)
    (hawaited : options.awaitHandlers = true)
    (h : (deliver host.handle (options.timeout.getD host.settings.handlerTimeout) e handlers).swift?
      s = some (attempts, later)) :
    (publishRaw host e options).swift? s = some (.ok (.ofAttempts e.eventId attempts), later) := by
  show (match accept (host.registry s) e with
    | .error refusal => .done (.error refusal)
    | .ok handlers => _ : Task σ (Except DispatchError PublishResult)).swift? s = _
  rw [haccepted]
  dsimp only
  rw [if_pos hawaited, swift?_bind h]
  rfl

theorem swift?_deliver {handle : Handling σ η} {limit : Nat} {e : Envelope} {r : Registration η}
    {waiting : List (Registration η)} {s mid later : σ} {attempts : List Attempt}
    (hr : (handle r.handler e).swift? s = some (.succeeded, mid))
    (h : (deliver handle limit e waiting).swift? mid = some (attempts, later)) :
    (deliver handle limit e (r :: waiting)).swift? s =
      some (⟨r.subscriptionId, none⟩ :: attempts, later) := by
  have h1 : (invoke handle limit e r).swift? s = some (⟨r.subscriptionId, none⟩, mid) := by
    rw [invoke, Task.within, swift?_bind (swift?_withinFrom hr true limit)]
    rfl
  have hgo : ((⟨r.subscriptionId, none⟩ : Attempt).succeeded || r.continueOnError) = true := rfl
  rw [deliver, swift?_bind h1, if_pos hgo, swift?_bind h]
  rfl

/-- The handlers of an example. -/
inductive Clerk where
  | planner
  | mail
  | stock
  deriving DecidableEq

namespace Clerk

/-- A registry, and the handlers in the order in which they were invoked. -/
abbrev Office := Registry Clerk × List Clerk

/-- A handler that writes down that it was invoked. -/
def noting (c : Clerk) : Task Office Completion :=
  (Task.change fun s => (s.1, s.2 ++ [c])).bind fun _ => .done .succeeded

/-- A use of the registry. -/
def doing (u : Use Clerk) : Task Office Unit :=
  Task.change fun s => ((u.perform .standard s.1).2, s.2)

/-- A dispatcher with its handlers. -/
def hostOf (handle : Handling Office Clerk) : Host Office Clerk where
  settings := .standard
  registry := (·.1)
  defer _ s := s
  handle := handle

/-- An order is placed. -/
def order : Envelope where
  eventId := ⟨4⟩
  eventType := "order.placed"
  timestamp := .epoch
  correlationId := "corr-4"
  causationId := none
  payload := .null
  metadata := ⟨"user-4", .user, "shop", none⟩

/-- A subscription to orders. -/
def ordersFor (name : String) (c : Clerk) : Use Clerk :=
  .subscribe ⟨0⟩ "order.placed" { subscriptionId := some name } c

/-- The planner puts another handler in the place of one that is still to be invoked, publishes the
order to all of them and disposes the dispatcher. -/
def handle (c : Clerk) (e : Envelope) : Task Office Completion :=
  if c = planner then
    (noting planner).bind fun _ => (doing (.unsubscribe "mail")).bind fun _ =>
      (doing (ordersFor "stock" stock)).bind fun _ =>
        (publishRaw (hostOf fun c _ => noting c) e {}).bind fun _ =>
          (doing .dispose).bind fun _ => .done .succeeded
  else noting c

/-- What has been done with the registry when the first order is placed. -/
def openingHours : List (Use Clerk × Answer) :=
  [(ordersFor "planner" planner, .subscribed (.ok ⟨"planner", "order.placed", 0⟩)),
    (ordersFor "mail" mail, .subscribed (.ok ⟨"mail", "order.placed", 1⟩))]

/-- The registry then. -/
def opened : Registry Clerk :=
  ((ordersFor "mail" mail).perform .standard
    ((ordersFor "planner" planner).perform .standard .empty).2).2

/-- The registry after the planner has put the handlers in order. -/
def reordered : Registry Clerk :=
  ((ordersFor "stock" stock).perform .standard ((Use.unsubscribe "mail").perform .standard opened).2).2

/-- The office after the first order. -/
def closed : Office := (reordered.dispose, [planner, planner, stock, mail])

theorem keeps_handle (c : Clerk) (e : Envelope) : (handle c e).Keeps (hostOf handle).Used := by
  have hnoting : ∀ c, (noting c).Keeps (hostOf handle).Used :=
    fun c s => ⟨Host.used_of_eq rfl, trivial⟩
  have hdoing : ∀ u, (doing u).Keeps (hostOf handle).Used :=
    fun u s => ⟨⟨_, .used u (.unused _)⟩, trivial⟩
  have hinner : (hostOf fun c _ => noting c).Encapsulated := ⟨fun c _ => hnoting c, fun _ _ => rfl⟩
  rw [handle]
  by_cases h : c = planner
  · rw [if_pos h]
    exact (hnoting _).bind fun _ => (hdoing _).bind fun _ => (hdoing _).bind fun _ =>
      Keeps.bind (hinner.keeps_publishRaw e {}) fun _ => (hdoing _).bind fun _ => trivial
  · rw [if_neg h]
    exact hnoting c

theorem swift?_order : (publishRaw (hostOf handle) order {}).swift? (opened, []) =
    some (.ok (.ofAttempts order.eventId [⟨"planner", none⟩, ⟨"mail", none⟩]), closed) := by
  have h1 : accept opened order =
      .ok [⟨0, "planner", 100, true, planner⟩, ⟨1, "mail", 100, true, mail⟩] :=
    accept_of_pairwise rfl rfl (by decide)
  have h2 : accept reordered order =
      .ok [⟨0, "planner", 100, true, planner⟩, ⟨2, "stock", 100, true, stock⟩] :=
    accept_of_pairwise rfl rfl (by decide)
  have h3 : (publishRaw (hostOf fun c _ => noting c) order {}).swift? (reordered, [planner]) =
      some (.ok (.ofAttempts order.eventId [⟨"planner", none⟩, ⟨"stock", none⟩]),
        (reordered, [planner, planner, stock])) :=
    swift?_publishRaw h2 rfl (swift?_deliver rfl rfl)
  have h4 : (handle planner order).swift? (opened, []) =
      some (.succeeded, (reordered.dispose, [planner, planner, stock])) := by
    show ((publishRaw (hostOf fun c _ => noting c) order {}).bind fun _ =>
      (doing .dispose).bind fun _ => .done .succeeded : Task Office Completion).swift?
        (reordered, [planner]) = _
    rw [swift?_bind h3]
    rfl
  exact swift?_publishRaw h1 rfl (swift?_deliver h4 rfl)

end Clerk

open Clerk in
theorem mail_served_though_removed :
    ∃ later, (publishRaw (hostOf handle) order {}).Course (hostOf handle).Used (opened, [])
        (.done (.ok ⟨⟨4⟩, 2, 2, [], true⟩)) later ∧
      later.2 = [planner, planner, stock, mail] ∧
      (∃ meanwhile since start, Ran .standard opened meanwhile start.1 ∧
        Ran .standard start.1 since later.1 ∧
        Progress (hostOf handle) {} order (openingHours ++ meanwhile) start
          (.done (.ok ⟨⟨4⟩, 2, 2, [], true⟩)) later) ∧
      ∀ answer last, (publishRaw (hostOf handle) order {}).Course (hostOf handle).Used later
        (.done answer) last → answer = .error .disposed := by
  have henc : (hostOf handle).Encapsulated := ⟨keeps_handle, fun _ _ => rfl⟩
  have hs : Ran .standard .empty openingHours ((hostOf handle).registry (opened, [])) :=
    .used _ (.used _ (.unused _))
  have h1 : (publishRaw (hostOf handle) order {}).Course (hostOf handle).Used (opened, []) _ _ :=
    course_of_swift swift?_order
  have h2 := (publication_keeps_snapshot (hostOf handle) henc (.envelope order) {} hs h1).1
  refine ⟨_, h1, rfl, h2, ?_⟩
  intro answer last h3
  have h4 : Ran .standard .empty _ ((hostOf handle).registry closed) :=
    hs.trans (.used (.unsubscribe "mail")
      (.used (ordersFor "stock" stock) (.used .dispose (.unused _))))
  obtain ⟨⟨meanwhile, _, _, -, -, h5⟩, -⟩ :=
    publication_keeps_snapshot (hostOf handle) henc (.envelope order) {} h4 h3
  exact h5.refused ⟨_, List.mem_append_left meanwhile
    (List.mem_append_right openingHours (.tail _ (.tail _ (.head _))))⟩

end EventLedger
