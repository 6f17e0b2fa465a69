import EventLedger.Proofs.Audit.Recording
import EventLedger.Proofs.Dispatch.Endings

/-!
# Every event is recorded once

Events are delivered to the forwarder, also several times and at the same time. The store may fail in
front of a write or behind it, and it may refuse to be read.

* `Move`, `Diligent`: one step of a call, and what is left of a call;
* **`Forwarder.diligent_handle`**: by recursion on the attempts;
* `Call`, `Scene`, `Scene.Step`, `Scene.Reached`: calls that go on in any order;
* `Scene.Sound`, **`Scene.Sound.step`**: the invariant;
* `Scene.Reached.run`: deliveries one after another;
* **`events_recorded_once`**;
* `Envelope.payment`: an example with an answer that gets lost.
-/

namespace EventLedger

variable {σ : Type}

/-! ## What is left of a call -/

/-- A step of a call that has some appends left, and how many are left then. -/
inductive Move (rows : σ → List Record) (caller : Nat) (e : Envelope) :
    Nat → σ × List Nat → Nat → σ × List Nat → Prop
  | quiet {n : Nat} {s later : σ × List Nat} : Quiet rows s later →
    Move rows caller e n s n later
  | append {n : Nat} {s later : σ × List Nat} : Appends rows caller e s later →
    Move rows caller e (n + 1) s n later

namespace Move

variable {rows : σ → List Record} {caller : Nat} {e : Envelope} {n m : Nat}
  {s later : σ × List Nat}

theorem rows_later (h : Move rows caller e n s m later) :
    rows later.1 = rows s.1 ∨
      ∃ r : Record, rows later.1 = rows s.1 ++ [r] ∧ r.id ∉ (rows s.1).map (·.id) ∧ r.IsOf e := by
  cases h with
  | quiet hq => exact Or.inl hq.1
  | append ha => exact ha.1

theorem mem_rows (h : Move rows caller e n s m later) {r : Record} (hr : r ∈ rows s.1) :
    r ∈ rows later.1 := by
  rcases h.rows_later with h1 | ⟨added, h1, -⟩
  · rwa [h1]
  · rw [h1]
    exact List.mem_append_left _ hr

theorem count_caller (h : Move rows caller e n s m later) :
    later.2.count caller + m = s.2.count caller + n := by
  cases h with
  | quiet hq => rw [hq.2]
  | append ha =>
    rw [ha.2, List.count_cons_self]
    omega

theorem count_other (h : Move rows caller e n s m later) {other : Nat} (ho : other ≠ caller) :
    later.2.count other = s.2.count other := by
  cases h with
  | quiet hq => rw [hq.2]
  | append ha => rw [ha.2, List.count_cons_of_ne (Ne.symm ho)]

theorem mem_journal (h : Move rows caller e n s m later) {i : Nat} (hi : i ∈ later.2) :
    i = caller ∨ i ∈ s.2 := by
  cases h with
  | quiet hq => exact Or.inr (hq.2 ▸ hi)
  | append ha => exact List.mem_cons.mp (ha.2 ▸ hi)

end Move

/-- What is left of a call: at most `n` appends, and success only where the event is recorded. Others
are at work, so the call goes on in any state; the state matters only when the call has ended. -/
def Diligent (rows : σ → List Record) (caller : Nat) (e : Envelope) :
    Nat → Task (σ × List Nat) Completion → σ × List Nat → Prop
  | _, .done c, s => c = .succeeded → ∃ r ∈ rows s.1, r.id = e.eventId
  | n, .step change next, _ => ∀ s, ∃ m, Move rows caller e n s m (change s) ∧
    Diligent rows caller e m (next s) (change s)
  | n, .wait _ _ next, _ => ∀ ending s, Diligent rows caller e n (next ending) s
  | _, .never, _ => True

variable {rows : σ → List Record} {caller : Nat} {e : Envelope}

theorem Diligent.mono {n : Nat} {t : Task (σ × List Nat) Completion} {s later : σ × List Nat}
    (h : Diligent rows caller e n t s) (hrows : ∀ r ∈ rows s.1, r ∈ rows later.1) :
    Diligent rows caller e n t later := by
  cases t with
  | done c =>
    intro hc
    obtain ⟨r, hr, hid⟩ := h hc
    exact ⟨r, hrows r hr, hid⟩
  | step change next => exact h
  | wait ms limits next => exact h
  | never => exact h

namespace Forwarder

variable {ledger : Ledger (StateM σ)} (hstore : ledger.store.KeepsIdsUnique rows) (b : Backoff)
  (fresh : FreshIds) (now : Instant)

include hstore

theorem diligent_attempt {n : Nat} {f : Except LedgerError Record → Task (σ × List Nat) Completion}
    (hrefused : ∀ violations s, Diligent rows caller e (n + 1) (f (.error (.invalid violations))) s)
    (hok : ∀ r s, r ∈ rows s.1 → r.id = e.eventId → Diligent rows caller e n (f (.ok r)) s)
    (herror : ∀ error s, Diligent rows caller e n (f (.error error)) s) (s : σ × List Nat) :
    Diligent rows caller e (n + 1)
      ((attempt (ledger.noting caller) fresh now e.submission).bind f) s := by
  intro found
  show ∃ m, Move rows caller e (n + 1) found m
      (((ledger.noting caller).submit fresh now e.submission).run found).2 ∧
    Diligent rows caller e m
      (f (((ledger.noting caller).submit fresh now e.submission).run found).1)
      (((ledger.noting caller).submit fresh now e.submission).run found).2
  rcases Ledger.submitted hstore caller fresh now e found with
    ⟨violations, hr⟩ | ⟨answer, later, hr, ha, hwritten⟩
  · rw [hr]
    exact ⟨_, .quiet ⟨rfl, rfl⟩, hrefused _ _⟩
  · rw [hr]
    refine ⟨_, .append ha, ?_⟩
    cases answer with
    | ok r => exact hok r later (hwritten r rfl).1 (hwritten r rfl).2
    | error error => exact herror error later

/-- Trying again costs one append for each attempt: the attempts left are the appends left. -/
theorem diligent_retryFrom {f : Except LedgerError Record → Task (σ × List Nat) Completion}
    (hok : ∀ n r s, r ∈ rows s.1 → r.id = e.eventId → Diligent rows caller e n (f (.ok r)) s)
    (herror : ∀ n error s, Diligent rows caller e n (f (.error error)) s) (left ms : Nat)
    (s : σ × List Nat) :
    Diligent rows caller e (left + 1)
      ((retryFrom b LedgerError.transient
        (attempt (ledger.noting caller) fresh now e.submission) left ms).bind f) s := by
  induction left generalizing ms s with
  | zero =>
    exact diligent_attempt hstore fresh now (fun _ => herror _ _) (hok 0) (herror 0) s
  | succ left ih =>
    rw [retryFrom, Task.bind_assoc]
    refine diligent_attempt hstore fresh now ?_ ?_ ?_ s
    · exact fun violations => herror _ (.invalid violations)
    · exact hok _
    · intro error found
      dsimp only
      by_cases ht : error.transient = true
      · rw [if_pos ht]
        exact fun _ later => ih _ later
      · rw [if_neg ht]
        exact herror _ error found

theorem diligent_alreadyRecorded {n : Nat} {message : String} (s : σ × List Nat) :
    Diligent rows caller e n ((alreadyRecorded (ledger.noting caller) e.eventId).bind fun recorded =>
      .done (if recorded then .succeeded else .failed message)) s := by
  intro found
  obtain ⟨answer, later, hr, hq, hfound⟩ := Ledger.looked hstore caller e.eventId found
  refine ⟨n, .quiet ?_, ?_⟩
  · dsimp only
    rw [hr]
    exact hq
  · dsimp only
    rw [hr]
    rcases answer with _ | _ | r
    · exact nofun
    · exact nofun
    · intro _
      exact ⟨r, hfound r rfl⟩

/-- **A delivery costs at most one append for each attempt**, and it succeeds only where the event is
recorded. -/
theorem diligent_handle (s : σ × List Nat) :
    Diligent rows caller e (max 1 b.maxAttempts)
      (handle (ledger.noting caller) b fresh now e) s := by
  have h1 : max 1 b.maxAttempts - 1 + 1 = max 1 b.maxAttempts := by omega
  rw [handle, retry, ← h1, Nat.add_sub_cancel]
  -- whatever error is left in the end, no append follows
  refine diligent_retryFrom hstore b fresh now ?_ ?_ _ _ s
  · intro n r s hr hid _
    exact ⟨r, hr, hid⟩
  · intro n error s
    dsimp only
    by_cases hc : error.isConstraint = true
    · rw [if_pos hc]
      exact diligent_alreadyRecorded hstore s
    · rw [if_neg hc]
      exact nofun

end Forwarder

/-! ## Calls at work -/

/-- A delivery of an event to the forwarder, and what is left of it. -/
structure Call (σ : Type) where
  envelope : Envelope
  backoff : Backoff
  rest : Task (σ × List Nat) Completion

/-- A store with its journal, and all calls so far. A call is known by its place among them. -/
structure Scene (σ : Type) where
  state : σ × List Nat
  calls : List (Call σ)

namespace Scene

/-- A call in its place goes on, and the state is another one. -/
def goOn (scene : Scene σ) (i : Nat) (call : Call σ) (state : σ × List Nat)
    (rest : Task (σ × List Nat) Completion) : Scene σ :=
  ⟨state, scene.calls.set i { call with rest }⟩

/-- What can happen next: a delivery, or a step of any call. A wait may end in any way. A call that
is never taken up again has been given up. -/
inductive Step (ledger : Ledger (StateM σ)) : Scene σ → Scene σ → Prop
  | deliver (e : Envelope) (b : Backoff) (fresh : FreshIds) (now : Instant) (scene : Scene σ) :
    Step ledger scene { scene with
      calls := scene.calls ++
        [⟨e, b, Forwarder.handle (ledger.noting scene.calls.length) b fresh now e⟩] }
  | change {scene : Scene σ} {i : Nat} {call : Call σ} {change : σ × List Nat → σ × List Nat}
    {next : σ × List Nat → Task (σ × List Nat) Completion} :
    scene.calls[i]? = some call → call.rest = .step change next →
    Step ledger scene (scene.goOn i call (change scene.state) (next scene.state))
  | wake {scene : Scene σ} {i : Nat} {call : Call σ} {ms : Nat} {limits : List Limit}
    {next : Ending → Task (σ × List Nat) Completion} (ending : Ending) :
    scene.calls[i]? = some call → call.rest = .wait ms limits next →
    Step ledger scene (scene.goOn i call scene.state (next ending))

/-- The scenes that are reached from a store before all deliveries. -/
inductive Reached (ledger : Ledger (StateM σ)) (first : σ) : Scene σ → Prop
  | start : Reached ledger first ⟨(first, []), []⟩
  | step {scene later : Scene σ} : Reached ledger first scene → Step ledger scene later →
    Reached ledger first later

/-- The events that have been delivered. -/
def delivered (scene : Scene σ) : List Envelope := scene.calls.map (·.envelope)

variable {scene : Scene σ} {i : Nat} {call : Call σ} {state : σ × List Nat}
  {rest : Task (σ × List Nat) Completion}

theorem delivered_goOn (hc : scene.calls[i]? = some call) :
    (scene.goOn i call state rest).delivered = scene.delivered := by
  obtain ⟨hi, rfl⟩ := List.getElem?_eq_some_iff.mp hc
  have h1 : i < (scene.calls.map (·.envelope)).length := by rwa [List.length_map]
  have h2 : scene.calls[i].envelope = (scene.calls.map (·.envelope))[i] := by rw [List.getElem_map]
  rw [goOn, delivered, delivered, List.map_set, h2, List.set_getElem_self h1]

theorem getElem?_goOn_self (hc : scene.calls[i]? = some call) :
    (scene.goOn i call state rest).calls[i]? = some { call with rest } :=
  List.getElem?_set_self (List.getElem?_eq_some_iff.mp hc).1

theorem getElem?_goOn (hc : scene.calls[i]? = some call) {j : Nat} {other : Call σ}
    (h : (scene.goOn i call state rest).calls[j]? = some other) :
    (j = i ∧ other = { call with rest }) ∨ (j ≠ i ∧ scene.calls[j]? = some other) := by
  by_cases hj : j = i
  · subst hj
    rw [getElem?_goOn_self hc] at h
    exact Or.inl ⟨rfl, (Option.some.inj h).symm⟩
  · rw [goOn, List.getElem?_set_ne (Ne.symm hj)] at h
    exact Or.inr ⟨hj, h⟩

/-! ## The invariant -/

/-- What holds at any time. -/
structure Sound (rows : σ → List Record) (first : σ) (scene : Scene σ) : Prop where
  ids : ((rows scene.state.1).map (·.id)).Nodup
  /-- Every row was there before, or it tells of an event that was delivered. -/
  origin : ∀ r ∈ rows scene.state.1, r ∈ rows first ∨ ∃ e ∈ scene.delivered, r.IsOf e
  callers : ∀ i ∈ scene.state.2, i < scene.calls.length
  /-- The appends of a call, and those that it has left, are within its attempts. -/
  calls : ∀ i call, scene.calls[i]? = some call →
    ∃ n, scene.state.2.count i + n ≤ max 1 call.backoff.maxAttempts ∧
      Diligent rows i call.envelope n call.rest scene.state

variable {ledger : Ledger (StateM σ)} {first : σ}

theorem Sound.start (h : ((rows first).map (·.id)).Nodup) :
    Sound rows first ⟨(first, []), []⟩ where
  ids := h
  origin _ hr := Or.inl hr
  callers _ hi := absurd hi List.not_mem_nil
  calls _ _ hc := nomatch hc

theorem Sound.deliver (h : scene.Sound rows first) (hstore : ledger.store.KeepsIdsUnique rows)
    (e : Envelope) (b : Backoff) (fresh : FreshIds) (now : Instant) :
    Sound rows first { scene with
      calls := scene.calls ++
        [⟨e, b, Forwarder.handle (ledger.noting scene.calls.length) b fresh now e⟩] } where
  ids := h.ids
  origin r hr := by
    refine (h.origin r hr).imp id ?_
    rintro ⟨d, hd, ho⟩
    refine ⟨d, ?_, ho⟩
    rw [delivered, List.map_append]
    exact List.mem_append_left _ hd
  callers i hi := by
    rw [List.length_append]
    exact Nat.lt_add_right _ (h.callers i hi)
  calls i call hc := by
    rw [List.getElem?_append] at hc
    split at hc
    · exact h.calls i call hc
    · rename_i hi
      have h1 : i = scene.calls.length := by
        have h2 := (List.getElem?_eq_some_iff.mp hc).1
        rw [List.length_singleton] at h2
        omega
      subst h1
      rw [Nat.sub_self, List.getElem?_cons_zero] at hc
      obtain rfl := Option.some.inj hc
      have h2 : scene.state.2.count scene.calls.length = 0 :=
        List.count_eq_zero.mpr fun hm => hi (h.callers _ hm)
      refine ⟨max 1 b.maxAttempts, ?_, Forwarder.diligent_handle hstore b fresh now _⟩
      exact Nat.le_of_eq (by rw [h2, Nat.zero_add])

theorem Sound.goOn (h : scene.Sound rows first) (hc : scene.calls[i]? = some call) {n m : Nat}
    (hn : scene.state.2.count i + n ≤ max 1 call.backoff.maxAttempts)
    (hm : Move rows i call.envelope n scene.state m state)
    (hd : Diligent rows i call.envelope m rest state) :
    (scene.goOn i call state rest).Sound rows first where
  ids := by
    show ((rows state.1).map (·.id)).Nodup
    rcases hm.rows_later with h1 | ⟨r, h1, h2, -⟩
    · rw [h1]
      exact h.ids
    · rw [h1, List.map_append]
      refine List.nodup_append.mpr ⟨h.ids, List.pairwise_singleton _ _, ?_⟩
      intro id hid other hr he
      rw [he, List.mem_singleton.mp hr] at hid
      exact h2 hid
  origin r hr := by
    rw [delivered_goOn hc]
    have hmem : call.envelope ∈ scene.delivered :=
      List.mem_map.mpr ⟨call, List.mem_of_getElem? hc, rfl⟩
    rcases hm.rows_later with h1 | ⟨added, h1, -, h2⟩
    · exact h.origin r (h1 ▸ hr)
    · rcases List.mem_append.mp (h1 ▸ hr) with h3 | h3
      · exact h.origin r h3
      · rw [List.mem_singleton.mp h3]
        exact Or.inr ⟨_, hmem, h2⟩
  callers j hj := by
    have hi : i < scene.calls.length := (List.getElem?_eq_some_iff.mp hc).1
    rw [Scene.goOn, List.length_set]
    rcases hm.mem_journal hj with rfl | h1
    · exact hi
    · exact h.callers j h1
  calls j other ho := by
    rcases getElem?_goOn hc ho with ⟨rfl, rfl⟩ | ⟨hj, h1⟩
    · exact ⟨m, hm.count_caller ▸ hn, hd⟩
    · -- the appends of another call are not touched, and its promise survives added rows
      obtain ⟨k, hk, hd'⟩ := h.calls j other h1
      exact ⟨k, hm.count_other hj ▸ hk, hd'.mono fun _ => hm.mem_rows⟩

/-- **Whatever happens next, the invariant holds again.** -/
theorem Sound.step (h : scene.Sound rows first) (hstore : ledger.store.KeepsIdsUnique rows)
    {later : Scene σ} (hs : Step ledger scene later) : later.Sound rows first := by
  cases hs with
  | deliver e b fresh now => exact h.deliver hstore e b fresh now
  | change hc hr =>
    obtain ⟨n, hn, hd⟩ := h.calls _ _ hc
    rw [hr] at hd
    obtain ⟨m, hm, hd'⟩ := hd scene.state
    exact h.goOn hc hn hm hd'
  | wake ending hc hr =>
    obtain ⟨n, hn, hd⟩ := h.calls _ _ hc
    rw [hr] at hd
    exact h.goOn hc hn (.quiet ⟨rfl, rfl⟩) (hd ending scene.state)

theorem Reached.sound (h : Reached ledger first scene) (hstore : ledger.store.KeepsIdsUnique rows)
    (hids : ((rows first).map (·.id)).Nodup) : scene.Sound rows first := by
  induction h with
  | start => exact .start hids
  | step _ hs ih => exact ih.step hstore hs

/-! ## Deliveries one after another -/

theorem goOn_self (hc : scene.calls[i]? = some call) :
    scene.goOn i call scene.state call.rest = scene := by
  obtain ⟨hi, rfl⟩ := List.getElem?_eq_some_iff.mp hc
  rw [goOn]
  congr 1
  exact List.set_getElem_self hi

theorem goOn_goOn (state later : σ × List Nat) (rest last : Task (σ × List Nat) Completion) :
    (scene.goOn i call state rest).goOn i { call with rest } later last =
      scene.goOn i call later last := by
  rw [goOn, goOn, goOn]
  congr 1
  exact List.set_set _

theorem Reached.runFrom {rest : Task (σ × List Nat) Completion}
    (h : Reached ledger first scene) (hc : scene.calls[i]? = some call) (hrest : call.rest = rest)
    {budget : Nat} {alarms : List Alarm} {c : Completion}
    (hr : (rest.runFrom budget alarms scene.state).result = some c) :
    Reached ledger first
      (scene.goOn i call (rest.runFrom budget alarms scene.state).state (.done c)) := by
  induction rest generalizing scene call budget alarms with
  | done a =>
    obtain rfl := Option.some.inj hr
    have h1 := goOn_self hc
    rw [hrest] at h1
    rw [Task.runFrom, h1]
    exact h
  | step change next ih =>
    have h1 := ih _ (h.step (.change hc hrest)) (getElem?_goOn_self hc) rfl hr
    rw [goOn_goOn] at h1
    exact h1
  | wait ms limits next ih =>
    have hwake : ∀ ending budget alarms,
        ((next ending).runFrom budget alarms scene.state).result = some c →
        Reached ledger first
          (scene.goOn i call ((next ending).runFrom budget alarms scene.state).state (.done c)) := by
      intro ending budget alarms hr
      have h1 := ih ending (h.step (.wake ending hc hrest)) (getElem?_goOn_self hc) rfl hr
      rw [goOn_goOn] at h1
      exact h1
    rw [Task.runFrom] at hr ⊢
    dsimp only at hr ⊢
    rcases hp : passage budget ms limits (alarmsOf budget limits alarms) with _ | limit | _ | _
    all_goals rw [hp] at hr
    · exact hwake .over _ _ hr
    · exact hwake (.cut limit) _ _ hr
    · exact hwake .over _ _ hr
    · exact hwake .over _ _ hr
  | never => cases hr

theorem Reached.run (h : Reached ledger first scene) (e : Envelope) (b : Backoff) (fresh : FreshIds)
    (now : Instant) {c : Completion}
    (hr : ((Forwarder.handle (ledger.noting scene.calls.length) b fresh now e).run
      scene.state).result = some c) :
    Reached ledger first
      ⟨((Forwarder.handle (ledger.noting scene.calls.length) b fresh now e).run scene.state).state,
        scene.calls ++ [⟨e, b, .done c⟩]⟩ := by
  have h1 := (h.step (.deliver e b fresh now scene)).runFrom List.getElem?_concat_length rfl hr
  rw [goOn, List.set_append_right _ _ (Nat.le_refl _), Nat.sub_self, List.set_cons_zero] at h1
  exact h1

end Scene

/-- **Every event is recorded once**, whatever fails and in whatever order deliveries go on. The store
keeps ids unique; events with one id are one event, also where the store had a record before. Then
there is at most one record of an id at any time, a delivery costs no more appends than it has
attempts, and one that succeeds leaves a record with all fields of the event. -/
theorem events_recorded_once {ledger : Ledger (StateM σ)} {rows : σ → List Record}
    (hstore : ledger.store.KeepsIdsUnique rows) {first : σ}
    (hids : ((rows first).map (·.id)).Nodup) {scene : Scene σ}
    (hreached : Scene.Reached ledger first scene)
    (hsame : ∀ d ∈ scene.delivered, ∀ e ∈ scene.delivered, d.eventId = e.eventId → d = e)
    (hfirst : ∀ r ∈ rows first, ∀ e ∈ scene.delivered, r.id = e.eventId → r.IsOf e) :
    ((rows scene.state.1).map (·.id)).Nodup ∧
    ∀ i call, scene.calls[i]? = some call →
      scene.state.2.count i ≤ max 1 call.backoff.maxAttempts ∧
      (call.rest = .done .succeeded →
        ∃ r ∈ rows scene.state.1, r.id = call.envelope.eventId ∧ r.IsOf call.envelope) := by
  have hs := hreached.sound hstore hids
  refine ⟨hs.ids, fun i call hc => ?_⟩
  obtain ⟨n, hn, hd⟩ := hs.calls i call hc
  refine ⟨Nat.le_trans (Nat.le_add_right _ n) hn, fun hdone => ?_⟩
  rw [hdone] at hd
  obtain ⟨r, hr, hid⟩ := hd rfl
  have hmem : call.envelope ∈ scene.delivered :=
    List.mem_map.mpr ⟨call, List.mem_of_getElem? hc, rfl⟩
  refine ⟨r, hr, hid, ?_⟩
  rcases hs.origin r hr with hold | ⟨e, he, ho⟩
  · exact hfirst r hold _ hmem hid
  · rw [← hsame e he _ hmem (ho.id.symm.trans hid)]
    exact ho

/-! ## A payment in bad weather -/

/-- A payment is captured. -/
def Envelope.payment : Envelope where
  eventId := ⟨9⟩
  eventType := "payment.captured"
  timestamp := .epoch
  correlationId := "corr-9"
  causationId := none
  payload := .null
  metadata := ⟨"user-4", .user, "payment-service", none⟩

/-- A ledger in memory whose answers may get lost. -/
def Ledger.inBadWeather : Ledger (StateM (Memory × List Weather)) :=
  ⟨(Memory.store .epoch).under, .standard⟩

/-- The row of the first attempt is written, but the answer gets lost; the event is delivered a
second time when the store is not reached at first and cannot be read in the end. -/
def Weather.stormy : List Weather := [.unanswered, .calm, .calm, .missed, .calm, .missed]

/-- The first delivery succeeds at its second attempt, the redelivery fails; the payment is recorded
once. -/
theorem payment_recorded_once :
    ∃ scene, Scene.Reached Ledger.inBadWeather (.empty, Weather.stormy) scene ∧
      scene.delivered = [.payment, .payment] ∧ scene.state.2 = [1, 1, 0, 0] ∧
      (scene.state.1.1.records.map (·.id)).Nodup ∧
      ∃ r ∈ scene.state.1.1.records, r.id = Envelope.payment.eventId ∧ r.IsOf .payment := by
  have h0 : Scene.Reached Ledger.inBadWeather (Memory.empty, Weather.stormy)
    ⟨((.empty, Weather.stormy), []), []⟩ := .start
  have h1 := h0.run .payment .standard ⟨⟨0⟩, ⟨0⟩⟩ .epoch (c := .succeeded) rfl
  have h2 := h1.run .payment .standard ⟨⟨0⟩, ⟨0⟩⟩ .epoch rfl
  have hstore : Ledger.inBadWeather.store.KeepsIdsUnique fun s => s.1.records :=
    (Memory.keepsIdsUnique .epoch).under
  have hsame : ∀ d ∈ [Envelope.payment, .payment], ∀ e ∈ [Envelope.payment, .payment],
      d.eventId = e.eventId → d = e := by
    intro d hd e he _
    simp only [List.mem_cons, List.not_mem_nil, or_false, or_self] at hd he
    rw [hd, he]
  have hids : ((Memory.empty.records).map (·.id)).Nodup := .nil
  have h3 := events_recorded_once hstore hids h2 hsame fun r hr => absurd hr List.not_mem_nil
  exact ⟨_, h2, rfl, rfl, h3.1, (h3.2 0 _ rfl).2 rfl⟩

end EventLedger
