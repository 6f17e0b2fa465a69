import EventLedger.Audit.Forwarder
import EventLedger.Proofs.Audit.Growth
import EventLedger.Proofs.Audit.Operations
import EventLedger.Proofs.Dispatch.Delivered

/-!
# Events become records

A forwarder over a ledger in memory records the event it receives, whatever the other handlers of a
dispatcher do. Only a failing handler that stops delivery in front of it keeps the event from it.

* `Ledger.beside`: a ledger in memory beside everything else that handlers work on;
* `Memory.Retains`, `Memory.Records`: nothing is taken away; an id is there;
* **`Forwarder.swift?_handle`**: receiving an event takes no wait, and then it is recorded;
* `Forwarder.records_of_ends_invoke`: no time limit prevents that;
* **`accepted_event_recorded`**;
* `Listener`: an example in which it matters whether delivery goes on behind a failing handler.
-/

namespace EventLedger

/-! ## A ledger in memory -/

/-- What is in a memory is in the later one. -/
def Memory.Retains (m later : Memory) : Prop := ∀ r ∈ m.records, r ∈ later.records

/-- A record bears the id. -/
def Memory.Records (m : Memory) (id : Uuid) : Prop := ∃ r ∈ m.records, r.id = id

theorem Memory.Retains.records {m later : Memory} (h : m.Retains later) {id : Uuid}
    (hm : m.Records id) : later.Records id := by
  obtain ⟨r, hr, he⟩ := hm
  exact ⟨r, h r hr, he⟩

theorem Memory.retains_append (storedAt : Instant) (entries : List SealedEntry) (m : Memory) :
    m.Retains (m.append storedAt entries).2 :=
  fun _ hr => (m.prefix_append storedAt entries).subset hr

variable {W : Type}

/-- A ledger in memory beside everything else that handlers work on. -/
def Ledger.beside (W : Type) (limits : Limits) (storedAt : Instant) :
    Ledger (StateM (W × Memory)) :=
  ⟨(Memory.store storedAt).within Prod.snd fun m s => (s.1, m), limits⟩

/-- The records in memory are still there. -/
def Retaining (s later : W × Memory) : Prop := s.2.Retains later.2

theorem Retaining.refl (s : W × Memory) : Retaining s s := fun _ hr => hr

theorem Retaining.trans {s mid later : W × Memory} (h1 : Retaining s mid)
    (h2 : Retaining mid later) : Retaining s later := fun r hr => h2 r (h1 r hr)

namespace Ledger

variable (limits : Limits) (storedAt : Instant) (s : W × Memory)

theorem run_append_beside (entries : List SealedEntry) :
    ((beside W limits storedAt).store.append entries).run s =
      ((s.2.append storedAt entries).1, (s.1, (s.2.append storedAt entries).2)) := rfl

theorem retaining_submit (fresh : FreshIds) (now : Instant) (x : Submission) :
    Retaining s (((beside W limits storedAt).submit fresh now x).run s).2 := by
  have h1 := s.2.retains_append storedAt [x.seal fresh now]
  rw [run_submit]
  by_cases h : x.violations = []
  · rw [if_pos h, run_append_beside]
    cases (s.2.append storedAt [x.seal fresh now]).1 with
    | error e => exact h1
    | ok stored =>
      dsimp only
      cases stored.getLast? <;> exact h1
  · rw [if_neg h]
    exact Retaining.refl s

theorem retaining_find? (id : Uuid) :
    Retaining s (((beside W limits storedAt).find? id).run s).2 := Retaining.refl s

variable {limits storedAt s} in
theorem run_submit_of_records {x : Submission} (hx : x.violations = []) {fresh : FreshIds}
    {now : Instant} (hid : s.2.Records (x.seal fresh now).id) :
    ((beside W limits storedAt).submit fresh now x).run s =
      (.error (.storage (Memory.repeatedId (x.seal fresh now).id)), s) := by
  have hrepeated : Memory.firstRepeated (s.2.records.map (·.id)) [(x.seal fresh now).id] =
      some (x.seal fresh now).id := by
    obtain ⟨r, hr, he⟩ := hid
    have hmem : (s.2.records.map (·.id)).contains (x.seal fresh now).id = true := by
      simpa using ⟨r, hr, he⟩
    rw [Memory.firstRepeated, if_pos hmem]
  rw [run_submit, if_pos hx, run_append_beside, Memory.append, List.map_singleton, hrepeated]

variable {limits storedAt s} in
theorem run_submit_of_not_records {x : Submission} (hx : x.violations = []) {fresh : FreshIds}
    {now : Instant} (hid : ¬ s.2.Records (x.seal fresh now).id) :
    ((beside W limits storedAt).submit fresh now x).run s =
      (.ok ((x.seal fresh now).stored (s.2.lastSequence + 1) storedAt),
        (s.1, ⟨s.2.records ++ [(x.seal fresh now).stored (s.2.lastSequence + 1) storedAt],
          s.2.lastSequence + 1⟩)) := by
  have hnew : Memory.firstRepeated (s.2.records.map (·.id)) [(x.seal fresh now).id] = none := by
    refine (Memory.firstRepeated_eq_none_iff _ _).mpr ⟨by simp, ?_⟩
    intro id hm ho
    obtain ⟨r, hr, he⟩ := List.mem_map.mp ho
    exact hid ⟨r, hr, he.trans (List.mem_singleton.mp hm)⟩
  rw [run_submit, if_pos hx, run_append_beside, Memory.append, List.map_singleton, hnew]
  rfl

/-- **A submission without violations is stored, or its id was there**, which breaks a rule. -/
theorem submit_beside {x : Submission} (hx : x.violations = []) (fresh : FreshIds)
    (now : Instant) :
    ∃ answer later, ((beside W limits storedAt).submit fresh now x).run s = (answer, later) ∧
      later.2.Records (x.seal fresh now).id ∧
      ∀ e, answer = .error e → e.transient = false ∧ e.isConstraint = true := by
  by_cases hid : s.2.Records (x.seal fresh now).id
  · refine ⟨_, _, run_submit_of_records hx hid, hid, fun e he => ?_⟩
    rw [← Except.error.inj he]
    exact ⟨rfl, rfl⟩
  · refine ⟨_, _, run_submit_of_not_records hx hid, ?_, fun e he => nomatch he⟩
    exact ⟨_, List.mem_append_right _ List.mem_cons_self, rfl⟩

end Ledger

/-! ## Trying again -/

theorem keeps_retryFrom {σ ε α : Type} {rely : σ → σ → Prop} {operation : Task σ (Except ε α)}
    (ho : operation.Keeps rely) (b : Backoff) (retryable : ε → Bool) (left ms : Nat) :
    (retryFrom b retryable operation left ms).Keeps rely := by
  induction left generalizing ms with
  | zero => exact ho
  | succ left ih =>
    refine ho.bind fun answer => ?_
    cases answer with
    | ok a => trivial
    | error e =>
      dsimp only
      by_cases h : retryable e = true
      · rw [if_pos h]
        exact fun _ => ih _
      · rw [if_neg h]
        trivial

theorem swift?_retryFrom {σ ε α : Type} {operation : Task σ (Except ε α)} {s later : σ}
    {answer : Except ε α} {retryable : ε → Bool} (ho : operation.swift? s = some (answer, later))
    (he : ∀ e, answer = .error e → retryable e = false) (b : Backoff) (left ms : Nat) :
    (retryFrom b retryable operation left ms).swift? s = some (answer, later) := by
  cases left with
  | zero => exact ho
  | succ left =>
    rw [retryFrom, Task.swift?_bind ho]
    cases answer with
    | ok a => rfl
    | error e =>
      dsimp only
      rw [he e rfl]
      rfl

/-! ## Receiving an event -/

namespace Forwarder

variable (limits : Limits) (storedAt : Instant) (b : Backoff) (fresh : FreshIds) (now : Instant)
  (e : Envelope)

variable {b fresh now e} in
theorem keeps_handle_of {σ : Type} {rely : σ → σ → Prop} {ledger : Ledger (StateM σ)}
    (hsubmit : ∀ s, rely s ((ledger.submit fresh now e.submission).run s).2)
    (hfind : ∀ s, rely s ((ledger.find? e.eventId).run s).2) :
    (handle ledger b fresh now e).Keeps rely := by
  have h1 : (attempt ledger fresh now e.submission).Keeps rely := fun s => ⟨hsubmit s, trivial⟩
  have h2 : (alreadyRecorded ledger e.eventId).Keeps rely := by
    refine Task.Keeps.bind (fun s => ⟨hfind s, trivial⟩) fun found => ?_
    split <;> trivial
  refine (keeps_retryFrom h1 b _ _ _).bind fun answer => ?_
  cases answer with
  | ok r => trivial
  | error error =>
    dsimp only
    by_cases h : error.isConstraint = true
    · rw [if_pos h]
      exact h2.bind fun _ => trivial
    · rw [if_neg h]
      trivial

theorem keeps_handle :
    (handle (Ledger.beside W limits storedAt) b fresh now e).Keeps Retaining :=
  keeps_handle_of (fun s => Ledger.retaining_submit limits storedAt s fresh now e.submission)
    fun s => Ledger.retaining_find? limits storedAt s _

theorem swift?_alreadyRecorded (id : Uuid) (s : W × Memory) :
    ∃ found, (alreadyRecorded (Ledger.beside W limits storedAt) id).swift? s = some (found, s) := by
  have h1 : (Task.act ((Ledger.beside W limits storedAt).find? id).run).swift? s =
    some (.ok (s.2.find? id), s) := rfl
  rw [alreadyRecorded, Task.swift?_bind h1]
  cases s.2.find? id with
  | none => exact ⟨false, rfl⟩
  | some r => exact ⟨true, rfl⟩

variable {e} in
/-- **An event is received without a wait, and then its id is there.** -/
theorem swift?_handle (he : e.submission.violations = []) (s : W × Memory) :
    ∃ c later, (handle (Ledger.beside W limits storedAt) b fresh now e).swift? s = some (c, later) ∧
      later.2.Records e.eventId := by
  obtain ⟨answer, later, h1, h2, h3⟩ := Ledger.submit_beside limits storedAt s he fresh now
  have h4 : (attempt (Ledger.beside W limits storedAt) fresh now e.submission).swift? s =
    some (answer, later) := congrArg some h1
  have h5 := swift?_retryFrom h4 (fun x hx => (h3 x hx).1) b (max 1 b.maxAttempts - 1) b.initialWait
  rw [handle, retry, Task.swift?_bind h5]
  cases answer with
  | ok r => exact ⟨_, later, rfl, h2⟩
  | error error =>
    dsimp only
    obtain ⟨found, h6⟩ := swift?_alreadyRecorded limits storedAt e.eventId later
    rw [if_pos (h3 error rfl).2, Task.swift?_bind h6]
    exact ⟨_, later, rfl, h2⟩

variable {limits storedAt b fresh now e}

theorem records_of_ends_invoke {η : Type} {take : Handling (W × Memory) η} {r : Registration η}
    (hr : take r.handler e = handle (Ledger.beside W limits storedAt) b fresh now e)
    (he : e.submission.violations = []) {limit : Nat} {s later : W × Memory} {a : Attempt}
    (h : (invoke take limit e r).Ends Retaining s a later) : later.2.Records e.eventId := by
  obtain ⟨outcome, h1, -⟩ := ends_invoke h
  rw [hr] at h1
  obtain ⟨c, last, h2, h3⟩ := swift?_handle limits storedAt b fresh now he s
  rw [(h1.eq_of_swift (Task.swift?_withinFrom h2 true limit)).2]
  exact h3

end Forwarder

/-! ## Publishing -/

/-- **An accepted event becomes a record.** Beside a forwarder there may be any handlers that take
no record away; others may be at work while they wait. An accepted event without violations is then
in the ledger when a publication with waiting ends, unless delivery was stopped in front of the
forwarder by a failing handler that is not to be passed over. -/
theorem accepted_event_recorded {η : Type} (host : Host (W × Memory) η) (limits : Limits)
    (storedAt : Instant) (b : Backoff) (fresh : FreshIds) (now : Instant) (p : Publishing)
    (options : PublishOptions) (s : W × Memory) {forwarder : Registration η}
    {handlers : List (Registration η)}
    (hattached : forwarder ∈ (host.registry s).wildcard)
    (hforwards : host.handle forwarder.handler (p.delivered options) =
      Forwarder.handle (Ledger.beside W limits storedAt) b fresh now (p.delivered options))
    (hothers : ∀ r ∈ handlers, r ≠ forwarder →
      (host.handle r.handler (p.delivered options)).Keeps Retaining)
    (haccepted : accept (host.registry s) (p.delivered options) = .ok handlers)
    (hawaited : options.awaitHandlers = true)
    (hvalid : (p.delivered options).submission.violations = []) :
    (∃ answer, ((p.task host options).run s).result = some answer ∧
      (p.task host options).Ends Retaining s answer ((p.task host options).run s).state) ∧
    ∀ answer later, (p.task host options).Ends Retaining s answer later →
      ∃ attempts, answer = .ok (.ofAttempts (p.delivered options).eventId attempts) ∧
        (later.2.Records (p.delivered options).eventId ∨
          StoppedBefore forwarder handlers attempts) := by
  rw [p.task_eq]
  have hk : ∀ r ∈ handlers, (host.handle r.handler (p.delivered options)).Keeps Retaining := by
    intro r hr
    by_cases h : r = forwarder
    · rw [h, hforwards]
      exact Forwarder.keeps_handle limits storedAt b fresh now _
    · exact hothers r hr h
  have hmem : forwarder ∈ handlers := mem_of_accept haccepted hattached
  constructor
  · have h1 := stops_publishRaw host (p.delivered options) options
    obtain ⟨answer, h⟩ := Task.exists_result_run h1 s
    exact ⟨answer, h, Task.ends_of_run Retaining.refl h⟩
  · intro answer later h
    obtain ⟨attempts, rfl, h1⟩ := ends_publishRaw haccepted hawaited h
    refine ⟨attempts, rfl, ?_⟩
    exact deliver_establishes (P := fun later => later.2.Records (p.delivered options).eventId)
      Retaining.refl Retaining.trans (fun h2 h3 => h3.records h2)
      (Forwarder.records_of_ends_invoke hforwards hvalid) hk hmem h1

/-! ## A cancelled booking -/

/-- The handlers of an example. -/
inductive Listener where
  | hanging
  | failing
  | forwarder

namespace Listener

/-- How they take an envelope. -/
def handle : Handling (Unit × Memory) Listener
  | hanging, _ => .never
  | failing, _ => .done (.failed "no answer")
  | forwarder, e =>
    Forwarder.handle (Ledger.beside Unit .standard .epoch) .standard ⟨⟨0⟩, ⟨0⟩⟩ .epoch e

/-- A handler that hangs, one that fails, and the forwarder. -/
def registry (continueOnError : Bool) : Registry Listener :=
  let g := (subscribe .standard ⟨1⟩ "booking.cancelled" {} hanging .empty).2
  let g := (subscribe .standard ⟨2⟩ wildcardType { continueOnError } failing g).2
  (subscribe .standard ⟨3⟩ wildcardType Forwarder.options forwarder g).2

/-- The dispatcher that they are registered with. -/
def host (continueOnError : Bool) : Host (Unit × Memory) Listener where
  settings := .standard
  registry _ := registry continueOnError
  defer _ s := s
  handle := handle

/-- The registration of the forwarder. -/
def recorder : Registration Listener :=
  ⟨2, Forwarder.subscriptionId, Forwarder.priority, true, forwarder⟩

/-- All registrations in the order of delivery. -/
def served (continueOnError : Bool) : List (Registration Listener) :=
  [⟨0, Uuid.text ⟨1⟩, 100, true, hanging⟩, ⟨1, Uuid.text ⟨2⟩, 100, continueOnError, failing⟩,
    recorder]

/-- A booking is cancelled. -/
def cancellation : Envelope where
  eventId := ⟨7⟩
  eventType := "booking.cancelled"
  timestamp := .epoch
  correlationId := "corr-1"
  causationId := none
  payload := .null
  metadata := ⟨"user-1", .user, "booking-service", none⟩

theorem accept_cancellation (continueOnError : Bool) (s : Unit × Memory) :
    accept ((host continueOnError).registry s) cancellation = .ok (served continueOnError) := by
  have h1 : (served continueOnError).mergeSort Registry.servedBefore = served continueOnError :=
    List.mergeSort_of_pairwise (by cases continueOnError <;> decide)
  have h2 : ((host continueOnError).registry s).handlersFor cancellation.eventType =
    served continueOnError := h1
  have h3 : cancellation.check = .ok () := rfl
  rw [accept, h2, h3]
  rfl

theorem keeps_handle (listener : Listener) (e : Envelope) :
    (handle listener e).Keeps Retaining := by
  cases listener with
  | hanging => trivial
  | failing => trivial
  | forwarder => exact Forwarder.keeps_handle .standard .epoch .standard ⟨⟨0⟩, ⟨0⟩⟩ .epoch e

end Listener

open Listener in
/-- If delivery goes on behind the failing handler, the cancelled booking is recorded. -/
theorem cancellation_recorded :
    recorder ∈ ((host true).registry ((), .empty)).wildcard ∧
      accept ((host true).registry ((), .empty)) cancellation = .ok (served true) ∧
      cancellation.submission.violations = [] ∧
      ∀ answer later, (publishRaw (host true) cancellation {}).Ends Retaining ((), .empty) answer
        later → later.2.Records cancellation.eventId := by
  have h1 : recorder ∈ ((host true).registry ((), .empty)).wildcard :=
    List.mem_cons_of_mem _ List.mem_cons_self
  have h2 : cancellation.submission.violations = [] := rfl
  have h3 := (accepted_event_recorded (host true) .standard .epoch .standard ⟨⟨0⟩, ⟨0⟩⟩ .epoch
    (.envelope cancellation) {} ((), .empty) h1 rfl
    (fun r _ _ => keeps_handle r.handler cancellation) (accept_cancellation true _) rfl h2).2
  refine ⟨h1, accept_cancellation true _, h2, fun answer later h => ?_⟩
  obtain ⟨attempts, -, h4⟩ := h3 answer later h
  rcases h4 with h4 | ⟨front, blocker, rest, -, -, h5, -, -, -, h6, -⟩
  · exact h4
  · have h7 : ∀ r ∈ served true, r.continueOnError = true := by decide
    rw [h7 blocker (h5 ▸ List.mem_append_right _ List.mem_cons_self)] at h6
    cases h6

open Listener in
/-- If delivery stops at the failing handler, the cancelled booking is not recorded. -/
theorem cancellation_unrecorded :
    recorder ∈ ((host false).registry ((), .empty)).wildcard ∧
      (host false).handle recorder.handler cancellation =
        Forwarder.handle (Ledger.beside Unit .standard .epoch) .standard ⟨⟨0⟩, ⟨0⟩⟩ .epoch
          cancellation ∧
      accept ((host false).registry ((), .empty)) cancellation = .ok (served false) ∧
      cancellation.submission.violations = [] ∧
      ∃ result,
        ((publishRaw (host false) cancellation {}).run ((), .empty)).result = some (.ok result) ∧
        ¬((publishRaw (host false) cancellation {}).run ((), .empty)).state.2.Records
          cancellation.eventId := by
  refine ⟨List.mem_cons_of_mem _ List.mem_cons_self, rfl, accept_cancellation false _, rfl, ?_⟩
  rw [run_publishRaw (accept_cancellation false _) rfl]
  refine ⟨_, rfl, ?_⟩
  rintro ⟨r, hr, -⟩
  cases hr

end EventLedger
