import EventLedger.Proofs.Audit.Forwarding
import EventLedger.Proofs.Audit.Recording

/-!
# Events whose id is taken

A record is taken for the record of an event if it has the id of the event. What else it tells is not
looked at, so an event may be passed over for a record of something else.

* `Memory.Tells`: a record has the sealed fields of an event;
* `Forwarder.Reception`: what becomes of an event and of the memory;
* **`Forwarder.reception_of_handle`**, `Forwarder.Reception.tells_iff`;
* **`success_tells_of_event_iff`**;
* `Envelope.surcharge`: an example of an event that is passed over.
-/

namespace EventLedger

/-- A record has the id of the event and all of its sealed fields. -/
def Memory.Tells (m : Memory) (e : Envelope) : Prop :=
  ∃ r ∈ m.records, r.id = e.eventId ∧
    ∀ fresh now, r.canonical = (e.submission.seal fresh now).canonical

theorem Memory.Tells.records {m : Memory} {e : Envelope} (h : m.Tells e) : m.Records e.eventId := by
  obtain ⟨r, hr, hid, -⟩ := h
  exact ⟨r, hr, hid⟩

variable {W : Type}

namespace Forwarder

/-- What becomes of an event: how the forwarder ends, and the memory then. -/
inductive Reception (storedAt : Instant) (e : Envelope) (before : Memory) :
    Completion → Memory → Prop
  | refused (message : String) : e.submission.violations ≠ [] →
    Reception storedAt e before (.failed message) before
  /-- Its record is put behind all others. -/
  | recorded {r : Record} : e.submission.violations = [] → ¬ before.Records e.eventId →
    r.IsOf e → r.sequenceNumber = before.lastSequence + 1 → r.storedAt = storedAt →
    Reception storedAt e before .succeeded ⟨before.records ++ [r], before.lastSequence + 1⟩
  /-- Its id is there, with whatever fields. -/
  | recognised : e.submission.violations = [] → before.Records e.eventId →
    Reception storedAt e before .succeeded before

namespace Reception

variable {storedAt : Instant} {e : Envelope} {before later : Memory} {c : Completion}

theorem succeeded_iff (h : Reception storedAt e before c later) :
    c = .succeeded ↔ e.submission.violations = [] := by
  cases h with
  | refused message hv => exact ⟨nofun, fun h => absurd h hv⟩
  | recorded hv => exact ⟨fun _ => hv, fun _ => rfl⟩
  | recognised hv => exact ⟨fun _ => hv, fun _ => rfl⟩

theorem records (h : Reception storedAt e before c later) (hc : c = .succeeded) :
    later.Records e.eventId := by
  cases h with
  | refused => cases hc
  | recorded _ _ hof => exact ⟨_, List.mem_append_right _ List.mem_cons_self, hof.id⟩
  | recognised _ hid => exact hid

theorem tells_iff (h : Reception storedAt e before c later) (hc : c = .succeeded) :
    later.Tells e ↔ (before.Records e.eventId → before.Tells e) := by
  cases h with
  | refused => cases hc
  | @recorded r _ hnew hof =>
    refine ⟨fun _ hold => absurd hold hnew, fun _ => ?_⟩
    refine ⟨r, List.mem_append_right _ List.mem_cons_self, hof.id, fun fresh now => ?_⟩
    exact congrArg SealedEntry.canonical (hof fresh now)
  | recognised _ hid => exact ⟨fun h _ => h, fun h => h hid⟩

theorem prefix_records (h : Reception storedAt e before c later) :
    before.records <+: later.records := by
  cases h with
  | refused => exact List.prefix_rfl
  | recorded => exact List.prefix_append _ _
  | recognised => exact List.prefix_rfl

end Reception

variable (limits : Limits) (storedAt : Instant) (b : Backoff) (fresh : FreshIds) (now : Instant)

variable {limits storedAt b fresh now} {e : Envelope} {s later : W × Memory} in
theorem swift?_handle_of_ok {r : Record}
    (hsubmit : ((Ledger.beside W limits storedAt).submit fresh now e.submission).run s =
      (.ok r, later)) :
    (handle (Ledger.beside W limits storedAt) b fresh now e).swift? s =
      some (.succeeded, later) := by
  have hattempt : (attempt (Ledger.beside W limits storedAt) fresh now e.submission).swift? s =
      some (.ok r, later) := congrArg some hsubmit
  have hlast : ∀ x, Except.ok r = (.error x : Except LedgerError Record) → x.transient = false := by
    intro x hx
    cases hx
  rw [handle, retry, Task.swift?_bind (swift?_retryFrom hattempt hlast b _ _)]
  rfl

variable {limits storedAt b fresh now} {e : Envelope} {s later : W × Memory} in
theorem swift?_handle_of_error {error : LedgerError} (hfinal : error.transient = false)
    (hsubmit : ((Ledger.beside W limits storedAt).submit fresh now e.submission).run s =
      (.error error, later)) :
    (handle (Ledger.beside W limits storedAt) b fresh now e).swift? s =
      (if error.isConstraint then
        (alreadyRecorded (Ledger.beside W limits storedAt) e.eventId).bind fun recorded =>
          .done (if recorded then .succeeded else .failed error.message)
      else .done (.failed error.message) : Task (W × Memory) Completion).swift? later := by
  have hattempt : (attempt (Ledger.beside W limits storedAt) fresh now e.submission).swift? s =
      some (.error error, later) := congrArg some hsubmit
  have hlast : ∀ x, Except.error error = (.error x : Except LedgerError Record) →
      x.transient = false := fun x hx => Except.error.inj hx ▸ hfinal
  rw [handle, retry, Task.swift?_bind (swift?_retryFrom hattempt hlast b _ _)]

theorem swift?_alreadyRecorded_of_records {id : Uuid} {s : W × Memory} (h : s.2.Records id) :
    (alreadyRecorded (Ledger.beside W limits storedAt) id).swift? s = some (true, s) := by
  have hlook : (Task.act ((Ledger.beside W limits storedAt).find? id).run).swift? s =
      some (.ok (s.2.find? id), s) := rfl
  have hfound : (s.2.find? id).isSome = true := by
    obtain ⟨r, hr, he⟩ := h
    simpa [Memory.find?] using ⟨r, hr, he⟩
  rw [alreadyRecorded, Task.swift?_bind hlook]
  obtain ⟨r, hr⟩ := Option.isSome_iff_exists.mp hfound
  rw [hr]
  rfl

/-- **Every event is received in one of three ways**, by cases of its violations and its id. -/
theorem reception_of_handle (e : Envelope) (s : W × Memory) :
    ∃ c later, (handle (Ledger.beside W limits storedAt) b fresh now e).swift? s =
      some (c, (s.1, later)) ∧ Reception storedAt e s.2 c later := by
  by_cases hv : e.submission.violations = []
  · by_cases hid : s.2.Records e.eventId
    · refine ⟨_, _, ?_, .recognised hv hid⟩
      -- the error of a repeated id breaks a rule, so the id is looked for and found
      rw [swift?_handle_of_error rfl (Ledger.run_submit_of_records hv hid)]
      exact Task.swift?_bind (swift?_alreadyRecorded_of_records limits storedAt hid) _
    · refine ⟨_, _, swift?_handle_of_ok (Ledger.run_submit_of_not_records hv hid),
        .recorded hv hid (fun other later => ?_) rfl rfl⟩
      exact e.seal_eq hv fresh other now later
  · have hsubmit : ((Ledger.beside W limits storedAt).submit fresh now e.submission).run s =
        (.error (.invalid e.submission.violations), s) := by
      rw [Ledger.run_submit, if_neg hv]
    exact ⟨_, _, swift?_handle_of_error rfl hsubmit, .refused _ hv⟩

end Forwarder

/-- **A forwarder that succeeds has left a record of the event, or one of its id was there before.** It
succeeds exactly if the event has no violation, and takes no time. The memory then has a record of
the event's id; one with the sealed fields of the event it has exactly if the id was not taken by
records with other fields, for these are not looked at: the event is passed over and nothing is
written. -/
theorem success_tells_of_event_iff (limits : Limits) (storedAt : Instant) (b : Backoff)
    (fresh : FreshIds) (now : Instant) (e : Envelope) (s : W × Memory) :
    ∃ c later, (Forwarder.handle (Ledger.beside W limits storedAt) b fresh now e).run s =
        ⟨some c, (s.1, later), []⟩ ∧
      (c = .succeeded ↔ e.submission.violations = []) ∧
      (c = .succeeded → later.Records e.eventId ∧
        (later.Tells e ↔ (s.2.Records e.eventId → s.2.Tells e))) ∧
      Forwarder.Reception storedAt e s.2 c later := by
  obtain ⟨c, later, hrun, h⟩ := Forwarder.reception_of_handle limits storedAt b fresh now e s
  exact ⟨c, later, Task.run_of_swift hrun, h.succeeded_iff,
    fun hc => ⟨h.records hc, h.tells_iff hc⟩, h⟩

/-! ## A surcharge passed over -/

/-- A surcharge is charged, under the id of a refund that was handed in before. -/
def Envelope.surcharge : Envelope where
  eventId := ⟨1⟩
  eventType := "payment.surcharged"
  timestamp := .epoch
  correlationId := "corr-2"
  causationId := none
  payload := .null
  metadata := ⟨"user-9", .user, "payment-service", none⟩

/-- The forwarder succeeds with the surcharge, and the ledger holds the refund alone. -/
theorem surcharge_passed_over :
    ∃ refunded : Unit × Memory,
      (((Ledger.beside Unit .standard .epoch).submit ⟨⟨2⟩, ⟨3⟩⟩ .epoch .refund).run ((), .empty)).2 =
        refunded ∧
      (Forwarder.handle (Ledger.beside Unit .standard .epoch) .standard ⟨⟨4⟩, ⟨5⟩⟩ .epoch
        .surcharge).run refunded = ⟨some .succeeded, refunded, []⟩ ∧
      ¬ ∃ r ∈ refunded.2.records, r.id = Envelope.surcharge.eventId ∧
        r.canonical = (Envelope.surcharge.submission.seal ⟨⟨4⟩, ⟨5⟩⟩ .epoch).canonical := by
  have hnew : ¬ Memory.empty.Records (Submission.refund.seal ⟨⟨2⟩, ⟨3⟩⟩ .epoch).id := by
    rintro ⟨r, hr, -⟩
    cases hr
  have hstored : ((Ledger.beside Unit .standard .epoch).submit ⟨⟨2⟩, ⟨3⟩⟩ .epoch .refund).run
      ((), .empty) = _ := Ledger.run_submit_of_not_records rfl hnew
  refine ⟨_, congrArg Prod.snd hstored, ?_, ?_⟩
  · have hid : Memory.Records
        ⟨[(Submission.refund.seal ⟨⟨2⟩, ⟨3⟩⟩ .epoch).stored 1 .epoch], 1⟩ ⟨1⟩ :=
      ⟨_, List.mem_cons_self, rfl⟩
    refine Task.run_of_swift ?_
    rw [Forwarder.swift?_handle_of_error rfl (Ledger.run_submit_of_records rfl hid)]
    exact Task.swift?_bind (Forwarder.swift?_alreadyRecorded_of_records .standard .epoch hid) _
  · rintro ⟨r, hr, -, hc⟩
    have htype : r.canonical.eventType = "payment.surcharged" :=
      congrArg Canonical.eventType hc
    rw [List.mem_singleton.mp hr] at htype
    exact absurd htype (by decide)

end EventLedger
