import EventLedger.Audit.Canonical
import EventLedger.Audit.Validation
import EventLedger.Proofs.Event.Tags
import EventLedger.Proofs.Uuid

/-!
# What validation and sealing establish

A submission without violations becomes a record that is intact, has a time in whole microseconds,
the category of its event type, a correlation id and, if an administrator acted, a reason.

* `Record.Sound`: all of this;
* `Submission.violationsAt_eq_nil_iff`, `batchViolations_eq_nil_iff`: no field is at fault;
* `Submission.eventType_accepted`, `Submission.reason_given`, `Submission.correlation_given`: what
  that means for some fields;
* **`Submission.sound_seal`**;
* `Submission.refund`: an example.
-/

namespace EventLedger

/-- What validation and sealing establish of a record. -/
structure Record.Sound (r : Record) : Prop where
  intact : r.intact = true
  wholeMicroseconds : r.timestamp.nanos % 1000 = 0
  /-- The category is the first piece of the event type. -/
  category : (Text.segments '.' r.eventType.toList).head? = some r.category.toList
  category_ne_empty : r.category ≠ ""
  correlationId : Text.blank r.correlationId = false
  reason : r.actor.kind = .admin → ∃ t, r.reason = some t ∧ Text.blank t = false

/-! ## Rules for one text -/

theorem checkRequired_of_not_blank (limit : Nat) {value : String}
    (h : Text.blank value = false) : checkRequired limit value = checkLength limit value := by
  rw [checkRequired, h]
  rfl

theorem checkLength_eq_none_iff (limit : Nat) (value : String) :
    checkLength limit value = none ↔ value.length ≤ limit := by
  unfold checkLength
  split
  · rename_i h
    exact ⟨nofun, fun h0 => absurd h0 (Nat.not_le.mpr h)⟩
  · rename_i h
    exact ⟨fun _ => Nat.le_of_not_lt h, fun _ => rfl⟩

theorem checkRequired_eq_none_iff (limit : Nat) (value : String) :
    checkRequired limit value = none ↔ Text.blank value = false ∧ value.length ≤ limit := by
  cases hb : Text.blank value with
  | true =>
    rw [checkRequired, hb]
    exact ⟨nofun, fun h => Bool.noConfusion h.1⟩
  | false =>
    rw [checkRequired_of_not_blank limit hb, checkLength_eq_none_iff]
    exact ⟨fun h => ⟨rfl, h⟩, fun h => h.2⟩

namespace Submission

/-! ## Submissions without violations -/

theorem violationsAt_eq_nil_iff (index : Option Nat) (s : Submission) :
    s.violationsAt index = [] ↔ ∀ p ∈ s.fieldFaults, p.2 = none := by
  unfold violationsAt
  rw [List.filterMap_eq_nil_iff]
  constructor
  · intro h p hp
    exact Option.map_eq_none_iff.mp (h p hp)
  · intro h p hp
    exact Option.map_eq_none_iff.mpr (h p hp)

variable {s : Submission}

theorem eventType_accepted (h : s.violations = []) : checkEventType s.eventType = .ok () := by
  have hm : ("eventType", eventTypeFault s.eventType) ∈ s.fieldFaults := by simp [fieldFaults]
  have h1 : eventTypeFault s.eventType = none := (violationsAt_eq_nil_iff none s).mp h _ hm
  unfold eventTypeFault at h1
  cases hc : checkEventType s.eventType with
  | ok u => rfl
  | error e => cases e <;> simp [hc] at h1

theorem reason_given (h : s.violations = []) (hk : s.actor.kind = .admin) :
    ∃ t, s.reason = some t ∧ Text.blank t = false := by
  have hm : ("reason", reasonFault s.actor.kind s.reason) ∈ s.fieldFaults := by
    simp [fieldFaults]
  have h1 : reasonFault s.actor.kind s.reason = none :=
    (violationsAt_eq_nil_iff none s).mp h _ hm
  rw [hk] at h1
  cases hr : s.reason with
  | none => simp [reasonFault, ActorKind.needsReason, hr] at h1
  | some t =>
    refine ⟨t, rfl, ?_⟩
    simpa [reasonFault, ActorKind.needsReason, hr] using h1

theorem correlation_given (h : s.violations = []) {c : String} (hc : s.correlationId = some c) :
    Text.blank c = false := by
  have hm : ("correlationId", s.correlationId.bind (checkRequired identifierLimit)) ∈
      s.fieldFaults := by simp [fieldFaults]
  have h1 : s.correlationId.bind (checkRequired identifierLimit) = none :=
    (violationsAt_eq_nil_iff none s).mp h _ hm
  rw [hc, Option.bind_some] at h1
  exact ((checkRequired_eq_none_iff _ _).mp h1).1

end Submission

theorem batchViolationsFrom_eq_nil_iff (start : Nat) (batch : List Submission) :
    batchViolationsFrom start batch = [] ↔ ∀ s ∈ batch, s.violations = [] := by
  induction batch generalizing start with
  | nil => exact ⟨fun _ s hs => absurd hs List.not_mem_nil, fun _ => rfl⟩
  | cons s rest ih =>
    have h1 : s.violationsAt (some start) = [] ↔ s.violations = [] :=
      (s.violationsAt_eq_nil_iff _).trans (s.violationsAt_eq_nil_iff none).symm
    rw [batchViolationsFrom, List.append_eq_nil_iff, h1, ih, List.forall_mem_cons]

theorem batchViolations_eq_nil_iff (batch : List Submission) :
    batchViolations batch = [] ↔ ∀ s ∈ batch, s.violations = [] :=
  batchViolationsFrom_eq_nil_iff _ batch

/-! ## Sealed submissions -/

theorem Uuid.blank_text (u : Uuid) : Text.blank u.text = false := by
  have h1 : '-' ∈ u.text.toList := by
    rw [Uuid.toList_text]
    exact List.mem_append_right _ List.mem_cons_self
  exact Text.blank_eq_false h1 (by decide)

namespace Submission

variable (s : Submission) (fresh : FreshIds) (now : Instant)

theorem blank_seal_correlationId : Text.blank (s.seal fresh now).correlationId = false := by
  have h1 : (s.seal fresh now).correlationId =
    s.statedCorrelation?.getD fresh.correlation.text := rfl
  rw [h1]
  cases hc : s.statedCorrelation? with
  | none => exact fresh.correlation.blank_text
  | some c =>
    have h2 := (Option.filter_eq_some_iff.mp hc).2
    simpa using h2

theorem seal_intact (n : Int) (storedAt : Instant) :
    ((s.seal fresh now).stored n storedAt).intact = true := beq_self_eq_true _

variable {s} in
/-- **A submission without violations becomes a sound record.** -/
theorem sound_seal (h : s.violations = []) (n : Int) (storedAt : Instant) :
    ((s.seal fresh now).stored n storedAt).Sound where
  intact := s.seal_intact fresh now n storedAt
  wholeMicroseconds := by
    have h1 : ((s.seal fresh now).stored n storedAt).timestamp =
      (s.timestamp.getD now).toMicroseconds := rfl
    rw [h1]
    unfold Instant.toMicroseconds
    dsimp only
    omega
  category := head?_segments_category s.eventType
  category_ne_empty := category_ne_empty (eventType_accepted h)
  correlationId := s.blank_seal_correlationId fresh now
  reason := reason_given h

end Submission

/-! ## An example -/

/-- A refund that an administrator gives a reason for. -/
def Submission.refund : Submission where
  eventType := "booking.refunded"
  causationId := none
  actor := ⟨.admin, "admin-3"⟩
  resource := ⟨"booking", "bk-1"⟩
  action := "refunded"
  reason := some "charge\\back | review"
  description := none
  sourceService := "support"
  payload := .null
  metadata := []
  stateChange := none
  retention := .standard
  containsPii := false
  id := some ⟨1⟩
  timestamp := some .epoch
  correlationId := some "corr-1"

end EventLedger
