import EventLedger.Proofs.Audit.Sealing
import EventLedger.Proofs.Time.Linear

/-!
# Records handed in again

A record that was exported can be handed in again. Nothing is missing then, its time is whole, and
neither its category nor its checksum are stated, so that they are found again: sealing changes nothing
the second time.

* `Instant.toMicroseconds_eq_iff`: what is cut off;
* `Submission.seal_congr`: what a sealed entry depends on;
* `Record.resubmission`, `violations_resubmission`, **`seal_resubmission`**;
* **`resubmission_restores_record`**, with `Submission.leapRefund` as an example.
-/

namespace EventLedger

/-! ## Whole microseconds -/

theorem Instant.toMicroseconds_toMicroseconds (t : Instant) :
    t.toMicroseconds.toMicroseconds = t.toMicroseconds := by
  refine toMicroseconds_eq ?_
  rw [nanos_toMicroseconds]
  omega

/-- Two instants lie in the same microsecond, be it one of a leap second. -/
def Instant.SameMicrosecond (a b : Instant) : Prop :=
  a.seconds = b.seconds ∧ a.nanos / 1000 = b.nanos / 1000

theorem Instant.toMicroseconds_eq_iff {a b : Instant} :
    a.toMicroseconds = b.toMicroseconds ↔ a.SameMicrosecond b := by
  have hcut (t : Instant) : t.toMicroseconds.nanos = 1000 * (t.nanos / 1000) := by
    rw [nanos_toMicroseconds]
    omega
  constructor
  · intro h
    have hs : a.toMicroseconds.seconds = b.toMicroseconds.seconds := by rw [h]
    have hn : a.toMicroseconds.nanos = b.toMicroseconds.nanos := by rw [h]
    rw [hcut, hcut] at hn
    exact ⟨hs, Nat.eq_of_mul_eq_mul_left (by decide) hn⟩
  · rintro ⟨hs, hn⟩
    refine eq_of_parts hs ?_
    rw [hcut, hcut, hn]

/-! ## What a sealed entry depends on -/

namespace Submission

variable {s s' : Submission} {fresh fresh' : FreshIds} {now now' : Instant}

/-- The correlation id that a submission gets. -/
def correlation (s : Submission) (fresh : FreshIds) : String :=
  s.statedCorrelation?.getD fresh.correlation.text

/-- The time that a submission gets. -/
def time (s : Submission) (now : Instant) : Instant := (s.timestamp.getD now).toMicroseconds

theorem seal_congr (hdetails : s.toDetails = s'.toDetails)
    (hid : s.id.getD fresh.record = s'.id.getD fresh'.record)
    (htime : s.time now = s'.time now')
    (hcorrelation : s.correlation fresh = s'.correlation fresh') :
    s.seal fresh now = s'.seal fresh' now' := by
  unfold time at htime
  unfold correlation at hcorrelation
  unfold Submission.seal
  rw [hdetails, hid, htime, hcorrelation]

theorem checkRequired_correlation (h : s.violations = []) (fresh : FreshIds) :
    checkRequired identifierLimit (s.correlation fresh) = none := by
  unfold correlation statedCorrelation?
  cases hc : s.correlationId with
  | none =>
    refine (checkRequired_eq_none_iff _ _).mpr ⟨fresh.correlation.blank_text, ?_⟩
    exact Nat.le_trans (Nat.le_of_eq fresh.correlation.length_text) (by decide)
  | some c =>
    have hm : ("correlationId", s.correlationId.bind (checkRequired identifierLimit)) ∈
        s.fieldFaults := by simp [fieldFaults]
    have hnone := (violationsAt_eq_nil_iff none s).mp h _ hm
    rw [hc, Option.bind_some] at hnone
    rwa [Option.filter_some_pos (by simp [correlation_given h hc]), Option.getD_some]

end Submission

/-! ## Handed in again -/

/-- The submission that states all that a record has, but for what it is sealed by. -/
def Record.resubmission (r : Record) : Submission :=
  { r.toDetails with
    id := some r.id
    timestamp := some r.timestamp
    correlationId := some r.correlationId }

namespace Submission

variable {s : Submission} (fresh : FreshIds) (now storedAt : Instant) (n : Int)

theorem violations_resubmission (h : s.violations = []) :
    ((s.seal fresh now).stored n storedAt).resubmission.violations = [] := by
  have hcorrelation : (some (s.correlation fresh)).bind (checkRequired identifierLimit) = none :=
    checkRequired_correlation h fresh
  rw [violations, violationsAt_eq_nil_iff] at h ⊢
  -- all but the correlation id are the fields of the submission
  simp only [fieldFaults, List.forall_mem_cons] at h ⊢
  obtain ⟨h1, h2, h3, h4, h5, h6, -, h8⟩ := h
  exact ⟨h1, h2, h3, h4, h5, h6, hcorrelation, h8⟩

/-- **Sealing changes nothing the second time.** -/
theorem seal_resubmission (others : FreshIds) (later : Instant) :
    ((s.seal fresh now).stored n storedAt).resubmission.seal others later = s.seal fresh now := by
  have hstated : ((s.seal fresh now).stored n storedAt).resubmission.correlation others =
      s.correlation fresh := by
    have hblank : Text.blank (s.correlation fresh) = false := s.blank_seal_correlationId fresh now
    have hsome : ((s.seal fresh now).stored n storedAt).resubmission.statedCorrelation? =
        some (s.correlation fresh) := Option.filter_some_pos (by
      rw [Bool.not_eq_true']
      exact hblank)
    rw [correlation, hsome, Option.getD_some]
  exact seal_congr rfl rfl (Instant.toMicroseconds_toMicroseconds _) hstated

end Submission

/-- A submission that states a time. -/
def Submission.timed (s : Submission) (t : Instant) : Submission := { s with timestamp := some t }

/-- **A record is restored when it is handed in again.** It is accepted, and whatever is drawn and
whenever it is sealed, at its old place it is the same record, checksum included. Where times are stated,
those of one microsecond, and only those, lead to the same record. -/
theorem resubmission_restores_record {s : Submission} (h : s.violations = []) (fresh : FreshIds)
    (now storedAt : Instant) (n : Int) :
    let r := (s.seal fresh now).stored n storedAt
    r.resubmission.violations = [] ∧
      (∀ others later, (r.resubmission.seal others later).stored n storedAt = r) ∧
      ∀ a b : Instant, ((s.timed a).seal fresh now).stored n storedAt =
        ((s.timed b).seal fresh now).stored n storedAt ↔ a.SameMicrosecond b := by
  intro r
  refine ⟨s.violations_resubmission fresh now storedAt n h, fun others later => ?_, fun a b => ?_⟩
  · rw [s.seal_resubmission fresh now storedAt n others later]
  · rw [← Instant.toMicroseconds_eq_iff]
    constructor
    · exact fun heq => congrArg (fun r : Record => r.timestamp) heq
    · intro htime
      have hseal : (s.timed a).seal fresh now = (s.timed b).seal fresh now :=
        Submission.seal_congr rfl rfl htime rfl
      rw [hseal]

/-- A refund in the last nanosecond of a leap second in front of the epoch, without ids. -/
def Submission.leapRefund : Submission :=
  { refund with
    id := none
    correlationId := none
    timestamp := some ⟨-1, 1999999999, by decide⟩ }

theorem leap_refund_restored :
    let r := (Submission.leapRefund.seal ⟨⟨2⟩, ⟨3⟩⟩ .epoch).stored 1 .epoch
    Submission.leapRefund.violations = [] ∧ r.timestamp = ⟨-1, 1999999000, by decide⟩ ∧
      r.resubmission.violations = [] ∧
      ∀ others later, (r.resubmission.seal others later).stored 1 .epoch = r := by
  intro r
  have h : Submission.leapRefund.violations = [] := rfl
  obtain ⟨haccepted, hrestored, -⟩ := resubmission_restores_record h ⟨⟨2⟩, ⟨3⟩⟩ .epoch .epoch 1
  exact ⟨h, rfl, haccepted, hrestored⟩

end EventLedger
