import EventLedger.Proofs.Audit.TamperEvidence
import EventLedger.Proofs.Verification.Report

/-!
# Reports on any records

Records may come in any order, under any numbers of 64 bits. A report counts them, keeps the outermost
numbers, counts the gaps between neighbours and lists the records that were altered. The greatest number
there is may only be the last one: checking a record behind it breaks off.

* `VerificationReport.checkAll?`: records checked one after another, with a verdict on each;
* **`VerificationReport.checkAll?_append`**: what comes later is checked from the report that is there;
* `continuable_iff`: where checking goes on to the end;
* `VerificationReport.Accounts`, **`records_accounted`**, `greatest_number_breaks_off`.
-/

namespace EventLedger

namespace VerificationReport

/-! ## Records one after another -/

/-- Records checked one after another, and the verdict on each of them. Nothing if a check breaks
off. -/
def checkAll? (report : VerificationReport) :
    List Record → Option (VerificationReport × List Bool)
  | [] => some (report, [])
  | r :: rest => do
    let next ← report.check? r
    let (last, verdicts) ← next.checkAll? rest
    pure (last, r.intact :: verdicts)

theorem checkAll?_eq (report : VerificationReport) (rs : List Record) :
    report.checkAll? rs = (rs.foldlM check? report).map fun last => (last, rs.map (·.intact)) := by
  induction rs generalizing report with
  | nil => rfl
  | cons r rest ih =>
    rw [checkAll?, List.foldlM_cons]
    cases report.check? r with
    | none => rfl
    | some next =>
      simp only [Option.bind_eq_bind, Option.bind_some, ih]
      cases rest.foldlM check? next <;> rfl

theorem checkAll?_append (report : VerificationReport) (rs more : List Record) :
    report.checkAll? (rs ++ more) = (report.checkAll? rs).bind fun found =>
      (found.1.checkAll? more).map fun later => (later.1, found.2 ++ later.2) := by
  simp only [checkAll?_eq, List.foldlM_append, List.map_append]
  cases rs.foldlM check? report with
  | none => rfl
  | some found =>
    simp only [Option.bind_eq_bind, Option.bind_some, Option.map_some]
    cases more.foldlM check? found <;> rfl

/-! ## The whole report -/

/-- What a report says of any records, and the verdicts on them. -/
structure Accounts (report : VerificationReport) (verdicts : List Bool) (rs : List Record) :
    Prop where
  checked : report.recordsChecked = rs.length
  first : report.firstSequence = rs.head?.map (·.sequenceNumber)
  last : report.lastSequence = rs.getLast?.map (·.sequenceNumber)
  gaps : report.sequenceGaps = gaps rs
  mismatches : report.mismatches = (rs.filter fun r => !r.intact).map Record.mismatch
  /-- There is one verdict for each record, false where the record was altered. -/
  each : verdicts = rs.map (·.intact)
  clean : report.clean = rs.all (·.intact)

theorem accounts_ofRecords (startedAt : Instant) (rs : List Record) :
    (ofRecords startedAt rs).Accounts (rs.map (·.intact)) rs :=
  ⟨rfl, rfl, rfl, rfl, rfl, rfl, clean_of_mismatches rfl⟩

end VerificationReport

variable {rs : List Record}

theorem continuable_iff (h : ∀ r ∈ rs, Text.i64.holds r.sequenceNumber = true) :
    Continuable rs ↔ ∀ r ∈ rs.dropLast, r.sequenceNumber ≠ Text.i64.above := by
  refine forall₂_congr fun r hr => ?_
  obtain ⟨hlow, hhigh⟩ := Text.IntegerType.holds_iff.mp (h r ((List.dropLast_sublist rs).subset hr))
  rw [Text.IntegerType.holds_iff]
  omega

/-- **A report accounts for any records**, whatever numbers of 64 bits they have and in whatever order
they come, unless the greatest number stands in front of another one: then checking breaks off. Records
that come later are checked from the report that is there. -/
theorem records_accounted (startedAt : Instant)
    (h : ∀ r ∈ rs, Text.i64.holds r.sequenceNumber = true) :
    ((∀ r ∈ rs.dropLast, r.sequenceNumber ≠ Text.i64.above) →
      ∃ report verdicts,
        (VerificationReport.start startedAt).checkAll? rs = some (report, verdicts) ∧
        rs.foldlM VerificationReport.check? (.start startedAt) = some report ∧
        report.Accounts verdicts rs) ∧
    ((∃ r ∈ rs.dropLast, r.sequenceNumber = Text.i64.above) →
      (VerificationReport.start startedAt).checkAll? rs = none ∧
        rs.foldlM VerificationReport.check? (.start startedAt) = none) ∧
    ∀ (report : VerificationReport) (more : List Record),
      report.checkAll? (rs ++ more) = (report.checkAll? rs).bind fun found =>
        (found.1.checkAll? more).map fun later => (later.1, found.2 ++ later.2) := by
  have hfold := VerificationReport.foldlM_check?_start startedAt rs
  have hall := VerificationReport.checkAll?_eq (.start startedAt) rs
  refine ⟨fun hnone => ?_, fun ⟨r, hr, hgreatest⟩ => ?_,
    fun report more => report.checkAll?_append rs more⟩
  · rw [if_pos ((continuable_iff h).mpr hnone)] at hfold
    rw [hfold] at hall
    exact ⟨_, _, hall, hfold, VerificationReport.accounts_ofRecords startedAt rs⟩
  · rw [if_neg fun hcontinuable => (continuable_iff h).mp hcontinuable r hr hgreatest] at hfold
    rw [hfold] at hall
    exact ⟨hall, hfold⟩

/-- Refunds under the smallest and the greatest number there is, the latter at the end; the numbers in
between go up and down, and one of the records was altered. -/
def Record.strayRefunds : List Record := [
  { Record.refund with sequenceNumber := -9223372036854775808 },
  { Record.refund with sequenceNumber := 4 },
  { Record.refund with sequenceNumber := 4, reason := none },
  { Record.refund with sequenceNumber := 1 },
  { Record.refund with sequenceNumber := 2 },
  { Record.refund with sequenceNumber := 9223372036854775807 }]

theorem stray_refunds_accounted :
    (∀ r ∈ Record.strayRefunds, Text.i64.holds r.sequenceNumber = true) ∧
      ∃ report verdicts,
        (VerificationReport.start .epoch).checkAll? Record.strayRefunds = some (report, verdicts) ∧
        report.Accounts verdicts Record.strayRefunds ∧ report.sequenceGaps = 2 := by
  have h : ∀ r ∈ Record.strayRefunds, Text.i64.holds r.sequenceNumber = true := by decide +kernel
  have hnone : ∀ r ∈ Record.strayRefunds.dropLast, r.sequenceNumber ≠ Text.i64.above := by
    decide +kernel
  have htwo : gaps Record.strayRefunds = 2 := by decide +kernel
  obtain ⟨report, verdicts, hrun, -, haccounts⟩ := (records_accounted .epoch h).1 hnone
  exact ⟨h, report, verdicts, hrun, haccounts, haccounts.gaps.trans htwo⟩

/-- Behind the greatest number a smaller one is no gap, and there is no report. -/
theorem greatest_number_breaks_off :
    let rs := [{ Record.refund with sequenceNumber := 9223372036854775807 },
      { Record.refund with sequenceNumber := 5 }]
    (∀ r ∈ rs, Text.i64.holds r.sequenceNumber = true) ∧ gaps rs = 0 ∧
      rs.foldlM VerificationReport.check? (.start .epoch) = none := by
  intro rs
  refine ⟨by decide +kernel, by decide +kernel, ?_⟩
  rw [VerificationReport.foldlM_check?_start, if_neg (by decide +kernel)]

end EventLedger
