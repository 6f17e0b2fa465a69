import EventLedger.Audit.Canonical

/-!
# Verification reports

A report is built record by record. It counts them, notes gaps between sequence numbers and keeps
every record whose checksum does not belong to its fields.

* `Mismatch`, `VerificationReport`: the report;
* `VerificationReport.check?`: one record taken into account;
* `VerificationReport.text`: the report as a JSON document.
-/

namespace EventLedger

/-- A record whose checksum does not belong to its fields. -/
structure Mismatch where
  id : Uuid
  sequenceNumber : Int
  eventType : String
  storedChecksum : String
  deriving DecidableEq

/-- The mismatch of a record. -/
def Record.mismatch (r : Record) : Mismatch :=
  ⟨r.id, r.sequenceNumber, r.eventType, r.checksum⟩

/-- What the verification of a ledger found. -/
structure VerificationReport where
  startedAt : Instant
  finishedAt : Option Instant
  recordsChecked : Nat
  firstSequence : Option Int
  lastSequence : Option Int
  /-- How often a sequence number was not followed by the next one or a smaller one. -/
  sequenceGaps : Nat
  mismatches : List Mismatch

/-- The sequence number behind another; there is none behind the greatest number of 64 bits. -/
def nextSequence? (n : Int) : Option Int := Text.i64.ofInt? (n + 1)

/-- There is a gap in front of a sequence number. Nothing if the one before has no next number. -/
def gapBefore? (last : Option Int) (sequenceNumber : Int) : Option Bool :=
  match last with
  | none => some false
  | some n => (nextSequence? n).map fun next => next < sequenceNumber

namespace VerificationReport

/-- No record yet. -/
def start (startedAt : Instant) : VerificationReport :=
  ⟨startedAt, none, 0, none, none, 0, []⟩

/-- One record taken into account. Nothing if the check breaks off behind the greatest number. -/
def check? (report : VerificationReport) (r : Record) : Option VerificationReport := do
  let gap ← gapBefore? report.lastSequence r.sequenceNumber
  pure { report with
    recordsChecked := report.recordsChecked + 1
    firstSequence := report.firstSequence.or (some r.sequenceNumber)
    lastSequence := some r.sequenceNumber
    sequenceGaps := report.sequenceGaps + (if gap then 1 else 0)
    mismatches := if r.intact then report.mismatches else report.mismatches ++ [r.mismatch] }

/-- No record was found altered. -/
def clean (report : VerificationReport) : Bool := report.mismatches.isEmpty

end VerificationReport

/-- A mismatch in a JSON document. -/
def Mismatch.toJson (m : Mismatch) : Json :=
  .obj [
    ("id", Json.ofUuid m.id),
    ("sequenceNumber", .int m.sequenceNumber),
    ("eventType", .str m.eventType),
    ("storedChecksum", .str m.storedChecksum)]

namespace VerificationReport

/-- A report in a JSON document. -/
def toJson (report : VerificationReport) : Json :=
  .obj [
    ("startedAt", Json.ofInstant report.startedAt),
    ("finishedAt", Json.orNullOf Json.ofInstant report.finishedAt),
    ("recordsChecked", Json.ofNat report.recordsChecked),
    ("firstSequence", Json.orNullOf .int report.firstSequence),
    ("lastSequence", Json.orNullOf .int report.lastSequence),
    ("sequenceGaps", Json.ofNat report.sequenceGaps),
    ("mismatches", .arr (report.mismatches.map Mismatch.toJson))]

/-- The report as it is written to a file. -/
def text (report : VerificationReport) : String := report.toJson.pretty

end VerificationReport

end EventLedger
