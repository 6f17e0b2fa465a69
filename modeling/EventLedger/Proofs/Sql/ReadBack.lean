import EventLedger.Proofs.Audit.TamperEvidence
import EventLedger.Proofs.Time.Linear
import EventLedger.Sql.Store

/-!
# Records read back from a database

A database that keeps what is bound returns a row with the values of the sealed entry, and numbers it.
The record of this row has the fields of the entry, but for its time, which went through one count of
microseconds: a leap second comes back as the second behind it, and the seal is that of another time.

* `Returned`: a row with the values that were bound;
* `readColumn_of_lookup`, `readOptional_of_lookup`: columns;
* `StateChange.withoutNulls`, `ofJson?_toJson`: a change of state;
* `SealedEntry.readBack`, **`readRecord_returned`**: the whole record;
* **`record_read_back`**: which records are intact.
-/

namespace EventLedger

open Digest (Collision utf8)

/-! ## Changes of state -/

/-- A value, or nothing for null. -/
def Json.unlessNull : Option Json → Option Json
  | some .null => none
  | j => j

/-- The change of state without values that are null. -/
def StateChange.withoutNulls (c : StateChange) : StateChange :=
  ⟨Json.unlessNull c.before, Json.unlessNull c.after⟩

theorem Json.orNull_some_orNullOf (j : Option Json) :
    Json.orNull some (Json.orNullOf id j) = some (Json.unlessNull j) := by
  cases j with
  | none => rfl
  | some j => cases j <;> rfl

theorem Json.optional_named {α : Type} {members : List (String × Json)} {name : String} {j : Json}
    (hl : members.lookup name = some j) (read : Json → Option α) :
    (Json.optional name read).run (.named members) =
      (Json.orNull read j).map (·, .named members) := by
  have h : (nextMember name).run (.named members) = some (some j, .named members) := by
    rw [← hl]
    rfl
  rw [Json.optional, Json.defaulted, StateT.run_bind, h]
  rfl

/-- **A change of state is read back**, a value that is null as one that is absent. -/
theorem StateChange.ofJson?_toJson (c : StateChange) : ofJson? c.toJson = some c.withoutNulls := by
  have hbefore := Json.orNull_some_orNullOf c.before
  have hafter := Json.orNull_some_orNullOf c.after
  have h : ofJson? c.toJson = (reader.run (.named [("before", Json.orNullOf id c.before),
    ("after", Json.orNullOf id c.after)])).map (·.1) := rfl
  rw [h, reader, StateT.run_bind, Json.optional_named rfl, hbefore]
  simp only [Option.map_some, Option.bind_eq_bind, Option.bind_some]
  rw [StateT.run_bind, Json.optional_named rfl, hafter]
  rfl

namespace Sql

/-! ## Columns -/

/-- The row holds the values that were bound for an entry, and what the database has added: a number
and an instant, counted in microseconds. -/
structure Returned (row : Row) (e : SealedEntry) (n storedAt : Int) : Prop where
  bound : ∀ p ∈ insertedValues e, row.lookup p.1.name = some p.2
  sequenceNumber : row.lookup Column.sequenceNumber.name = some (.int n)
  storedAt : row.lookup Column.storedAt.name = some (.timestamp storedAt)

theorem readColumn_of_lookup {α : Type} (read : Value → Option α) {row : Row} {name : String}
    {v : Value} {a : α} (hl : row.lookup name = some v) (hv : v ≠ .null) (hr : read v = some a) :
    readColumn row name read = .ok a := by
  unfold readColumn
  rw [hl]
  cases v with
  | null => exact absurd rfl hv
  | _ =>
    dsimp only
    rw [hr]

theorem readOptional_of_lookup {α : Type} (read : Value → Option α) {row : Row} {name : String}
    {v : Value} {a : α} (hl : row.lookup name = some v) (hv : v ≠ .null) (hr : read v = some a) :
    readOptional row name read = .ok (some a) := by
  have h := readColumn_of_lookup read hl hv hr
  unfold readOptional
  rw [hl, h]
  cases v with
  | null => exact absurd rfl hv
  | _ => rfl

theorem readOptional_null {α : Type} (read : Value → Option α) {row : Row} {name : String}
    (hl : row.lookup name = some .null) : readOptional row name read = .ok none := by
  unfold readOptional
  rw [hl]

theorem readOptional_text {row : Row} {name : String} {t : Option String}
    (hl : row.lookup name = some (.ofText? t)) : readOptional row name Value.text? = .ok t := by
  cases t with
  | none => exact readOptional_null _ hl
  | some s => exact readOptional_of_lookup _ hl nofun rfl

theorem readOptional_stateChange {row : Row} {name : String} {c : Option StateChange}
    (hl : row.lookup name = some ((c.map fun c => Value.json c.toJson).getD .null)) :
    readOptional row name (fun v => v.json?.bind StateChange.ofJson?) =
      .ok (c.map StateChange.withoutNulls) := by
  cases c with
  | none => exact readOptional_null _ hl
  | some c => exact readOptional_of_lookup _ hl nofun c.ofJson?_toJson

/-! ## Rows -/

/-- The typed columns of a row that is returned. -/
def AuditRow.returned (e : SealedEntry) (n storedAt : Int) : AuditRow where
  id := e.id
  sequenceNumber := n
  eventType := e.eventType
  category := e.category
  occurredAt := .ofLinearMicroseconds e.timestamp.linearMicroseconds
  storedAt := .ofLinearMicroseconds storedAt
  correlationId := e.correlationId
  causationId := e.causationId
  actorType := e.actor.kind.word
  actorId := e.actor.id
  resourceType := e.resource.kind
  resourceId := e.resource.id
  action := e.action
  reason := e.reason
  description := e.description
  sourceService := e.sourceService
  payload := e.payload
  metadata := e.metadata
  stateChange := e.stateChange.map StateChange.withoutNulls
  retentionClass := e.retention.word
  containsPii := e.containsPii
  checksum := e.checksum

theorem AuditRow.ofRow_returned {row : Row} {e : SealedEntry} {n storedAt : Int}
    (h : Returned row e n storedAt) : ofRow row = .ok (returned e n storedAt) := by
  obtain ⟨hbound, hnumber, hstored⟩ := h
  simp only [insertedValues, List.forall_mem_cons, List.not_mem_nil, false_implies, implies_true,
    and_true] at hbound
  obtain ⟨hid, htype, hcategory, htime, hcorrelation, hcausation, hkind, hactor, hresourceType,
    hresource, haction, hreason, hdescription, hsource, hpayload, hmetadata, hchange, hretention, hpii,
    hchecksum⟩ := hbound
  unfold ofRow
  dsimp only
  rw [readColumn_of_lookup Value.uuid? hid nofun rfl,
    readColumn_of_lookup Value.int? hnumber nofun rfl,
    readColumn_of_lookup Value.text? htype nofun rfl,
    readColumn_of_lookup Value.text? hcategory nofun rfl,
    readColumn_of_lookup Value.instant? htime nofun rfl,
    readColumn_of_lookup Value.instant? hstored nofun rfl,
    readColumn_of_lookup Value.text? hcorrelation nofun rfl,
    readOptional_text hcausation,
    readColumn_of_lookup Value.text? hkind nofun rfl,
    readColumn_of_lookup Value.text? hactor nofun rfl,
    readColumn_of_lookup Value.text? hresourceType nofun rfl,
    readColumn_of_lookup Value.text? hresource nofun rfl,
    readColumn_of_lookup Value.text? haction nofun rfl,
    readOptional_text hreason, readOptional_text hdescription,
    readColumn_of_lookup Value.text? hsource nofun rfl,
    readColumn_of_lookup Value.json? hpayload nofun rfl,
    readColumn_of_lookup (fun v => v.json?.bind Json.members?) hmetadata nofun rfl,
    readOptional_stateChange hchange,
    readColumn_of_lookup Value.text? hretention nofun rfl,
    readColumn_of_lookup Value.bool? hpii nofun rfl,
    readColumn_of_lookup Value.text? hchecksum nofun rfl]
  rfl

/-- The record of a row that is returned: the entry with its number and the instant of storing, its time
as it comes back from one count. -/
def readBack (e : SealedEntry) (n storedAt : Int) : Record :=
  { e.stored n (.ofLinearMicroseconds storedAt) with
    timestamp := .ofLinearMicroseconds e.timestamp.linearMicroseconds
    stateChange := e.stateChange.map StateChange.withoutNulls }

/-- **The row that is returned is read**, whatever was bound. -/
theorem readRecord_returned {row : Row} {e : SealedEntry} {n storedAt : Int}
    (h : Returned row e n storedAt) : readRecord row = .ok (readBack e n storedAt) := by
  have h1 : readRecord row =
    ((AuditRow.ofRow row).mapError DriverError.storageError).bind AuditRow.record := rfl
  have h2 : (AuditRow.returned e n storedAt).record = .ok (readBack e n storedAt) := by
    have hkind : ActorKind.ofWord? (AuditRow.returned e n storedAt).actorType = some e.actor.kind :=
      ActorKind.ofWord?_word _
    have hretention : Retention.ofWord? (AuditRow.returned e n storedAt).retentionClass =
      some e.retention := Retention.ofWord?_word _
    rw [AuditRow.record, hkind, hretention]
    rfl
  rw [h1, AuditRow.ofRow_returned h]
  exact h2

/-! ## The statement of an entry -/

theorem values_placeList (vs : List Value) : Statement.values (placeList vs) = vs := by
  induction vs with
  | nil => rfl
  | cons v rest ih =>
    cases rest with
    | nil => rfl
    | cons w others =>
      have h : Statement.values (placeList (v :: w :: others)) =
        v :: Statement.values (placeList (w :: others)) := rfl
      rw [h, ih]

theorem values_insertion (e : SealedEntry) :
    (insertion e).values = (insertedValues e).map (·.2) := by
  have h : (insertion e).values =
      Statement.values (placeList ((insertedValues e).map (·.2)) ++
        [.text ") RETURNING sequence_number, stored_at"]) := rfl
  rw [h, Statement.values, List.filterMap_append]
  exact (List.append_nil _).trans (values_placeList _)

/-- A row with the values that were bound and what is added. -/
def returnedRow (e : SealedEntry) (n storedAt : Int) : Row :=
  (insertedValues e).map (fun p => (p.1.name, p.2)) ++
    [(Column.sequenceNumber.name, .int n), (Column.storedAt.name, .timestamp storedAt)]

theorem returned_returnedRow (e : SealedEntry) (n storedAt : Int) :
    Returned (returnedRow e n storedAt) e n storedAt where
  bound := by
    simp only [insertedValues, List.forall_mem_cons, List.not_mem_nil, false_implies, implies_true,
      and_true]
    exact ⟨rfl, rfl, rfl, rfl, rfl, rfl, rfl, rfl, rfl, rfl, rfl, rfl, rfl, rfl, rfl, rfl, rfl, rfl, rfl,
      rfl⟩
  sequenceNumber := rfl
  storedAt := rfl

/-! ## Seals -/

section Seal

variable (s : Submission) (fresh : FreshIds) (now : Instant) (n storedAt : Int)

theorem whole_seal : (s.seal fresh now).timestamp.nanos % 1000 = 0 := by
  have h : (s.seal fresh now).timestamp = (s.timestamp.getD now).toMicroseconds := rfl
  rw [h, Instant.nanos_toMicroseconds]
  omega

theorem timestamp_readBack_iff :
    (readBack (s.seal fresh now) n storedAt).timestamp = (s.seal fresh now).timestamp ↔
      ¬ (s.timestamp.getD now).LeapSecond := by
  have h1 : (s.seal fresh now).timestamp = (s.timestamp.getD now).toMicroseconds := rfl
  rw [← Instant.leapSecond_toMicroseconds, ← h1]
  exact Instant.ofLinear_eq_iff (whole_seal s fresh now)

theorem canonical_readBack_iff :
    (readBack (s.seal fresh now) n storedAt).canonical = (s.seal fresh now).canonical ↔
      ¬ (s.timestamp.getD now).LeapSecond := by
  rw [← timestamp_readBack_iff s fresh now n storedAt]
  have h : (readBack (s.seal fresh now) n storedAt).canonical =
    { (s.seal fresh now).canonical with
      timestamp := (readBack (s.seal fresh now) n storedAt).timestamp } := rfl
  constructor
  · intro he
    exact congrArg Canonical.timestamp he
  · intro ht
    rw [h, ht]
    rfl

theorem text_readBack_iff :
    (readBack (s.seal fresh now) n storedAt).canonical.text = (s.seal fresh now).canonical.text ↔
      ¬ (s.timestamp.getD now).LeapSecond := by
  rw [Canonical.text_eq_iff]
  constructor
  · intro h
    -- the text has the microseconds only, which is all that the two times have
    have h1 : (readBack (s.seal fresh now) n storedAt).timestamp.toMicroseconds =
      (s.seal fresh now).timestamp.toMicroseconds := h.timestamp
    have hwhole := whole_seal s fresh now
    have hback : (readBack (s.seal fresh now) n storedAt).timestamp.nanos % 1000 = 0 :=
      Instant.ofLinear_whole hwhole
    rw [Instant.toMicroseconds_eq hwhole, Instant.toMicroseconds_eq hback] at h1
    exact (timestamp_readBack_iff s fresh now n storedAt).mp h1
  · intro h
    rw [(canonical_readBack_iff s fresh now n storedAt).mpr h]
    exact (Canonical.text_eq_iff _ _).mp rfl

theorem intact_readBack_iff :
    (readBack (s.seal fresh now) n storedAt).intact = true ↔
      ¬ (s.timestamp.getD now).LeapSecond ∨
        Collision (utf8 (readBack (s.seal fresh now) n storedAt).canonical.text)
          (utf8 (s.seal fresh now).canonical.text) := by
  have h : (readBack (s.seal fresh now) n storedAt).checksum =
    (s.seal fresh now).canonical.checksum := rfl
  rw [Record.intact, h, Canonical.sealedBy_checksum, text_readBack_iff]

end Seal

/-- **A record that is read back** from a row with the values that were bound. It has the fields of the
entry, and it is sealed as the entry is, exactly if its time lies in no leap second. A leap second comes
back as the second behind it, so that the seal is broken unless the two texts collide. -/
theorem record_read_back (s : Submission) (fresh : FreshIds) (now : Instant) {row : Row}
    {n storedAt : Int} (h : Returned row (s.seal fresh now) n storedAt) :
    ∃ r, readRecord row = .ok r ∧ r = readBack (s.seal fresh now) n storedAt ∧
      (r.canonical = (s.seal fresh now).canonical ↔ ¬ (s.timestamp.getD now).LeapSecond) ∧
      (r.intact = true ↔ ¬ (s.timestamp.getD now).LeapSecond ∨
        Collision (utf8 r.canonical.text) (utf8 (s.seal fresh now).canonical.text)) ∧
      ((s.timestamp.getD now).LeapSecond →
        r.timestamp.seconds = (s.seal fresh now).timestamp.seconds + 1 ∧
        r.timestamp.nanos = (s.seal fresh now).timestamp.nanos - 1000000000) := by
  refine ⟨_, readRecord_returned h, rfl, canonical_readBack_iff s fresh now n storedAt,
    intact_readBack_iff s fresh now n storedAt, fun hleap => ?_⟩
  have hwhole := whole_seal s fresh now
  have hseal : (s.seal fresh now).timestamp.LeapSecond :=
    (Instant.leapSecond_toMicroseconds _).mpr hleap
  have hbound := (s.seal fresh now).timestamp.inSecond
  have hseconds := Instant.seconds_ofLinear hwhole
  have hnanos := Instant.nanos_ofLinear hwhole
  unfold Instant.LeapSecond at hseal
  constructor
  · refine hseconds.trans ?_
    omega
  · refine hnanos.trans ?_
    omega

/-- The refund is read back as it was sealed. -/
theorem refund_read_back :
    let e := Submission.refund.seal ⟨⟨2⟩, ⟨3⟩⟩ .epoch
    ∃ r, readRecord (returnedRow e 1 0) = .ok r ∧ r.canonical = e.canonical ∧ r.intact = true := by
  intro e
  obtain ⟨r, hr, -, hcanonical, hintact, -⟩ := record_read_back Submission.refund ⟨⟨2⟩, ⟨3⟩⟩ .epoch
    (returned_returnedRow e 1 0)
  have hleap : ¬ (Submission.refund.timestamp.getD .epoch).LeapSecond := by decide
  exact ⟨r, hr, hcanonical.mpr hleap, hintact.mpr (Or.inl hleap)⟩

/-- The middle of the leap second 2016-12-31T23:59:60. -/
def leapSecond2016 : Instant := ⟨1483228799, 1500000000, Or.inr (by decide)⟩

/-- A refund seen in a leap second is in order and is found altered when it is read back. -/
theorem leap_second_found_altered :
    let s := { Submission.refund with timestamp := some leapSecond2016 }
    let e := s.seal ⟨⟨2⟩, ⟨3⟩⟩ .epoch
    s.violations = [] ∧ Returned (returnedRow e 1 0) e 1 0 ∧
      ∃ r, readRecord (returnedRow e 1 0) = .ok r ∧ r.canonical ≠ e.canonical ∧ r.intact = false := by
  intro s e
  have hleap : s.timestamp.getD .epoch = leapSecond2016 := rfl
  refine ⟨by decide +kernel, returned_returnedRow e 1 0, _,
    readRecord_returned (returned_returnedRow e 1 0), ?_, by decide +kernel⟩
  rw [Ne, canonical_readBack_iff, hleap]
  decide

end Sql

end EventLedger
