import EventLedger.Audit.Canonical
import EventLedger.Event.Envelope
import EventLedger.Proofs.Json.Typed
import EventLedger.Proofs.Sql.ReadBack
import EventLedger.Proofs.Time.ReadBack
import EventLedger.Proofs.Uuid

/-!
# Values that travel in JSON documents

An envelope, a submission or a record that was read from a JSON value is read again from the value that
is written of it, whatever form the first one had.

* `instant?_ofInstant`, `uuid?_ofUuid`, `ActorKind.ofJson?_toJson`: the parts;
* `Envelope.Legible`, `Submission.Legible`, `Record.Legible`: what can be read back;
* `ofJson?_toJson`: it is;
* `legible_of_ofJson?`: everything that was read can be;
* **`wire_round_trip`**.
-/

namespace EventLedger

open Json

/-! ## Parts -/

theorem Json.instant?_ofInstant {t : Instant} (h : t.inCalendar = true) :
    instant? (ofInstant t) = some t := by
  simp only [instant?, ofInstant, text?, Option.bind_some, Instant.read_wireText h]

theorem Json.inCalendar_of_instant? {j : Json} {t : Instant} (h : instant? j = some t) :
    t.inCalendar = true := by
  obtain ⟨s, -, hs⟩ := Option.bind_eq_some_iff.mp h
  split at hs
  · rename_i hr
    obtain rfl := Option.some.inj hs
    exact Instant.inCalendar_of_read hr
  · cases hs

theorem Json.uuid?_ofUuid (u : Uuid) : uuid? (ofUuid u) = some u := by
  simp only [uuid?, ofUuid, text?, Option.bind_some, Uuid.read?_text]

theorem ActorKind.ofJson?_toJson (k : ActorKind) : ofJson? k.toJson = some k := ofWord?_word k

theorem Retention.ofJson?_toJson (r : Retention) : ofJson? r.toJson = some r := ofWord?_word r

theorem Actor.ofJson?_toJson (a : Actor) : ofJson? a.toJson = some a := by
  refine typed_of_reads ?_
  unfold reader
  refine Reads.bind (reads_required rfl a.kind.ofJson?_toJson) ?_
  exact Reads.bind (reads_required rfl rfl) (Reads.pure _)

theorem Resource.ofJson?_toJson (r : Resource) : ofJson? r.toJson = some r := by
  refine typed_of_reads ?_
  unfold reader
  refine Reads.bind (reads_required rfl rfl) ?_
  exact Reads.bind (reads_required rfl rfl) (Reads.pure _)

theorem Attribution.ofJson?_toJson (a : Attribution) : ofJson? a.toJson = some a := by
  refine typed_of_reads ?_
  unfold reader
  refine Reads.bind (reads_required rfl rfl) ?_
  refine Reads.bind (reads_required rfl a.actorKind.ofJson?_toJson) ?_
  refine Reads.bind (reads_required rfl rfl) ?_
  refine Reads.bind (reads_whenPresent .str ?_ (fun _ _ => rfl) nofun) (Reads.pure _)
  cases a.reason <;> rfl

/-! ## What can be read back -/

/-- The time lies in the calendar. -/
def Envelope.Legible (e : Envelope) : Prop := e.timestamp.inCalendar = true

/-- A time, if one is given, lies in the calendar, and no part of a change of state is a null. -/
structure Submission.Legible (s : Submission) : Prop where
  timestamp : ∀ t ∈ s.timestamp, t.inCalendar = true
  stateChange : ∀ c ∈ s.stateChange, c.withoutNulls = c

/-- The times lie in the calendar, the number has 64 bits, and no part of a change of state is a
null. -/
structure Record.Legible (r : Record) : Prop where
  timestamp : r.timestamp.inCalendar = true
  storedAt : r.storedAt.inCalendar = true
  sequenceNumber : Text.i64.holds r.sequenceNumber = true
  stateChange : ∀ c ∈ r.stateChange, c.withoutNulls = c

theorem Envelope.ofJson?_toJson {e : Envelope} (h : e.Legible) : ofJson? e.toJson = some e := by
  refine typed_of_reads ?_
  unfold reader
  refine Reads.bind (reads_required rfl (uuid?_ofUuid _)) ?_
  refine Reads.bind (reads_required rfl rfl) ?_
  refine Reads.bind (reads_required rfl (instant?_ofInstant h)) ?_
  refine Reads.bind (reads_required rfl rfl) ?_
  refine Reads.bind (reads_whenPresent .str (o := e.causationId) ?_ (fun _ _ => rfl) nofun) ?_
  · cases e.causationId <;> rfl
  refine Reads.bind (reads_required (j := e.payload) ?_ rfl) ?_
  · cases e.causationId <;> rfl
  refine Reads.bind (reads_required (j := e.metadata.toJson) ?_ e.metadata.ofJson?_toJson)
    (Reads.pure _)
  cases e.causationId <;> rfl

theorem read_stateChange {o : Option StateChange} (h : ∀ c ∈ o, c.withoutNulls = c) :
    ∀ c ∈ o, StateChange.ofJson? c.toJson = some c := fun c hc => by
  rw [c.ofJson?_toJson, h c hc]

theorem Submission.ofJson?_toJson {s : Submission} (h : s.Legible) : ofJson? s.toJson = some s := by
  refine typed_of_reads ?_
  unfold reader
  refine Reads.bind (reads_orNullOf ofUuid rfl (fun u _ => uuid?_ofUuid u) nofun) ?_
  refine Reads.bind (reads_required rfl rfl) ?_
  refine Reads.bind (reads_orNullOf ofInstant rfl
    (fun t ht => instant?_ofInstant (h.timestamp t ht)) nofun) ?_
  refine Reads.bind (reads_orNullOf .str (o := s.correlationId) ?_ (fun _ _ => rfl) nofun) ?_
  · cases s.correlationId <;> rfl
  refine Reads.bind (reads_orNullOf .str (o := s.causationId) ?_ (fun _ _ => rfl) nofun) ?_
  · cases s.causationId <;> rfl
  refine Reads.bind (reads_required rfl s.actor.ofJson?_toJson) ?_
  refine Reads.bind (reads_required rfl s.resource.ofJson?_toJson) ?_
  refine Reads.bind (reads_required rfl rfl) ?_
  refine Reads.bind (reads_orNullOf .str (o := s.reason) ?_ (fun _ _ => rfl) nofun) ?_
  · cases s.reason <;> rfl
  refine Reads.bind (reads_orNullOf .str (o := s.description) ?_ (fun _ _ => rfl) nofun) ?_
  · cases s.description <;> rfl
  refine Reads.bind (reads_required rfl rfl) ?_
  refine Reads.bind (reads_defaulted rfl rfl) ?_
  refine Reads.bind (reads_defaulted rfl rfl) ?_
  refine Reads.bind (reads_orNullOf StateChange.toJson rfl (read_stateChange h.stateChange) nofun) ?_
  refine Reads.bind (reads_defaulted rfl s.retention.ofJson?_toJson) ?_
  exact Reads.bind (reads_defaulted rfl rfl) (Reads.pure _)

theorem Record.ofJson?_toJson {r : Record} (h : r.Legible) : ofJson? r.toJson = some r := by
  have hnumber : integer? Text.i64 (.int r.sequenceNumber) = some r.sequenceNumber :=
    if_pos h.sequenceNumber
  refine typed_of_reads ?_
  unfold reader
  refine Reads.bind (reads_required rfl (uuid?_ofUuid _)) ?_
  refine Reads.bind (reads_required rfl hnumber) ?_
  refine Reads.bind (reads_required rfl rfl) ?_
  refine Reads.bind (reads_required rfl rfl) ?_
  refine Reads.bind (reads_required rfl (instant?_ofInstant h.timestamp)) ?_
  refine Reads.bind (reads_required rfl (instant?_ofInstant h.storedAt)) ?_
  refine Reads.bind (reads_required rfl rfl) ?_
  -- behind a member that may be left out, the others are found with it and without it
  refine Reads.bind (reads_whenPresent .str (o := r.causationId) ?_ (fun _ _ => rfl) nofun) ?_
  · cases r.causationId <;> cases r.description <;> cases r.stateChange <;> rfl
  refine Reads.bind (reads_required (j := r.actor.toJson) ?_ r.actor.ofJson?_toJson) ?_
  · cases r.causationId <;> rfl
  refine Reads.bind (reads_required (j := r.resource.toJson) ?_ r.resource.ofJson?_toJson) ?_
  · cases r.causationId <;> rfl
  refine Reads.bind (reads_required (j := .str r.action) ?_ rfl) ?_
  · cases r.causationId <;> rfl
  refine Reads.bind (reads_orNullOf .str (o := r.reason) ?_ (fun _ _ => rfl) nofun) ?_
  · cases r.causationId <;> cases r.reason <;> rfl
  refine Reads.bind (reads_whenPresent .str (o := r.description) ?_ (fun _ _ => rfl) nofun) ?_
  · cases r.causationId <;> cases r.description <;> cases r.stateChange <;> rfl
  refine Reads.bind (reads_required (j := .str r.sourceService) ?_ rfl) ?_
  · cases r.causationId <;> cases r.description <;> rfl
  refine Reads.bind (reads_required (j := r.payload) ?_ rfl) ?_
  · cases r.causationId <;> cases r.description <;> rfl
  refine Reads.bind (reads_required (j := .obj r.metadata) ?_ rfl) ?_
  · cases r.causationId <;> cases r.description <;> rfl
  refine Reads.bind (reads_whenPresent StateChange.toJson ?_ (read_stateChange h.stateChange) nofun) ?_
  · cases r.causationId <;> cases r.description <;> cases r.stateChange <;> rfl
  refine Reads.bind (reads_required (j := r.retention.toJson) ?_ r.retention.ofJson?_toJson) ?_
  · cases r.causationId <;> cases r.description <;> cases r.stateChange <;> rfl
  refine Reads.bind (reads_required (j := .bool r.containsPii) ?_ rfl) ?_
  · cases r.causationId <;> cases r.description <;> cases r.stateChange <;> rfl
  refine Reads.bind (reads_required (j := .str r.checksum) ?_ rfl) (Reads.pure _)
  cases r.causationId <;> cases r.description <;> cases r.stateChange <;> rfl

/-! ## What has been read -/

theorem withoutNulls_of_ofJson? {j : Json} {c : StateChange} (h : StateChange.ofJson? j = some c) :
    c.withoutNulls = c := by
  have hpart : ∀ name, Gives (Json.optional name some) fun o => unlessNull o = o := by
    refine fun name => gives_defaulted rfl fun j o ho => ?_
    cases j <;> obtain rfl := Option.some.inj ho <;> rfl
  have hreader : Gives StateChange.reader fun c => c.withoutNulls = c := by
    unfold StateChange.reader
    refine (hpart _).bind fun before hbefore => (hpart _).bind fun after hafter => Gives.pure ?_
    rw [StateChange.withoutNulls, hbefore, hafter]
  exact hreader.of_typed h

theorem Envelope.legible_of_ofJson? {j : Json} {e : Envelope} (h : ofJson? j = some e) :
    e.Legible := by
  have hreader : Gives reader Envelope.Legible := by
    unfold reader
    refine Gives.skip fun _ => Gives.skip fun _ => ?_
    refine (gives_required fun _ _ => inCalendar_of_instant?).bind fun t ht => ?_
    refine Gives.skip fun _ => Gives.skip fun _ => Gives.skip fun _ => Gives.skip fun _ => ?_
    exact Gives.pure ht
  exact hreader.of_typed h

theorem Submission.legible_of_ofJson? {j : Json} {s : Submission} (h : ofJson? j = some s) :
    s.Legible := by
  have hreader : Gives reader Submission.Legible := by
    unfold reader
    refine Gives.skip fun _ => Gives.skip fun _ => ?_
    refine (gives_optional fun _ _ => inCalendar_of_instant?).bind fun t ht => ?_
    iterate 10 refine Gives.skip fun _ => ?_
    refine (gives_optional fun _ _ => withoutNulls_of_ofJson?).bind fun c hc => ?_
    refine Gives.skip fun _ => Gives.skip fun _ => Gives.pure ⟨ht, hc⟩
  exact hreader.of_typed h

theorem Record.legible_of_ofJson? {j : Json} {r : Record} (h : ofJson? j = some r) : r.Legible := by
  have hnumber : ∀ j n, integer? Text.i64 j = some n → Text.i64.holds n = true := by
    intro j n hn
    unfold integer? at hn
    split at hn
    · split at hn
      · obtain rfl := Option.some.inj hn
        assumption
      · cases hn
    · cases hn
  have hreader : Gives reader Record.Legible := by
    unfold reader
    refine Gives.skip fun _ => ?_
    refine (gives_required hnumber).bind fun n hn => ?_
    refine Gives.skip fun _ => Gives.skip fun _ => ?_
    refine (gives_required fun _ _ => inCalendar_of_instant?).bind fun t ht => ?_
    refine (gives_required fun _ _ => inCalendar_of_instant?).bind fun u hu => ?_
    iterate 10 refine Gives.skip fun _ => ?_
    refine (gives_optional fun _ _ => withoutNulls_of_ofJson?).bind fun c hc => ?_
    refine Gives.skip fun _ => Gives.skip fun _ => Gives.skip fun _ => ?_
    exact Gives.pure ⟨ht, hu, hn, hc⟩
  exact hreader.of_typed h

/-- **What travels in JSON documents arrives.** From whatever JSON value an envelope, a submission or a
record was read, it is read again from the value that is written of it; a record is as intact as before.
Of the values that were not read, those can be read back that a document can hold. -/
theorem wire_round_trip :
    RoundTrip Envelope.toJson Envelope.ofJson? Envelope.Legible ∧
    RoundTrip Submission.toJson Submission.ofJson? Submission.Legible ∧
    RoundTrip Record.toJson Record.ofJson? Record.Legible ∧
    ∀ j, (Record.ofJson? j).bind (fun r => (Record.ofJson? r.toJson).map Record.intact) =
      (Record.ofJson? j).map Record.intact := by
  have hrecord : RoundTrip Record.toJson Record.ofJson? Record.Legible :=
    .of_legible Record.legible_of_ofJson? Record.ofJson?_toJson
  refine ⟨.of_legible Envelope.legible_of_ofJson? Envelope.ofJson?_toJson,
    .of_legible Submission.legible_of_ofJson? Submission.ofJson?_toJson, hrecord, fun j => ?_⟩
  cases h : Record.ofJson? j with
  | none => rfl
  | some r =>
    rw [Option.bind_some, Record.ofJson?_toJson (Record.legible_of_ofJson? h)]

end EventLedger
