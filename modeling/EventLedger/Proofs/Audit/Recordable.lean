import EventLedger.Audit.Forwarder
import EventLedger.Proofs.Audit.Sealing
import EventLedger.Proofs.Text.Numbers

/-!
# Which events can be recorded

The dispatcher asks for a well-formed event type and for an attribution. All else that can be wrong
with the record of an event is a limit of the ledger: a text that is too long, or an identifier of
other events that is blank.

* `StatesText`, `StatesId`: what a payload says about a record; none of it is blank;
* **`Envelope.fieldFaults_submission`**: the faults that are left to the record of an accepted event;
* `Envelope.WithinLimits`, **`accepted_recordable_iff`**: the accepted events that can be recorded;
* `Envelope.suspension`: an example.
-/

namespace EventLedger

/-! ## Texts taken from a payload -/

theorem blank_toString_int (n : Int) : Text.blank (toString n) = false := by
  cases n with
  | ofNat n => exact (Text.neat_toString n).blank
  | negSucc n =>
    have h1 : (toString (Int.negSucc n)).toList = '-' :: (toString (n + 1)).toList :=
      String.toList_append
    exact Text.blank_eq_false (c := '-') (h1 ▸ List.mem_cons_self) (by decide)

theorem Json.mark_mem_decimalText (digits : Nat) (power : Int) :
    '.' ∈ decimalText digits power ∨ 'e' ∈ decimalText digits power := by
  unfold decimalText
  dsimp only
  split
  · exact Or.inl (by simp)
  · split
    · exact Or.inl (by simp)
    · split
      · exact Or.inl (by simp)
      · exact Or.inr (by simp [exponentText])

theorem blank_floatText (x : Decimal.Binary64) : Text.blank (Json.floatText x) = false := by
  have h1 : '.' ∈ (Json.floatText x).toList ∨ 'e' ∈ (Json.floatText x).toList := by
    have h2 := Json.mark_mem_decimalText x.shortest.1 x.shortest.2
    rw [Json.floatText, String.toList_ofList]
    cases x.isZero <;> cases x.negative <;> simp [h2]
  rcases h1 with h1 | h1
  · exact Text.blank_eq_false h1 (by decide)
  · exact Text.blank_eq_false h1 (by decide)

/-- A member of a payload is a text, perhaps with white space around it. -/
def StatesText (payload : Json) (name t : String) : Prop :=
  ∃ raw, payload.member? name = some (.str raw) ∧ Text.Neat t ∧ Text.Surrounds raw t

/-- A member of a payload is a text or a number. -/
def StatesId (payload : Json) (name t : String) : Prop :=
  StatesText payload name t ∨ (∃ n, payload.member? name = some (.int n) ∧ t = toString n) ∨
    ∃ x, payload.member? name = some (.float x) ∧ t = Json.floatText x

section

variable {payload : Json} {name t : String}

theorem payloadText?_eq_some_iff : payloadText? payload name = some t ↔ StatesText payload name t := by
  unfold payloadText? StatesText
  split
  · rename_i raw hraw
    simp [hraw, Text.nonBlank?_eq_some_iff]
  · rename_i hother
    exact iff_of_false nofun fun ⟨raw, hraw, _⟩ => hother raw hraw

theorem payloadId?_eq_some_iff : payloadId? payload name = some t ↔ StatesId payload name t := by
  unfold payloadId? StatesId StatesText
  split
  · rename_i raw hraw
    simp [hraw, Text.nonBlank?_eq_some_iff]
  · rename_i n hn
    simp [hn, eq_comm]
  · rename_i x hx
    simp [hx, eq_comm]
  · rename_i htext hint hfloat
    refine iff_of_false nofun ?_
    rintro (⟨raw, hraw, -⟩ | ⟨n, hn, -⟩ | ⟨x, hx, -⟩)
    · exact htext raw hraw
    · exact hint n hn
    · exact hfloat x hx

theorem StatesText.not_blank (h : StatesText payload name t) : Text.blank t = false := by
  obtain ⟨raw, -, hneat, -⟩ := h
  exact hneat.blank

theorem StatesId.not_blank (h : StatesId payload name t) : Text.blank t = false := by
  rcases h with htext | ⟨n, -, rfl⟩ | ⟨x, -, rfl⟩
  · exact htext.not_blank
  · exact blank_toString_int n
  · exact blank_floatText x

end

/-! ## The record of an accepted event -/

/-- What an accepted attribution says. -/
structure Attribution.Complete (a : Attribution) : Prop where
  actorId : Text.blank a.actorId = false
  source : Text.blank a.source = false
  reason : reasonFault a.actorKind a.reason = none

theorem complete_of_checkAttribution {a : Attribution} (h : checkAttribution a = .ok ()) :
    a.Complete := by
  unfold checkAttribution at h
  split at h
  · cases h
  · rename_i h1
    split at h
    · cases h
    · rename_i h2
      split at h
      · cases h
      · rename_i h3
        exact ⟨Bool.eq_false_iff.mpr h1, Bool.eq_false_iff.mpr h2, if_neg h3⟩

namespace Envelope

variable {e : Envelope}

theorem check_eq_ok_iff : e.check = .ok () ↔
    checkEventType e.eventType = .ok () ∧ checkAttribution e.metadata = .ok () := by
  unfold check
  cases h : checkEventType e.eventType with
  | error r => exact ⟨nofun, fun h0 => nomatch h0.1⟩
  | ok u => exact ⟨fun h0 => ⟨rfl, h0⟩, fun h0 => h0.2⟩

theorem blank_resource_kind (h : checkEventType e.eventType = .ok ()) :
    Text.blank e.submission.resource.kind = false := by
  have h1 : e.submission.resource.kind =
    (payloadText? e.payload "resourceType").getD (category e.eventType) := rfl
  rw [h1]
  cases hp : payloadText? e.payload "resourceType" with
  | none => exact blank_category h
  | some t => exact (payloadText?_eq_some_iff.mp hp).not_blank

theorem blank_resource_id (e : Envelope) : Text.blank e.submission.resource.id = false := by
  have h1 : e.submission.resource.id = ((payloadId? e.payload "resourceId").or
    (payloadId? e.payload "id")).getD e.eventId.text := rfl
  rw [h1]
  cases hp : payloadId? e.payload "resourceId" with
  | some t => exact (payloadId?_eq_some_iff.mp hp).not_blank
  | none =>
    cases hq : payloadId? e.payload "id" with
    | some t => exact (payloadId?_eq_some_iff.mp hq).not_blank
    | none => exact e.eventId.blank_text

/-- **What may be wrong with the record of an accepted event**: lengths, and blank identifiers of
other events. -/
theorem fieldFaults_submission (h : e.check = .ok ()) : e.submission.fieldFaults = [
    ("eventType", none),
    ("actor.id", checkLength identifierLimit e.metadata.actorId),
    ("resource.type", checkLength identifierLimit e.submission.resource.kind),
    ("resource.id", checkLength identifierLimit e.submission.resource.id),
    ("sourceService", checkLength identifierLimit e.metadata.source),
    ("action", checkLength actionLimit (lastPart e.eventType)),
    ("correlationId", checkRequired identifierLimit e.correlationId),
    ("causationId", e.causationId.bind (checkRequired identifierLimit)),
    ("reason", none),
    ("reason", e.metadata.reason.bind (checkLength textLimit)),
    ("description",
      (payloadText? e.payload "description").bind (checkLength textLimit))] := by
  obtain ⟨ht, ha⟩ := check_eq_ok_iff.mp h
  have h1 : eventTypeFault e.eventType = none := by rw [eventTypeFault, ht]
  obtain ⟨h2, h3, h4⟩ := complete_of_checkAttribution ha
  rw [← checkRequired_of_not_blank identifierLimit h2,
    ← checkRequired_of_not_blank identifierLimit (blank_resource_kind ht),
    ← checkRequired_of_not_blank identifierLimit (blank_resource_id e),
    ← checkRequired_of_not_blank identifierLimit h3,
    ← checkRequired_of_not_blank actionLimit (blank_lastPart ht)]
  have h5 : ("eventType", (none : Option Fault)) = ("eventType", eventTypeFault e.eventType) := by
    rw [h1]
  have h6 : ("reason", (none : Option Fault)) =
    ("reason", reasonFault e.metadata.actorKind e.metadata.reason) := by rw [h4]
  rw [h5, h6]
  rfl

/-- The limits of the ledger that the dispatcher does not ask for. -/
structure WithinLimits (e : Envelope) : Prop where
  actorId : e.metadata.actorId.length ≤ identifierLimit
  resourceKind : e.submission.resource.kind.length ≤ identifierLimit
  resourceId : e.submission.resource.id.length ≤ identifierLimit
  source : e.metadata.source.length ≤ identifierLimit
  action : (lastPart e.eventType).length ≤ actionLimit
  correlationId : Text.blank e.correlationId = false ∧ e.correlationId.length ≤ identifierLimit
  causationId : ∀ c, e.causationId = some c → Text.blank c = false ∧ c.length ≤ identifierLimit
  reason : ∀ t, e.metadata.reason = some t → t.length ≤ textLimit
  description : ∀ t, payloadText? e.payload "description" = some t → t.length ≤ textLimit

end Envelope

/-- **An accepted event can be recorded exactly if it keeps to the limits of the ledger.** -/
theorem accepted_recordable_iff {e : Envelope} (h : e.check = .ok ()) :
    e.submission.violations = [] ↔ e.WithinLimits := by
  rw [Submission.violations, Submission.violationsAt_eq_nil_iff, Envelope.fieldFaults_submission h]
  simp only [List.forall_mem_cons, List.not_mem_nil, false_implies, implies_true, and_true,
    true_and, checkLength_eq_none_iff, checkRequired_eq_none_iff, Option.bind_eq_none_iff]
  constructor
  · rintro ⟨h1, h2, h3, h4, h5, h6, h7, h8, h9⟩
    exact ⟨h1, h2, h3, h4, h5, h6, h7, h8, h9⟩
  · rintro ⟨h1, h2, h3, h4, h5, h6, h7, h8, h9⟩
    exact ⟨h1, h2, h3, h4, h5, h6, h7, h8, h9⟩

/-! ## A suspended account -/

/-- An administrator suspends an account, which the payload names by a number. -/
def Envelope.suspension : Envelope where
  eventId := ⟨7⟩
  eventType := "account.suspended"
  timestamp := .epoch
  correlationId := "case-9"
  causationId := some "evt-4"
  payload := .obj [("description", .str " on hold "), ("id", .int (-5)),
    ("resourceType", .str "\tcustomer account ")]
  metadata := ⟨"admin-7", .admin, "support-console", some "fraud review"⟩

theorem suspension_recordable :
    Envelope.suspension.check = .ok () ∧ Envelope.suspension.submission.violations = [] := by
  have h1 : Envelope.suspension.check = .ok () := rfl
  refine ⟨h1, (accepted_recordable_iff h1).mpr ?_⟩
  exact {
    actorId := by decide
    resourceKind := by decide
    resourceId := by decide
    source := by decide
    action := by decide
    correlationId := by decide
    causationId := fun c hc => by
      rw [← Option.some.inj hc]
      decide
    reason := fun t ht => by
      rw [← Option.some.inj ht]
      decide
    description := fun t ht => by
      rw [← Option.some.inj ht]
      decide }

/-- Without its correlation id the suspension is accepted still, and cannot be recorded. -/
theorem uncorrelated_suspension_unrecordable :
    ({ Envelope.suspension with correlationId := "" } : Envelope).check = .ok () ∧
      ({ Envelope.suspension with correlationId := "" } : Envelope).submission.violations =
        [.single "correlationId" .empty] := ⟨rfl, rfl⟩

end EventLedger
