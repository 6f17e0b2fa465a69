import EventLedger.Proofs.Audit.Recordable

/-!
# Why the record of an accepted event is refused

What the dispatcher accepts has a well-formed type and an attribution, and what the record takes from the
payload is never blank. Nine texts are left that may be too long, and two of them, the identifiers of other
events, may be blank.

* `Lapse`, `Lapse.Concerns`, `Lapse.text?_eq_some_iff`: the texts in question, and where they come from;
* `Lapse.Applies`, `Lapse.violation`: which of them are refused, and how;
* **`accepted_event_refusals`**, `Envelope.entangled`: all of them in their order, and an example.
-/

namespace EventLedger

/-! ## Texts that may be refused -/

/-- What is said in the first place, or else in the second one. -/
def OrElse (first second : String → Prop) (t : String) : Prop :=
  first t ∨ (∀ u, ¬ first u) ∧ second t

theorem getD_eq_iff {o : Option String} {t u : String} {first second : String → Prop}
    (h1 : ∀ t, o = some t ↔ first t) (h2 : u = t ↔ second t) :
    o.getD u = t ↔ OrElse first second t := by
  simp only [OrElse, ← h1, ← h2]
  cases o with
  | none => simp
  | some v => simp

/-- What may be refused about the record of an accepted event. -/
inductive Lapse where
  | actorId
  | resourceKind
  | resourceId
  | source
  | action
  | correlationId
  | causationId
  | reason
  | description
  deriving DecidableEq

namespace Lapse

/-- All of them, in the order of a report. -/
def all : List Lapse :=
  [actorId, resourceKind, resourceId, source, action, correlationId, causationId, reason, description]

/-- The field that is told of. -/
def field : Lapse → String
  | actorId => "actor.id"
  | resourceKind => "resource.type"
  | resourceId => "resource.id"
  | source => "sourceService"
  | action => "action"
  | correlationId => "correlationId"
  | causationId => "causationId"
  | reason => "reason"
  | description => "description"

/-- The greatest length of a text. -/
def limit : Lapse → Nat
  | action => 64
  | reason | description => 2000
  | _ => 255

/-- The text is an identifier of other events. -/
def links : Lapse → Bool
  | correlationId | causationId => true
  | _ => false

/-- A text of a submission. -/
def text? (s : Submission) : Lapse → Option String
  | actorId => some s.actor.id
  | resourceKind => some s.resource.kind
  | resourceId => some s.resource.id
  | source => some s.sourceService
  | action => some s.action
  | correlationId => s.correlationId
  | causationId => s.causationId
  | reason => s.reason
  | description => s.description

/-- A text that an event is recorded with: what the event says, or the payload, or where the payload says
nothing the event type and the event's own id. -/
def Concerns (e : Envelope) : Lapse → String → Prop
  | actorId, t => t = e.metadata.actorId
  | resourceKind, t => OrElse (StatesText e.payload "resourceType")
      (fun t => (Text.segments '.' e.eventType.toList).head? = some t.toList) t
  | resourceId, t => OrElse (StatesId e.payload "resourceId")
      (OrElse (StatesId e.payload "id") (· = e.eventId.text)) t
  | source, t => t = e.metadata.source
  | action, t => (Text.segments '.' e.eventType.toList).getLast? = some t.toList
  | correlationId, t => t = e.correlationId
  | causationId, t => e.causationId = some t
  | reason, t => e.metadata.reason = some t
  | description, t => StatesText e.payload "description" t

variable {e : Envelope} {l : Lapse} {t : String}

theorem text?_eq_some_iff : l.text? e.submission = some t ↔ l.Concerns e t := by
  cases l with
  | actorId | source | correlationId => exact Option.some_inj.trans eq_comm
  | causationId | reason => exact Iff.rfl
  | description => exact payloadText?_eq_some_iff
  | action =>
    have hlast : (Text.segments '.' e.eventType.toList).getLast? = some (lastPart e.eventType).toList := by
      rw [Text.getLast?_segments, lastPart, String.toList_ofList]
    rw [Concerns, hlast, Option.some_inj, String.toList_inj]
    exact Option.some_inj
  | resourceKind =>
    have hkind : e.submission.resource.kind =
      (payloadText? e.payload "resourceType").getD (category e.eventType) := rfl
    rw [text?, hkind, Option.some_inj]
    unfold Concerns
    refine getD_eq_iff (fun _ => payloadText?_eq_some_iff) ?_
    rw [head?_segments_category, Option.some_inj, String.toList_inj]
  | resourceId =>
    have hid : e.submission.resource.id = (payloadId? e.payload "resourceId").getD
      ((payloadId? e.payload "id").getD e.eventId.text) := Option.getD_or
    rw [text?, hid, Option.some_inj]
    exact getD_eq_iff (fun _ => payloadId?_eq_some_iff)
      (getD_eq_iff (fun _ => payloadId?_eq_some_iff) eq_comm)

/-! ## What is refused -/

/-- The text is too long, or an identifier of other events and blank. -/
def Applies (s : Submission) (l : Lapse) : Prop :=
  ∃ t ∈ l.text? s, (l.links = true ∧ Text.blank t = true) ∨ l.limit < t.length

instance (s : Submission) : DecidablePred (Applies s) := fun _ => inferInstanceAs (Decidable (∃ _, _))

/-- What is told of a text that is refused. -/
def violation (s : Submission) (l : Lapse) : Violation :=
  .single l.field
    (if l.links && (l.text? s).any Text.blank then .empty else .tooLong l.limit)

/-- What is wrong with a text. -/
def fault? (s : Submission) (l : Lapse) : Option Fault :=
  (l.text? s).bind fun t => if l.links then checkRequired l.limit t else checkLength l.limit t

theorem fault?_eq (s : Submission) (l : Lapse) :
    l.fault? s = if l.Applies s then some (l.violation s).fault else none := by
  cases ht : l.text? s with
  | none =>
    have hnot : ¬ l.Applies s := by simp [Applies, ht]
    rw [fault?, ht, if_neg hnot]
    rfl
  | some t =>
    have happlies : l.Applies s ↔ (l.links = true ∧ Text.blank t = true) ∨ l.limit < t.length := by
      simp [Applies, ht]
    have hviolation : (l.violation s).fault =
        if l.links && Text.blank t then .empty else .tooLong l.limit := by
      rw [violation, ht]
      rfl
    rw [fault?, ht, Option.bind_some, hviolation]
    simp only [happlies]
    cases l.links with
    | false => simp [checkLength]
    | true => cases hblank : Text.blank t <;> simp [checkRequired, hblank]

end Lapse

namespace Envelope

variable {e : Envelope}

theorem fieldFaults_eq (h : e.check = .ok ()) : e.submission.fieldFaults =
    ("eventType", none) ::
      ((Lapse.all.take 7).map (fun l => (l.field, l.fault? e.submission)) ++
        ("reason", none) :: (Lapse.all.drop 7).map fun l => (l.field, l.fault? e.submission)) := by
  rw [fieldFaults_submission h]
  simp only [Lapse.all, Lapse.fault?, Lapse.text?, Lapse.links, Lapse.limit, Lapse.field,
    List.take_succ_cons, List.take_zero, List.drop_succ_cons, List.drop_zero, List.map_cons,
    List.map_nil, List.cons_append, List.nil_append, Option.bind_some, Bool.false_eq_true, if_false,
    if_true]
  rfl

/-- **The violations of the record of an accepted event** are those of the texts that are refused. -/
theorem violations_submission (h : e.check = .ok ()) :
    e.submission.violations =
      (Lapse.all.filter fun l => l.Applies e.submission).map (·.violation e.submission) := by
  have hfaults : e.submission.violations = Lapse.all.filterMap fun l =>
      (l.fault? e.submission).map fun fault => ⟨none, l.field, fault⟩ := by
    rw [Submission.violations, Submission.violationsAt, fieldFaults_eq h, List.filterMap_cons_none rfl,
      List.filterMap_append, List.filterMap_cons_none rfl, List.filterMap_map, List.filterMap_map,
      ← List.filterMap_append, List.take_append_drop]
    rfl
  rw [hfaults, ← List.filterMap_eq_map, List.filterMap_filter]
  refine List.filterMap_congr fun l _ => ?_
  rw [Lapse.fault?_eq]
  by_cases happlies : l.Applies e.submission
  · simp [happlies, Lapse.violation, Violation.single]
  · simp [happlies]

end Envelope

theorem Lapse.fault_violation (s : Submission) (l : Lapse) :
    (l.violation s).fault = .tooLong l.limit ∨
      (l.violation s).fault = .empty ∧ (l = correlationId ∨ l = causationId) := by
  unfold violation Violation.single
  dsimp only
  split
  · rename_i hblank
    have hlinks : l.links = true := (Bool.and_eq_true_iff.mp hblank).1
    refine Or.inr ⟨rfl, ?_⟩
    cases l <;> first | exact Or.inl rfl | exact Or.inr rfl | cases hlinks
  · exact Or.inl rfl

theorem never_told {s : Submission} {l : Lapse} {v : Violation} (h : v = l.violation s) :
    v.index = none ∧ v.field ≠ "eventType" ∧ (∀ kind, v.fault ≠ .reasonRequired kind) ∧
      (v.fault = .empty → v.field = "correlationId" ∨ v.field = "causationId") := by
  have hfield : v.field = l.field := by rw [h]; rfl
  have hfault := l.fault_violation s
  rw [← h] at hfault
  refine ⟨by rw [h]; rfl, ?_, fun kind => ?_, fun hempty => ?_⟩
  · rw [hfield]
    cases l <;> decide
  · rcases hfault with hfault | ⟨hfault, -⟩ <;> rw [hfault] <;> exact nofun
  · rcases hfault with hfault | ⟨-, rfl | rfl⟩
    · rw [hfault] at hempty
      cases hempty
    · exact Or.inl hfield
    · exact Or.inr hfield

/-- **Why the record of an accepted event is refused.** Its violations are, in this order, those of the
texts that are too long, or identifiers of other events and blank; neither its type nor a missing reason
nor any other blank text is among them, whatever the payload says. -/
theorem accepted_event_refusals {e : Envelope} (h : e.check = .ok ()) :
    (∀ (l : Lapse) (t : String), l.text? e.submission = some t ↔ l.Concerns e t) ∧
      e.submission.violations =
        (Lapse.all.filter fun l => l.Applies e.submission).map (·.violation e.submission) ∧
      ∀ v ∈ e.submission.violations,
        v.index = none ∧ v.field ≠ "eventType" ∧ (∀ kind, v.fault ≠ .reasonRequired kind) ∧
          (v.fault = .empty → v.field = "correlationId" ∨ v.field = "causationId") := by
  have hviolations := Envelope.violations_submission h
  refine ⟨fun _ _ => Lapse.text?_eq_some_iff, hviolations, fun v hv => ?_⟩
  rw [hviolations] at hv
  obtain ⟨l, -, hl⟩ := List.mem_map.mp hv
  exact never_told hl.symm

/-- An administrator merges two accounts. The last segment of the event type has 65 characters, no other
event is named, and the payload says nothing about the record that is a text. -/
def Envelope.entangled : Envelope where
  eventId := ⟨7⟩
  eventType := "account.merged-under-the-name-of-the-account-that-was-opened-first-of-all"
  timestamp := .epoch
  correlationId := " "
  causationId := some ""
  payload := .obj [("description", .int 3), ("id", .str "\t"), ("resourceType", .null)]
  metadata := ⟨"admin-7", .admin, "support-console", some "duplicate"⟩

theorem entangled_refused :
    Envelope.entangled.check = .ok () ∧ Envelope.entangled.submission.violations =
      [.single "action" (.tooLong 64), .single "correlationId" .empty,
        .single "causationId" .empty] := by
  have h : Envelope.entangled.check = .ok () := rfl
  have hlapses : (Lapse.all.filter fun l => l.Applies Envelope.entangled.submission) =
      [.action, .correlationId, .causationId] := by
    decide +kernel
  refine ⟨h, ?_⟩
  rw [(accepted_event_refusals h).2.1, hlapses]
  rfl

end EventLedger
