import EventLedger.Proofs.Audit.Sealing
import EventLedger.Proofs.Digest.Collision
import EventLedger.Proofs.Json.Quoted
import EventLedger.Proofs.Time.Written

/-!
# Tamper evidence

The sealed text determines every sealed field, the time up to its microseconds. A record that keeps
its checksum though a sealed field was altered is therefore found out, unless the two texts collide.

* `Canonical.Agrees`: the same sealed fields, the time cut to microseconds;
* `endsBefore_escape`, `components_inj`: the components in front of their separators;
* `reasonPart_inj`: an absent reason is no escaped text;
* **`Canonical.text_eq_iff`**: the sealed text and the sealed fields determine each other;
* **`altered_record_intact_iff`**: what it takes to alter a record unnoticed.
-/

namespace EventLedger

open Text (EndsBefore)
open Digest (Collision utf8)

namespace Canonical

/-- The same fields, times being compared to the microsecond. -/
structure Agrees (a b : Canonical) : Prop where
  id : a.id = b.id
  correlationId : a.correlationId = b.correlationId
  eventType : a.eventType = b.eventType
  timestamp : a.timestamp.toMicroseconds = b.timestamp.toMicroseconds
  actor : a.actor = b.actor
  resource : a.resource = b.resource
  action : a.action = b.action
  reason : a.reason = b.reason

/-! ## Escaped components -/

theorem escapeChar_inj {a b : Char} {r s : List Char}
    (h : escapeChar a ++ r = escapeChar b ++ s) : a = b := by
  unfold escapeChar at h
  by_cases ha : a = '|' ∨ a = '\\'
  · by_cases hb : b = '|' ∨ b = '\\'
    · rw [if_pos ha, if_pos hb] at h
      exact (List.cons.inj (List.cons.inj h).2).1
    · rw [if_pos ha, if_neg hb] at h
      exact absurd (Or.inr (List.cons.inj h).1.symm) hb
  · by_cases hb : b = '|' ∨ b = '\\'
    · rw [if_neg ha, if_pos hb] at h
      exact absurd (Or.inr (List.cons.inj h).1) ha
    · rw [if_neg ha, if_neg hb] at h
      exact (List.cons.inj h).1

theorem escapeChar_append_ne_separator {a : Char} {r s : List Char} :
    escapeChar a ++ r ≠ '|' :: s := by
  unfold escapeChar
  intro h
  by_cases ha : a = '|' ∨ a = '\\'
  · rw [if_pos ha] at h
    exact absurd (List.cons.inj h).1 (by decide)
  · rw [if_neg ha] at h
    exact ha (Or.inl (List.cons.inj h).1)

theorem endsBefore_escape : EndsBefore '|' escape :=
  (EndsBefore.flatMap escapeChar_inj escapeChar_append_ne_separator).comp
    fun _ _ => String.toList_inj.mp

theorem escape_ne_absent (s : String) : escape s ≠ absent := by
  unfold escape absent
  intro h
  cases hs : s.toList with
  | nil => simp [hs] at h
  | cons c cs =>
    rw [hs, List.flatMap_cons] at h
    unfold escapeChar at h
    by_cases hc : c = '|' ∨ c = '\\'
    · rw [if_pos hc] at h
      obtain rfl : c = '0' := (List.cons.inj (List.cons.inj h).2).1
      exact absurd hc (by decide)
    · rw [if_neg hc] at h
      exact hc (Or.inr (List.cons.inj h).1)

theorem reasonPart_inj {a b : Canonical} (h : a.reasonPart = b.reasonPart) :
    a.reason = b.reason := by
  unfold reasonPart at h
  cases ha : a.reason with
  | none =>
    cases hb : b.reason with
    | none => rfl
    | some t =>
      rw [ha, hb] at h
      exact absurd h.symm (escape_ne_absent t)
  | some s =>
    cases hb : b.reason with
    | none =>
      rw [ha, hb] at h
      exact absurd h (escape_ne_absent s)
    | some t =>
      rw [ha, hb] at h
      rw [endsBefore_escape.injective h]

theorem length_components (c : Canonical) : c.components.length = 7 := rfl

theorem components_inj {xs ys : List String} {r s : List Char} (hl : xs.length = ys.length)
    (h : xs.flatMap (fun c => escape c ++ ['|']) ++ r =
      ys.flatMap (fun c => escape c ++ ['|']) ++ s) : xs = ys ∧ r = s := by
  induction xs generalizing ys with
  | nil =>
    obtain rfl := List.eq_nil_of_length_eq_zero hl.symm
    exact ⟨rfl, h⟩
  | cons x xs ih =>
    cases ys with
    | nil => exact absurd hl (Nat.succ_ne_zero _)
    | cons y ys =>
      simp only [List.flatMap_cons, List.append_assoc, List.singleton_append] at h
      obtain ⟨h1, h2⟩ := endsBefore_escape h
      obtain ⟨h3, h4⟩ := ih (Nat.succ.inj hl) h2
      exact ⟨by rw [h1, h3], h4⟩

end Canonical

/-! ## Written parts -/

theorem ActorKind.word_injective {k l : ActorKind} (h : k.word = l.word) : k = l := by
  have h1 := ActorKind.ofWord?_word k
  rw [h, ActorKind.ofWord?_word] at h1
  exact (Option.some.inj h1).symm

theorem Actor.compact_injective {a b : Actor} (h : a.toJson.compact = b.toJson.compact) :
    a = b := by
  obtain ⟨h1, h2⟩ := Json.compact_texts_inj h
  cases a
  cases b
  rw [Actor.mk.injEq]
  exact ⟨ActorKind.word_injective h1, h2⟩

theorem Resource.compact_injective {a b : Resource} (h : a.toJson.compact = b.toJson.compact) :
    a = b := by
  obtain ⟨h1, h2⟩ := Json.compact_texts_inj h
  cases a
  cases b
  rw [Resource.mk.injEq]
  exact ⟨h1, h2⟩

/-! ## The sealed text -/

/-- **The sealed text and the sealed fields determine each other.** -/
theorem Canonical.text_eq_iff (a b : Canonical) : a.text = b.text ↔ a.Agrees b := by
  constructor
  · intro h
    have hl : a.components.length = b.components.length := by
      rw [length_components, length_components]
    unfold text at h
    obtain ⟨hc, hr⟩ := components_inj hl (String.ofList_injective h)
    simp only [components, List.cons.injEq, and_true] at hc
    obtain ⟨hid, hcorrelation, htype, htime, hactor, hresource, haction⟩ := hc
    exact {
      id := Uuid.text_injective hid
      correlationId := hcorrelation
      eventType := htype
      timestamp := Instant.sealText_inj htime
      actor := Actor.compact_injective hactor
      resource := Resource.compact_injective hresource
      action := haction
      reason := reasonPart_inj hr }
  · intro h
    have htime := (Instant.sealText_eq_iff a.timestamp b.timestamp).mpr h.timestamp
    unfold text components reasonPart
    rw [h.id, h.correlationId, h.eventType, htime, h.actor, h.resource, h.action, h.reason]

/-! ## Checksums -/

theorem Canonical.sealedBy_checksum (a b : Canonical) :
    a.sealedBy b.checksum = true ↔ a.text = b.text ∨ Collision (utf8 a.text) (utf8 b.text) := by
  unfold sealedBy checksum
  rw [beq_iff_eq, Digest.lowerAscii_sha256Hex, Digest.lowerAscii_sha256Hex]
  exact Digest.sha256Hex_eq_iff a.text b.text

theorem Submission.seal_checksum (s : Submission) (fresh : FreshIds) (now : Instant) :
    (s.seal fresh now).checksum = (s.seal fresh now).canonical.checksum := rfl

/-- **Tamper evidence.** The sealed text tells any two sets of fields apart. A record that bears the
checksum of a sealed one though it differs in a sealed field passes the test exactly if the two
texts collide. -/
theorem altered_record_intact_iff :
    (∀ a b : Canonical, a.text = b.text ↔ a.Agrees b) ∧
    ∀ (s : Submission) (fresh : FreshIds) (now : Instant) (n : Int) (storedAt : Instant)
      (original altered : Record), original = (s.seal fresh now).stored n storedAt →
      altered.checksum = original.checksum → ¬ altered.canonical.Agrees original.canonical →
      (altered.intact = true ↔
        Collision (utf8 altered.canonical.text) (utf8 original.canonical.text)) := by
  refine ⟨Canonical.text_eq_iff, ?_⟩
  intro s fresh now n storedAt original altered horiginal hchecksum hdiffers
  have h1 : original.checksum = original.canonical.checksum := by
    rw [horiginal]
    exact s.seal_checksum fresh now
  rw [Record.intact, hchecksum, h1, Canonical.sealedBy_checksum]
  constructor
  · rintro (h | h)
    · exact absurd ((Canonical.text_eq_iff _ _).mp h) hdiffers
    · exact h
  · exact Or.inr

/-- The refund in the ledger. -/
def Record.refund : Record := (Submission.refund.seal ⟨⟨2⟩, ⟨3⟩⟩ .epoch).stored 1 .epoch

/-- The reason of a stored refund taken away. -/
theorem refund_without_reason :
    let altered := { Record.refund with reason := none }
    altered.checksum = Record.refund.checksum ∧
      ¬ altered.canonical.Agrees Record.refund.canonical ∧
      (altered.intact = true ↔
        Collision (utf8 altered.canonical.text) (utf8 Record.refund.canonical.text)) := by
  intro altered
  have hdiffers : ¬ altered.canonical.Agrees Record.refund.canonical := by
    intro h
    have h1 : (none : Option String) = some "charge\\back | review" := h.reason
    exact absurd h1 (Option.some_ne_none _).symm
  refine ⟨rfl, hdiffers, ?_⟩
  exact altered_record_intact_iff.2 Submission.refund ⟨⟨2⟩, ⟨3⟩⟩ .epoch 1 .epoch Record.refund
    altered rfl rfl hdiffers

end EventLedger
