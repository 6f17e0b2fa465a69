import EventLedger.Proofs.Audit.Growth
import EventLedger.Proofs.Audit.Operations
import EventLedger.Proofs.Audit.Sealing

/-!
# The ledger only grows

Any calls that write to a ledger in memory, one after another: whatever they hand in, the records
stay numbered without gaps, distinct and sound, and nothing that is there changes. A call comes to
the memory once at most, when it appends; calls that overlap are therefore calls in the order in
which they append.

* `Writing`, `Writing.perform`, `memoryAfter`: calls and runs;
* `Writing.Answered`, **`Writing.answered`**: a call is refused, or appends what it has sealed;
* `Memory.Consistent`, `Memory.Keeps`: what holds of a state, and of two states of a run;
* **`ledger_append_only`**.
-/

namespace EventLedger

namespace Memory

/-- A ledger over records in memory. -/
def ledger (limits : Limits) (storedAt : Instant) : Ledger (StateM Memory) :=
  ⟨store storedAt, limits⟩

theorem limits_ledger (limits : Limits) (storedAt : Instant) :
    (ledger limits storedAt).limits = limits := rfl

theorem run_append (limits : Limits) (storedAt : Instant) (entries : List SealedEntry)
    (m : Memory) :
    ((ledger limits storedAt).store.append entries).run m = append storedAt entries m := rfl

theorem run_find? (limits : Limits) (storedAt : Instant) (id : Uuid) (m : Memory) :
    ((ledger limits storedAt).find? id).run m = (.ok (m.find? id), m) := rfl

end Memory

/-! ## Calls -/

/-- A call that writes to the ledger, with the identifiers drawn for it, the instant at which it
seals and the one at which it stores. -/
inductive Writing where
  | single (fresh : FreshIds) (now storedAt : Instant) (s : Submission)
  | batch (fresh : Nat → FreshIds) (now storedAt : Instant) (submissions : List Submission)

namespace Writing

/-- What is handed in. -/
def inputs : Writing → List Submission
  | single _ _ _ s => [s]
  | batch _ _ _ submissions => submissions

/-- The identifiers drawn for an input. -/
def fresh : Writing → Nat → FreshIds
  | single fresh _ _ _ => fun _ => fresh
  | batch fresh _ _ _ => fresh

/-- The instant of sealing. -/
def now : Writing → Instant
  | single _ now _ _ => now
  | batch _ now _ _ => now

/-- The instant of storing. -/
def storedAt : Writing → Instant
  | single _ _ storedAt _ => storedAt
  | batch _ _ storedAt _ => storedAt

/-- What is wrong with the number of inputs. -/
def sizeFault (limits : Limits) : Writing → Option Fault
  | single _ _ _ _ => none
  | batch _ _ _ submissions => limits.batchFault submissions.length

/-- The inputs sealed. -/
def entries (w : Writing) : List SealedEntry := Ledger.sealBatch w.fresh w.now w.inputs

/-- The records of the inputs, with consecutive numbers in their order and one instant of
storing. -/
def added (w : Writing) (last : Int) : List Record :=
  w.inputs.mapIdx fun i s => (s.seal (w.fresh i) w.now).stored (last + i + 1) w.storedAt

/-- What the call answers, and the memory it leaves behind. -/
def perform (limits : Limits) (m : Memory) :
    Writing → Except LedgerError (List Record) × Memory
  | single fresh now storedAt s =>
    let done := ((Memory.ledger limits storedAt).submit fresh now s).run m
    (done.1.map ([·]), done.2)
  | batch fresh now storedAt submissions =>
    ((Memory.ledger limits storedAt).submitBatch fresh now submissions).run m

/-- There is nothing against the call: neither in number and fields of its inputs nor in their
ids. -/
structure Admissible (limits : Limits) (m : Memory) (w : Writing) : Prop where
  size : w.sizeFault limits = none
  valid : ∀ s ∈ w.inputs, s.violations = []
  distinct : (w.entries.map (·.id)).Nodup
  unused : ∀ id ∈ w.entries.map (·.id), id ∉ m.records.map (·.id)

/-- What a call does to the memory it finds. -/
structure Answered (limits : Limits) (m : Memory) (w : Writing) : Prop where
  accepted : w.Admissible limits m → w.perform limits m =
    (.ok (w.added m.lastSequence),
      ⟨m.records ++ w.added m.lastSequence, m.lastSequence + w.inputs.length⟩)
  refused : ¬w.Admissible limits m → ∃ e, w.perform limits m = (.error e, m)

theorem numbered_entries (w : Writing) (last : Int) :
    Memory.numbered w.storedAt last w.entries = w.added last := by
  rw [Memory.numbered_eq_mapIdx, entries, Ledger.sealBatch, List.mapIdx_mapIdx]
  rfl

theorem length_entries (w : Writing) : w.entries.length = w.inputs.length := by
  rw [entries, Ledger.sealBatch, List.length_mapIdx]

theorem admissible_iff {limits : Limits} {m : Memory} {w : Writing}
    (hs : w.sizeFault limits = none) (hv : ∀ s ∈ w.inputs, s.violations = []) :
    w.Admissible limits m ↔
      Memory.firstRepeated (m.records.map (·.id)) (w.entries.map (·.id)) = none := by
  rw [Memory.firstRepeated_eq_none_iff]
  constructor
  · intro h
    exact ⟨h.distinct, h.unused⟩
  · rintro ⟨h1, h2⟩
    exact ⟨hs, hv, h1, h2⟩

theorem answered_of_append {limits : Limits} {m : Memory} {w : Writing}
    (hs : w.sizeFault limits = none) (hv : ∀ s ∈ w.inputs, s.violations = [])
    (he : ∀ e, Memory.append w.storedAt w.entries m = (.error e, m) →
      w.perform limits m = (.error (.storage e), m))
    (ho : ∀ later, Memory.append w.storedAt w.entries m =
        (.ok (Memory.numbered w.storedAt m.lastSequence w.entries), later) →
      w.perform limits m = (.ok (Memory.numbered w.storedAt m.lastSequence w.entries), later)) :
    w.Answered limits m := by
  rcases Memory.append_cases w.storedAt w.entries m with ⟨id, hr, ha⟩ | ⟨hn, ha⟩
  · refine ⟨fun h => ?_, fun _ => ⟨_, he _ ha⟩⟩
    rw [(admissible_iff hs hv).mp h] at hr
    cases hr
  · have h1 := ho _ ha
    rw [numbered_entries, length_entries] at h1
    exact ⟨fun _ => h1, fun h => absurd ((admissible_iff hs hv).mpr hn) h⟩

theorem answered_single (limits : Limits) (m : Memory) (fresh : FreshIds)
    (now storedAt : Instant) (s : Submission) :
    (single fresh now storedAt s).Answered limits m := by
  have h1 := Ledger.run_submit (Memory.ledger limits storedAt) m fresh now s
  by_cases h : s.violations = []
  · rw [if_pos h, Memory.run_append] at h1
    refine answered_of_append rfl (fun t ht => ?_) (fun e ha => ?_) (fun later ha => ?_)
    · rw [List.mem_singleton.mp ht]
      exact h
    · have h2 : Memory.append storedAt [s.seal fresh now] m = (.error e, m) := ha
      simp only [perform]
      rw [h1, h2]
      rfl
    · have h2 : Memory.append storedAt [s.seal fresh now] m =
        (.ok [(s.seal fresh now).stored (m.lastSequence + 1) storedAt], later) := ha
      simp only [perform]
      rw [h1, h2]
      rfl
  · rw [if_neg h] at h1
    refine ⟨fun ha => absurd (ha.valid s List.mem_cons_self) h, fun _ => ?_⟩
    simp only [perform]
    rw [h1]
    exact ⟨_, rfl⟩

theorem answered_batch (limits : Limits) (m : Memory) (fresh : Nat → FreshIds)
    (now storedAt : Instant) (submissions : List Submission) :
    (batch fresh now storedAt submissions).Answered limits m := by
  have h1 := Ledger.run_submitBatch (Memory.ledger limits storedAt) m fresh now submissions
  cases hb : limits.batchFault submissions.length with
  | some fault =>
    rw [Memory.limits_ledger, hb] at h1
    refine ⟨fun ha => ?_, fun _ => ⟨_, h1⟩⟩
    have h2 : limits.batchFault submissions.length = none := ha.size
    rw [h2] at hb
    cases hb
  | none =>
    rw [Memory.limits_ledger, hb] at h1
    dsimp only at h1
    by_cases h : batchViolations submissions = []
    · rw [if_pos h, Memory.run_append] at h1
      refine answered_of_append hb ((batchViolations_eq_nil_iff _).mp h) (fun e ha => ?_)
        (fun later ha => ?_)
      · have h2 : Memory.append storedAt (Ledger.sealBatch fresh now submissions) m =
          (.error e, m) := ha
        rw [h2] at h1
        exact h1
      · have h2 : Memory.append storedAt (Ledger.sealBatch fresh now submissions) m =
          (.ok _, later) := ha
        rw [h2] at h1
        exact h1
    · rw [if_neg h] at h1
      exact ⟨fun ha => absurd ((batchViolations_eq_nil_iff _).mpr ha.valid) h, fun _ => ⟨_, h1⟩⟩

/-- **A call is refused without a trace or appends what it has sealed.** -/
theorem answered (limits : Limits) (m : Memory) : (w : Writing) → w.Answered limits m
  | single fresh now storedAt s => answered_single limits m fresh now storedAt s
  | batch fresh now storedAt submissions => answered_batch limits m fresh now storedAt submissions

theorem perform_snd (limits : Limits) (m : Memory) (w : Writing) :
    (w.perform limits m).2 = m ∨
    (w.Admissible limits m ∧ (w.perform limits m).2 =
      ⟨m.records ++ w.added m.lastSequence, m.lastSequence + w.inputs.length⟩) := by
  by_cases h : w.Admissible limits m
  · exact Or.inr ⟨h, by rw [(w.answered limits m).accepted h]⟩
  · obtain ⟨e, he⟩ := (w.answered limits m).refused h
    exact Or.inl (by rw [he])

/-! ### What is added -/

theorem map_id_added (w : Writing) (last : Int) :
    (w.added last).map (·.id) = w.entries.map (·.id) := by
  rw [← numbered_entries, Memory.map_id_numbered]

theorem sound_of_mem_added {w : Writing} {last : Int} {r : Record}
    (hv : ∀ s ∈ w.inputs, s.violations = []) (hr : r ∈ w.added last) : r.Sound := by
  obtain ⟨i, hi, rfl⟩ := List.mem_mapIdx.mp hr
  exact Submission.sound_seal _ _ (hv _ (List.getElem_mem hi)) _ _

end Writing

/-! ## Runs -/

/-- What holds of every memory that is only written to by calls. -/
structure Memory.Consistent (m : Memory) : Prop extends m.Numbered where
  distinct : (m.records.map (·.id)).Nodup
  sound : ∀ r ∈ m.records, r.Sound

/-- What a memory still holds of an earlier one. -/
structure Memory.Keeps (m later : Memory) : Prop where
  grown : m.records <+: later.records
  found : ∀ (limits : Limits) (storedAt : Instant), ∀ r ∈ m.records,
    ((ledger limits storedAt).find? r.id).run later = (.ok (some r), later)

/-- The memory after the calls, one after another. -/
def memoryAfter (limits : Limits) (m : Memory) (calls : List Writing) : Memory :=
  calls.foldl (fun m w => (w.perform limits m).2) m

namespace Memory

theorem consistent_empty : empty.Consistent where
  toNumbered := numbered_empty
  distinct := List.nodup_nil
  sound := fun _ h => absurd h List.not_mem_nil

/-- **A call keeps the memory consistent.** -/
theorem Consistent.perform {m : Memory} (hm : m.Consistent) (limits : Limits) (w : Writing) :
    (w.perform limits m).2.Consistent := by
  rcases w.perform_snd limits m with h1 | ⟨ha, h1⟩
  · rw [h1]
    exact hm
  · rw [h1]
    constructor
    · rw [← w.numbered_entries, ← w.length_entries]
      exact hm.toNumbered.extend w.storedAt w.entries
    · rw [List.map_append, w.map_id_added]
      refine List.nodup_append.mpr ⟨hm.distinct, ha.distinct, ?_⟩
      intro id h2 id' h3 e
      exact ha.unused id' h3 (e ▸ h2)
    · intro r hr
      rcases List.mem_append.mp hr with h2 | h2
      · exact hm.sound r h2
      · exact w.sound_of_mem_added ha.valid h2

theorem find?_of_nodup {records : List Record} (h : (records.map (·.id)).Nodup) {r : Record}
    (hr : r ∈ records) : records.find? (·.id == r.id) = some r := by
  induction records with
  | nil => exact absurd hr List.not_mem_nil
  | cons a rest ih =>
    rw [List.map_cons, List.nodup_cons] at h
    rcases List.mem_cons.mp hr with rfl | hr
    · exact List.find?_cons_of_pos (beq_self_eq_true _)
    · have h1 : a.id ≠ r.id := fun e => h.1 (e ▸ List.mem_map_of_mem hr)
      rw [List.find?_cons_of_neg (by simpa using h1)]
      exact ih h.2 hr

theorem Consistent.keeps {m later : Memory} (hl : later.Consistent)
    (hg : m.records <+: later.records) : m.Keeps later := by
  refine ⟨hg, fun limits storedAt r hr => ?_⟩
  rw [run_find?, Memory.find?, find?_of_nodup hl.distinct (hg.subset hr)]

end Memory

theorem Writing.prefix_perform (w : Writing) (limits : Limits) (m : Memory) :
    m.records <+: (w.perform limits m).2.records := by
  rcases w.perform_snd limits m with h1 | ⟨-, h1⟩
  · exact h1.symm ▸ List.prefix_rfl
  · rw [h1]
    exact List.prefix_append _ _

theorem consistent_memoryAfter (limits : Limits) {m : Memory} (hm : m.Consistent)
    (calls : List Writing) : (memoryAfter limits m calls).Consistent := by
  induction calls generalizing m with
  | nil => exact hm
  | cons w rest ih => exact ih (hm.perform limits w)

theorem prefix_memoryAfter (limits : Limits) (m : Memory) (calls : List Writing) :
    m.records <+: (memoryAfter limits m calls).records := by
  induction calls generalizing m with
  | nil => exact List.prefix_rfl
  | cons w rest ih => exact (w.prefix_perform limits m).trans (ih _)

theorem memoryAfter_append (limits : Limits) (m : Memory) (calls later : List Writing) :
    memoryAfter limits m (calls ++ later) =
      memoryAfter limits (memoryAfter limits m calls) later :=
  List.foldl_append

/-- **The ledger is append-only.** After any calls the memory is consistent; it keeps all it holds
through any further calls; and a further call appends its inputs as a whole or changes nothing. -/
theorem ledger_append_only (limits : Limits) (calls : List Writing) :
    (memoryAfter limits .empty calls).Consistent ∧
    (∀ later, (memoryAfter limits .empty calls).Keeps
      (memoryAfter limits .empty (calls ++ later))) ∧
    ∀ w : Writing, w.Answered limits (memoryAfter limits .empty calls) := by
  have h1 := consistent_memoryAfter limits Memory.consistent_empty
  refine ⟨h1 calls, fun later => (h1 (calls ++ later)).keeps ?_, fun w => w.answered limits _⟩
  rw [memoryAfter_append]
  exact prefix_memoryAfter limits _ later

end EventLedger
