import EventLedger.Audit.Store.Memory

/-!
# Memories that grow

What appending to a memory does to the order of its records, and what a page of such a memory is.

* `Memory.append_cases`: nothing is written, or all entries are;
* `Memory.Numbered`: sequence numbers run from one to the counter in the order of storing;
* **`Memory.Numbered.append`**, `Memory.prefix_append`: appending keeps that and takes nothing away;
* `Memory.Numbered.increasing`, **`Memory.Numbered.page_causal`**: records are listed as they stand.
-/

namespace EventLedger

namespace Memory

/-! ## Entries written -/

theorem numbered_eq_mapIdx (storedAt : Instant) (last : Int) (entries : List SealedEntry) :
    numbered storedAt last entries =
      entries.mapIdx fun i e => e.stored (last + i + 1) storedAt := by
  induction entries generalizing last with
  | nil => rfl
  | cons e rest ih =>
    rw [numbered, List.mapIdx_cons, ih]
    congr 1
    · congr 1
      omega
    · congr 1
      funext i e
      congr 1
      omega

theorem map_id_numbered (storedAt : Instant) (last : Int) (entries : List SealedEntry) :
    (numbered storedAt last entries).map (·.id) = entries.map (·.id) := by
  induction entries generalizing last with
  | nil => rfl
  | cons e rest ih =>
    rw [numbered, List.map_cons, List.map_cons, ih]
    rfl

theorem firstRepeated_eq_none_iff (seen ids : List Uuid) :
    firstRepeated seen ids = none ↔ ids.Nodup ∧ ∀ id ∈ ids, id ∉ seen := by
  induction ids generalizing seen with
  | nil => simp [firstRepeated]
  | cons id rest ih =>
    rw [firstRepeated]
    by_cases h : id ∈ seen
    · simp [h]
    · simp only [List.contains_eq_mem, h, decide_false, Bool.false_eq_true, if_false, ih,
        List.mem_cons, List.nodup_cons, not_or, forall_eq_or_imp]
      constructor
      · rintro ⟨h1, h2⟩
        exact ⟨⟨fun hm => (h2 id hm).1 rfl, h1⟩, not_false, fun a ha => (h2 a ha).2⟩
      · rintro ⟨⟨h1, h2⟩, -, h3⟩
        exact ⟨h2, fun a ha => ⟨fun e => h1 (e ▸ ha), h3 a ha⟩⟩

/-- **Either an id repeats and nothing is written, or all entries are.** -/
theorem append_cases (storedAt : Instant) (entries : List SealedEntry) (m : Memory) :
    (∃ id, firstRepeated (m.records.map (·.id)) (entries.map (·.id)) = some id ∧
      append storedAt entries m = (.error (repeatedId id), m)) ∨
    (firstRepeated (m.records.map (·.id)) (entries.map (·.id)) = none ∧
      append storedAt entries m =
        (.ok (numbered storedAt m.lastSequence entries),
          ⟨m.records ++ numbered storedAt m.lastSequence entries,
            m.lastSequence + entries.length⟩)) := by
  unfold append
  cases h : firstRepeated (m.records.map (·.id)) (entries.map (·.id)) with
  | some id => exact Or.inl ⟨id, rfl, rfl⟩
  | none => exact Or.inr ⟨rfl, rfl⟩

/-- Sequence numbers run from one to the counter in the order of storing. -/
structure Numbered (m : Memory) : Prop where
  sequence : m.records.map (·.sequenceNumber) =
    (List.range m.records.length).map fun i : Nat => (i : Int) + 1
  counter : m.lastSequence = m.records.length

/-! ## Numbers in the order of storing -/

theorem length_numbered (storedAt : Instant) (last : Int) (entries : List SealedEntry) :
    (numbered storedAt last entries).length = entries.length := by
  rw [numbered_eq_mapIdx, List.length_mapIdx]

theorem map_sequenceNumber_numbered (storedAt : Instant) (last : Int)
    (entries : List SealedEntry) :
    (numbered storedAt last entries).map (·.sequenceNumber) =
      (List.range entries.length).map fun i : Nat => last + i + 1 := by
  rw [numbered_eq_mapIdx]
  apply List.ext_getElem
  · simp
  · intro i h1 h2
    simp [SealedEntry.stored]

theorem precedes_causal {a b : Record} (h : a.sequenceNumber < b.sequenceNumber) :
    RecordOrder.causal.precedes a b = true := by
  have h1 : RecordOrder.causal.compare a b =
    compareOfLessAndEq a.sequenceNumber b.sequenceNumber := rfl
  rw [RecordOrder.precedes, h1, compareOfLessAndEq, if_pos h]
  rfl

theorem numbered_empty : empty.Numbered := ⟨rfl, rfl⟩

namespace Numbered

variable {m : Memory}

theorem extend (hm : m.Numbered) (storedAt : Instant) (entries : List SealedEntry) :
    Numbered ⟨m.records ++ numbered storedAt m.lastSequence entries,
      m.lastSequence + entries.length⟩ where
  sequence := by
    rw [List.map_append, hm.sequence, map_sequenceNumber_numbered, hm.counter,
      List.length_append, length_numbered, List.range_add, List.map_append, List.map_map]
    rfl
  counter := by
    rw [List.length_append, length_numbered, hm.counter]
    exact (Int.natCast_add _ _).symm

theorem append (hm : m.Numbered) (storedAt : Instant) (entries : List SealedEntry) :
    (Memory.append storedAt entries m).2.Numbered := by
  rcases append_cases storedAt entries m with ⟨id, -, ha⟩ | ⟨-, ha⟩
  · rw [ha]
    exact hm
  · rw [ha]
    exact hm.extend storedAt entries

theorem increasing (hm : m.Numbered) :
    m.records.Pairwise fun a b => a.sequenceNumber < b.sequenceNumber := by
  rw [← List.pairwise_map (R := (· < ·)), hm.sequence, List.pairwise_map]
  refine List.pairwise_lt_range.imp fun h => ?_
  omega

theorem length_lt (hm : m.Numbered) (hc : Text.i64.holds m.lastSequence = true) :
    m.records.length < Nat.pow 2 63 := by
  have h1 : m.lastSequence ≤ (Nat.pow 2 63 - 1 : Nat) := (Text.IntegerType.holds_iff.mp hc).2
  have h2 := hm.counter
  have h3 : 0 < Nat.pow 2 63 := Nat.pow_pos (by decide)
  omega

theorem holds_sequenceNumber (hm : m.Numbered) (hc : Text.i64.holds m.lastSequence = true)
    {r : Record} (hr : r ∈ m.records) : Text.i64.holds r.sequenceNumber = true := by
  have hmem : r.sequenceNumber ∈ m.records.map (·.sequenceNumber) := List.mem_map_of_mem hr
  rw [hm.sequence, List.mem_map] at hmem
  obtain ⟨i, hi, hnumber⟩ := hmem
  obtain ⟨hlow, hhigh⟩ := Text.IntegerType.holds_iff.mp hc
  rw [hm.counter] at hhigh
  rw [List.mem_range] at hi
  exact Text.IntegerType.holds_iff.mpr (by omega)

theorem sort_admitted (hm : m.Numbered) (f : Filter) :
    RecordOrder.causal.sort (m.admitted f) = m.admitted f :=
  List.mergeSort_of_pairwise ((hm.increasing.filter _).imp precedes_causal)

/-- **A page in the order of storing is a part of the records as they stand.** -/
theorem page_causal (hm : m.Numbered) (f : Filter) (limit offset : Int) :
    m.page f .causal limit offset = ((m.admitted f).drop offset.toNat).take limit.toNat := by
  rw [page, hm.sort_admitted]

end Numbered

theorem prefix_append (storedAt : Instant) (entries : List SealedEntry) (m : Memory) :
    m.records <+: (append storedAt entries m).2.records := by
  rcases append_cases storedAt entries m with ⟨id, -, ha⟩ | ⟨-, ha⟩
  · have h1 : (append storedAt entries m).2 = m := by rw [ha]
    exact h1.symm ▸ List.prefix_rfl
  · rw [ha]
    exact List.prefix_append _ _

end Memory

end EventLedger
