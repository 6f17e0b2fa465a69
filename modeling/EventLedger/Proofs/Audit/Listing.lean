import EventLedger.Proofs.Audit.Growth

/-!
# The order of a listing

Records are compared by a key, and by their sequence number where the keys are equal. This is a total
order, and where no two records have the same sequence number it leaves nothing open.

* `transCmp_instant`, `transCmp_field`, `transCmp_compare`: instants, keys and records are compared
  by total orders;
* `RecordOrder.Lists`: these are the records, each once, in order;
* **`RecordOrder.lists_sort`**, `RecordOrder.Lists.unique`: sorting lists them, and nothing else does;
* **`RecordOrder.sort_descending`**: downwards is upwards reversed.
-/

namespace EventLedger

/-! ## Keys -/

theorem Instant.compare_eq (a b : Instant) :
    a.compare b = compareLex (compareOn Instant.seconds) (compareOn Instant.nanos) a b := by
  have hs : compareOn Instant.seconds a b = compareOfLessAndEq a.seconds b.seconds := rfl
  have hn : compareOn Instant.nanos a b = compareOfLessAndEq a.nanos b.nanos := rfl
  simp only [compareLex, hs, hn, Instant.compare, Instant.before, compareOfLessAndEq]
  rcases Int.lt_trichotomy a.seconds b.seconds with h | h | h
  · simp [h]
  · rcases Nat.lt_trichotomy a.nanos b.nanos with h1 | h1 | h1
    · simp [h, h1]
    · simp [h, h1]
    · have h2 : ¬ a.nanos < b.nanos := by omega
      have h3 : a.nanos ≠ b.nanos := by omega
      simp [h, h1, h2, h3]
  · have h1 : ¬ a.seconds < b.seconds := by omega
    have h2 : a.seconds ≠ b.seconds := by omega
    simp [h, h1, h2]

namespace RecordOrder

instance transCmp_instant : Std.TransCmp Instant.compare := by
  have h : Instant.compare = compareLex (compareOn Instant.seconds) (compareOn Instant.nanos) := by
    funext a b
    exact a.compare_eq b
  rw [h]
  infer_instance

instance transCmp_field (f : SortField) : Std.TransCmp fun a b => compareField a b f := by
  cases f with
  | timestamp => exact
      { eq_swap := transCmp_instant.eq_swap, isLE_trans := transCmp_instant.isLE_trans }
  | sequenceNumber => exact { eq_swap := rfl, isLE_trans := fun _ _ => rfl }
  | eventType => exact inferInstanceAs (Std.TransCmp (compareOn fun r : Record => r.eventType))

/-! ## Records -/

variable (o : RecordOrder) {a b c : Record}

theorem compare_ascending (f : SortField) :
    (RecordOrder.mk f .ascending).compare =
      compareLex (fun a b => compareField a b f) (compareOn fun r : Record => r.sequenceNumber) :=
  rfl

theorem compare_descending (f : SortField) (a b : Record) :
    (RecordOrder.mk f .descending).compare a b = (RecordOrder.mk f .ascending).compare b a := by
  have h : (RecordOrder.mk f .descending).compare a b =
    ((RecordOrder.mk f .ascending).compare a b).swap := rfl
  rw [h, compare_ascending, ← Std.OrientedCmp.eq_swap]

instance transCmp_compare : Std.TransCmp o.compare := by
  obtain ⟨f, d⟩ := o
  have hup : Std.TransCmp (RecordOrder.mk f .ascending).compare := by
    rw [compare_ascending]
    infer_instance
  cases d with
  | ascending => exact hup
  | descending =>
    refine { eq_swap := fun {a b} => ?_, isLE_trans := fun {a b c} h1 h2 => ?_ }
    · rw [compare_descending, compare_descending]
      exact hup.eq_swap
    · rw [compare_descending] at h1 h2 ⊢
      exact hup.isLE_trans h2 h1

theorem precedes_iff : o.precedes a b = true ↔ (o.compare a b).isLE = true := by
  rw [precedes, Ordering.isLE_iff_ne_gt, bne_iff_ne]

theorem sequenceNumber_eq_of_compare (h : o.compare a b = .eq) :
    a.sequenceNumber = b.sequenceNumber := by
  obtain ⟨f, d⟩ := o
  have hup : (RecordOrder.mk f .ascending).compare a b = .eq := by
    cases d with
    | ascending => exact h
    | descending => exact Std.OrientedCmp.eq_comm.mp (compare_descending f a b ▸ h)
  rw [compare_ascending, compareLex, Ordering.then_eq_eq] at hup
  exact Std.LawfulEqOrd.eq_of_compare hup.2

/-! ## Listings -/

/-- These are the records, each once, in order. -/
structure Lists (rs listed : List Record) : Prop where
  perm : listed.Perm rs
  ordered : listed.Pairwise fun a b => o.compare a b = .lt

variable {rs : List Record}

theorem Lists.unique {listed others : List Record} (h : o.Lists rs listed) (ho : o.Lists rs others) :
    listed = others := by
  refine (h.perm.trans ho.perm.symm).eq_of_pairwise (fun a b _ _ hab hba => ?_) h.ordered ho.ordered
  have h1 : o.compare a b = (o.compare b a).swap := Std.OrientedCmp.eq_swap
  rw [hab, hba] at h1
  cases h1

theorem pairwise_sort (rs : List Record) :
    (o.sort rs).Pairwise fun a b => o.precedes a b = true := by
  refine List.pairwise_mergeSort (fun a b c h1 h2 => ?_) (fun a b => ?_) rs
  · rw [precedes_iff] at h1 h2 ⊢
    exact Std.TransCmp.isLE_trans h1 h2
  · rw [Bool.or_eq_true, precedes_iff, precedes_iff]
    cases h : o.compare a b with
    | lt => exact Or.inl rfl
    | eq => exact Or.inl rfl
    | gt =>
      rw [Std.OrientedCmp.gt_iff_lt] at h
      rw [h]
      exact Or.inr rfl

theorem lists_of_ordered (hd : rs.Pairwise fun a b => a.sequenceNumber ≠ b.sequenceNumber)
    {listed : List Record} (hperm : listed.Perm rs)
    (hordered : listed.Pairwise fun a b => (o.compare a b).isLE = true) : o.Lists rs listed where
  perm := hperm
  ordered := by
    have hdiff : listed.Pairwise fun a b => a.sequenceNumber ≠ b.sequenceNumber :=
      hperm.symm.pairwise hd fun h => h.symm
    refine (hordered.and hdiff).imp fun {a b} h => ?_
    rcases Ordering.isLE_iff_eq_lt_or_eq_eq.mp h.1 with hlt | heq
    · exact hlt
    · exact absurd (o.sequenceNumber_eq_of_compare heq) h.2

/-- **Records with different sequence numbers are listed by sorting.** -/
theorem lists_sort (hd : rs.Pairwise fun a b => a.sequenceNumber ≠ b.sequenceNumber) :
    o.Lists rs (o.sort rs) :=
  lists_of_ordered o hd (List.mergeSort_perm rs _)
    ((o.pairwise_sort rs).imp fun h => (o.precedes_iff).mp h)

/-- **Sorted downwards, records with different sequence numbers stand as sorted upwards, from the
last to the first.** -/
theorem sort_descending (f : SortField)
    (hd : rs.Pairwise fun a b => a.sequenceNumber ≠ b.sequenceNumber) :
    (RecordOrder.mk f .descending).sort rs = ((RecordOrder.mk f .ascending).sort rs).reverse := by
  have hup := lists_sort ⟨f, .ascending⟩ hd
  have hdown : (RecordOrder.mk f .descending).Lists rs
      ((RecordOrder.mk f .ascending).sort rs).reverse := by
    constructor
    · exact (List.reverse_perm _).trans hup.perm
    · rw [List.pairwise_reverse]
      refine hup.ordered.imp fun {a b} h => ?_
      rw [compare_descending]
      exact h
  exact (lists_sort ⟨f, .descending⟩ hd).unique _ hdown

end RecordOrder

end EventLedger
