import EventLedger.Proofs.Audit.AppendOnly
import EventLedger.Proofs.Verification.Quiet
import EventLedger.Verification.CommandLine

/-!
# What the options of the verifier select

The options name a start, an end, both or neither. Where only one of them is given, another bound is
put in for the one that is missing: 1970 as the start, the present as the end. What lies outside of it
is not verified although the options ask for it, and a given bound that lies outside of it itself makes
the range start after its end.

* `Arguments.wants`, `Arguments.cutOff`: what the options ask for, and what a bound put in takes away;
* `range_eq_ok_iff`, **`contains_of_range`**: the range of the options in these terms;
* `Arguments.Verifies`: the verification of these options tells of these records;
* **`verifies_selected`**: the records that are verified;
* **`verifies_wanted_iff`**: when they are the ones asked for.
-/

namespace EventLedger

/-! ## Bounds given and put in -/

namespace Arguments

/-- The options ask for an instant: it is within the bounds that are given. -/
def wants (a : Arguments) (t : Instant) : Bool :=
  a.start.all (·.notAfter t) && a.finish.all (t.notAfter ·)

/-- An instant is outside a bound that is put in beside a given one. -/
def cutOff (a : Arguments) (now t : Instant) : Bool :=
  (a.start.isNone && a.finish.isSome && t.before .epoch) ||
    (a.finish.isNone && a.start.isSome && now.before t)

/-- One of the bounds that are given. -/
def Given (a : Arguments) (t : Instant) : Prop := a.start = some t ∨ a.finish = some t

/-- If both bounds are given, the start is not after the end. -/
def InOrder (a : Arguments) : Prop :=
  ∀ s ∈ a.start, ∀ f ∈ a.finish, s.notAfter f = true

/-- The records that are asked for and not cut off. -/
def selects (a : Arguments) (now : Instant) (r : Record) : Bool :=
  a.wants r.timestamp && !a.cutOff now r.timestamp

variable {a : Arguments} {now : Instant}

theorem cutOff_eq_false (h : a.start.isSome = a.finish.isSome) (t : Instant) :
    a.cutOff now t = false := by
  cases hs : a.start <;> cases hf : a.finish <;> simp_all [cutOff]

theorem range_eq_ok_some_iff (h : a.start.isSome = true ∨ a.finish.isSome = true)
    {range : Option DateRange} :
    a.range now = .ok range ↔
      (a.finish.getD now).before (a.start.getD .epoch) = false ∧
        range = some ⟨a.start.getD .epoch, a.finish.getD now⟩ := by
  have hrange : a.range now =
      (DateRange.make (a.start.getD .epoch) (a.finish.getD now)).map some := by
    cases hs : a.start <;> cases hf : a.finish <;> simp_all [Arguments.range]
  rw [hrange, DateRange.make, DateRange.violations]
  cases (a.finish.getD now).before (a.start.getD .epoch) <;> simp [Except.map, eq_comm]

theorem range_of_none (hs : a.start = none) (hf : a.finish = none) : a.range now = .ok none := by
  rw [Arguments.range, hs, hf]

theorem range_eq_ok_iff (ho : a.InOrder) :
    (∃ range, a.range now = .ok range) ↔ ∀ t, a.Given t → a.cutOff now t = false := by
  cases hs : a.start with
  | none =>
    cases hf : a.finish with
    | none => simp [range_of_none hs hf, Given, hs, hf]
    | some f => simp [range_eq_ok_some_iff (a := a) (.inr (by simp [hf])), Given, cutOff, hs, hf]
  | some s =>
    rw [exists_congr fun _ => range_eq_ok_some_iff (a := a) (.inl (by simp [hs]))]
    cases hf : a.finish with
    | none => simp [Given, cutOff, hs, hf]
    | some f =>
      have hle := ho s hs f hf
      simp_all [Given, cutOff, Instant.notAfter]

variable {range : Option DateRange} (h : a.range now = .ok range)

include h

/-- **The range has in it what is asked for and not cut off.** -/
theorem contains_of_range (t : Instant) :
    range.all (·.contains t) = (a.wants t && !a.cutOff now t) := by
  cases hs : a.start with
  | none =>
    cases hf : a.finish with
    | none =>
      rw [range_of_none hs hf] at h
      obtain rfl := Except.ok.inj h
      simp [wants, cutOff, hs, hf]
    | some f =>
      obtain ⟨-, rfl⟩ := (range_eq_ok_some_iff (.inr (by simp [hf]))).mp h
      simp [wants, cutOff, DateRange.contains, Instant.notAfter, hs, hf, Bool.and_comm]
  | some s =>
    obtain ⟨-, rfl⟩ := (range_eq_ok_some_iff (.inl (by simp [hs]))).mp h
    cases hf : a.finish <;> simp [wants, cutOff, DateRange.contains, Instant.notAfter, hs, hf]

theorem violations_of_range (size : Nat) (failFast : Bool) :
    (VerifyOptions.filter ⟨range, size, failFast⟩).violations = [] := by
  by_cases hgiven : a.start.isSome = true ∨ a.finish.isSome = true
  · obtain ⟨hb, rfl⟩ := (range_eq_ok_some_iff hgiven).mp h
    exact if_neg (by simp [hb])
  · rw [range_of_none (by simpa using fun e => hgiven (.inl e))
      (by simpa using fun e => hgiven (.inr e))] at h
    obtain rfl := Except.ok.inj h
    rfl

end Arguments

/-! ## Records that are verified -/

/-- The options have a range, and the verification is the one of these records in the order of their
sequence numbers, as far as it goes: their report, unless checking them breaks off. -/
def Arguments.Verifies (a : Arguments) (limits : Limits) (now : Instant) (m : Memory)
    (rs : List Record) : Prop :=
  ∃ range, a.range now = .ok range ∧
    ∀ storedAt startedAt finishedAt,
      (verifyLedger (Memory.ledger limits storedAt) ⟨range, a.pageSizeOrDefault, a.failFast⟩
        startedAt finishedAt).run m =
      (.ok (VerificationReport.ofRecords? startedAt finishedAt
        (examined a.failFast (RecordOrder.causal.sort rs))), m)

namespace Arguments

section

variable {limits : Limits} {m : Memory} (hm : m.records.length < Nat.pow 2 63) {a : Arguments}
  {now : Instant} (h1 : 1 ≤ a.pageSizeOrDefault) (h2 : a.pageSizeOrDefault ≤ limits.maxPageSize)
  (hn : pageCount m.records.length a.pageSizeOrDefault < pageLimit)

include hm h1 h2 hn

theorem run_verifyLedger_range {range : Option DateRange} (hr : a.range now = .ok range)
    (storedAt startedAt finishedAt : Instant) :
    (verifyLedger (Memory.ledger limits storedAt) ⟨range, a.pageSizeOrDefault, a.failFast⟩
      startedAt finishedAt).run m =
    (.ok (VerificationReport.ofRecords? startedAt finishedAt
      (examined a.failFast (RecordOrder.causal.sort (m.records.filter (a.selects now))))), m) := by
  have hadmitted : m.admitted (VerifyOptions.filter ⟨range, a.pageSizeOrDefault, a.failFast⟩) =
      m.records.filter (a.selects now) := by
    rw [VerifyOptions.admitted_filter]
    congr 1
    funext r
    exact contains_of_range hr r.timestamp
  have hcount : (m.records.filter (a.selects now)).length ≤ m.records.length :=
    List.length_filter_le _ _
  rw [← hadmitted] at hcount ⊢
  exact run_verifyLedger_memory limits _ storedAt h1 h2 (violations_of_range hr _ _)
    (pageCount_lt_of_le hcount h1 hn) (Nat.lt_of_le_of_lt hcount hm) startedAt finishedAt

theorem verifies_selected (ho : a.InOrder) (hgiven : ∀ t, a.Given t → a.cutOff now t = false) :
    a.Verifies limits now m (m.records.filter (a.selects now)) := by
  obtain ⟨range, hr⟩ := (range_eq_ok_iff ho).mpr hgiven
  exact ⟨range, hr, run_verifyLedger_range hm h1 h2 hn hr⟩

/-- **They are the records asked for** exactly if no given bound and none of these records is cut
off. -/
theorem verifies_wanted_iff (ho : a.InOrder)
    (hsteps : Stepwise (m.records.filter (a.wants ·.timestamp)))
    (hintact : a.failFast = true → ∀ r ∈ m.records, r.intact = true) :
    a.Verifies limits now m (m.records.filter (a.wants ·.timestamp)) ↔
      (∀ t, a.Given t → a.cutOff now t = false) ∧
        ∀ r ∈ m.records, a.wants r.timestamp = true → a.cutOff now r.timestamp = false := by
  have hselects : m.records.filter (a.selects now) =
      (m.records.filter (a.wants ·.timestamp)).filter fun r => !a.cutOff now r.timestamp := by
    rw [List.filter_filter]
    congr 1
    funext r
    exact Bool.and_comm _ _
  have hall : ∀ p : Record → Bool,
      examined a.failFast (RecordOrder.causal.sort (m.records.filter p)) =
        RecordOrder.causal.sort (m.records.filter p) := fun p =>
    examined_of_intact fun hf r hr =>
      hintact hf r (List.mem_filter.mp ((List.mergeSort_perm _ _).subset hr)).1
  constructor
  · rintro ⟨range, hr, hrun⟩
    refine ⟨(range_eq_ok_iff ho).mp ⟨range, hr⟩, fun r hmem hwants => ?_⟩
    -- the number of the records in the report tells that none of them is missing
    have hruns := (hrun .epoch .epoch .epoch).symm.trans
      (run_verifyLedger_range hm h1 h2 hn hr .epoch .epoch .epoch)
    have hreports := Except.ok.inj (Prod.mk.inj hruns).1
    have hcontinuable :
        Continuable (RecordOrder.causal.sort (m.records.filter (a.wants ·.timestamp))) :=
      (hsteps.perm (List.mergeSort_perm _ _).symm).continuable (pairwise_sort_causal _)
    rw [hall, hall, VerificationReport.ofRecords?_of_continuable hcontinuable, eq_comm] at hreports
    have hchecked : (m.records.filter (a.wants ·.timestamp)).length =
        (m.records.filter (a.selects now)).length := by
      simpa [VerificationReport.ofRecords, RecordOrder.sort] using
        VerificationReport.recordsChecked_of_ofRecords? hreports
    rw [hselects, eq_comm, List.length_filter_eq_length_iff] at hchecked
    simpa using hchecked r (List.mem_filter.mpr ⟨hmem, hwants⟩)
  · rintro ⟨hgiven, hkept⟩
    have hsame : m.records.filter (a.selects now) = m.records.filter (a.wants ·.timestamp) := by
      rw [hselects, List.filter_eq_self]
      intro r hr
      obtain ⟨hmem, hwants⟩ := List.mem_filter.mp hr
      simpa using hkept r hmem hwants
    rw [← hsame]
    exact verifies_selected hm h1 h2 hn ho hgiven

end

end Arguments

/-- **What the options select.** Unless a given bound is cut off, there is a range, and the records
verified are those asked for and not cut off. Both bounds together or neither select what they say; in
general, if no check of these breaks off, that is what they select exactly if no given bound and no record
asked for is cut off. -/
theorem options_select (limits : Limits) {m : Memory} (hm : m.records.length < Nat.pow 2 63)
    {a : Arguments} (ho : a.InOrder) (now : Instant) (h1 : 1 ≤ a.pageSizeOrDefault)
    (h2 : a.pageSizeOrDefault ≤ limits.maxPageSize)
    (hn : pageCount m.records.length a.pageSizeOrDefault < pageLimit) :
    ((∃ range, a.range now = .ok range) ↔ ∀ t, a.Given t → a.cutOff now t = false) ∧
    ((∀ t, a.Given t → a.cutOff now t = false) →
      a.Verifies limits now m (m.records.filter (a.selects now))) ∧
    (a.start.isSome = a.finish.isSome →
      a.Verifies limits now m (m.records.filter (a.wants ·.timestamp))) ∧
    (Stepwise (m.records.filter (a.wants ·.timestamp)) →
      (a.failFast = true → ∀ r ∈ m.records, r.intact = true) →
      (a.Verifies limits now m (m.records.filter (a.wants ·.timestamp)) ↔
        (∀ t, a.Given t → a.cutOff now t = false) ∧
          ∀ r ∈ m.records, a.wants r.timestamp = true → a.cutOff now r.timestamp = false)) := by
  refine ⟨Arguments.range_eq_ok_iff ho, Arguments.verifies_selected hm h1 h2 hn ho, fun h => ?_,
    Arguments.verifies_wanted_iff hm h1 h2 hn ho⟩
  have hkept : ∀ t, a.cutOff now t = false := Arguments.cutOff_eq_false h
  have hselects : m.records.filter (a.selects now) = m.records.filter (a.wants ·.timestamp) := by
    congr 1
    funext r
    simp [Arguments.selects, hkept]
  rw [← hselects]
  exact Arguments.verifies_selected hm h1 h2 hn ho fun t _ => hkept t

theorem refund_selected :
    let m := memoryAfter .standard .empty [.single ⟨⟨2⟩, ⟨3⟩⟩ .epoch .epoch .refund]
    let a : Arguments := { start := some .epoch }
    m.records.length = 1 ∧ a.InOrder ∧ Stepwise (m.records.filter (a.wants ·.timestamp)) ∧
      a.Verifies .standard (.ofSeconds 60) m (m.records.filter (a.wants ·.timestamp)) := by
  intro m a
  have hlength : m.records.length = 1 := by decide +kernel
  have ho : a.InOrder := by simp [Arguments.InOrder, a]
  obtain ⟨r, hr⟩ := List.length_eq_one_iff.mp hlength
  have hsteps : Stepwise (m.records.filter (a.wants ·.timestamp)) := by
    rw [hr]
    exact (List.pairwise_singleton _ r).sublist List.filter_sublist
  have hselect := options_select .standard (m := m) (by rw [hlength]; decide) ho (.ofSeconds 60)
    (by decide) (by decide) (by rw [hlength]; decide)
  refine ⟨hlength, ho, hsteps, (hselect.2.2.2 hsteps fun hf => by cases hf).mpr ⟨?_, ?_⟩⟩
  · rintro t (h | h)
    · rw [← Option.some.inj h]
      decide
    · cases h
  · decide +kernel

/-- The ledger with a refund of the last second of 1969. -/
def Memory.earlyRefund : Memory :=
  memoryAfter .standard .empty
    [.single ⟨⟨2⟩, ⟨3⟩⟩ .epoch .epoch { Submission.refund with timestamp := some (.ofSeconds (-1)) }]

/-- The verification up to 1980 passes an early refund over; up to 1960 there is none. -/
theorem early_refund_passed_over :
    let a : Arguments := { finish := some (.ofSeconds 315532800) }
    let b : Arguments := { finish := some (.ofSeconds (-315619200)) }
    let now : Instant := .ofSeconds 1700000000
    (Memory.earlyRefund.records.map fun r => a.wants r.timestamp) = [true] ∧
    (∃ range report, a.range now = .ok range ∧
      (verifyLedger (Memory.ledger .standard .epoch) ⟨range, a.pageSizeOrDefault, a.failFast⟩ now
        now).run .earlyRefund = (.ok (some report), .earlyRefund) ∧ report.recordsChecked = 0) ∧
    ∃ vs, b.range now = .error vs := by
  intro a b now
  have hselected : Memory.earlyRefund.records.filter (a.selects now) = [] :=
    List.length_eq_zero_iff.mp (by decide +kernel)
  have hlength : Memory.earlyRefund.records.length < Nat.pow 2 63 := by decide +kernel
  have hsize : a.pageSizeOrDefault ≤ Limits.standard.maxPageSize := by decide
  have hrange : a.range now = .ok (some ⟨.epoch, .ofSeconds 315532800⟩) := rfl
  have hrun := Arguments.run_verifyLedger_range hlength (by decide) hsize (by decide +kernel)
    hrange .epoch now now
  have hsort : RecordOrder.causal.sort [] = [] := List.mergeSort_nil
  have hnone : Continuable (examined a.failFast []) := by decide
  rw [hselected, hsort, VerificationReport.ofRecords?_of_continuable hnone] at hrun
  exact ⟨by decide +kernel, ⟨_, _, rfl, hrun, rfl⟩, _, rfl⟩

end EventLedger
